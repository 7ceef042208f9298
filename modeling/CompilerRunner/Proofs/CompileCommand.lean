import CompilerRunner.Proofs.DryRun
import CompilerRunner.Proofs.Grammar
import Mathlib

/-!
# Proofs — CompileCommand

Options of a compilation as a command line, and the command line read back.

- `commandLine` spells options, with `--extra` before each of the extra arguments.
- Words are read in pieces: what a piece is read as does not depend on what comes after it
  (`Reads`, `Reads.append`), and there is one lemma for each kind of piece (`reads_argument`,
  `reads_value`, `Spells.reads_switch`, `reads_extraWords`).
- `bindings` is what the whole is read as, and `compileOptions_bindings` takes the options from it.

Extra arguments come back as they are unless one of them is a word that the program keeps for itself
(`reservedWords`).  The first of these decides: a call for help or for the version is answered, and
the delimiter leaves the option before it without its value (`compile_command_line`).
-/

namespace CompilerRunner.CompileOptions

/-- The words for extra arguments. -/
def extraWords (arguments : List String) : List String :=
  arguments.flatMap fun a => ["--extra", a]

/-- The words between the source and the extra arguments. -/
def optionWords (o : CompileOptions) : List String :=
  ["--output", o.output]
    ++ setting "--memory-model" (o.memoryModel.map MemoryModel.text)
    ++ switch "--verbose" o.verbose
    ++ switch "--nomain" o.nomain
    ++ setting "--output-kind" (o.outputKind.map OutputKind.text)
    ++ switch "--debug" o.debug

/-- The words after the name of the command, with these for the extra arguments. -/
def words (o : CompileOptions) (extra : List String) : List String :=
  o.source :: o.optionWords ++ extraWords extra

/-- The command line that spells the options. -/
def commandLine (o : CompileOptions) : List String := "compile" :: o.words o.extraArguments

theorem words_append (o : CompileOptions) (kept : List String) (word : String)
    (rest : List String) :
    o.words (kept ++ word :: rest) = o.words kept ++ ["--extra"] ++ word :: extraWords rest := by
  simp [words, extraWords]

end CompilerRunner.CompileOptions

namespace CompilerRunner.CommandLine

open CompileOptions (setting switch extraWords)

/-! ### Reading in pieces -/

/-- What is given first, and what is given then. -/
def Bindings.append (b b' : Bindings) : Bindings :=
  ⟨b.options ++ b'.options, b.arguments ++ b'.arguments⟩

/-- The words are read as what `b` says, whatever comes after them. -/
def Reads (ps : List Parameter) (words : List String) (b : Bindings) : Prop :=
  ∀ rest, readOptions ps (words ++ rest) = (readOptions ps rest).map b.append

/-- The word stands for a parameter, of which it says `m`. -/
structure Spells (ps : List Parameter) (word : String) (p : Parameter) (m : Mention) : Prop where
  hyphen : word.toList.head? = some '-'
  whole : splitValue word = (word, none)
  mentioned : mentioned? ps word = some (p, m)

section Reading

variable {ps : List Parameter} {words words' : List String} {b b' : Bindings} {word : String}
  {p : Parameter}

theorem Reads.nil : Reads ps [] ⟨[], []⟩ := by
  intro rest
  rw [List.nil_append]
  cases readOptions ps rest <;> rfl

theorem Reads.append (h : Reads ps words b) (h' : Reads ps words' b') :
    Reads ps (words ++ words') (b.append b') := by
  intro rest
  rw [List.append_assoc, h, h']
  cases readOptions ps rest <;> simp [Except.map, Bindings.append]

theorem Reads.readOptions (h : Reads ps words b) : readOptions ps words = .ok b := by
  have := h []
  simpa [CommandLine.readOptions, Except.map, Bindings.append] using this

theorem Reads.refuses (h : Reads ps words b) {f : UsageFault}
    (hf : CommandLine.readOptions ps words' = .error f) :
    CommandLine.readOptions ps (words ++ words') = .error f := by
  rw [h, hf]
  rfl

theorem reads_argument (hw : word.toList.head? ≠ some '-') : Reads ps [word] ⟨[], [word]⟩ := by
  intro rest
  rw [List.singleton_append, readOptions]
  simp only [hw, if_false]
  cases readOptions ps rest <;> rfl

theorem Spells.reads_mention {g : Given} (h : Spells ps word p (.implies g)) :
    Reads ps [word] ⟨[(p.name, g)], []⟩ := by
  intro rest
  rw [List.singleton_append, readOptions]
  simp only [h.whole, h.hyphen, if_true, h.mentioned]
  cases readOptions ps rest <;> rfl

theorem Spells.reads_value (h : Spells ps word p .needsValue) {v : String}
    (hv : p.kind = .repeatable ∨ isOptionLike v = false) :
    Reads ps [word, v] ⟨[(p.name, .text v)], []⟩ := by
  intro rest
  rw [List.cons_append, List.singleton_append, readOptions]
  have taken : ¬ (p.kind ≠ .repeatable ∧ isOptionLike v = true) := by
    rcases hv with hv | hv <;> simp [hv]
  simp only [h.whole, h.hyphen, if_true, h.mentioned, if_neg taken]
  cases readOptions ps rest <;> rfl

theorem Spells.readOptions_alone (h : Spells ps word p .needsValue) :
    readOptions ps [word] = .error (.missingValue p.name) := by
  rw [readOptions]
  simp only [h.whole, h.hyphen, if_true, h.mentioned]

theorem reads_extraWords (h : Spells ps "--extra" p .needsValue) (hp : p.kind = .repeatable)
    (arguments : List String) :
    Reads ps (extraWords arguments) ⟨arguments.map fun a => (p.name, .text a), []⟩ := by
  induction arguments with
  | nil => exact .nil
  | cons a arguments ih => exact (h.reads_value (.inl hp)).append ih

/-- What is given by a word with a value, if there is a value. -/
def givenSetting (name : String) (value : Option String) : List (String × Given) :=
  value.toList.map fun v => (name, .text v)

/-- What is given by a flag. -/
def givenSwitch (name : String) (on : Bool) : List (String × Given) :=
  if on then [(name, .state true)] else []

theorem Spells.reads_setting (h : Spells ps word p .needsValue) (value : Option String)
    (hv : ∀ v ∈ value, isOptionLike v = false) :
    Reads ps (setting word value) ⟨givenSetting p.name value, []⟩ := by
  cases value with
  | none => exact .nil
  | some v => exact h.reads_value (.inr (hv v rfl))

theorem Spells.reads_switch (h : Spells ps word p (.implies (.state true))) (on : Bool) :
    Reads ps (switch word on) ⟨givenSwitch p.name on, []⟩ := by
  cases on with
  | false => exact .nil
  | true => exact h.reads_mention

end Reading

/-! ### The options of a compilation -/

theorem isOptionLike_of_head {word : String} (h : word.toList.head? ≠ some '-') :
    isOptionLike word = false := by
  simp [isOptionLike, h]

/-- What the words of the options are read as, without the extra arguments. -/
def frontBindings (o : CompileOptions) : Bindings where
  options := givenSetting "output" (some o.output)
    ++ givenSetting "memory-model" (o.memoryModel.map MemoryModel.text)
    ++ givenSwitch "verbose" o.verbose
    ++ givenSwitch "nomain" o.nomain
    ++ givenSetting "output-kind" (o.outputKind.map OutputKind.text)
    ++ givenSwitch "debug" o.debug
  arguments := [o.source]

/-- What the words of the options are read as. -/
def bindings (o : CompileOptions) : Bindings :=
  (frontBindings o).append ⟨o.extraArguments.map fun a => ("extra", .text a), []⟩

theorem spells_compile :
    let ps := CommandName.compile.parameters
    Spells ps "--output" ⟨"output", .single⟩ .needsValue ∧
    Spells ps "--memory-model" ⟨"memory-model", .single⟩ .needsValue ∧
    Spells ps "--verbose" ⟨"verbose", .flag⟩ (.implies (.state true)) ∧
    Spells ps "--nomain" ⟨"nomain", .flag⟩ (.implies (.state true)) ∧
    Spells ps "--output-kind" ⟨"output-kind", .single⟩ .needsValue ∧
    Spells ps "--debug" ⟨"debug", .flag⟩ (.implies (.state true)) ∧
    Spells ps "--extra" ⟨"extra", .repeatable⟩ .needsValue := by
  refine ⟨?_, ?_, ?_, ?_, ?_, ?_, ?_⟩ <;> exact ⟨rfl, rfl, rfl⟩

theorem isOptionLike_memoryModel (m : MemoryModel) : isOptionLike m.text = false := by
  cases m <;> decide

theorem isOptionLike_outputKind (k : OutputKind) : isOptionLike k.text = false := by
  cases k <;> decide

section Front

variable {o : CompileOptions} (hs : o.source.toList.head? ≠ some '-')
  (ho : o.output.toList.head? ≠ some '-')
include hs ho

theorem reads_front (kept : List String) :
    Reads CommandName.compile.parameters (o.words kept)
      ((frontBindings o).append ⟨kept.map fun a => ("extra", .text a), []⟩) := by
  obtain ⟨output, memoryModel, verbose, nomain, outputKind, debug, extra⟩ := spells_compile
  -- one piece after the other, in the order of the words
  have front := (reads_argument hs).append <|
    ((((((output.reads_value (.inr (isOptionLike_of_head ho))).append
      (memoryModel.reads_setting (o.memoryModel.map MemoryModel.text) (by
        simpa using fun m _ => isOptionLike_memoryModel m))).append
      (verbose.reads_switch o.verbose)).append (nomain.reads_switch o.nomain)).append
      (outputKind.reads_setting (o.outputKind.map OutputKind.text) (by
        simpa using fun k _ => isOptionLike_outputKind k))).append
      (debug.reads_switch o.debug))
  have all := front.append (reads_extraWords extra rfl kept)
  simpa [Bindings.append, frontBindings, CompileOptions.words,
    CompileOptions.optionWords, givenSetting] using all

end Front

/-- What is given under a name. -/
def under (name : String) (options : List (String × Given)) : List Given :=
  options.filterMap fun o => if o.1 = name then some o.2 else none

section Under

variable (name n : String)

theorem under_append (l r : List (String × Given)) :
    under name (l ++ r) = under name l ++ under name r := List.filterMap_append

@[simp] theorem under_map {α : Type} (f : α → Given) (l : List α) :
    under name (l.map fun a => (n, f a)) = if n = name then l.map f else [] := by
  by_cases h : n = name <;> simp [under, List.filterMap_map, h]

@[simp] theorem under_givenSetting (value : Option String) :
    under name (givenSetting n value) = if n = name then value.toList.map .text else [] :=
  under_map name n .text value.toList

@[simp] theorem under_givenSwitch (on : Bool) :
    under name (givenSwitch n on) = if n = name ∧ on = true then [.state true] else [] := by
  cases on <;> by_cases h : n = name <;> simp [under, givenSwitch, h]

end Under

theorem givenFor_bindings (o : CompileOptions) (name : String) :
    (bindings o).givenFor name =
      under name (givenSetting "output" (some o.output)) ++
      (under name (givenSetting "memory-model" (o.memoryModel.map MemoryModel.text)) ++
      (under name (givenSwitch "verbose" o.verbose) ++
      (under name (givenSwitch "nomain" o.nomain) ++
      (under name (givenSetting "output-kind" (o.outputKind.map OutputKind.text)) ++
      (under name (givenSwitch "debug" o.debug) ++
      under name (o.extraArguments.map fun a => ("extra", Given.text a))))))) := by
  show under name (bindings o).options = _
  simp only [bindings, frontBindings, Bindings.append, under_append, List.append_assoc]

theorem texts_of_givenFor {b : Bindings} {name : String} {l : List String}
    (h : b.givenFor name = l.map .text) : b.texts name = .ok l := by
  -- nothing that is given empties the list
  have contradictory : Given.emptied ∉ l.map .text := by simp
  rw [Bindings.texts, h]
  split
  · next emptied => exact absurd (emptied ▸ List.mem_singleton_self _) contradictory
  · simp [List.filterMap_map]

theorem checkRepetition_of_forall {b : Bindings} {ps : List Parameter}
    (h : ∀ p ∈ ps, p.kind = .repeatable ∨ (b.givenFor p.name).length ≤ 1) :
    b.checkRepetition ps = .ok () := by
  induction ps with
  | nil => rfl
  | cons p ps ih =>
      obtain ⟨hp, hps⟩ := List.forall_mem_cons.mp h
      rw [Bindings.checkRepetition, if_neg, ih hps]
      rintro ⟨kind, repeated⟩
      exact hp.elim kind (Nat.not_le.mpr repeated)

section Getters

variable (o : CompileOptions)

theorem text?_output : (bindings o).text? "output" = some o.output := by
  simp [Bindings.text?, givenFor_bindings]

theorem choice_memoryModel :
    (bindings o).choice "memory-model" MemoryModel.choices = .ok o.memoryModel := by
  have spelled (m : MemoryModel) : choice? MemoryModel.choices m.text = some m := by
    cases m <;> decide +kernel
  cases h : o.memoryModel <;> simp [Bindings.choice, Bindings.text?, givenFor_bindings, h, spelled]

theorem choice_outputKind :
    (bindings o).choice "output-kind" OutputKind.choices = .ok o.outputKind := by
  have spelled (k : OutputKind) : choice? OutputKind.choices k.text = some k := by
    cases k <;> decide +kernel
  cases h : o.outputKind <;> simp [Bindings.choice, Bindings.text?, givenFor_bindings, h, spelled]

theorem isOn_verbose : (bindings o).isOn "verbose" = o.verbose := by
  cases h : o.verbose <;> simp [Bindings.isOn, givenFor_bindings, h]

theorem isOn_nomain : (bindings o).isOn "nomain" = o.nomain := by
  cases h : o.nomain <;> simp [Bindings.isOn, givenFor_bindings, h]

theorem isOn_debug : (bindings o).isOn "debug" = o.debug := by
  cases h : o.debug <;> simp [Bindings.isOn, givenFor_bindings, h]

theorem texts_extra : (bindings o).texts "extra" = .ok o.extraArguments :=
  texts_of_givenFor (by simp [givenFor_bindings])

theorem directory_bindings : (bindings o).directory = Path.ofText "" := by
  simp [Bindings.directory, Bindings.text?, givenFor_bindings, workdir]

/-- The options are taken from what they are read as. -/
theorem compileOptions_bindings : compileOptions (bindings o) = .ok o := by
  have source : onlyArgument "source" (bindings o).arguments = .ok o.source := rfl
  rw [compileOptions, choice_memoryModel, choice_outputKind, texts_extra, source, text?_output,
    isOn_verbose, isOn_nomain, isOn_debug]
  rfl

theorem checkRepetition_bindings :
    (bindings o).checkRepetition CommandName.compile.parameters = .ok () := by
  have once (on : Bool) : (if on = true then [Given.state true] else []).length ≤ 1 := by
    cases on <;> simp
  refine checkRepetition_of_forall ?_
  simp only [CommandName.parameters, workdir, List.forall_mem_cons]
  cases o.memoryModel <;> cases o.outputKind <;> simp [givenFor_bindings, once]

end Getters

/-! ### The words that the program keeps for itself -/

/-- The words that the program keeps for itself: the delimiter, and those that ask for the version
or for help. -/
def reservedWords : List String := delimiter :: versionWords ++ helpWords

theorem help_reserved : helpWords ⊆ reservedWords := List.subset_append_right _ _

theorem version_reserved : versionWords ⊆ reservedWords := by decide

theorem not_reserved_of_head {word : String} (h : word.toList.head? ≠ some '-') :
    word ∉ reservedWords := by
  intro hw
  simp only [reservedWords, versionWords, helpWords, delimiter, List.cons_append,
    List.nil_append, List.mem_cons, List.not_mem_nil, or_false] at hw
  rcases hw with rfl | rfl | rfl | rfl <;> exact h (by decide)

section Split

variable {front : List String} (hf : ∀ w ∈ front, w ∉ reservedWords)
include hf

theorem keeps_front : ∀ w ∈ front, decide (w ≠ delimiter) = true := by
  intro w hw
  refine decide_eq_true ?_
  rintro rfl
  exact hf _ hw (by decide)

theorem splitAtDelimiter_front : splitAtDelimiter front = (front, []) := by
  rw [splitAtDelimiter, List.takeWhile_eq_self_iff.mpr (keeps_front hf),
    List.dropWhile_eq_nil_iff.mpr (keeps_front hf)]
  rfl

theorem splitAtDelimiter_front_delimiter (rest : List String) :
    splitAtDelimiter (front ++ delimiter :: rest) = (front, rest) := by
  rw [splitAtDelimiter, List.takeWhile_append_of_pos (keeps_front hf),
    List.dropWhile_append_of_pos (keeps_front hf)]
  simp

theorem any_front {calls : List String} (hc : calls ⊆ reservedWords) :
    front.any calls.contains = false := by
  have unasked : ∀ w ∈ front, w ∉ calls := fun w hw h => hf w hw (hc h)
  simpa using unasked

theorem asksFor_front {calls : List String} {word : String} (hc : word ∈ calls)
    (hd : word ≠ delimiter) (rest : List String) :
    asksFor calls (front ++ word :: rest) = true := by
  have other : decide (word ≠ delimiter) = true := decide_eq_true hd
  rw [asksFor, splitAtDelimiter, List.takeWhile_append_of_pos (keeps_front hf),
    List.takeWhile_cons_of_pos (p := fun w => decide (w ≠ delimiter)) other]
  simp [hc]

end Split

section Words

variable {P : String → Prop} {flag : String}

theorem forall_mem_setting (hf : P flag) {value : Option String} (hv : ∀ v ∈ value, P v) :
    ∀ w ∈ setting flag value, P w := by
  cases value with
  | none => simp [setting]
  | some v => simpa [setting] using ⟨hf, hv v rfl⟩

theorem forall_mem_switch (hf : P flag) (on : Bool) : ∀ w ∈ switch flag on, P w := by
  cases on <;> simp [switch, hf]

variable {o : CompileOptions} (hs : o.source.toList.head? ≠ some '-')
  (ho : o.output.toList.head? ≠ some '-')
include hs ho

/-- None of the words is reserved, unless an extra argument is. -/
theorem not_reserved_words {kept : List String} (hk : ∀ a ∈ kept, a ∉ reservedWords) :
    ∀ w ∈ o.words kept, w ∉ reservedWords := by
  have models (m : MemoryModel) : m.text ∉ reservedWords := by cases m <;> decide
  have kinds (k : OutputKind) : k.text ∉ reservedWords := by cases k <;> decide
  have extra : ∀ w ∈ extraWords kept, w ∉ reservedWords := by
    intro w hw
    obtain ⟨a, ha, hw⟩ := List.mem_flatMap.mp hw
    obtain rfl | rfl : w = "--extra" ∨ w = a := by simpa using hw
    · decide
    · exact hk w ha
  simp only [CompileOptions.words, CompileOptions.optionWords, List.forall_mem_append,
    List.forall_mem_cons]
  have output : "--output" ∉ reservedWords ∧ o.output ∉ reservedWords ∧
      ∀ w ∈ [], w ∉ reservedWords :=
    ⟨by decide, not_reserved_of_head ho, by simp⟩
  refine ⟨⟨not_reserved_of_head hs, ⟨⟨⟨⟨output, ?_⟩, ?_⟩, ?_⟩, ?_⟩, ?_⟩, extra⟩
  · exact forall_mem_setting (by decide) (by simpa using fun m _ => models m)
  · exact forall_mem_switch (by decide) o.verbose
  · exact forall_mem_switch (by decide) o.nomain
  · exact forall_mem_setting (by decide) (by simpa using fun k _ => kinds k)
  · exact forall_mem_switch (by decide) o.debug

theorem bind_words (he : ∀ a ∈ o.extraArguments, a ∉ reservedWords) :
    bind CommandName.compile.parameters (o.words o.extraArguments) = .ok (bindings o) := by
  have read : readOptions CommandName.compile.parameters (o.words o.extraArguments) =
      .ok (bindings o) := (reads_front hs ho o.extraArguments).readOptions
  have plain : (bindings o).arguments.find? isOptionLike = none := by
    simp [bindings, frontBindings, Bindings.append, isOptionLike_of_head hs]
  rw [bind, splitAtDelimiter_front (not_reserved_words hs ho he)]
  simp only [read, checkRepetition_bindings, plain, List.append_nil, Except.bind, Bind.bind]
  rfl

/-- **Without reserved words.**  The command line asks for the compilation with the options. -/
theorem parse_commandLine (he : ∀ a ∈ o.extraArguments, a ∉ reservedWords) :
    parse o.commandLine = .ok (.command (.compile o (Path.ofText ""))) := by
  have unasked {calls : List String} (hc : calls ⊆ reservedWords) :
      ¬ asksFor calls (o.words o.extraArguments) = true := by
    rw [asksFor, splitAtDelimiter_front (not_reserved_words hs ho he),
      any_front (not_reserved_words hs ho he) hc]
    simp
  have command : Command.ofBindings (bindings o) .compile = .ok (.compile o (Path.ofText "")) := by
    simp [Command.ofBindings, compileOptions_bindings, directory_bindings, Bind.bind, Except.bind,
      pure, Except.pure]
  rw [CompileOptions.commandLine, parse_command (by rfl), asksForHelp,
    if_neg (unasked help_reserved), if_neg (unasked version_reserved), bind_words hs ho he,
    Except.bind, command]
  rfl

variable {kept rest : List String} {word : String} (hx : o.extraArguments = kept ++ word :: rest)
  (hk : ∀ a ∈ kept, a ∉ reservedWords)
include hk

theorem not_reserved_before : ∀ w ∈ o.words kept ++ ["--extra"], w ∉ reservedWords := by
  rw [List.forall_mem_append]
  exact ⟨not_reserved_words hs ho hk, by decide⟩

include hx

theorem asksFor_words {calls : List String} (hw : word ∈ calls) (hd : word ≠ delimiter) :
    asksFor calls (o.words o.extraArguments) = true := by
  rw [hx, CompileOptions.words_append]
  exact asksFor_front (not_reserved_before hs ho hk) hw hd _

/-- **A call for help** among the extra arguments is answered. -/
theorem parse_commandLine_of_help (hw : word ∈ helpWords) : parse o.commandLine = .ok .help := by
  have other : word ≠ delimiter := by
    rintro rfl
    exact absurd hw (by decide)
  rw [CompileOptions.commandLine, parse_command (by rfl), asksForHelp,
    if_pos (asksFor_words hs ho hx hk hw other)]

/-- **A call for the version** among them is answered, if help is not asked for as well. -/
theorem parse_commandLine_of_version (hw : word ∈ versionWords) :
    parse o.commandLine = .ok .help ∨ parse o.commandLine = .ok .version := by
  have other : word ≠ delimiter := by
    rintro rfl
    exact absurd hw (by decide)
  rw [CompileOptions.commandLine, parse_command (by rfl),
    if_pos (asksFor_words hs ho hx hk hw other)]
  split
  · exact .inl rfl
  · exact .inr rfl

/-- **The delimiter** among the extra arguments leaves the option before it without a value. -/
theorem parse_commandLine_of_delimiter (hw : word = delimiter) :
    parse o.commandLine = .error (.missingValue "extra") := by
  subst hw
  have split : splitAtDelimiter (o.words o.extraArguments) =
      (o.words kept ++ ["--extra"], extraWords rest) := by
    rw [hx, CompileOptions.words_append]
    exact splitAtDelimiter_front_delimiter (not_reserved_before hs ho hk) _
  have unasked {calls : List String} (hc : calls ⊆ reservedWords) :
      ¬ asksFor calls (o.words o.extraArguments) = true := by
    rw [asksFor, split, any_front (not_reserved_before hs ho hk) hc]
    simp
  have refused : bind CommandName.compile.parameters (o.words o.extraArguments) =
      .error (.missingValue "extra") := by
    obtain ⟨-, -, -, -, -, -, extra⟩ := spells_compile
    rw [bind, split]
    simp only [(reads_front hs ho kept).refuses extra.readOptions_alone, Bind.bind, Except.bind]
  rw [CompileOptions.commandLine, parse_command (by rfl), asksForHelp,
    if_neg (unasked help_reserved), if_neg (unasked version_reserved), refused]
  rfl

end Words

/-- **From the command line to the compiler.**  Options whose paths are not blank and do not start
with a hyphen, spelled as a command line, are read back as they are, and the entry point is called
once, with their arguments: unless an extra argument is a word that the program keeps for itself.
If the first of these asks for help, help is all that is given; if it asks for the version, no more
than the version or help is given; if it is the delimiter, the command line is not understood.  In
none of these cases is anything called. -/
theorem compile_command_line (launch : EntryPoint → Tool) (w : World) (o : CompileOptions)
    (hs : Text.isBlank o.source = false ∧ o.source.toList.head? ≠ some '-')
    (ho : Text.isBlank o.output = false ∧ o.output.toList.head? ≠ some '-') :
    ((∀ a ∈ o.extraArguments, a ∉ reservedWords) →
      parse o.commandLine = .ok (.command (.compile o (Path.ofText ""))) ∧
      ∀ s e, Settings.load w (Path.ofText "") = .ok s → EntryPoint.ofSettings s = .ok e →
        ∃ arguments, o.build = .ok arguments ∧
          entryPointCalls launch w o.commandLine = [((launch e).name, arguments)]) ∧
    ∀ kept word rest, o.extraArguments = kept ++ word :: rest →
      (∀ a ∈ kept, a ∉ reservedWords) →
      (word ∈ helpWords → runWith launch w o.commandLine = ⟨[.printed help], .ok 0⟩ ∧
        entryPointCalls launch w o.commandLine = []) ∧
      (word ∈ versionWords → (runWith launch w o.commandLine).outcome = .ok 0 ∧
        entryPointCalls launch w o.commandLine = []) ∧
      (word = delimiter → runWith launch w o.commandLine = ⟨[], .ok usageStatus⟩ ∧
        entryPointCalls launch w o.commandLine = []) := by
  refine ⟨fun he => ?_, fun kept word rest hx hk => ⟨fun hw => ?_, fun hw => ?_, fun hw => ?_⟩⟩
  · have parsed := parse_commandLine hs.2 ho.2 he
    refine ⟨parsed, fun s e loaded chosen => ?_⟩
    have built : o.build = .ok o.tokens :=
      (CompileOptions.build_eq_ok_iff o o.tokens).mpr ⟨hs.1, ho.1, rfl⟩
    exact ⟨o.tokens, built,
      (entryPointCalls_eq_iff parsed (.compile o _) loaded chosen launch o.tokens).mpr
        ⟨o, rfl, built⟩⟩
  · have parsed := parse_commandLine_of_help hs.2 ho.2 hx hk hw
    constructor
    · rw [runWith, parsed]
      rfl
    · rw [entryPointCalls, runWith, parsed]
      rfl
  · rcases parse_commandLine_of_version hs.2 ho.2 hx hk hw with parsed | parsed
    all_goals
      rw [entryPointCalls, runWith, runWith, parsed]
      exact ⟨rfl, rfl⟩
  · have parsed := parse_commandLine_of_delimiter hs.2 ho.2 hx hk hw
    constructor
    · rw [runWith, parsed]
      rfl
    · rw [entryPointCalls, runWith, parsed]
      rfl

/-- An option of the program and an empty text are handed on, but no call for help or the version
is, nor the delimiter. -/
theorem compile_command_line_sampleWorld :
    let w := Settings.sampleWorld [] []
    let launch : EntryPoint → Tool := fun _ => Pipeline.answering { exitCode := 0 }
    let line (extra : List String) : List String :=
      CompileOptions.commandLine { source := "a.kt", output := "b", extraArguments := extra }
    entryPointCalls launch w (line ["--output", ""]) =
      [("tool", ["a.kt", "--output", "", "-o", "b"])] ∧
    (runWith launch w (line ["-opt", "--help"])).outcome = .ok 0 ∧
    entryPointCalls launch w (line ["-opt", "--help"]) = [] ∧
    (runWith launch w (line ["--version"])).outcome = .ok 0 ∧
    entryPointCalls launch w (line ["--version"]) = [] ∧
    (runWith launch w (line ["--"])).outcome = .ok 2 ∧
    entryPointCalls launch w (line ["--"]) = [] := by
  intro w launch line
  have he : EntryPoint.ofSettings { currentDirectory := some (Path.ofLocation ["konanrun"]) } =
      .ok (.child { directory := some (Path.ofLocation ["konanrun"]) }) := by
    cbv
  have source : Text.isBlank "a.kt" = false ∧ "a.kt".toList.head? ≠ some '-' := by decide +kernel
  have output : Text.isBlank "b" = false ∧ "b".toList.head? ≠ some '-' := by decide +kernel
  have general (extra : List String) := compile_command_line launch w
    { source := "a.kt", output := "b", extraArguments := extra } source output
  obtain ⟨arguments, built, calls⟩ := ((general ["--output", ""]).1 (by decide)).2 _ _
    Settings.load_sampleWorld_nil he
  obtain rfl : arguments = ["a.kt", "--output", "", "-o", "b"] :=
    ((CompileOptions.build_eq_ok_iff _ _).mp built).2.2
  obtain ⟨help, uncalled⟩ := ((general ["-opt", "--help"]).2 ["-opt"] "--help" [] rfl
    (by decide)).1 (by decide)
  obtain ⟨-, version, -⟩ := (general ["--version"]).2 [] "--version" [] rfl (by decide)
  obtain ⟨shown, unshown⟩ := version (by decide)
  obtain ⟨-, -, delimiter⟩ := (general ["--"]).2 [] "--" [] rfl (by decide)
  obtain ⟨refused, uncalled'⟩ := delimiter rfl
  exact ⟨calls, by rw [help], uncalled, shown, unshown, by rw [refused]; rfl, uncalled'⟩

end CompilerRunner.CommandLine
