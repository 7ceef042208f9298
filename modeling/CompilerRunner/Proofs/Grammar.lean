import CompilerRunner.Options.Tokens
import Mathlib

/-!
# Proofs — Grammar

The arguments of the compiler, written by `build` and read back by `ofTokens?`.

* `append_takeSetting`, `append_takeSwitch`: a reader of one flag loses nothing — what it took,
  written again, stands before what it left.  So the readers together give back every list that has
  the frame of the grammar (`tokens_ofMiddle`).
* `takeSetting_append_iff`, `takeSwitch_append_iff`: a reader takes what was written and no more,
  unless nothing was written and the flag stands in front of what follows.
* What follows an unset flag begins with that flag only if no later flag is set and the extra
  arguments begin with it (`Flag.begins_append_iff`).  This is the only way in which the extra
  arguments are mistaken (`Mistaken`).

The four facts about the grammar as a whole are put together in `build_grammar`.
-/

namespace CompilerRunner.CompileOptions

/-! ### One flag -/

section Setting

variable {α : Type} (flag : String) {choices : List (String × α)} {spell : α → String}

/-- What `takeSetting` takes, spelled again, and what it leaves make up the whole. -/
theorem append_takeSetting (hc : ∀ v a, choices.lookup v = some a → v = spell a)
    (ts : List String) :
    setting flag ((takeSetting flag choices ts).1.map spell) ++ (takeSetting flag choices ts).2
      = ts := by
  unfold takeSetting
  split
  · next f v rest =>
      by_cases hf : f = flag
      · cases hv : choices.lookup v with
        | none => simp [hf, setting]
        | some a => simp [hf, setting, hc v a hv]
      · simp [hf, setting]
  · simp [setting]

/-- Where the flag stands in front with one of the choices, and only there, it is taken. -/
theorem takeSetting_fst_ne_none_iff (hc : ∀ v a, choices.lookup v = some a → v = spell a)
    (hs : ∀ a, choices.lookup (spell a) = some a) (ts : List String) :
    (takeSetting flag choices ts).1 ≠ none ↔ ∃ a rest, ts = flag :: spell a :: rest := by
  constructor
  · intro h
    obtain ⟨a, ha⟩ := Option.ne_none_iff_exists'.mp h
    refine ⟨a, (takeSetting flag choices ts).2, ?_⟩
    have whole := append_takeSetting flag hc ts
    rw [ha] at whole
    exact whole.symm
  · rintro ⟨a, rest, rfl⟩
    simp [takeSetting, hs a]

/-- The reader takes the setting that was written, and no more, unless none was written and the
flag stands in front of the rest. -/
theorem takeSetting_append_iff (hc : ∀ v a, choices.lookup v = some a → v = spell a)
    (hs : ∀ a, choices.lookup (spell a) = some a) (value : Option α) (rest : List String) :
    takeSetting flag choices (setting flag (value.map spell) ++ rest) = (value, rest) ↔
      value ≠ none ∨ ¬ ∃ a more, rest = flag :: spell a :: more := by
  cases value with
  | some a => simp [setting, takeSetting, hs a]
  | none =>
      rw [← takeSetting_fst_ne_none_iff flag hc hs]
      have whole := append_takeSetting flag hc rest
      constructor
      · intro h
        simp only [Option.map_none, setting, List.nil_append] at h
        simp [h]
      · intro h
        have hn : (takeSetting flag choices rest).1 = none := by simpa using h
        rw [hn] at whole
        exact Prod.ext hn whole

/-- To read the value that was written is to read the whole setting. -/
theorem takeSetting_fst_iff (hc : ∀ v a, choices.lookup v = some a → v = spell a)
    (value : Option α) (rest : List String) :
    (takeSetting flag choices (setting flag (value.map spell) ++ rest)).1 = value ↔
      takeSetting flag choices (setting flag (value.map spell) ++ rest) = (value, rest) := by
  refine ⟨fun h => Prod.ext h ?_, fun h => by rw [h]⟩
  have whole := append_takeSetting flag hc (setting flag (value.map spell) ++ rest)
  rw [h] at whole
  exact List.append_cancel_left whole

end Setting

/-- What `takeSwitch` takes, spelled again, and what it leaves make up the whole. -/
theorem append_takeSwitch (flag : String) (ts : List String) :
    switch flag (takeSwitch flag ts).1 ++ (takeSwitch flag ts).2 = ts := by
  cases ts with
  | nil => simp [takeSwitch, switch]
  | cons f rest => by_cases hf : f = flag <;> simp [takeSwitch, switch, hf]

/-- The reader takes the switch that was written, and no more, unless none was written and the flag
stands in front of the rest. -/
theorem takeSwitch_append_iff (flag : String) (on : Bool) (rest : List String) :
    takeSwitch flag (switch flag on ++ rest) = (on, rest) ↔
      on = true ∨ ¬ ∃ more, rest = flag :: more := by
  cases on with
  | true => simp [switch, takeSwitch]
  | false =>
      cases rest with
      | nil => simp [switch, takeSwitch]
      | cons f more => by_cases hf : f = flag <;> simp [switch, takeSwitch, hf]

/-- To read the switch that was written is to read no more than it. -/
theorem takeSwitch_fst_iff (flag : String) (on : Bool) (rest : List String) :
    (takeSwitch flag (switch flag on ++ rest)).1 = on ↔
      takeSwitch flag (switch flag on ++ rest) = (on, rest) := by
  refine ⟨fun h => Prod.ext h ?_, fun h => by rw [h]⟩
  have whole := append_takeSwitch flag (switch flag on ++ rest)
  rw [h] at whole
  exact List.append_cancel_left whole

/-- In a list of choices by their spelling, what is found is found under its own spelling. -/
theorem eq_spell_of_lookup {α : Type} {spell : α → String} {v : String} {a : α} (as : List α)
    (h : (as.map fun b => (spell b, b)).lookup v = some a) : v = spell a := by
  induction as with
  | nil => simp at h
  | cons b rest ih =>
      rw [List.map_cons, List.lookup_cons] at h
      by_cases hv : v = spell b
      · simp only [hv, beq_self_eq_true, Option.some.injEq] at h
        rw [hv, h]
      · rw [beq_eq_false_iff_ne.mpr hv] at h
        exact ih h

theorem eq_text_of_lookup_memoryModel (v : String) (m : MemoryModel) :
    MemoryModel.choices.lookup v = some m → v = m.text :=
  eq_spell_of_lookup _

theorem eq_text_of_lookup_outputKind (v : String) (k : OutputKind) :
    OutputKind.choices.lookup v = some k → v = k.text :=
  eq_spell_of_lookup _

/-! ### The flags between the source and the extra arguments -/

/-- The flags of the grammar. -/
inductive Flag where
  | memoryModel
  | verbose
  | nomain
  | outputKind
  | debug
deriving DecidableEq

namespace Flag

/-- All flags in the order of the grammar. -/
def all : List Flag := [.memoryModel, .verbose, .nomain, .outputKind, .debug]

/-- The place of a flag in the order of the grammar. -/
def rank : Flag → Nat
  | .memoryModel => 0
  | .verbose => 1
  | .nomain => 2
  | .outputKind => 3
  | .debug => 4

/-- The token of a flag. -/
def token : Flag → String
  | .memoryModel => "-memory-model"
  | .verbose => "-verbose"
  | .nomain => "-nomain"
  | .outputKind => "-p"
  | .debug => "-g"

/-- The flag's option is set. -/
def SetIn (o : CompileOptions) : Flag → Prop
  | .memoryModel => o.memoryModel ≠ none
  | .verbose => o.verbose = true
  | .nomain => o.nomain = true
  | .outputKind => o.outputKind ≠ none
  | .debug => o.debug = true

/-- The tokens begin with the flag: `-memory-model` and `-p` together with a legal value. -/
def Begins (ts : List String) : Flag → Prop
  | .memoryModel => ∃ m : MemoryModel, ∃ more, ts = "-memory-model" :: m.text :: more
  | .verbose => ∃ more, ts = "-verbose" :: more
  | .nomain => ∃ more, ts = "-nomain" :: more
  | .outputKind => ∃ k : OutputKind, ∃ more, ts = "-p" :: k.text :: more
  | .debug => ∃ more, ts = "-g" :: more

/-- What is written for the flag. -/
def written (o : CompileOptions) : Flag → List String
  | .memoryModel => setting "-memory-model" (o.memoryModel.map MemoryModel.text)
  | .verbose => switch "-verbose" o.verbose
  | .nomain => switch "-nomain" o.nomain
  | .outputKind => setting "-p" (o.outputKind.map OutputKind.text)
  | .debug => switch "-g" o.debug

/-- The flags after `f`. -/
def later (f : Flag) : List Flag := all.filter fun g => f.rank < g.rank

theorem token_injective {f g : Flag} (h : f.token = g.token) : f = g := by
  cases f <;> cases g <;> first | rfl | exact absurd h (by decide)

theorem rank_injective {f g : Flag} (h : f.rank = g.rank) : f = g := by
  cases f <;> cases g <;> first | rfl | exact absurd h (by decide)

theorem mem_later {f g : Flag} : g ∈ f.later ↔ f.rank < g.rank := by
  cases f <;> cases g <;> decide

theorem token_of_begins {f : Flag} {ts : List String} (h : f.Begins ts) :
    ts.head? = some f.token := by
  cases f with
  | memoryModel | outputKind => obtain ⟨_, _, rfl⟩ := h; rfl
  | verbose | nomain | debug => obtain ⟨_, rfl⟩ := h; rfl

theorem written_of_not_setIn {o : CompileOptions} {f : Flag} (h : ¬ f.SetIn o) :
    f.written o = [] := by
  cases f <;> simp_all [SetIn, written, setting, switch]

theorem token_of_setIn {o : CompileOptions} {f : Flag} (h : f.SetIn o) :
    (f.written o).head? = some f.token := by
  cases f with
  | memoryModel | outputKind =>
      obtain ⟨a, ha⟩ := Option.ne_none_iff_exists'.mp h
      simp [written, ha, setting, token]
  | verbose | nomain | debug => simp_all [SetIn, written, switch, token]

/-- If what is written for other flags, and the rest after it, begins with `f`, then nothing is
written, and the rest begins with `f`. -/
theorem begins_append_iff {o : CompileOptions} {f : Flag} {rest : List String} (gs : List Flag)
    (hf : f ∉ gs) :
    f.Begins (gs.flatMap (written o) ++ rest) ↔ (∀ g ∈ gs, ¬ g.SetIn o) ∧ f.Begins rest := by
  induction gs with
  | nil => simp
  | cons g gs ih =>
      obtain ⟨hne, hgs⟩ := not_or.mp (mt List.mem_cons.mpr hf)
      by_cases hg : g.SetIn o
      · -- the token of `g` stands in front, and it is not that of `f`
        refine iff_of_false (fun h => hne (token_injective ?_)) fun h => h.1 g (by simp) hg
        have front := token_of_begins h
        rw [List.flatMap_cons, List.append_assoc, List.head?_append, token_of_setIn hg] at front
        exact (Option.some.inj front).symm
      · simp [written_of_not_setIn hg, ih hgs, hg]

end Flag

/-- The extra arguments begin with a flag that is unset and comes after all flags that are set. -/
def Mistaken (o : CompileOptions) : Prop :=
  ∃ f : Flag, ¬ f.SetIn o ∧ (∀ g : Flag, g.SetIn o → g.rank < f.rank) ∧ f.Begins o.extraArguments

/-- The tokens that follow the place of a flag, without the output. -/
def after (o : CompileOptions) (f : Flag) : List String :=
  f.later.flatMap (Flag.written o) ++ o.extraArguments

/-- What follows the place of an unset flag begins with it only as `Mistaken` says. -/
theorem mistaken_iff (o : CompileOptions) :
    o.Mistaken ↔ ∃ f : Flag, ¬ f.SetIn o ∧ f.Begins (o.after f) := by
  have order (f : Flag) (hf : ¬ f.SetIn o) :
      (∀ g ∈ f.later, ¬ g.SetIn o) ↔ ∀ g : Flag, g.SetIn o → g.rank < f.rank := by
    constructor
    · intro h g hg
      have hle : ¬ f.rank < g.rank := fun hlt => h g (Flag.mem_later.mpr hlt) hg
      have hne : g.rank ≠ f.rank := fun e => hf (Flag.rank_injective e ▸ hg)
      omega
    · intro h g hg hs
      have := h g hs
      have := Flag.mem_later.mp hg
      omega
  constructor
  · rintro ⟨f, hf, hlast, hb⟩
    exact ⟨f, hf, (Flag.begins_append_iff _ (by simp [Flag.mem_later])).mpr
      ⟨(order f hf).mpr hlast, hb⟩⟩
  · rintro ⟨f, hf, hb⟩
    obtain ⟨hn, hb⟩ := (Flag.begins_append_iff _ (by simp [Flag.mem_later])).mp hb
    exact ⟨f, hf, (order f hf).mp hn, hb⟩

/-! ### The whole of the options -/

/-- The tokens from the place of a flag on, without the output. -/
def place (o : CompileOptions) (f : Flag) : List String := Flag.written o f ++ o.after f

/-- At the place of the flag its reader takes what was written for it, and no more. -/
def Flag.ReadBack (o : CompileOptions) : Flag → Prop
  | .memoryModel =>
    takeSetting "-memory-model" MemoryModel.choices (o.place .memoryModel)
      = (o.memoryModel, o.after .memoryModel)
  | .verbose => takeSwitch "-verbose" (o.place .verbose) = (o.verbose, o.after .verbose)
  | .nomain => takeSwitch "-nomain" (o.place .nomain) = (o.nomain, o.after .nomain)
  | .outputKind =>
    takeSetting "-p" OutputKind.choices (o.place .outputKind)
      = (o.outputKind, o.after .outputKind)
  | .debug => takeSwitch "-g" (o.place .debug) = (o.debug, o.after .debug)

theorem Flag.readBack_iff (o : CompileOptions) (f : Flag) :
    f.ReadBack o ↔ f.SetIn o ∨ ¬ f.Begins (o.after f) := by
  cases f with
  | memoryModel =>
      exact takeSetting_append_iff _ eq_text_of_lookup_memoryModel MemoryModel.lookup_choices _ _
  | outputKind =>
      exact takeSetting_append_iff _ eq_text_of_lookup_outputKind OutputKind.lookup_choices _ _
  | verbose | nomain | debug => exact takeSwitch_append_iff _ _ _

theorem flagTokens_append (o : CompileOptions) :
    o.flagTokens ++ o.extraArguments = o.place .memoryModel := by
  simp [flagTokens, place, after, Flag.later, Flag.all, Flag.rank, Flag.written]

/-- What follows the place of a flag is the place of the next one. -/
theorem after_eq_place (o : CompileOptions) :
    o.after .memoryModel = o.place .verbose ∧ o.after .verbose = o.place .nomain ∧
      o.after .nomain = o.place .outputKind ∧ o.after .outputKind = o.place .debug ∧
      o.after .debug = o.extraArguments := by
  simp [place, after, Flag.later, Flag.all, Flag.rank]

/-- The options are read back exactly when every flag is. -/
theorem ofMiddle_eq_iff (o : CompileOptions) :
    ofMiddle o.source o.output (o.flagTokens ++ o.extraArguments) = o ↔
      ∀ f : Flag, f.ReadBack o := by
  obtain ⟨a₁, a₂, a₃, a₄, a₅⟩ := o.after_eq_place
  rw [flagTokens_append]
  constructor
  · intro h
    -- a field that is read back fixes what its reader leaves, and so where the next one starts
    have h₁ : takeSetting "-memory-model" MemoryModel.choices (o.place .memoryModel) = _ :=
      (takeSetting_fst_iff _ eq_text_of_lookup_memoryModel _ _).mp (congrArg memoryModel h)
    simp only [ofMiddle, h₁, a₁] at h
    have h₂ : takeSwitch "-verbose" (o.place .verbose) = _ :=
      (takeSwitch_fst_iff _ _ _).mp (congrArg verbose h)
    simp only [h₂, a₂] at h
    have h₃ : takeSwitch "-nomain" (o.place .nomain) = _ :=
      (takeSwitch_fst_iff _ _ _).mp (congrArg nomain h)
    simp only [h₃, a₃] at h
    have h₄ : takeSetting "-p" OutputKind.choices (o.place .outputKind) = _ :=
      (takeSetting_fst_iff _ eq_text_of_lookup_outputKind _ _).mp (congrArg outputKind h)
    simp only [h₄, a₄] at h
    have h₅ : takeSwitch "-g" (o.place .debug) = _ :=
      (takeSwitch_fst_iff _ _ _).mp (congrArg debug h)
    intro f
    cases f <;> assumption
  · intro h
    have h₁ := h .memoryModel
    have h₂ := h .verbose
    have h₃ := h .nomain
    have h₄ := h .outputKind
    have h₅ := h .debug
    simp only [Flag.ReadBack, a₁, a₂, a₃, a₄, a₅] at h₁ h₂ h₃ h₄ h₅
    simp only [ofMiddle, h₁, h₂, h₃, h₄, h₅]

/-- What is read from the tokens between source and output, written again, is those tokens. -/
theorem tokens_ofMiddle (source output : String) (middle : List String) :
    (ofMiddle source output middle).tokens = source :: middle ++ ["-o", output] := by
  have w₁ := append_takeSetting "-memory-model" eq_text_of_lookup_memoryModel middle
  rcases h₁ : takeSetting "-memory-model" MemoryModel.choices middle with ⟨m, r₁⟩
  have w₂ := append_takeSwitch "-verbose" r₁
  rcases h₂ : takeSwitch "-verbose" r₁ with ⟨v, r₂⟩
  have w₃ := append_takeSwitch "-nomain" r₂
  rcases h₃ : takeSwitch "-nomain" r₂ with ⟨n, r₃⟩
  have w₄ := append_takeSetting "-p" eq_text_of_lookup_outputKind r₃
  rcases h₄ : takeSetting "-p" OutputKind.choices r₃ with ⟨k, r₄⟩
  have w₅ := append_takeSwitch "-g" r₄
  rcases h₅ : takeSwitch "-g" r₄ with ⟨g, extra⟩
  rw [h₁] at w₁
  rw [h₂] at w₂
  rw [h₃] at w₃
  rw [h₄] at w₄
  rw [h₅] at w₅
  simp only [tokens, flagTokens, ofMiddle, h₁, h₂, h₃, h₄, h₅]
  rw [← w₁, ← w₂, ← w₃, ← w₄, ← w₅]
  simp only [List.append_assoc, List.cons_append]

theorem ofTokens?_eq (source output : String) (middle : List String) :
    ofTokens? (source :: middle ++ ["-o", output]) = some (ofMiddle source output middle) := by
  simp [ofTokens?]

theorem tokens_eq (o : CompileOptions) :
    o.tokens = o.source :: (o.flagTokens ++ o.extraArguments) ++ ["-o", o.output] := by
  simp [tokens]

/-- Options are read back unless their extra arguments are mistaken for a flag. -/
theorem ofTokens?_tokens_iff (o : CompileOptions) :
    ofTokens? o.tokens = some o ↔ ¬ o.Mistaken := by
  rw [tokens_eq, ofTokens?_eq, Option.some.injEq, ofMiddle_eq_iff, mistaken_iff]
  constructor
  · rintro h ⟨f, hf, hb⟩
    rcases (f.readBack_iff o).mp (h f) with hs | hn
    · exact hf hs
    · exact hn hb
  · intro h f
    rw [Flag.readBack_iff]
    by_cases hf : f.SetIn o
    · exact .inl hf
    · exact .inr fun hb => h ⟨f, hf, hb⟩

/-! ### What is accepted -/

theorem build_eq_ok_iff (o : CompileOptions) (t : List String) :
    o.build = .ok t ↔
      Text.isBlank o.source = false ∧ Text.isBlank o.output = false ∧ t = o.tokens := by
  unfold build
  cases Text.isBlank o.source <;> cases Text.isBlank o.output <;> simp [eq_comm]

theorem build_eq_error_iff (o : CompileOptions) (f : OptionsFault) :
    o.build = .error f ↔
      (Text.isBlank o.source = true ∧ f = .blankSource) ∨
        (Text.isBlank o.source = false ∧ Text.isBlank o.output = true ∧ f = .blankOutput) := by
  unfold build
  cases Text.isBlank o.source <;> cases Text.isBlank o.output <;> simp [eq_comm]

/-- The tokens stand between a source and `-o` with an output, neither of which is blank. -/
structure Framed (t : List String) : Prop where
  three_le : 3 ≤ t.length
  source : ∀ s ∈ t.head?, Text.isBlank s = false
  output : ∀ s ∈ t.getLast?, Text.isBlank s = false
  flag : t[t.length - 2]? = some "-o"

theorem getLast?_framed (source output : String) (middle : List String) :
    (source :: middle ++ ["-o", output]).getLast? = some output := by
  rw [List.getLast?_append]
  rfl

theorem framed_iff (t : List String) :
    Framed t ↔ ∃ source middle output, t = source :: middle ++ ["-o", output] ∧
      Text.isBlank source = false ∧ Text.isBlank output = false := by
  constructor
  · rintro ⟨hl, hs, ho, hf⟩
    obtain ⟨output, f, rest, hr⟩ : ∃ output f rest, t.reverse = output :: f :: rest := by
      rcases hr : t.reverse with _ | ⟨output, _ | ⟨f, rest⟩⟩ <;>
        simp_all [List.reverse_eq_cons_iff]
    obtain rfl : t = rest.reverse ++ [f, output] := by simpa using congrArg List.reverse hr
    obtain ⟨source, middle, hm⟩ := List.exists_cons_of_length_pos
      (by simp at hl ⊢; omega : 0 < rest.reverse.length)
    rw [hm] at hs ho hf
    obtain rfl : f = "-o" := by simpa using hf
    rw [getLast?_framed] at ho
    exact ⟨source, middle, output, by rw [hm], by simpa using hs, by simpa using ho⟩
  · rintro ⟨source, middle, output, rfl, hs, ho⟩
    refine ⟨by simp, by simpa using hs, ?_, by simp⟩
    rw [getLast?_framed]
    simpa using ho

/-- **The grammar.**  `build` makes exactly the framed lists, and refuses exactly the options with a
blank path; every framed list is read as options that make it again; and the options that are read
are those the list was made of, unless the extra arguments are mistaken for a flag. -/
theorem build_grammar :
    (∀ t, (∃ o : CompileOptions, o.build = .ok t) ↔ Framed t) ∧
    (∀ t, Framed t → ∃ o, ofTokens? t = some o ∧ o.build = .ok t) ∧
    (∀ o t, build o = .ok t → (ofTokens? t = some o ↔ ¬ o.Mistaken)) ∧
    (∀ o, (∃ f, build o = .error f) ↔
      Text.isBlank o.source = true ∨ Text.isBlank o.output = true) := by
  have read (t) (h : Framed t) : ∃ o, ofTokens? t = some o ∧ o.build = .ok t := by
    obtain ⟨source, middle, output, rfl, hs, ho⟩ := (framed_iff t).mp h
    exact ⟨_, ofTokens?_eq source output middle,
      (build_eq_ok_iff _ _).mpr ⟨hs, ho, (tokens_ofMiddle source output middle).symm⟩⟩
  refine ⟨fun t => ⟨?_, fun h => ?_⟩, read, fun o t h => ?_, fun o => ?_⟩
  · rintro ⟨o, h⟩
    obtain ⟨hs, ho, rfl⟩ := (build_eq_ok_iff o t).mp h
    exact (framed_iff _).mpr ⟨_, _, _, tokens_eq o, hs, ho⟩
  · obtain ⟨o, -, h⟩ := read t h
    exact ⟨o, h⟩
  · obtain ⟨-, -, rfl⟩ := (build_eq_ok_iff o t).mp h
    exact ofTokens?_tokens_iff o
  · simp only [build_eq_error_iff]
    cases Text.isBlank o.source <;> cases Text.isBlank o.output <;> simp

/-- The same extra argument `-g` is read back after a set `-g`, and mistaken for it otherwise. -/
theorem build_grammar_debug :
    let o : CompileOptions :=
      { source := "a.kt", output := "b", memoryModel := some .strict, extraArguments := ["-g"] }
    let t := ["a.kt", "-memory-model", "strict", "-g", "-o", "b"]
    (o.build = .ok t ∧ Framed t ∧ ofTokens? t ≠ some o) ∧
      ofTokens? { o with debug := true }.tokens = some { o with debug := true } := by
  intro o t
  have h : o.build = .ok t := (build_eq_ok_iff o t).mpr (by decide +kernel)
  have h' : { o with debug := true }.build = .ok { o with debug := true }.tokens :=
    (build_eq_ok_iff _ _).mpr (by decide +kernel)
  refine ⟨⟨h, (build_grammar.1 t).mp ⟨o, h⟩, fun e => ?_⟩, (build_grammar.2.2.1 _ _ h').mpr ?_⟩
  · refine (build_grammar.2.2.1 o t h).mp e
      ⟨.debug, by simp [Flag.SetIn, o], fun g hg => ?_, [], rfl⟩
    cases g <;> simp_all [Flag.SetIn, Flag.rank, o]
  · rintro ⟨f, -, hlast, -⟩
    have := hlast .debug rfl
    cases f <;> simp [Flag.rank] at this

end CompilerRunner.CompileOptions
