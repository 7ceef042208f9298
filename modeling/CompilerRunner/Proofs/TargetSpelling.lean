import CompilerRunner.Proofs.DryRun
import Mathlib

/-!
# Proofs — TargetSpelling

A target that is written down is the options that it writes down.

* `Writes`: a mapping gives each field of some options the value of its data form, or leaves it out
  where that is the default; the fields stand in any order.
* `check_of_writes`: such a mapping is accepted, and as these options.
* `target_of_options`: so a compilation by the name of the target and one by the options on the
  command line are the same, but for the record that the target is compiled.
-/

namespace CompilerRunner

/-! ### Checks of values in their data form -/

namespace Validation

theorem sequence_texts (ts : List String) : sequence text (.list (ts.map .text)) = .valid ts := by
  have from_ (n : Nat) : Checked.each (elements text n (ts.map .text)) = .valid ts := by
    induction ts generalizing n with
    | nil => rfl
    | cons t rest ih =>
        rw [List.map_cons, elements, Checked.each, ih]
        rfl
  exact from_ 0

/-- A choice is accepted in its spelling, if that is a text of characters, and so is none. -/
theorem optional_choice {α : Type} {choices : List (String × α)} {spell : α → String}
    (lookup : ∀ a, choices.lookup (spell a) = some a)
    (characters : ∀ a, Text.hasSurrogate (spell a) = false) (a : Option α) :
    optional (choice choices) ((a.map fun a => Value.text (spell a)).getD .null) = .valid a := by
  cases a with
  | none => rfl
  | some a =>
      show (reading _ (spell a)).map some = _
      simp only [reading, Validation.characters, characters a, Bool.false_eq_true, if_false,
        lookup a]
      rfl

theorem optional_memoryModel (m : Option MemoryModel) :
    optional (choice MemoryModel.choices) ((m.map fun m => Value.text m.text).getD .null)
      = .valid m :=
  optional_choice MemoryModel.lookup_choices (fun m => by cases m <;> rfl) m

theorem optional_outputKind (k : Option OutputKind) :
    optional (choice OutputKind.choices) ((k.map fun k => Value.text k.text).getD .null)
      = .valid k :=
  optional_choice OutputKind.lookup_choices (fun k => by cases k <;> rfl) k

end Validation

namespace CompileOptions

open Validation

/-! ### Options that are written down -/

/-- What the data form of the options says under the name of a field. -/
def spelled (o : CompileOptions) (name : String) : Option Value :=
  match o.canonical with
  | .mapping es => Entries.field? es name
  | _ => none

/-- The options with the same paths and nothing else. -/
def bare (o : CompileOptions) : CompileOptions := { source := o.source, output := o.output }

/-- The mapping writes the options down: it holds nothing but fields, each in its data form, and
what it leaves out has its default.  The paths have none. -/
structure Writes (m : Table Value) (o : CompileOptions) : Prop where
  known : ∀ name ∈ m.names, name ∈ fieldNames
  paths : ∀ name ∈ ["source", "output"], m.get? name = o.spelled name
  others : ∀ name ∈ fieldNames, m.get? name = o.spelled name ∨
    (m.get? name = none ∧ o.spelled name = o.bare.spelled name)

/-- The options with every field written. -/
def writtenOut (o : CompileOptions) : Table Value :=
  fieldNames.map fun name => (name, (o.spelled name).getD .null)

/-- All options can be written down. -/
theorem writes_writtenOut (o : CompileOptions) : Writes o.writtenOut o := by
  have given : ∀ name ∈ fieldNames, o.writtenOut.get? name = o.spelled name := by
    intro name hn
    simp only [fieldNames, List.mem_cons, List.not_mem_nil, or_false] at hn
    rcases hn with rfl | rfl | rfl | rfl | rfl | rfl | rfl | rfl <;> rfl
  refine ⟨fun name hn => ?_, fun name hn => given name ?_, fun name hn => .inl (given name hn)⟩
  · simpa [writtenOut, Table.names, Function.comp_def] using hn
  · revert name
    decide

/-- A mapping of names has no key that is anything but characters, if its names have none. -/
theorem hasUndecodableKey_entriesOf {m : Table Value}
    (h : ∀ name ∈ m.names, Text.hasSurrogate name = false) :
    (Settings.entriesOf m).any (fun e => hasUndecodableKey e) = false := by
  rw [List.any_eq_false]
  rintro e he
  obtain ⟨entry, hm, rfl⟩ := List.mem_map.mp he
  simp [hasUndecodableKey, h entry.1 (List.mem_map_of_mem hm)]

/-- A mapping of fields has no entry that is foreign to the record. -/
theorem foreignDefects_entriesOf {m : Table Value} (h : ∀ name ∈ m.names, name ∈ fieldNames) :
    foreignDefects fieldNames (Settings.entriesOf m) = [] := by
  rw [foreignDefects, List.filterMap_eq_nil_iff]
  rintro e he
  obtain ⟨entry, hm, rfl⟩ := List.mem_map.mp he
  exact if_pos (List.contains_iff_mem.mpr (h _ (List.mem_map_of_mem hm)))

namespace Writes

variable {m : Table Value} {o : CompileOptions} {α : Type} {name : String} {v d : Value}
  {check : Value → Checked α} {a default : α}

/-- A path is checked as it is spelled. -/
theorem required (h : Writes m o) (hn : name ∈ ["source", "output"])
    (hv : o.spelled name = some v) (hc : check v = .valid a) :
    Validation.required (Settings.entriesOf m) name check = .valid a :=
  required_eq_valid_iff.mpr ⟨v, by rw [Settings.field?_entriesOf, h.paths name hn, hv], hc⟩

/-- A field that is written is checked as it is spelled; one that is left out is spelled as its
default is, which is accepted too. -/
theorem withDefault (h : Writes m o) (hn : name ∈ fieldNames)
    (hv : o.spelled name = some v) (hc : check v = .valid a)
    (hb : o.bare.spelled name = some d) (hd : check d = .valid default) :
    Validation.withDefault (Settings.entriesOf m) name default check = .valid a := by
  rw [withDefault_eq_valid_iff, Settings.field?_entriesOf]
  rcases h.others name hn with hw | ⟨ha, hs⟩
  · exact .inr ⟨v, hw.trans hv, hc⟩
  · obtain rfl : v = d := by simpa [hv, hb] using hs
    exact .inl ⟨ha, Checked.valid.inj (hd.symm.trans hc)⟩

end Writes

/-- **Options that are written down are read.**  The mapping is accepted, as these options. -/
theorem check_of_writes {m : Table Value} {o : CompileOptions} (h : Writes m o) :
    check (Settings.entriesOf m) = .valid o := by
  have decodable : (Settings.entriesOf m).any (fun e => hasUndecodableKey e) = false := by
    have fieldNames_decodable : ∀ name ∈ fieldNames, Text.hasSurrogate name = false := by
      decide +kernel
    exact hasUndecodableKey_entriesOf fun name hn => fieldNames_decodable name (h.known name hn)
  have source : Validation.required (Settings.entriesOf m) "source" text = .valid o.source :=
    h.required (by decide) rfl rfl
  have output : Validation.required (Settings.entriesOf m) "output" text = .valid o.output :=
    h.required (by decide) rfl rfl
  have memoryModel : Validation.withDefault (Settings.entriesOf m) "memory_model" none
      (optional (choice MemoryModel.choices)) = .valid o.memoryModel :=
    h.withDefault (by decide) rfl (optional_memoryModel _) rfl (optional_memoryModel none)
  have outputKind : Validation.withDefault (Settings.entriesOf m) "output_kind" none
      (optional (choice OutputKind.choices)) = .valid o.outputKind :=
    h.withDefault (by decide) rfl (optional_outputKind _) rfl (optional_outputKind none)
  have extra : Validation.withDefault (Settings.entriesOf m) "extra_arguments" []
      (sequence text) = .valid o.extraArguments :=
    h.withDefault (by decide) rfl (sequence_texts _) rfl (sequence_texts [])
  have verbose : Validation.withDefault (Settings.entriesOf m) "verbose" false flag =
      .valid o.verbose := h.withDefault (by decide) rfl rfl rfl rfl
  have nomain : Validation.withDefault (Settings.entriesOf m) "nomain" false flag =
      .valid o.nomain := h.withDefault (by decide) rfl rfl rfl rfl
  have debug : Validation.withDefault (Settings.entriesOf m) "debug" false flag =
      .valid o.debug := h.withDefault (by decide) rfl rfl rfl rfl
  have foreign : foreignDefects fieldNames (Settings.entriesOf m) = [] :=
    foreignDefects_entriesOf h.known
  rw [CompileOptions.check, decodable, if_neg Bool.false_ne_true, checkFields, source, output,
    memoryModel, verbose, nomain, outputKind, debug, extra, foreign]
  rfl

end CompileOptions

/-! ### Compilations by name and by options -/

/-- The target is the options that it writes down. -/
theorem Settings.target_of_writes {s : Settings} {name : String} {m : Table Value}
    {o : CompileOptions} (hm : s.targets.get? name = some m) (h : CompileOptions.Writes m o) :
    s.target name = .ok o := by
  have accepted : CompileOptions.ofValue (.mapping (entriesOf m)) = .ok o := by
    show (CompileOptions.check (entriesOf m)).toExcept _ = _
    rw [CompileOptions.check_of_writes h]
    rfl
  rw [target, hm]
  show (CompileOptions.ofValue (.mapping (entriesOf m))).mapError _ = _
  rw [accepted]
  rfl

namespace Pipeline

variable {s : Settings} {name : String} {m : Table Value} {o : CompileOptions}

theorem runTargetWith_of_writes (hm : s.targets.get? name = some m)
    (h : CompileOptions.Writes m o) (launch : EntryPoint → Tool) (tool : Option Tool) :
    runTargetWith launch name s tool =
      ⟨compiling name :: (runWith launch o s tool).events, (runWith launch o s tool).outcome⟩ :=
  runTargetWith_of_ok (Settings.target_of_writes hm h)

/-- With given options the targets play no part. -/
theorem runWith_targets (launch : EntryPoint → Tool) (o : CompileOptions) (s : Settings)
    (targets : Table (Table Value)) (tool : Option Tool) :
    runWith launch o { s with targets := targets } tool = runWith launch o s tool := rfl

end Pipeline

namespace CommandLine

variable {w : World} {d : Path} {s : Settings} {name : String} {m : Table Value}
  {o : CompileOptions}

theorem executeWith_compile_of_load (hs : Settings.load w d = .ok s)
    (launch : EntryPoint → Tool) (o : CompileOptions) :
    Command.executeWith launch w (.compile o d) =
      discard (Pipeline.runWith launch o s none) := by
  rw [executeWith_compile, hs, Run.ofExcept_ok, Run.pure_bind]

/-- The command that compiles the target does what the command that compiles with the options does,
after the record that it compiles the target. -/
theorem executeWith_run_of_writes (hs : Settings.load w d = .ok s)
    (hm : s.targets.get? name = some m) (h : CompileOptions.Writes m o)
    (launch : EntryPoint → Tool) :
    Command.executeWith launch w (.run name d) =
      ⟨[Pipeline.compiling name] ++ (Command.executeWith launch w (.compile o d)).events,
        (Command.executeWith launch w (.compile o d)).outcome⟩ := by
  rw [executeWith_run_of_load hs, Pipeline.runTargetWith_of_writes hm h,
    executeWith_compile_of_load hs, Run.discard_eq, Run.discard_eq]
  rfl

/-- **A target that is written down is its options.**  A run of the target and a run with the
options have the same outcome and leave the same events, tool calls and log records alike, but for
the record that the target is compiled, which comes first; and so do the command for the target and
the command with the options. -/
theorem target_of_options {m : Table Value} {o : CompileOptions}
    (h : CompileOptions.Writes m o) (launch : EntryPoint → Tool) (name : String) :
    (∀ (s : Settings) (tool : Option Tool),
      Pipeline.runTargetWith launch name { s with targets := s.targets.insert name m } tool =
        ⟨Pipeline.compiling name :: (Pipeline.runWith launch o s tool).events,
          (Pipeline.runWith launch o s tool).outcome⟩) ∧
    ∀ (w : World) (s : Settings) (d : Path) (byName byOptions : List String),
      Settings.load w d = .ok s → s.targets.get? name = some m →
      parse byName = .ok (.command (.run name d)) →
      parse byOptions = .ok (.command (.compile o d)) →
      runWith launch w byName =
        ⟨Pipeline.compiling name :: (runWith launch w byOptions).events,
          (runWith launch w byOptions).outcome⟩ := by
  refine ⟨fun s tool => ?_, fun w s d byName byOptions hs hm hn ho => ?_⟩
  · have found : (s.targets.insert name m).get? name = some m := by
      rw [Table.get?_insert, if_pos rfl]
    rw [Pipeline.runTargetWith_of_writes found h, Pipeline.runWith_targets]
  · rw [runWith_of_parse hn, runWith_of_parse ho, executeWith_run_of_writes hs hm h,
      conclude_append]
    rfl

/-! ### A target with a default written and others left out -/

/-- A settings file with the target `t`, whose fields stand in an order of their own. -/
def spelledText : String :=
  "targets:\n t:\n  debug: true\n  output: b\n  verbose: false\n  source: a\n"

/-- What that file says of the target. -/
def spelledTarget : Table Value :=
  [("debug", .bool true), ("output", .text "b"), ("verbose", .bool false), ("source", .text "a")]

/-- The text or the truth value that a value is. -/
def plain? : Value → Option (String ⊕ Bool)
  | .text s => some (.inl s)
  | .bool b => some (.inr b)
  | _ => none

/-- A text or a truth value as a value. -/
def ofPlain : String ⊕ Bool → Value
  | .inl s => .text s
  | .inr b => .bool b

theorem eq_of_plain? {v : Value} {x : String ⊕ Bool} (h : plain? v = some x) : v = ofPlain x := by
  cases v with
  | text s => exact Option.some.inj h ▸ rfl
  | bool b => exact Option.some.inj h ▸ rfl
  | _ => cases h

/-- A table of texts and truth values is known by what they are. -/
theorem table_eq_of_plain? {m : Table Value} {xs : List (String × (String ⊕ Bool))}
    (h : (m.mapM fun e => (plain? e.2).map (e.1, ·)) = some xs) :
    m = xs.map fun x => (x.1, ofPlain x.2) := by
  induction m generalizing xs with
  | nil =>
      obtain rfl : [] = xs := Option.some.inj h
      rfl
  | cons e rest ih =>
      rw [List.mapM_cons] at h
      obtain ⟨y, hy, h⟩ := Option.bind_eq_some_iff.mp h
      obtain ⟨ys, hys, h⟩ := Option.bind_eq_some_iff.mp h
      obtain ⟨x, hx, rfl⟩ := Option.map_eq_some_iff.mp hy
      obtain rfl : (e.1, x) :: ys = xs := Option.some.inj h
      rw [List.map_cons, ← ih hys, ← eq_of_plain? hx]

theorem exists_settings_spelled : ∃ s,
    Settings.load (Settings.sampleWorld (Text.Utf8.encode spelledText) []) (Path.ofText "") =
      .ok s ∧
    s.targets.get? "t" = some spelledTarget := by
  obtain ⟨s, hs, seen⟩ := Settings.exists_load_sampleWorld (t := spelledText)
    (f := fun s => (s.targets.get? "t").bind fun m => m.mapM fun e => (plain? e.2).map (e.1, ·))
    (a := [("debug", .inr true), ("output", .inl "b"), ("verbose", .inr false),
      ("source", .inl "a")]) (by decide +kernel)
  obtain ⟨m, hm, seen⟩ := Option.bind_eq_some_iff.mp seen
  exact ⟨s, hs, hm.trans (congrArg some (table_eq_of_plain? seen))⟩

/-- The options that the target stands for. -/
def spelledOptions : CompileOptions := { source := "a", output := "b", debug := true }

theorem writes_spelledTarget : CompileOptions.Writes spelledTarget spelledOptions where
  known := by decide
  paths name hn := by
    simp only [List.mem_cons, List.not_mem_nil, or_false] at hn
    rcases hn with rfl | rfl <;> rfl
  others name hn := by
    simp only [CompileOptions.fieldNames, List.mem_cons, List.not_mem_nil, or_false] at hn
    rcases hn with rfl | rfl | rfl | rfl | rfl | rfl | rfl | rfl <;>
      first | exact .inl rfl | exact .inr ⟨rfl, rfl⟩

/-- The target `t` of that file and the same options on the command line; and the target `u` of a
caller, for a tool that ends with the code 3. -/
theorem target_of_options_spelled :
    let launch : EntryPoint → Tool := fun _ => Pipeline.answering { exitCode := 3 }
    let w := Settings.sampleWorld (Text.Utf8.encode spelledText) []
    runWith launch w ["run", "t"] =
      ⟨.logged .info "Compiling target t" ::
          (runWith launch w ["compile", "a", "--output=b", "--debug"]).events,
        (runWith launch w ["compile", "a", "--output=b", "--debug"]).outcome⟩ ∧
    Pipeline.runTargetWith launch "u" { targets := [("u", spelledTarget)] }
        (some (Pipeline.answering { exitCode := 3 })) =
      ⟨[.logged .info "Compiling target u", .logged .info "Invoking tool with a -g -o b",
          .logged .warning "Compilation failed with exit code 3"],
        .error (.compilation (.integer 3) (some { exitCode := 3 }) (by decide +kernel))⟩ := by
  intro launch w
  have byName : parse ["run", "t"] = .ok (.command (.run "t" (Path.ofText ""))) := by cbv
  have byOptions : parse ["compile", "a", "--output=b", "--debug"] =
      .ok (.command (.compile spelledOptions (Path.ofText ""))) := by cbv
  have build : spelledOptions.build = .ok ["a", "-g", "-o", "b"] := by cbv
  obtain ⟨s, hs, hm⟩ := exists_settings_spelled
  refine ⟨(target_of_options writes_spelledTarget launch "t").2 w s _ _ _ hs hm byName byOptions,
    ?_⟩
  refine ((target_of_options writes_spelledTarget launch "u").1 {} _).trans ?_
  rw [Pipeline.runWith_of_ok build rfl, Tool.invoke_failure rfl (by decide) (by decide +kernel)]
  refine congrArg (Run.mk · _) ?_
  decide +kernel

end CommandLine

end CompilerRunner
