import CompilerRunner.Proofs.RegistryHistory
import Mathlib

/-!
# Proofs — EntryPointConfiguration

What the settings make of the key of an entry point.

* `FieldForm`: a field of a configuration with its check and its default.  It comes to what the
  check makes of its value, or to the default where it is left out (`Comes`); where it comes to
  nothing it is broken, and the defects that are reported then name it
  (`FieldForm.reports_defects_iff`).
* `Explained`: an outcome without a value has a defect.  All checks of fields have such outcomes, so
  that no broken field goes unreported.
* `Answers`: the ways in which a request for an entry point ends, by what stands in its
  configuration.
* `entry_point_configured`: every request ends in the one way that applies to it.
-/

namespace CompilerRunner

/-! ### Outcomes that are explained -/

namespace Checked

variable {α β : Type}

theorem toExcept_eq_error_iff {c : Checked α} {title : String} {r : Rejection} :
    c.toExcept title = .error r ↔ r = ⟨title, c.defects⟩ ∧ ¬ ∃ a, c = .valid a := by
  cases c <;> simp [toExcept, eq_comm]

theorem toExcept_eq_ok_iff {c : Checked α} {title : String} {a : α} :
    c.toExcept title = .ok a ↔ c = .valid a := by
  cases c <;> simp [toExcept]

/-- If there is no value, at least one defect says why. -/
def Explained (c : Checked α) : Prop := c ≠ .invalid []

theorem explained_valid (a : α) : (valid a).Explained := nofun

theorem explained_fault (f : Fault) : (fault f : Checked α).Explained := nofun

theorem Explained.map {c : Checked α} (h : c.Explained) (f : α → β) : (c.map f).Explained := by
  cases c with
  | valid a => exact explained_valid (f a)
  | invalid ds => exact fun he => h (congrArg invalid (invalid.inj he))

theorem Explained.seq {f : Checked (α → β)} {c : Checked α} (hf : f.Explained)
    (hc : c.Explained) : (f.seq c).Explained := by
  intro h
  have none_ : f.defects ++ c.defects = [] := by rw [← defects_seq, h, defects_invalid]
  obtain ⟨hf', hc'⟩ := List.append_eq_nil_iff.mp none_
  cases f with
  | invalid ds => exact hf (congrArg invalid hf')
  | valid g =>
      cases c with
      | valid a => cases h
      | invalid ds => exact hc (congrArg invalid hc')

theorem Explained.within {c : Checked α} (h : c.Explained) (s : Step) :
    (c.within s).Explained := by
  cases c with
  | valid a => exact explained_valid a
  | invalid ds => exact fun he => h (congrArg invalid (List.map_eq_nil_iff.mp (invalid.inj he)))

theorem explained_each {cs : List (Checked α)} (h : ∀ c ∈ cs, c.Explained) :
    (each cs).Explained := by
  induction cs with
  | nil => exact explained_valid []
  | cons c rest ih =>
      exact ((h c List.mem_cons_self).map List.cons).seq
        (ih fun c' hc => h c' (List.mem_cons_of_mem c hc))

/-- An explained outcome without defects has a value. -/
theorem Explained.exists_valid_iff {c : Checked α} (h : c.Explained) :
    (∃ a, c = .valid a) ↔ c.defects = [] := by
  cases c with
  | valid a => simp
  | invalid ds => exact ⟨nofun, fun he => absurd (congrArg invalid he) h⟩

end Checked

namespace Validation

open Checked

variable {α : Type} {check : Value → Checked α}

theorem explained_text (v : Value) : (text v).Explained := by
  unfold text
  split
  · exact explained_valid _
  · split
    · exact explained_valid _
    · exact explained_fault _
  · exact explained_fault _

theorem explained_flagOfWord (s : String) : (flagOfWord s).Explained := by
  unfold flagOfWord
  dsimp only
  split
  · exact explained_valid true
  · split
    · exact explained_valid false
    · exact explained_fault _

theorem explained_flagOfInteger (n : Int) : (flagOfInteger n).Explained := by
  unfold flagOfInteger
  split
  · exact explained_valid true
  · split
    · exact explained_valid false
    · split <;> exact explained_fault _

theorem explained_reading {read : String → Checked α} (h : ∀ s, (read s).Explained) (s : String) :
    (reading read s).Explained := by
  unfold reading characters
  split
  · next hs =>
      split at hs
      · cases hs
      · exact h _
  · next ds hs =>
      split at hs
      · obtain rfl := invalid.inj hs
        exact nofun
      · cases hs

theorem explained_flag (v : Value) : (flag v).Explained := by
  unfold flag
  split
  · exact explained_valid _
  · exact explained_reading explained_flagOfWord _
  · split
    · exact explained_flagOfWord _
    · exact explained_fault _
  · exact explained_flagOfInteger _
  · split
    · exact explained_flagOfInteger _
    · exact explained_fault _
  · exact explained_fault _

theorem explained_numberOfText (s : String) : (numberOfText s).Explained := by
  unfold numberOfText
  split
  · exact explained_valid _
  · split
    · exact explained_valid _
    · exact explained_fault _

theorem explained_number (v : Value) : (number v).Explained := by
  unfold number
  split
  · exact explained_valid _
  · exact explained_valid _
  · split
    · exact explained_valid _
    · exact explained_fault _
  · exact explained_reading explained_numberOfText _
  · split
    · exact explained_numberOfText _
    · exact explained_fault _
  · exact explained_fault _

theorem explained_positiveNumber (v : Value) : (positiveNumber v).Explained := by
  have h := explained_number v
  unfold positiveNumber
  split
  · split
    · exact explained_valid _
    · exact explained_fault _
  · next ds hn => exact hn ▸ h

theorem explained_path (v : Value) : (path v).Explained := by
  unfold path
  split
  · exact explained_valid _
  · exact explained_fault _

theorem explained_optional (h : ∀ v, (check v).Explained) (v : Value) :
    (optional check v).Explained := by
  unfold optional
  split
  · exact explained_valid none
  · exact (h v).map some

theorem explained_elements (h : ∀ v, (check v).Explained) (n : Nat) (vs : List Value) :
    ∀ c ∈ elements check n vs, c.Explained := by
  induction vs generalizing n with
  | nil => exact fun c hc => absurd hc List.not_mem_nil
  | cons v rest ih => exact List.forall_mem_cons.mpr ⟨(h v).within (.index n), ih (n + 1)⟩

theorem explained_sequence (h : ∀ v, (check v).Explained) (v : Value) :
    (sequence check v).Explained := by
  unfold sequence
  split
  · exact explained_each (explained_elements h 0 _)
  · exact explained_each (explained_elements h 0 _)
  · exact explained_each (explained_elements h 0 _)
  · exact explained_fault _

theorem explained_table (h : ∀ v, (check v).Explained) (v : Value) :
    (table check v).Explained := by
  unfold table
  split
  · refine (explained_each fun c hc => ?_).map _
    obtain ⟨e, -, rfl⟩ := List.mem_map.mp hc
    exact ((((explained_text e.1).within _).within _).map _).seq ((h e.2).within _)
  · exact explained_fault _

/-! ### Fields -/

/-- A field of a record: its name, its check, and its default if it has one. -/
structure FieldForm (α : Type) where
  name : String
  check : Value → Checked α
  default : Option α := none

namespace FieldForm

variable {f : FieldForm α} {t : Table Value} {a : α}

/-- The field as it is read from a table. -/
def read (f : FieldForm α) (t : Table Value) : Checked α :=
  match f.default with
  | some d => withDefault (Settings.entriesOf t) f.name d f.check
  | none => required (Settings.entriesOf t) f.name f.check

/-- The field comes to what the check makes of its value, or to its default where it is left out. -/
def Comes (f : FieldForm α) (t : Table Value) (a : α) : Prop :=
  match t.get? f.name with
  | some v => f.check v = .valid a
  | none => f.default = some a

/-- The field comes to nothing: its value is refused, or it is left out and has no default. -/
def Broken (f : FieldForm α) (t : Table Value) : Prop := ¬ ∃ a, f.Comes t a

/-- The check of the field explains what it refuses. -/
def Explains (f : FieldForm α) : Prop := ∀ v, (f.check v).Explained

/-- What is wrong with the field, at its name. -/
def defects (f : FieldForm α) (t : Table Value) : List Defect :=
  match t.get? f.name, f.default with
  | some v, _ => (f.check v).defects.map fun d => { d with steps := .name f.name :: d.steps }
  | none, some _ => []
  | none, none => [⟨[.name f.name], .missing⟩]

theorem read_eq_valid_iff : f.read t = .valid a ↔ f.Comes t a := by
  unfold read Comes
  cases hd : f.default with
  | none =>
      simp only [required_eq_valid_iff, Settings.field?_entriesOf]
      cases t.get? f.name <;> simp
  | some d =>
      simp only [withDefault_eq_valid_iff, Settings.field?_entriesOf]
      cases t.get? f.name <;> simp

theorem defects_read (f : FieldForm α) (t : Table Value) : (f.read t).defects = f.defects t := by
  unfold read defects
  cases hd : f.default with
  | none =>
      simp only [required, Settings.field?_entriesOf]
      cases t.get? f.name <;> simp [fault]
  | some d =>
      simp only [withDefault, Settings.field?_entriesOf]
      cases t.get? f.name <;> simp

theorem explained_read (h : f.Explains) (t : Table Value) : (f.read t).Explained := by
  unfold read withDefault required
  cases f.default with
  | none =>
      refine Explained.within ?_ (.name f.name)
      split
      · exact h _
      · exact explained_fault _
  | some d =>
      dsimp only
      split
      · exact (h _).within (.name f.name)
      · exact explained_valid d

theorem defects_eq_nil_iff (h : f.Explains) : f.defects t = [] ↔ ∃ a, f.Comes t a := by
  unfold defects Comes
  cases t.get? f.name with
  | none => cases f.default <;> simp
  | some v => simp [List.map_eq_nil_iff, (h v).exists_valid_iff]

/-- A field is read from its own entry. -/
theorem read_congr {t' : Table Value} (h : t'.get? f.name = t.get? f.name) :
    f.read t' = f.read t := by
  simp only [read, withDefault, required, Settings.field?_entriesOf, h]

/-- One of the defects is in the field of that name. -/
def Reports (ds : List Defect) (name : String) : Prop :=
  ∃ d ∈ ds, d.steps.head? = some (.name name)

/-- What is wrong with a broken field is reported under its name, and a field that is not broken
reports nothing. -/
theorem reports_defects_iff (h : f.Explains) {name : String} :
    Reports (f.defects t) name ↔ f.name = name ∧ f.Broken t := by
  have under : ∀ d ∈ f.defects t, d.steps.head? = some (.name f.name) := by
    intro d hd
    unfold defects at hd
    split at hd
    · obtain ⟨d', -, rfl⟩ := List.mem_map.mp hd
      rfl
    · cases hd
    · rw [List.mem_singleton.mp hd]
      rfl
  rw [Broken, ← defects_eq_nil_iff h]
  constructor
  · rintro ⟨d, hd, hn⟩
    exact ⟨Step.name.inj (Option.some.inj ((under d hd).symm.trans hn)), List.ne_nil_of_mem hd⟩
  · rintro ⟨rfl, hne⟩
    obtain ⟨d, hd⟩ := List.exists_mem_of_ne_nil _ hne
    exact ⟨d, hd, under d hd⟩

end FieldForm

end Validation

open Validation

/-! ### The fields of the entry points -/

namespace ChildCommand

/-- The words of the command. -/
def commandField : FieldForm (List String) := ⟨"command", sequence text, some ["konanc"]⟩

/-- The seconds that a run may take, without a limit by default. -/
def timeoutField : FieldForm (Option TimeLimit) :=
  ⟨"timeout", fun v => (optional positiveNumber v).map (·.map .real), some none⟩

/-- **A time limit** is a number greater than zero, or there is none. -/
theorem timeoutField_check_iff {v : Value} {limit : Option TimeLimit} :
    timeoutField.check v = .valid limit ↔
      (v = .null ∧ limit = none) ∨
        (v ≠ .null ∧ ∃ x : Float, number v = .valid x ∧ 0 < x ∧ limit = some (.real x)) := by
  by_cases hv : v = .null
  · subst hv
    simp [timeoutField, Validation.optional, Checked.map_eq_valid_iff, eq_comm]
  · have given : optional positiveNumber v = (positiveNumber v).map some := by
      cases v <;> first | rfl | exact absurd rfl hv
    simp only [timeoutField, given, Checked.map_eq_valid_iff, positiveNumber_eq_valid_iff]
    simp [hv, eq_comm, and_assoc]

/-- Whether the output is captured, as it is by default. -/
def captureField : FieldForm Bool := ⟨"capture_output", flag, some true⟩

/-- The variables that are added to the environment, none by default. -/
def environmentField : FieldForm (Table String) := ⟨"environment", table text, some []⟩

/-- The directory to run in, by default that of the settings. -/
def directoryField : FieldForm (Option Path) := ⟨"cwd", optional path, some none⟩

/-- The child process is what the fields come to, for settings for the directory `current`. -/
structure Configured (current : Option Path) (t : Table Value) (c : ChildCommand) : Prop where
  command : commandField.Comes t c.command
  timeout : timeoutField.Comes t c.timeout
  captureOutput : captureField.Comes t c.captureOutput
  environment : environmentField.Comes t c.environment
  directory : ∃ p, directoryField.Comes t p ∧ c.directory = directoryFor current p

theorem check_eq (current : Option Path) (t : Table Value) :
    check current (Settings.entriesOf t) =
      ((((Checked.map ChildCommand.mk (commandField.read t)).seq (timeoutField.read t)).seq
        (captureField.read t)).seq (environmentField.read t)).seq
        ((directoryField.read t).map (directoryFor current)) := rfl

theorem check_eq_valid_iff {current : Option Path} {t : Table Value} {c : ChildCommand} :
    check current (Settings.entriesOf t) = .valid c ↔ Configured current t c := by
  simp only [check_eq, Checked.seq_eq_valid_iff, Checked.map_eq_valid_iff,
    FieldForm.read_eq_valid_iff]
  constructor
  · rintro ⟨_, d, ⟨_, e, ⟨_, o, ⟨_, l, ⟨w, hw, rfl⟩, hl, rfl⟩, ho, rfl⟩, he, rfl⟩,
      ⟨p, hp, rfl⟩, rfl⟩
    exact ⟨hw, hl, ho, he, p, hp, rfl⟩
  · rintro ⟨hw, hl, ho, he, p, hp, hd⟩
    exact ⟨_, _, ⟨_, _, ⟨_, _, ⟨_, _, ⟨_, hw, rfl⟩, hl, rfl⟩, ho, rfl⟩, he, rfl⟩, ⟨p, hp, rfl⟩,
      by rw [← hd]⟩

end ChildCommand

namespace CallTarget

/-- The reference to the function, which has no default. -/
def targetField : FieldForm String := ⟨"target", text, none⟩

theorem check_eq (t : Table Value) :
    check (Settings.entriesOf t) = (targetField.read t).map .reference := rfl

end CallTarget

namespace EntryPoint

/-- The fields of the configuration of a kind, in order. -/
def fields : Kind → List (Σ α : Type, FieldForm α)
  | .subprocess =>
    [⟨_, ChildCommand.commandField⟩, ⟨_, ChildCommand.timeoutField⟩,
      ⟨_, ChildCommand.captureField⟩, ⟨_, ChildCommand.environmentField⟩,
      ⟨_, ChildCommand.directoryField⟩]
  | .callable => [⟨_, CallTarget.targetField⟩]

/-- What the record of the fields of a kind is called. -/
def Kind.title : Kind → String
  | .subprocess => ChildCommand.title
  | .callable => CallTarget.recordTitle

/-- The kind of an entry point. -/
def kind : EntryPoint → Kind
  | .child _ => .subprocess
  | .call _ => .callable

/-- What is wrong with the fields of a kind, in their order. -/
def defects (kind : Kind) (t : Table Value) : List Defect :=
  (fields kind).flatMap fun f => f.2.defects t

/-- The entry point is what the fields of the kind come to. -/
inductive Configures (current : Option Path) (t : Table Value) : Kind → EntryPoint → Prop where
  | child {c : ChildCommand} (h : ChildCommand.Configured current t c) :
      Configures current t .subprocess (.child c)
  | call {reference : String} (h : CallTarget.targetField.Comes t reference) :
      Configures current t .callable (.call (.reference reference))

variable {kind : Kind} {current : Option Path} {t : Table Value}

theorem explains_fields (kind : Kind) : ∀ f ∈ fields kind, f.2.Explains := by
  cases kind with
  | subprocess =>
      have timeout : ChildCommand.timeoutField.Explains := fun v =>
        (explained_optional explained_positiveNumber v).map _
      have directory : ChildCommand.directoryField.Explains := explained_optional explained_path
      simp only [fields, List.forall_mem_cons]
      exact ⟨explained_sequence explained_text, timeout, explained_flag,
        explained_table explained_text, directory, fun f hf => absurd hf List.not_mem_nil⟩
  | callable =>
      simp only [fields, List.forall_mem_cons]
      exact ⟨explained_text, fun f hf => absurd hf List.not_mem_nil⟩

/-- Something is wrong exactly if a field is broken. -/
theorem defects_ne_nil_iff : defects kind t ≠ [] ↔ ∃ f ∈ fields kind, f.2.Broken t := by
  simp only [ne_eq, defects, List.flatMap_eq_nil_iff, not_forall, exists_prop]
  refine exists_congr fun f => and_congr_right fun hf => ?_
  rw [FieldForm.Broken, ← FieldForm.defects_eq_nil_iff (explains_fields kind f hf)]

/-- A field is told from the others by its name. -/
theorem nodup_fieldNames (kind : Kind) : ((fields kind).map fun f => f.2.name).Nodup := by
  cases kind <;> simp [fields, ChildCommand.commandField, ChildCommand.timeoutField,
    ChildCommand.captureField, ChildCommand.environmentField, ChildCommand.directoryField]

/-- Every broken field is reported under its name, and no other. -/
theorem reports_defects_iff {f : Σ α : Type, FieldForm α} (hf : f ∈ fields kind) :
    FieldForm.Reports (defects kind t) f.2.name ↔ f.2.Broken t := by
  have each (g : Σ α : Type, FieldForm α) (hg : g ∈ fields kind) :
      FieldForm.Reports (g.2.defects t) f.2.name ↔ g.2.name = f.2.name ∧ g.2.Broken t :=
    FieldForm.reports_defects_iff (explains_fields kind g hg)
  constructor
  · rintro ⟨d, hd, hn⟩
    obtain ⟨g, hg, hd⟩ := List.mem_flatMap.mp hd
    obtain ⟨same, broken⟩ := (each g hg).mp ⟨d, hd, hn⟩
    obtain rfl := List.inj_on_of_nodup_map (nodup_fieldNames kind) hg hf same
    exact broken
  · intro broken
    obtain ⟨d, hd, hn⟩ := (each f hf).mpr ⟨rfl, broken⟩
    exact ⟨d, List.mem_flatMap.mpr ⟨f, hf, hd⟩, hn⟩

/-- The fields of a kind, checked as an entry point. -/
def check (kind : Kind) (current : Option Path) (t : Table Value) : Checked EntryPoint :=
  match kind with
  | .subprocess => (ChildCommand.check current (Settings.entriesOf t)).map .child
  | .callable => (CallTarget.check (Settings.entriesOf t)).map .call

theorem ofFields_eq (kind : Kind) (current : Option Path) (t : Table Value) :
    ofFields kind current (Settings.entriesOf t) = (check kind current t).toExcept kind.title := by
  cases kind with
  | subprocess =>
      rw [ofFields, check]
      cases ChildCommand.check current (Settings.entriesOf t) <;> rfl
  | callable =>
      rw [ofFields, check]
      cases CallTarget.check (Settings.entriesOf t) <;> rfl

theorem check_eq_valid_iff {e : EntryPoint} :
    check kind current t = .valid e ↔ Configures current t kind e := by
  cases kind with
  | subprocess =>
      simp only [check, Checked.map_eq_valid_iff, ChildCommand.check_eq_valid_iff]
      constructor
      · rintro ⟨c, h, rfl⟩
        exact .child h
      · rintro ⟨h⟩
        exact ⟨_, h, rfl⟩
  | callable =>
      simp only [check, CallTarget.check_eq, Checked.map_eq_valid_iff,
        FieldForm.read_eq_valid_iff]
      constructor
      · rintro ⟨_, ⟨reference, h, rfl⟩, rfl⟩
        exact .call h
      · rintro (h | h)
        exact ⟨_, ⟨_, h, rfl⟩, rfl⟩

theorem defects_check (kind : Kind) (current : Option Path) (t : Table Value) :
    (check kind current t).defects = defects kind t := by
  cases kind <;>
    simp [check, ChildCommand.check_eq, CallTarget.check_eq, FieldForm.defects_read, defects,
      fields]

theorem explained_check (kind : Kind) (current : Option Path) (t : Table Value) :
    (check kind current t).Explained := by
  have explains := explains_fields kind
  cases kind with
  | subprocess =>
      simp only [fields, List.forall_mem_cons] at explains
      obtain ⟨command, timeout, capture, environment, directory, -⟩ := explains
      rw [check, ChildCommand.check_eq]
      exact ((((((FieldForm.explained_read command t).map _).seq
        (FieldForm.explained_read timeout t)).seq (FieldForm.explained_read capture t)).seq
        (FieldForm.explained_read environment t)).seq
        ((FieldForm.explained_read directory t).map _)).map _
  | callable =>
      simp only [fields, List.forall_mem_cons] at explains
      exact ((FieldForm.explained_read explains.1 t).map _).map _

/-- The fields are accepted as the entry point that they come to. -/
theorem ofFields_eq_ok_iff {e : EntryPoint} :
    ofFields kind current (Settings.entriesOf t) = .ok e ↔ Configures current t kind e := by
  rw [ofFields_eq, Checked.toExcept_eq_ok_iff, check_eq_valid_iff]

/-- The fields are refused, with all that is wrong, exactly if one of them is broken. -/
theorem ofFields_eq_error_iff {r : Rejection} :
    ofFields kind current (Settings.entriesOf t) = .error r ↔
      r = ⟨kind.title, defects kind t⟩ ∧ ∃ f ∈ fields kind, f.2.Broken t := by
  rw [ofFields_eq, Checked.toExcept_eq_error_iff, (explained_check kind current t).exists_valid_iff,
    defects_check, ← ne_eq, defects_ne_nil_iff]

/-! ### Requests for entry points -/

/-- How a request for the entry point under a key ends. -/
inductive Answers (s : Settings) (key : String) : Except Failure EntryPoint → Prop where
  | unknown (foreign : ∀ kind : Kind, kind.key ≠ key) :
      Answers s key (.error (.settings (.unknownKey registry key ["callable", "subprocess"])))
  | rejected {kind : Kind} (known : kind.key = key)
      (broken : ∃ f ∈ fields kind, f.2.Broken (s.configuration registry key)) :
      Answers s key (.error (.settings (.invalidConfiguration registry key
        ⟨kind.title, defects kind (s.configuration registry key)⟩)))
  | empty {c : ChildCommand} (known : Kind.subprocess.key = key)
      (configured : ChildCommand.Configured s.currentDirectory (s.configuration registry key) c)
      (empty : c.command = []) :
      Answers s key (.error (.tool .emptyCommand))
  | child {c : ChildCommand} (known : Kind.subprocess.key = key)
      (configured : ChildCommand.Configured s.currentDirectory (s.configuration registry key) c)
      (command : c.command ≠ []) :
      Answers s key (.ok (.child c))
  | call {reference : String} (known : Kind.callable.key = key)
      (configured : CallTarget.targetField.Comes (s.configuration registry key) reference) :
      Answers s key (.ok (.call (.reference reference)))

theorem new_of_known (kind : Kind) (s : Settings) : new kind.key s = configure kind s := by
  cases kind <;> rfl

theorem new_of_foreign {key : String} (h : ∀ kind : Kind, kind.key ≠ key) (s : Settings) :
    new key s = .error (.settings (.unknownKey registry key ["callable", "subprocess"])) := by
  have lost : kinds.find? (fun k => k.key = key) = none := by simp [kinds, h]
  rw [new, lost]
  rfl

theorem configure_eq (kind : Kind) (s : Settings) :
    configure kind s =
      match ofFields kind s.currentDirectory
        (Settings.entriesOf (s.configuration registry kind.key)) with
      | .error r => .error (.settings (.invalidConfiguration registry kind.key r))
      | .ok e => e.checked.mapError .tool := by
  dsimp only [configure]
  cases ofFields kind s.currentDirectory
    (Settings.entriesOf (s.configuration registry kind.key)) <;> rfl

theorem checked_of_empty {c : ChildCommand} (h : c.command = []) :
    (EntryPoint.child c).checked = .error .emptyCommand := by
  rw [checked, ChildCommand.checked, h]
  rfl

theorem checked_of_ne {c : ChildCommand} (h : c.command ≠ []) :
    (EntryPoint.child c).checked = .ok (.child c) := by
  rw [checked, ChildCommand.checked, if_neg (mt List.isEmpty_iff.mp h)]
  rfl

/-- A request ends in a way that applies to it. -/
theorem answers_new (s : Settings) (key : String) : Answers s key (new key s) := by
  by_cases h : ∃ kind : Kind, kind.key = key
  · obtain ⟨kind, rfl⟩ := h
    rw [new_of_known, configure_eq]
    cases ho : ofFields kind s.currentDirectory
      (Settings.entriesOf (s.configuration registry kind.key)) with
    | error r =>
        obtain ⟨rfl, broken⟩ := ofFields_eq_error_iff.mp ho
        exact .rejected rfl broken
    | ok e =>
        show Answers s _ (e.checked.mapError .tool)
        cases ofFields_eq_ok_iff.mp ho with
        | @child c configured =>
            by_cases he : c.command = []
            · rw [checked_of_empty he]
              exact .empty rfl configured he
            · rw [checked_of_ne he]
              exact .child rfl configured he
        | call configured => exact .call rfl configured
  · rw [not_exists] at h
    exact new_of_foreign h s ▸ .unknown h

/-- A request ends in no other way. -/
theorem new_eq_iff {s : Settings} {key : String} {r : Except Failure EntryPoint} :
    new key s = r ↔ Answers s key r := by
  constructor
  · rintro rfl
    exact answers_new s key
  · intro h
    cases h with
    | unknown foreign => exact new_of_foreign foreign s
    | @rejected kind known broken =>
        subst known
        rw [new_of_known, configure_eq, ofFields_eq_error_iff.mpr ⟨rfl, broken⟩]
    | empty known configured empty =>
        subst known
        rw [new_of_known, configure_eq, ofFields_eq_ok_iff.mpr (.child configured)]
        show (EntryPoint.child _).checked.mapError _ = _
        rw [checked_of_empty empty]
        rfl
    | child known configured command =>
        subst known
        rw [new_of_known, configure_eq, ofFields_eq_ok_iff.mpr (.child configured)]
        show (EntryPoint.child _).checked.mapError _ = _
        rw [checked_of_ne command]
        rfl
    | call known configured =>
        subst known
        rw [new_of_known, configure_eq, ofFields_eq_ok_iff.mpr (.call configured)]
        rfl

/-! ### What the configuration is taken from -/

theorem configuration_of_level {s : Settings} {level : Table (Table Value)}
    (h : s.components.get? registry = some level) (key : String) :
    s.configuration registry key = (level.get? key).getD [] := by
  rw [Settings.configuration, h, Option.bind_some]

theorem configuration_of_none {s : Settings} (h : s.components.get? registry = none)
    (key : String) : s.configuration registry key = [] := by
  rw [Settings.configuration, h]
  rfl

/-- Nothing but the fields is read. -/
theorem check_congr {t t' : Table Value}
    (h : ∀ f ∈ fields kind, t'.get? f.2.name = t.get? f.2.name) :
    check kind current t' = check kind current t := by
  cases kind with
  | subprocess =>
      simp only [fields, List.forall_mem_cons] at h
      obtain ⟨command, timeout, capture, environment, directory, -⟩ := h
      simp only [check, ChildCommand.check_eq, FieldForm.read_congr command,
        FieldForm.read_congr timeout, FieldForm.read_congr capture,
        FieldForm.read_congr environment, FieldForm.read_congr directory]
  | callable =>
      simp only [fields, List.forall_mem_cons] at h
      simp only [check, CallTarget.check_eq, FieldForm.read_congr h.1]

theorem new_congr {s s' : Settings} {key : String}
    (directory : s'.currentDirectory = s.currentDirectory)
    (same : ∀ kind : Kind, kind.key = key → ∀ f ∈ fields kind,
      (s'.configuration registry key).get? f.2.name =
        (s.configuration registry key).get? f.2.name) :
    new key s' = new key s := by
  by_cases h : ∃ kind : Kind, kind.key = key
  · obtain ⟨kind, rfl⟩ := h
    rw [new_of_known, new_of_known, configure_eq, configure_eq, ofFields_eq, ofFields_eq,
      directory, check_congr (same kind rfl)]
  · rw [not_exists] at h
    rw [new_of_foreign h, new_of_foreign h]

/-! ### Instances of the registered classes -/

/-- The class that is registered under the key of a kind. -/
def Kind.implementation : Kind → Registry.ClassId
  | .subprocess => 2
  | .callable => 3

/-- The entry point as an instance of its class. -/
def instanceOf (e : EntryPoint) : Registry.Instance :=
  { implementation := e.kind.implementation, entryPoint := some e }

/-- The registry of the entry points. -/
def catalog : Registry.Catalog :=
  { name := registry
    entries := [(Kind.subprocess.key, ⟨2, some (.entryPoint .subprocess)⟩),
      (Kind.callable.key, ⟨3, some (.entryPoint .callable)⟩)] }

theorem catalog?_shipped : Registry.shipped.catalog? 1 = some catalog := rfl

theorem get?_catalog (kind : Kind) :
    catalog.entries.get? kind.key = some ⟨kind.implementation, some (.entryPoint kind)⟩ := by
  cases kind <;> rfl

theorem get?_catalog_of_foreign {key : String} (h : ∀ kind : Kind, kind.key ≠ key) :
    catalog.entries.get? key = none := by
  simp [catalog, Table.get?, h]

theorem Configures.kind_eq {e : EntryPoint} (h : Configures current t kind e) : e.kind = kind := by
  cases h <;> rfl

/-- What is checked stays the same. -/
theorem eq_of_checked {e e' : EntryPoint} (h : e.checked = .ok e') : e' = e := by
  cases e with
  | child c =>
      by_cases he : c.command = []
      · rw [checked_of_empty he] at h
        cases h
      · rw [checked_of_ne he] at h
        exact (Except.ok.inj h).symm
  | call target => exact (Except.ok.inj h).symm

/-- The class of an entry point makes it as it is configured. -/
theorem make_shipped (e : EntryPoint) :
    Registry.make Registry.shipped e.kind.implementation [] [] (.entryPoint e) =
      (e.checked.mapError .tool).map instanceOf := by
  have construction : (Registry.shipped.member?
      (Registry.shipped.orderOf e.kind.implementation) Registry.Class.construction).map Prod.snd =
        some .entryPoint := by cases e <;> rfl
  simp only [Registry.make, construction]
  cases hc : e.checked with
  | error f => rfl
  | ok e' =>
      rw [← eq_of_checked hc]
      rfl

theorem sortedKeys_catalog : Registry.State.sortedKeys catalog = ["callable", "subprocess"] := by
  have later : Text.precedes "subprocess" "callable" = false := by decide +kernel
  show List.mergeSort ["subprocess", "callable"] Text.precedes = _
  simp [List.mergeSort, List.MergeSort.Internal.splitInTwo, List.splitAt, List.splitAt.go,
    later]

theorem configuredBy_shipped (kind : Kind) (s : Settings) :
    Registry.configuredBy (some (.entryPoint kind)) s registry kind.key =
      .entryPoint <$> ofFields kind s.currentDirectory
        (Settings.entriesOf (s.configuration registry kind.key)) := rfl

/-- A request to the shipped registry ends as one for the entry point, with an instance of the
class. -/
theorem new_shipped (key : String) (s : Settings) :
    Registry.new Registry.shipped 1 key s [] [] = (new key s).map instanceOf := by
  have makes : Registry.shipped.MakesInstances 1 := by
    unfold Registry.State.MakesInstances
    decide +kernel
  rw [Registry.new_eq makes (by decide +kernel) catalog?_shipped]
  by_cases h : ∃ kind : Kind, kind.key = key
  · obtain ⟨kind, rfl⟩ := h
    have name : catalog.name = registry := rfl
    simp only [get?_catalog, name, configuredBy_shipped]
    rw [new_of_known, configure_eq]
    cases ho : ofFields kind s.currentDirectory
      (Settings.entriesOf (s.configuration registry kind.key)) with
    | error r => rfl
    | ok e =>
        obtain rfl := (ofFields_eq_ok_iff.mp ho).kind_eq
        exact make_shipped e
  · rw [not_exists] at h
    rw [get?_catalog_of_foreign h, new_of_foreign h, sortedKeys_catalog]
    rfl

/-- **Entry points from settings.**  The configuration of a key is what stands under it among the
entry points, and empty if either level is absent.  A request ends as `Answers` says and in no other
way; when it is rejected, the defects name every broken field and no other.  Nothing but the fields
of the kind and the directory of the settings makes a difference.  The entry point is an instance of
the class that is registered under the key.  The time limit of a child process, where there is one,
is a number greater than zero. -/
theorem entry_point_configured (key : String) (s : Settings) :
    let t := s.configuration registry key
    (∀ level, s.components.get? registry = some level → t = (level.get? key).getD []) ∧
    (s.components.get? registry = none → t = []) ∧
    (∀ r, new key s = r ↔ Answers s key r) ∧
    (∀ kind : Kind, ∀ f ∈ fields kind,
      FieldForm.Reports (defects kind t) f.2.name ↔ f.2.Broken t) ∧
    (∀ s' : Settings, s'.currentDirectory = s.currentDirectory →
      (∀ kind : Kind, kind.key = key → ∀ f ∈ fields kind,
        (s'.configuration registry key).get? f.2.name = t.get? f.2.name) →
      new key s' = new key s) ∧
    (∀ kind : Kind, (Registry.shipped.catalog? 1).bind (fun c => c.entries.get? kind.key) =
      some ⟨kind.implementation, some (.entryPoint kind)⟩) ∧
    Registry.new Registry.shipped 1 key s [] [] = (new key s).map instanceOf ∧
    ∀ v limit, ChildCommand.timeoutField.check v = .valid limit ↔
      (v = .null ∧ limit = none) ∨
        (v ≠ .null ∧ ∃ x : Float, number v = .valid x ∧ 0 < x ∧ limit = some (.real x)) :=
  ⟨fun _ h => configuration_of_level h key, fun h => configuration_of_none h key,
    fun _ => new_eq_iff, fun _ _ hf => reports_defects_iff hf, fun _ => new_congr,
    fun kind => by rw [catalog?_shipped, Option.bind_some, get?_catalog], new_shipped key s,
    fun _ _ => ChildCommand.timeoutField_check_iff⟩

/-! ### A configuration with two broken fields -/

/-- Settings with this configuration of a child process, for a directory. -/
def sampleSettings (t : Table Value) : Settings :=
  { components := [(registry, [(Kind.subprocess.key, t)])]
    currentDirectory := some (Path.ofText "/work") }

/-- The command is not a sequence and the directory not a text; the colour is no field. -/
def brokenConfiguration : Table Value :=
  [("cwd", .integer 5), ("colour", .text "red"), ("command", .text "konanc")]

/-- Both fields are reported.  With a sequence and a text in their place there is an entry point,
which runs in the directory that is seen from that of the settings. -/
theorem entry_point_configured_broken :
    new "subprocess" (sampleSettings brokenConfiguration) =
      .error (.settings (.invalidConfiguration "entry_point" "subprocess"
        ⟨"SubprocessEntryPointExtraKwArgs",
          [⟨[.name "command"], .notSequence⟩, ⟨[.name "cwd"], .notPath⟩]⟩)) ∧
    new "subprocess" (sampleSettings [("cwd", .text "sub"), ("command", .list [.text "kc"])]) =
      .ok (.child { command := ["kc"], directory := some (Path.ofText "/work/sub") }) := by
  constructor
  · have broken : ChildCommand.commandField.Broken brokenConfiguration := nofun
    exact ((entry_point_configured "subprocess" (sampleSettings brokenConfiguration)).2.2.1 _).mpr
      (@Answers.rejected _ _ .subprocess rfl ⟨⟨_, ChildCommand.commandField⟩, .head _, broken⟩)
  · refine ((entry_point_configured "subprocess" (sampleSettings _)).2.2.1 _).mpr
      (.child rfl ⟨rfl, rfl, rfl, rfl, some (Path.ofText "sub"), rfl, ?_⟩ (List.cons_ne_nil _ _))
    decide +kernel

end EntryPoint

end CompilerRunner
