import CompilerRunner.Validation.Defect

/-!
# Validation — Checked

The outcome of a check: a value, or everything that is wrong.  Checks are put together side by side,
not one after the other, so that no defect hides another: the defects of a combination are those of
its parts, in order (`defects_seq`), and the combination has a value exactly when each part has one
(`seq_eq_valid_iff`).
-/

namespace CompilerRunner

/-- A value, or the defects that stand in its way. -/
inductive Checked (α : Type) where
  | valid (value : α)
  | invalid (defects : List Defect)

namespace Checked

variable {α β : Type}

/-- The defects of an outcome. -/
def defects : Checked α → List Defect
  | .valid _ => []
  | .invalid ds => ds

/-- One fault, at the place that is checked. -/
def fault (f : Fault) : Checked α := .invalid [⟨[], f⟩]

/-- The same outcome with another value. -/
def map (f : α → β) : Checked α → Checked β
  | .valid a => .valid (f a)
  | .invalid ds => .invalid ds

/-- Both outcomes: their defects together, or the value of the one applied to that of the other. -/
def seq (f : Checked (α → β)) (x : Checked α) : Checked β :=
  match f, x with
  | .valid f, .valid a => .valid (f a)
  | f, x => .invalid (f.defects ++ x.defects)

instance : Applicative Checked where
  pure := .valid
  map := map
  seq f x := seq f (x ())

/-- The outcome seen from one step further out. -/
def within (s : Step) : Checked α → Checked α
  | .valid a => .valid a
  | .invalid ds => .invalid (ds.map fun d => { d with steps := s :: d.steps })

/-- The outcomes of several checks as one. -/
def each : List (Checked α) → Checked (List α)
  | [] => .valid []
  | c :: cs => seq (map List.cons c) (each cs)

/-- Nothing but defects: a check that contributes no value. -/
def reject : List Defect → Checked Unit
  | [] => .valid ()
  | d :: ds => .invalid (d :: ds)

/-- The value of an outcome that has one. -/
def value? : Checked α → Option α
  | .valid a => some a
  | .invalid _ => none

/-- The value, or the defects under the title of the record. -/
def toExcept (title : String) : Checked α → Except Rejection α
  | .valid a => .ok a
  | .invalid ds => .error ⟨title, ds⟩

@[simp] theorem defects_valid (a : α) : (valid a).defects = [] := rfl

@[simp] theorem defects_invalid (ds : List Defect) : (invalid ds : Checked α).defects = ds := rfl

@[simp] theorem defects_map (f : α → β) (c : Checked α) : (c.map f).defects = c.defects := by
  cases c <;> rfl

@[simp] theorem defects_seq (f : Checked (α → β)) (x : Checked α) :
    (seq f x).defects = f.defects ++ x.defects := by
  cases f <;> cases x <;> rfl

@[simp] theorem defects_within (s : Step) (c : Checked α) :
    (c.within s).defects = c.defects.map fun d => { d with steps := s :: d.steps } := by
  cases c <;> rfl

@[simp] theorem defects_reject (ds : List Defect) : (reject ds).defects = ds := by
  cases ds <;> rfl

theorem seq_eq_valid_iff {f : Checked (α → β)} {x : Checked α} {b : β} :
    seq f x = .valid b ↔ ∃ g a, f = .valid g ∧ x = .valid a ∧ g a = b := by
  cases f <;> cases x <;> simp [seq]

theorem value?_eq_some_iff {c : Checked α} {a : α} : c.value? = some a ↔ c = .valid a := by
  cases c <;> simp [value?]

theorem map_eq_valid_iff {f : α → β} {c : Checked α} {b : β} :
    c.map f = .valid b ↔ ∃ a, c = .valid a ∧ f a = b := by
  cases c <;> simp [map]

theorem within_eq_valid_iff {s : Step} {c : Checked α} {a : α} :
    c.within s = .valid a ↔ c = .valid a := by
  cases c <;> simp [within]

theorem each_eq_valid_iff {cs : List (Checked α)} {as : List α} :
    each cs = .valid as ↔ cs = as.map .valid := by
  induction cs generalizing as with
  | nil => cases as <;> simp [each]
  | cons c rest ih =>
    rw [each, seq_eq_valid_iff]
    constructor
    · rintro ⟨g, r, hg, hr, rfl⟩
      obtain ⟨a, rfl, rfl⟩ := map_eq_valid_iff.mp hg
      rw [ih.mp hr]
      rfl
    · intro h
      cases as with
      | nil => cases h
      | cons a as =>
        obtain ⟨rfl, hr⟩ := List.cons.inj h
        exact ⟨List.cons a, as, rfl, ih.mpr hr, rfl⟩

end Checked

end CompilerRunner
