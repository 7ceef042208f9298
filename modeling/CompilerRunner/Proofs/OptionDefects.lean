import CompilerRunner.Proofs.CanonicalOptions
import Mathlib

/-!
# Proofs — OptionDefects

All that is wrong with data that is refused as options.

* `TextFault`, `FlagFault`, `ChoiceFault`, `TextsDefects`: what is wrong with a value that the type
  of a field does not accept.  Each check finds this, and nothing else.
* `OptionField`: a field with its type described in this way; `CompileOptions.fields` are the eight.
* `FieldReport`, `KeyReport`: what is reported of a field and of a key.  `Report` puts the two
  together, and validation fails with nothing else (`defects_checkFields_iff`).
* `every_defect_reported`: no defect hides another, and the order of the keys makes no difference
  but to the order in which undeclared keys are reported.
-/

namespace CompilerRunner

/-! ### Entries in any order -/

namespace Entries

/-- No text is the key of two entries. -/
def Distinct (es : Entries) : Prop := es.Pairwise fun e e' => ∀ s, e.1 = .text s → e'.1 ≠ .text s

theorem mem_of_field? {es : Entries} {name : String} {v : Value} (h : es.field? name = some v) :
    (.text name, v) ∈ es := by
  induction es with
  | nil => cases h
  | cons e rest ih =>
      obtain ⟨k, w⟩ := e
      unfold field? at h ih
      by_cases hk : k.sameKey (.text name) = true
      · rw [get?, if_pos hk] at h
        obtain rfl := Option.some.inj h
        rw [Value.sameKey_text.mp hk]
        exact List.mem_cons_self
      · rw [get?, if_neg hk] at h
        exact List.mem_cons_of_mem _ (ih h)

/-- Under distinct keys a value is found wherever it stands. -/
theorem Distinct.field?_eq_some_iff {es : Entries} (distinct : es.Distinct) {name : String}
    {v : Value} : es.field? name = some v ↔ (.text name, v) ∈ es := by
  refine ⟨mem_of_field?, fun h => ?_⟩
  induction es with
  | nil => cases h
  | cons e rest ih =>
      obtain ⟨k, w⟩ := e
      obtain ⟨first, others⟩ := List.pairwise_cons.mp distinct
      unfold field? at ih ⊢
      rcases List.mem_cons.mp h with he | hr
      · obtain ⟨rfl, rfl⟩ := Prod.mk.inj he
        rw [get?, if_pos (Value.sameKey_text.mpr rfl)]
      · have other : ¬ k.sameKey (.text name) = true := fun hk =>
          first _ hr name (Value.sameKey_text.mp hk) rfl
        rw [get?, if_neg other]
        exact ih others hr

theorem Distinct.perm {es es' : Entries} (distinct : es.Distinct) (h : es'.Perm es) :
    es'.Distinct :=
  (h.pairwise_iff fun he s hs' hs => he s hs hs').mpr distinct

/-- The order of the entries makes no difference to what stands under a name. -/
theorem Distinct.field?_perm {es es' : Entries} (distinct : es.Distinct) (h : es'.Perm es)
    (name : String) : es'.field? name = es.field? name := by
  refine Option.ext fun v => ?_
  rw [distinct.field?_eq_some_iff, (distinct.perm h).field?_eq_some_iff, h.mem_iff]

end Entries

/-! ### What is wrong with a value -/

namespace Checked

/-- A check refuses what is described as wrong, if it refuses nothing else, wrong values are not
accepted, and their description fits once only. -/
theorem invalid_iff {α : Type} {c : Checked α} {wrong : List Defect → Prop}
    (sound : ∀ ds, c = .invalid ds → wrong ds) (refused : ∀ ds a, wrong ds → c ≠ .valid a)
    (unique : ∀ ds ds', wrong ds → wrong ds' → ds = ds') {ds : List Defect} :
    c = .invalid ds ↔ wrong ds := by
  refine ⟨sound ds, fun h => ?_⟩
  cases c with
  | valid a => exact absurd rfl (refused ds a h)
  | invalid ds' => rw [unique ds ds' h (sound ds' rfl)]

end Checked

namespace Validation

open Text

/-- The one fault of a value is the only defect. -/
def Single (fault : Value → Fault → Prop) (v : Value) (ds : List Defect) : Prop :=
  ∃ f, fault v f ∧ ds = [⟨[], f⟩]

section Single

variable {α : Type} {check : Value → Checked α} {fault : Value → Fault → Prop} {v : Value}

/-- A check that finds one fault at most finds the fault that is described. -/
theorem invalid_iff_single (sound : ∀ ds, check v = .invalid ds → Single fault v ds)
    (refused : ∀ f a, fault v f → check v ≠ .valid a)
    (unique : ∀ f f', fault v f → fault v f' → f = f') {ds : List Defect} :
    check v = .invalid ds ↔ Single fault v ds := by
  refine Checked.invalid_iff sound (fun ds a h => ?_) fun ds ds' h h' => ?_
  · obtain ⟨f, hf, -⟩ := h
    exact refused f a hf
  · obtain ⟨f, hf, rfl⟩ := h
    obtain ⟨f', hf', rfl⟩ := h'
    rw [unique f f' hf hf']

end Single

/-- What is wrong with a value that is taken for no text: bytes that are not UTF-8, or a value of
another kind. -/
inductive TextFault : Value → Fault → Prop where
  | undecodable {bs : List UInt8} (broken : ∀ s, ¬ MeansText (.bytes bs) s) :
      TextFault (.bytes bs) .undecodableText
  | other {v : Value} (noText : ∀ s, v ≠ .text s) (noBytes : ∀ bs, v ≠ .bytes bs) :
      TextFault v .notText

theorem TextFault.not_means {v : Value} {f : Fault} {s : String} (h : TextFault v f) :
    ¬ MeansText v s := by
  intro means
  cases h with
  | undecodable broken => exact broken s means
  | other noText noBytes =>
      cases means with
      | text => exact noText s rfl
      | bytes cs => exact noBytes _ rfl

theorem TextFault.unique {v : Value} {f f' : Fault} (h : TextFault v f) (h' : TextFault v f') :
    f = f' := by
  cases h with
  | undecodable =>
      cases h' with
      | undecodable => rfl
      | other _ noBytes => exact absurd rfl (noBytes _)
  | other _ noBytes =>
      cases h' with
      | undecodable => exact absurd rfl (noBytes _)
      | other => rfl

theorem text_eq_invalid_iff {v : Value} {ds : List Defect} :
    text v = .invalid ds ↔ Single TextFault v ds := by
  refine invalid_iff_single (fun ds h => ?_)
    (fun f s hf hs => hf.not_means (text_eq_valid_iff.mp hs)) fun _ _ => TextFault.unique
  cases v with
  | text s => cases h
  | bytes bs =>
      refine ⟨_, .undecodable fun s hs => ?_, ?_⟩
      · rw [text_eq_valid_iff.mpr hs] at h
        cases h
      · rw [text] at h
        split at h
        · cases h
        · exact (Checked.invalid.inj h).symm
  | _ => exact ⟨_, .other (by simp) (by simp), (Checked.invalid.inj h).symm⟩

/-- The value is written as flags can be: in characters, in bytes, or as a number of 64 bits. -/
inductive FlagLike : Value → Prop where
  | text {s : String} (characters : hasSurrogate s = false) : FlagLike (.text s)
  | bytes (bs : List UInt8) : FlagLike (.bytes bs)
  | integer {n : Int} (word : isWord n = true) : FlagLike (.integer n)
  | float {x : Float} {n : Int} (finite : x.isFinite = true)
      (number : Decimal.integer? x = some n) (word : isWord n = true)
      (least : n ≠ -9223372036854775808) : FlagLike (.float x)

/-- What is wrong with a value that is taken for no truth value. -/
inductive FlagFault : Value → Fault → Prop where
  | surrogate {s : String} (h : hasSurrogate s = true) : FlagFault (.text s) .undecodableText
  | unreadable {v : Value} (like : FlagLike v) (h : ∀ b, ¬ MeansFlag v b) :
      FlagFault v .unreadableFlag
  | other {v : Value} (noText : ∀ s, v ≠ .text s) (unlike : ¬ FlagLike v)
      (h : ∀ b, ¬ MeansFlag v b) : FlagFault v .notFlag

/-- What means a flag as a text consists of characters. -/
theorem MeansFlag.characters {s : String} {b : Bool} (h : MeansFlag (.text s) b) :
    hasSurrogate s = false := by
  cases h with
  | word text word =>
      cases text
      exact word.hasSurrogate

theorem FlagFault.not_means {v : Value} {f : Fault} {b : Bool} (h : FlagFault v f) :
    ¬ MeansFlag v b := by
  cases h with
  | surrogate h =>
      intro means
      rw [means.characters] at h
      cases h
  | unreadable _ h => exact h b
  | other _ _ h => exact h b

theorem FlagFault.unique {v : Value} {f f' : Fault} (h : FlagFault v f) (h' : FlagFault v f') :
    f = f' := by
  cases h with
  | surrogate h =>
      cases h' with
      | surrogate => rfl
      | unreadable like =>
          cases like with
          | text characters => rw [characters] at h; cases h
      | other noText => exact absurd rfl (noText _)
  | unreadable like =>
      cases h' with
      | surrogate h =>
          cases like with
          | text characters => rw [characters] at h; cases h
      | unreadable => rfl
      | other _ unlike => exact absurd like unlike
  | other noText unlike =>
      cases h' with
      | surrogate => exact absurd rfl (noText _)
      | unreadable like => exact absurd like unlike
      | other => rfl

theorem flagOfInteger_eq_invalid {n : Int} {ds : List Defect} (h : flagOfInteger n = .invalid ds) :
    ds = [⟨[], if isWord n = true then .unreadableFlag else .notFlag⟩] := by
  unfold flagOfInteger at h
  split at h
  · cases h
  · split at h
    · cases h
    · split at h
      · next word => rw [if_pos word, ← Checked.invalid.inj h]
      · next word => rw [if_neg word, ← Checked.invalid.inj h]

theorem flagOfWord_eq_invalid {s : String} {ds : List Defect} (h : flagOfWord s = .invalid ds) :
    ds = [⟨[], .unreadableFlag⟩] := by
  unfold flagOfWord at h
  dsimp only at h
  split at h
  · cases h
  · split at h
    · cases h
    · exact (Checked.invalid.inj h).symm

theorem flag_eq_invalid_iff {v : Value} {ds : List Defect} :
    flag v = .invalid ds ↔ Single FlagFault v ds := by
  refine invalid_iff_single (fun ds h => ?_)
    (fun f b hf hb => hf.not_means (flag_eq_valid_iff.mp hb)) fun _ _ => FlagFault.unique
  have nothing (b : Bool) : ¬ MeansFlag v b := fun hb => by
    rw [flag_eq_valid_iff.mpr hb] at h
    cases h
  cases v with
  | bool b => cases h
  | text s =>
      cases hs : hasSurrogate s with
      | true =>
          refine ⟨_, .surrogate hs, ?_⟩
          rw [flag, reading, Validation.characters, hs] at h
          exact (Checked.invalid.inj h).symm
      | false =>
          refine ⟨_, .unreadable (.text hs) nothing, ?_⟩
          rw [flag, reading, Validation.characters, hs] at h
          exact flagOfWord_eq_invalid h
  | bytes bs =>
      refine ⟨_, .unreadable (.bytes bs) nothing, ?_⟩
      rw [flag] at h
      split at h
      · exact flagOfWord_eq_invalid h
      · exact (Checked.invalid.inj h).symm
  | integer n =>
      have found := flagOfInteger_eq_invalid h
      cases hn : isWord n with
      | true => exact ⟨_, .unreadable (.integer hn) nothing, by rw [found, hn, if_pos rfl]⟩
      | false =>
          refine ⟨_, .other (by simp) (fun like => ?_) nothing, by rw [found, hn]; rfl⟩
          cases like with
          | integer word => rw [hn] at word; cases word
  | float x =>
      rw [flag] at h
      split at h
      · next n hn =>
          obtain ⟨finite, number, word, least⟩ := integerOfFloat_eq_valid_iff.mp hn
          refine ⟨_, .unreadable (.float finite number word least) nothing, ?_⟩
          rw [flagOfInteger_eq_invalid h, word, if_pos rfl]
      · next hn =>
          refine ⟨_, .other (by simp) (fun like => ?_) nothing, (Checked.invalid.inj h).symm⟩
          cases like with
          | float finite number word least =>
              rw [integerOfFloat_eq_valid_iff.mpr ⟨finite, number, word, least⟩] at hn
              cases hn
  | _ =>
      exact ⟨_, .other (by simp) (fun like => by cases like) nothing,
        (Checked.invalid.inj h).symm⟩

/-- What is wrong with a value that is taken for no choice, nor for nothing. -/
inductive ChoiceFault {α : Type} (choices : List (String × α)) (spell : α → String) :
    Value → Fault → Prop where
  | surrogate {s : String} (h : hasSurrogate s = true) :
      ChoiceFault choices spell (.text s) .undecodableText
  | other {v : Value} (characters : ∀ s, v = .text s → hasSurrogate s = false)
      (h : ∀ a, ¬ MeansChoice spell v a) :
      ChoiceFault choices spell v (.notOneOf (choices.map Prod.fst))

theorem ChoiceFault.unique {α : Type} {choices : List (String × α)} {spell : α → String}
    {v : Value} {f f' : Fault} (h : ChoiceFault choices spell v f)
    (h' : ChoiceFault choices spell v f') : f = f' := by
  cases h with
  | surrogate h =>
      cases h' with
      | surrogate => rfl
      | other characters => rw [characters _ rfl] at h; cases h
  | other characters =>
      cases h' with
      | surrogate h => rw [characters _ rfl] at h; cases h
      | other => rfl

theorem choice_eq_invalid {α : Type} {choices : List (String × α)} {v : Value} {ds : List Defect}
    (h : choice choices v = .invalid ds) :
    (∃ s, v = .text s ∧ hasSurrogate s = true ∧ ds = [⟨[], .undecodableText⟩]) ∨
      (∀ s, v = .text s → hasSurrogate s = false) ∧
        ds = [⟨[], .notOneOf (choices.map Prod.fst)⟩] := by
  cases v with
  | text s =>
      cases hs : hasSurrogate s with
      | true =>
          rw [choice, reading, Validation.characters, hs] at h
          exact .inl ⟨s, rfl, hs, (Checked.invalid.inj h).symm⟩
      | false =>
          rw [choice, reading, Validation.characters, hs] at h
          refine .inr ⟨fun t ht => Value.text.inj ht ▸ hs, ?_⟩
          simp only [Bool.false_eq_true, if_false] at h
          split at h
          · cases h
          · exact (Checked.invalid.inj h).symm
  | _ => exact .inr ⟨by simp, (Checked.invalid.inj h).symm⟩

theorem explained_choice {α : Type} (choices : List (String × α)) (v : Value) :
    (choice choices v).Explained := by
  intro h
  obtain ⟨-, -, -, hd⟩ | ⟨-, hd⟩ := choice_eq_invalid h
  · cases hd
  · cases hd

theorem optional_choice_eq_invalid_iff {α : Type} {choices : List (String × α)}
    {spell : α → String} (characters : ∀ a, hasSurrogate (spell a) = false)
    (accepts : ∀ {v a}, optional (choice choices) v = .valid a ↔ MeansChoice spell v a)
    {v : Value} {ds : List Defect} :
    optional (choice choices) v = .invalid ds ↔ Single (ChoiceFault choices spell) v ds := by
  refine invalid_iff_single (fun ds h => ?_) (fun f a hf ha => ?_) fun _ _ => ChoiceFault.unique
  · have nothing (a : Option α) : ¬ MeansChoice spell v a := fun ha => by
      rw [accepts.mpr ha] at h
      cases h
    have refused : choice choices v = .invalid ds := by
      unfold optional at h
      split at h
      · cases h
      · cases hc : choice choices v with
        | valid a => rw [hc] at h; cases h
        | invalid ds' =>
            rw [hc] at h
            exact congrArg Checked.invalid (Checked.invalid.inj h)
    obtain ⟨s, rfl, hs, rfl⟩ | ⟨hs, rfl⟩ := choice_eq_invalid refused
    · exact ⟨_, .surrogate hs, rfl⟩
    · exact ⟨_, .other hs nothing, rfl⟩
  · have means := accepts.mp ha
    cases hf with
    | surrogate h =>
        cases a with
        | none => cases means
        | some a =>
            rw [Value.text.inj means, characters a] at h
            cases h
    | other _ h => exact h a means

/-- The faults of the elements that are no texts, each at its position. -/
inductive ElementFaults : Nat → List Value → List Defect → Prop where
  | nil (n : Nat) : ElementFaults n [] []
  | text {n : Nat} {v : Value} {vs : List Value} {s : String} {ds : List Defect}
      (means : MeansText v s) (rest : ElementFaults (n + 1) vs ds) : ElementFaults n (v :: vs) ds
  | fault {n : Nat} {v : Value} {vs : List Value} {f : Fault} {ds : List Defect}
      (bad : TextFault v f) (rest : ElementFaults (n + 1) vs ds) :
      ElementFaults n (v :: vs) (⟨[.index n], f⟩ :: ds)

theorem elementFaults_iff {n : Nat} {vs : List Value} {ds : List Defect} :
    ElementFaults n vs ds ↔ (Checked.each (elements text n vs)).defects = ds := by
  induction vs generalizing n ds with
  | nil =>
      refine ⟨fun h => ?_, fun h => h ▸ .nil n⟩
      cases h
      rfl
  | cons v vs ih =>
      rw [elements, Checked.each, Checked.defects_seq, Checked.defects_map, Checked.defects_within]
      constructor
      · intro h
        cases h with
        | text means rest => rw [text_eq_valid_iff.mpr means, ih.mp rest]; rfl
        | fault bad rest => rw [text_eq_invalid_iff.mpr ⟨_, bad, rfl⟩, ih.mp rest]; rfl
      · rintro rfl
        cases hv : text v with
        | valid s => exact .text (text_eq_valid_iff.mp hv) (ih.mpr rfl)
        | invalid ds =>
            obtain ⟨f, bad, rfl⟩ := text_eq_invalid_iff.mp hv
            exact .fault bad (ih.mpr rfl)

/-- The items of a collection of any kind. -/
inductive Items (v : Value) (vs : List Value) : Prop where
  | list (opened : v.opened = .list vs)
  | tuple (opened : v.opened = .tuple vs)
  | set (opened : v.opened = .set vs)

/-- What is wrong with a value that is taken for no texts: some items of a collection, or that it is
no collection. -/
inductive TextsDefects : Value → List Defect → Prop where
  | items {v : Value} {vs : List Value} {ds : List Defect} (items : Items v vs)
      (faults : ElementFaults 0 vs ds) (some_ : ds ≠ []) : TextsDefects v ds
  | other {v : Value} (h : ∀ vs, ¬ Items v vs) : TextsDefects v [⟨[], .notSequence⟩]

theorem Items.sequence_eq {v : Value} {vs : List Value} (h : Items v vs) :
    sequence text v = .each (elements text 0 vs) := by
  cases h with
  | list opened | tuple opened | set opened => rw [sequence, opened]

theorem sequence_of_not_items {v : Value} (h : ∀ vs, ¬ Items v vs) :
    sequence text v = .fault .notSequence := by
  rw [sequence]
  split
  · next vs opened => exact absurd (.list opened) (h vs)
  · next vs opened => exact absurd (.tuple opened) (h vs)
  · next vs opened => exact absurd (.set opened) (h vs)
  · rfl

theorem sequence_text_eq_invalid_iff {v : Value} {ds : List Defect} :
    sequence text v = .invalid ds ↔ TextsDefects v ds := by
  constructor
  · intro h
    by_cases hv : ∃ vs, Items v vs
    · obtain ⟨vs, items⟩ := hv
      have explained := Checked.explained_each (explained_elements explained_text 0 vs)
      rw [items.sequence_eq] at h
      refine .items items (elementFaults_iff.mpr (by rw [h]; rfl)) ?_
      rintro rfl
      exact explained h
    · rw [not_exists] at hv
      rw [sequence_of_not_items hv] at h
      obtain rfl := Checked.invalid.inj h
      exact .other hv
  · intro h
    cases h with
    | items items faults some_ =>
        have found := elementFaults_iff.mp faults
        rw [items.sequence_eq]
        cases he : Checked.each (elements text 0 _) with
        | valid ts => rw [he] at found; exact absurd found.symm some_
        | invalid ds' => rw [he] at found; exact congrArg _ found
    | other h => exact sequence_of_not_items h

/-! ### Fields and keys -/

/-- A field whose type is described: `means` says what a value is taken for, and `wrong` what is
wrong with a value that is taken for nothing. -/
structure OptionField (α : Type) extends FieldForm α where
  means : Value → α → Prop
  wrong : Value → List Defect → Prop
  check_eq_valid_iff : ∀ {v a}, check v = .valid a ↔ means v a
  check_eq_invalid_iff : ∀ {v ds}, check v = .invalid ds ↔ wrong v ds
  explains : toFieldForm.Explains

/-- What is reported of a field, by what the entries say under its name. -/
inductive FieldReport {α : Type} (es : Entries) (f : OptionField α) : List Defect → Prop where
  | missing (absent : es.field? f.name = none) (required : f.default = none) :
      FieldReport es f [⟨[.name f.name], .missing⟩]
  | omitted {d : α} (absent : es.field? f.name = none) (default : f.default = some d) :
      FieldReport es f []
  | accepted {v : Value} {a : α} (present : es.field? f.name = some v) (means : f.means v a) :
      FieldReport es f []
  | refused {v : Value} {ds : List Defect} (present : es.field? f.name = some v)
      (wrong : f.wrong v ds) :
      FieldReport es f (ds.map fun d => { d with steps := .name f.name :: d.steps })

end Validation

/-- The entries under texts. -/
def Entries.named (es : Entries) : Table Value :=
  es.filterMap fun e =>
    match e.1 with
    | .text s => some (s, e.2)
    | _ => none

theorem Entries.get?_named (es : Entries) (name : String) :
    es.named.get? name = es.field? name := by
  unfold named field?
  induction es with
  | nil => rfl
  | cons e rest ih =>
      obtain ⟨k, v⟩ := e
      by_cases hk : k = .text name
      · subst hk
        simp [get?, Value.sameKey_text.mpr rfl, Table.get?]
      · rw [get?, if_neg (mt Value.sameKey_text.mp hk), ← ih]
        cases k with
        | text s =>
            have hs : s ≠ name := fun he => hk (congrArg Value.text he)
            simp [Table.get?, hs]
        | _ => rfl

namespace Validation

section Fields

variable {α : Type} {es : Entries}

/-- A field is read from the entries under texts. -/
theorem read_named (f : FieldForm α) (es : Entries) :
    f.read es.named = match f.default with
      | some d => withDefault es f.name d f.check
      | none => required es f.name f.check := by
  cases hd : f.default with
  | none =>
      simp only [FieldForm.read, hd, required, Settings.field?_entriesOf, Entries.get?_named]
  | some d =>
      simp only [FieldForm.read, hd, withDefault, Settings.field?_entriesOf, Entries.get?_named]

theorem defects_of_present {f : FieldForm α} {v : Value} (h : es.field? f.name = some v) :
    f.defects es.named =
      (f.check v).defects.map fun d => { d with steps := .name f.name :: d.steps } := by
  rw [FieldForm.defects, Entries.get?_named, h]

theorem defects_of_absent {f : FieldForm α} (h : es.field? f.name = none) :
    f.defects es.named = if f.default.isSome then [] else [⟨[.name f.name], .missing⟩] := by
  rw [FieldForm.defects, Entries.get?_named, h]
  cases f.default <;> rfl

theorem fieldReport_iff {f : OptionField α} {ds : List Defect} :
    FieldReport es f ds ↔ f.defects es.named = ds := by
  constructor
  · intro h
    cases h with
    | missing absent required => rw [defects_of_absent absent, required]; rfl
    | omitted absent default => rw [defects_of_absent absent, default]; rfl
    | accepted present means =>
        rw [defects_of_present present, f.check_eq_valid_iff.mpr means]
        rfl
    | refused present wrong =>
        rw [defects_of_present present, f.check_eq_invalid_iff.mpr wrong]
        rfl
  · rintro rfl
    cases hv : es.field? f.name with
    | none =>
        rw [defects_of_absent hv]
        cases hd : f.default with
        | none => exact .missing hv hd
        | some d => exact .omitted hv hd
    | some v =>
        rw [defects_of_present hv]
        cases hc : f.check v with
        | valid a => exact .accepted hv (f.check_eq_valid_iff.mp hc)
        | invalid ds => exact .refused hv (f.check_eq_invalid_iff.mp hc)

end Fields

end Validation

namespace CompileOptions

open Validation

/-- The path of the source, which has to be given. -/
def sourceField : OptionField String where
  name := "source"
  check := text
  means := MeansText
  wrong := Single TextFault
  check_eq_valid_iff := text_eq_valid_iff
  check_eq_invalid_iff := text_eq_invalid_iff
  explains := explained_text

/-- The path of the output, which has to be given. -/
def outputField : OptionField String := { sourceField with name := "output" }

/-- A flag that is off by default. -/
def flagField (name : String) : OptionField Bool where
  name := name
  check := flag
  default := some false
  means := MeansFlag
  wrong := Single FlagFault
  check_eq_valid_iff := flag_eq_valid_iff
  check_eq_invalid_iff := flag_eq_invalid_iff
  explains := explained_flag

/-- The memory model, none by default. -/
def memoryModelField : OptionField (Option MemoryModel) where
  name := "memory_model"
  check := optional (choice MemoryModel.choices)
  default := some none
  means := MeansChoice MemoryModel.text
  wrong := Single (ChoiceFault MemoryModel.choices MemoryModel.text)
  check_eq_valid_iff := optional_memoryModel_eq_valid_iff
  check_eq_invalid_iff := optional_choice_eq_invalid_iff (fun m => by cases m <;> rfl)
    optional_memoryModel_eq_valid_iff
  explains := explained_optional (explained_choice _)

/-- The output kind, none by default. -/
def outputKindField : OptionField (Option OutputKind) where
  name := "output_kind"
  check := optional (choice OutputKind.choices)
  default := some none
  means := MeansChoice OutputKind.text
  wrong := Single (ChoiceFault OutputKind.choices OutputKind.text)
  check_eq_valid_iff := optional_outputKind_eq_valid_iff
  check_eq_invalid_iff := optional_choice_eq_invalid_iff (fun k => by cases k <;> rfl)
    optional_outputKind_eq_valid_iff
  explains := explained_optional (explained_choice _)

/-- The extra arguments, none by default. -/
def extraArgumentsField : OptionField (List String) where
  name := "extra_arguments"
  check := sequence text
  default := some []
  means := MeansTexts
  wrong := TextsDefects
  check_eq_valid_iff := sequence_text_eq_valid_iff
  check_eq_invalid_iff := sequence_text_eq_invalid_iff
  explains := explained_sequence explained_text

/-- The fields, in the order of declaration. -/
def fields : List (Σ α : Type, OptionField α) :=
  [⟨_, sourceField⟩, ⟨_, outputField⟩, ⟨_, memoryModelField⟩, ⟨_, flagField "verbose"⟩,
    ⟨_, flagField "nomain"⟩, ⟨_, outputKindField⟩, ⟨_, flagField "debug"⟩,
    ⟨_, extraArgumentsField⟩]

/-- What is reported of an entry, by its key. -/
inductive KeyReport : Value → Option Defect → Prop where
  | field {name : String} (known : name ∈ fieldNames) : KeyReport (.text name) none
  | foreign {name : String} (unknown : name ∉ fieldNames) :
      KeyReport (.text name) (some ⟨[keyStep (.text name)], .unexpectedField⟩)
  | noText {key : Value} (h : ∀ name, key ≠ .text name) :
      KeyReport key (some ⟨[keyStep key], .keyNotText⟩)

theorem keyReport_iff {key : Value} {d : Option Defect} :
    KeyReport key d ↔ foreignDefect fieldNames key = d := by
  constructor
  · intro h
    cases h with
    | field known => exact if_pos (List.contains_iff_mem.mpr known)
    | foreign unknown => exact if_neg (mt List.contains_iff_mem.mp unknown)
    | noText h =>
        cases key with
        | text name => exact absurd rfl (h name)
        | _ => rfl
  · rintro rfl
    cases key with
    | text name =>
        rw [foreignDefect]
        split
        · next known => exact .field (List.contains_iff_mem.mp known)
        · next unknown => exact .foreign (mt List.contains_iff_mem.mpr unknown)
    | _ => exact .noText (by simp)

/-- Nothing is reported of the name of a field, and of any other key something is. -/
theorem keyReport_none_iff {key : Value} :
    KeyReport key none ↔ ∃ name ∈ fieldNames, key = .text name := by
  constructor
  · intro h
    cases h with
    | field known => exact ⟨_, known, rfl⟩
  · rintro ⟨name, known, rfl⟩
    exact .field known

/-- The defects of the entries: those of the fields, in the order of declaration, and those of the
keys, in the order of the entries. -/
structure Report (es : Entries) (own foreign : List Defect) : Prop where
  fields : ∃ parts, List.Forall₂ (fun f ds => FieldReport es f.2 ds) fields parts ∧
    own = parts.flatten
  keys : ∃ parts, List.Forall₂ (fun e d => KeyReport e.1 d) es parts ∧
    foreign = parts.reduceOption

/-- The defects of the fields alone. -/
def ownDefects (es : Entries) : List Defect := fields.flatMap fun f => f.2.defects es.named

/-- What is put together from one part for each element, if a function gives the parts. -/
theorem exists_forall₂_iff {α β γ : Type*} {R : α → β → Prop} {f : α → β} (g : List β → γ)
    (xs : List α) (c : γ) (h : ∀ a b, R a b ↔ f a = b) :
    (∃ ys, List.Forall₂ R xs ys ∧ c = g ys) ↔ c = g (xs.map f) := by
  have pairs (ys : List β) : List.Forall₂ R xs ys ↔ xs.map f = ys := by
    obtain rfl : R = fun a b => f a = b := funext₂ fun a b => propext (h a b)
    rw [← List.forall₂_map_left_iff, List.forall₂_eq_eq_eq]
  simp only [pairs, exists_eq_left']

/-- There is one report on entries. -/
theorem report_iff {es : Entries} {own foreign : List Defect} :
    Report es own foreign ↔ own = ownDefects es ∧ foreign = foreignDefects fieldNames es := by
  have fields_ : (∃ parts, List.Forall₂ (fun f ds => FieldReport es f.2 ds) fields parts ∧
      own = parts.flatten) ↔ own = ownDefects es := by
    rw [ownDefects, List.flatMap_def]
    exact exists_forall₂_iff List.flatten fields own fun _ _ => fieldReport_iff
  have keys_ : (∃ parts, List.Forall₂ (fun e d => KeyReport e.1 d) es parts ∧
      foreign = parts.reduceOption) ↔ foreign = foreignDefects fieldNames es := by
    have mapped : foreignDefects fieldNames es =
        (es.map fun e => foreignDefect fieldNames e.1).reduceOption := by
      rw [List.reduceOption, List.filterMap_map]
      rfl
    rw [mapped]
    exact exists_forall₂_iff List.reduceOption es foreign fun _ _ => keyReport_iff
  exact ⟨fun h => ⟨fields_.mp h.fields, keys_.mp h.keys⟩,
    fun h => ⟨fields_.mpr h.1, keys_.mpr h.2⟩⟩

/-- The check puts the fields and the complaints about keys side by side. -/
theorem checkFields_eq (es : Entries) :
    checkFields es =
      (((((((((Checked.map CompileOptions.mk (sourceField.read es.named)).seq
        (outputField.read es.named)).seq (memoryModelField.read es.named)).seq
        ((flagField "verbose").read es.named)).seq ((flagField "nomain").read es.named)).seq
        (outputKindField.read es.named)).seq ((flagField "debug").read es.named)).seq
        (extraArgumentsField.read es.named)).map (Function.const Unit)).seq
        (Checked.reject (foreignDefects fieldNames es)) := by
  simp only [read_named]
  rfl

theorem defects_checkFields (es : Entries) :
    (checkFields es).defects = ownDefects es ++ foreignDefects fieldNames es := by
  rw [checkFields_eq]
  simp only [Checked.defects_seq, Checked.defects_map, Checked.defects_reject,
    FieldForm.defects_read, ownDefects, fields, List.flatMap_cons, List.flatMap_nil,
    List.append_assoc, List.append_nil]

theorem explained_checkFields (es : Entries) : (checkFields es).Explained := by
  have field {α : Type} (f : OptionField α) : (f.read es.named).Explained :=
    FieldForm.explained_read f.explains es.named
  have keys (ds : List Defect) : (Checked.reject ds).Explained := by
    cases ds with
    | nil => exact Checked.explained_valid ()
    | cons => exact nofun
  rw [checkFields_eq]
  exact (((((((((((field sourceField).map _).seq (field outputField)).seq
    (field memoryModelField)).seq (field (flagField "verbose"))).seq
    (field (flagField "nomain"))).seq (field outputKindField)).seq
    (field (flagField "debug"))).seq (field extraArgumentsField)).map _).seq (keys _))

/-! ### Data as a whole -/

/-- Nothing is wrong with the entries: the paths are given, each field that is given means
something, and each key is the name of a field. -/
structure Acceptable (es : Entries) : Prop where
  source : (es.field? "source").isSome = true
  output : (es.field? "output").isSome = true
  values : ∀ f ∈ fields, ∀ v, es.field? f.2.name = some v → ∃ a, f.2.means v a
  keys : ∀ e ∈ es, ∃ name ∈ fieldNames, e.1 = .text name

theorem defects_eq_nil_iff {α : Type} {es : Entries} (f : OptionField α) :
    f.defects es.named = [] ↔ (f.default = none → (es.field? f.name).isSome = true) ∧
      ∀ v, es.field? f.name = some v → ∃ a, f.means v a := by
  simp only [FieldForm.defects_eq_nil_iff f.explains, FieldForm.Comes, Entries.get?_named]
  cases es.field? f.name with
  | none => cases f.default <;> simp
  | some v => simp [f.check_eq_valid_iff]

theorem acceptable_iff {es : Entries} : Acceptable es ↔ (checkFields es).defects = [] := by
  rw [defects_checkFields, List.append_eq_nil_iff, foreignDefects_eq_nil_iff, ownDefects,
    List.flatMap_eq_nil_iff]
  constructor
  · rintro ⟨source, output, values, keys⟩
    refine ⟨fun f hf => (defects_eq_nil_iff f.2).mpr ⟨?_, values f hf⟩, keys⟩
    simp only [fields, List.mem_cons, List.not_mem_nil, or_false] at hf
    -- Only the paths have no default.
    obtain rfl | rfl | rfl | rfl | rfl | rfl | rfl | rfl := hf
    · exact fun _ => source
    · exact fun _ => output
    all_goals exact nofun
  · rintro ⟨own, keys⟩
    have field (f : Σ α : Type, OptionField α) (hf : f ∈ fields) :=
      (defects_eq_nil_iff f.2).mp (own f hf)
    exact ⟨(field ⟨_, sourceField⟩ (by simp [fields])).1 rfl,
      (field ⟨_, outputField⟩ (by simp [fields])).1 rfl, fun f hf => (field f hf).2, keys⟩

/-- What validation says of entries. -/
inductive Judged (es : Entries) : Except Rejection CompileOptions → Prop where
  | accepted {o : CompileOptions} (means : MeansFields es o) : Judged es (.ok o)
  | refused {own foreign : List Defect} (wrong : ¬ Acceptable es)
      (characters : ∀ s v, (Value.text s, v) ∈ es → Text.hasSurrogate s = false)
      (report : Report es own foreign) : Judged es (.error ⟨title, own ++ foreign⟩)
  | undecodable {s : String} {v : Value} (key : (.text s, v) ∈ es)
      (surrogate : Text.hasSurrogate s = true) :
      Judged es (.error ⟨title, [⟨[], .undecodableText⟩]⟩)

theorem any_hasUndecodableKey_iff {es : Entries} :
    (es.any fun e => hasUndecodableKey e) = true ↔
      ∃ s v, (Value.text s, v) ∈ es ∧ Text.hasSurrogate s = true := by
  rw [List.any_eq_true]
  constructor
  · rintro ⟨⟨key, v⟩, he, h⟩
    cases key with
    | text s => exact ⟨s, v, he, h⟩
    | _ => cases h
  · rintro ⟨s, v, he, h⟩
    exact ⟨_, he, h⟩

/-- Validation says of a mapping what applies to it. -/
theorem judged_ofValue {d : Value} {es : Entries} (opened : d.opened = .mapping es) :
    Judged es (ofValue d) := by
  rw [ofValue, record, opened]
  show Judged es ((check es).toExcept title)
  rw [check]
  by_cases hk : (es.any fun e => hasUndecodableKey e) = true
  · obtain ⟨s, v, key, surrogate⟩ := any_hasUndecodableKey_iff.mp hk
    rw [if_pos hk]
    exact .undecodable key surrogate
  · rw [if_neg hk]
    cases hc : checkFields es with
    | valid o => exact .accepted (checkFields_eq_valid_iff.mp hc)
    | invalid ds =>
        have found : ds = ownDefects es ++ foreignDefects fieldNames es := by
          rw [← defects_checkFields, hc, Checked.defects_invalid]
        have wrong : ¬ Acceptable es := by
          rw [acceptable_iff, ← (explained_checkFields es).exists_valid_iff, hc]
          rintro ⟨o, ho⟩
          cases ho
        have characters (s : String) (v : Value) (h : (Value.text s, v) ∈ es) :
            Text.hasSurrogate s = false :=
          Bool.eq_false_iff.mpr fun hs => hk (any_hasUndecodableKey_iff.mpr ⟨s, v, h, hs⟩)
        rw [found]
        exact .refused wrong characters (report_iff.mpr ⟨rfl, rfl⟩)

/-- Entries that mean options are acceptable, and there are no others. -/
theorem acceptable_iff_exists {es : Entries} : Acceptable es ↔ ∃ o, MeansFields es o := by
  rw [acceptable_iff, ← (explained_checkFields es).exists_valid_iff]
  exact exists_congr fun o => checkFields_eq_valid_iff

theorem MeansFields.characters {es : Entries} {o : CompileOptions} (h : MeansFields es o)
    {s : String} {v : Value} (mem : (Value.text s, v) ∈ es) : Text.hasSurrogate s = false := by
  have plain := hasUndecodableKey_of_known h.known
  rw [List.any_eq_false] at plain
  exact Bool.eq_false_iff.mpr (plain _ mem)

/-- Validation says nothing else. -/
theorem ofValue_eq_iff {d : Value} {es : Entries} (opened : d.opened = .mapping es)
    {r : Except Rejection CompileOptions} : ofValue d = r ↔ Judged es r := by
  refine ⟨fun h => h ▸ judged_ofValue opened, fun h => ?_⟩
  have said := judged_ofValue opened
  cases h with
  | accepted means => exact ofValue_eq_ok_iff.mpr ⟨es, opened, means⟩
  | refused wrong characters report =>
      obtain ⟨rfl, rfl⟩ := report_iff.mp report
      generalize ofValue d = r at said
      cases said with
      | accepted means => exact absurd (acceptable_iff_exists.mpr ⟨_, means⟩) wrong
      | refused _ _ report =>
          obtain ⟨rfl, rfl⟩ := report_iff.mp report
          rfl
      | undecodable key surrogate =>
          rw [characters _ _ key] at surrogate
          cases surrogate
  | undecodable key surrogate =>
      generalize ofValue d = r at said
      cases said with
      | accepted means =>
          rw [means.characters key] at surrogate
          cases surrogate
      | refused _ characters =>
          rw [characters _ _ key] at surrogate
          cases surrogate
      | undecodable => rfl

/-! ### Other orders of the keys -/

section Order

variable {es es' : Entries}

theorem defects_perm (distinct : es.Distinct) (h : es'.Perm es) {α : Type}
    (f : OptionField α) : f.defects es'.named = f.defects es.named := by
  simp only [FieldForm.defects, Entries.get?_named, distinct.field?_perm h]

/-- What is meant depends on what stands under the names, and on there being no other keys. -/
theorem MeansFields.of_same (same : ∀ name, es'.field? name = es.field? name)
    (mem : ∀ e ∈ es', e ∈ es) {o : CompileOptions} (h : MeansFields es o) : MeansFields es' o where
  known e he := h.known e (mem e he)
  source := by simpa only [Gives, same] using h.source
  output := by simpa only [Gives, same] using h.output
  memoryModel := by simpa only [GivesOrLeaves, Gives, same] using h.memoryModel
  verbose := by simpa only [GivesOrLeaves, Gives, same] using h.verbose
  nomain := by simpa only [GivesOrLeaves, Gives, same] using h.nomain
  outputKind := by simpa only [GivesOrLeaves, Gives, same] using h.outputKind
  debug := by simpa only [GivesOrLeaves, Gives, same] using h.debug
  extraArguments := by simpa only [GivesOrLeaves, Gives, same] using h.extraArguments

theorem meansFields_perm (distinct : es.Distinct) (h : es'.Perm es) {o : CompileOptions} :
    MeansFields es' o ↔ MeansFields es o :=
  ⟨.of_same (fun name => (distinct.field?_perm h name).symm) fun _ => h.mem_iff.mpr,
    .of_same (distinct.field?_perm h) fun _ => h.mem_iff.mp⟩

theorem report_perm (distinct : es.Distinct) (h : es'.Perm es)
    {own own' foreign foreign' : List Defect}
    (report : Report es own foreign) (report' : Report es' own' foreign') :
    own' = own ∧ foreign'.Perm foreign := by
  obtain ⟨rfl, rfl⟩ := report_iff.mp report
  obtain ⟨rfl, rfl⟩ := report_iff.mp report'
  refine ⟨?_, ?_⟩
  · simp only [ownDefects, defects_perm distinct h]
  · exact h.filterMap _

end Order

/-- **Every defect is reported.**  Validation of a mapping ends as `Judged` says and in no other
way: with the options that it means; or with all defects of the fields, in the order of declaration,
and then one for each key that is not the name of a field, in the order of the entries; or, where a
key is a text that is not made of characters, with that alone.  Options are what an acceptable
mapping means.  In another order the keys give the same options, the same defects of the fields, and
the same complaints about keys.  A target reports what validation of its mapping reports. -/
theorem every_defect_reported (d : Value) (es : Entries) (opened : d.opened = .mapping es) :
    (∀ r, ofValue d = r ↔ Judged es r) ∧
    ((∃ o, ofValue d = .ok o) ↔ Acceptable es) ∧
    (∀ key, KeyReport key none ↔ ∃ name ∈ fieldNames, key = .text name) ∧
    (∀ d' es', d'.opened = .mapping es' → es'.Perm es → es.Distinct →
      (∀ o, ofValue d' = .ok o ↔ ofValue d = .ok o) ∧
      ∀ own foreign own' foreign', Report es own foreign → Report es' own' foreign' →
        own' = own ∧ foreign'.Perm foreign) ∧
    ∀ (s : Settings) name m r, s.targets.get? name = some m →
      Value.mapping (Settings.entriesOf m) = d → ofValue d = .error r →
      s.target name = .error (.options (.invalidTarget name r)) ∧
        CommandLine.label (.options (.invalidTarget name r)) = "InvalidOptionsError" := by
  refine ⟨fun _ => ofValue_eq_iff opened, ?_, fun _ => keyReport_none_iff,
    fun d' es' opened' perm distinct => ⟨fun o => ?_, ?_⟩,
    fun s name m r hm hd refused => ⟨?_, rfl⟩⟩
  · simp only [acceptable_iff_exists, ofValue_eq_ok_iff, Means, opened, Value.mapping.injEq,
      exists_eq_left']
  · simp only [ofValue_eq_ok_iff, Means, opened, opened', Value.mapping.injEq, exists_eq_left',
      meansFields_perm distinct perm]
  · exact fun _ _ _ _ => report_perm distinct perm
  · rw [Settings.target, hm]
    show (ofValue (.mapping (Settings.entriesOf m))).mapError _ = _
    rw [hd, refused]
    rfl

/-- A mapping with many defects: a path is missing, a word is no flag, two of three arguments are no
texts, one key is unknown, and two are no texts: a number, and the name of the path in bytes. -/
def brokenEntries : Entries :=
  [(.text "colour", .null), (.text "verbose", .text "maybe"), (.integer 7, .null),
    (.text "extra_arguments", .list [.integer 5, .text "x", .bytes [0xFF]]),
    (.bytes "source".toUTF8.toList, .text "a"), (.text "output", .text "b")]

/-- All of them are reported, also if the keys stand in the opposite order. -/
theorem every_defect_reported_brokenEntries :
    let own : List Defect := [⟨[.name "source"], .missing⟩, ⟨[.name "verbose"], .unreadableFlag⟩,
      ⟨[.name "extra_arguments", .index 0], .notText⟩,
      ⟨[.name "extra_arguments", .index 2], .undecodableText⟩]
    let foreign : List Defect := [⟨[.name "colour"], .unexpectedField⟩, ⟨[.index 7], .keyNotText⟩,
      ⟨[.name "b'source'"], .keyNotText⟩]
    ofValue (.mapping brokenEntries) = .error ⟨"CompileOptions", own ++ foreign⟩ ∧
    ∃ foreign', foreign'.Perm foreign ∧
      ofValue (.mapping brokenEntries.reverse) = .error ⟨"CompileOptions", own ++ foreign'⟩ := by
  intro own foreign
  have report : Report brokenEntries own foreign :=
    report_iff.mpr ⟨by decide +kernel, by decide +kernel⟩
  have distinct : brokenEntries.Distinct := by simp [Entries.Distinct, brokenEntries]
  have characters : ∀ s v, (Value.text s, v) ∈ brokenEntries → Text.hasSurrogate s = false := by
    intro s v h
    simp only [brokenEntries, List.mem_cons, Prod.mk.injEq, Value.text.injEq, reduceCtorEq,
      false_and, List.not_mem_nil, or_false, false_or] at h
    obtain ⟨rfl, -⟩ | ⟨rfl, -⟩ | ⟨rfl, -⟩ | ⟨rfl, -⟩ := h <;> decide
  have wrong : ¬ Acceptable brokenEntries := fun h => absurd h.source (by decide +kernel)
  obtain ⟨ends, -, -, reorder, -⟩ := every_defect_reported (.mapping brokenEntries) _ rfl
  obtain ⟨same, reports⟩ := reorder (.mapping brokenEntries.reverse) _ rfl
    (List.reverse_perm brokenEntries) distinct
  obtain ⟨endsReversed, -⟩ := every_defect_reported (.mapping brokenEntries.reverse) _ rfl
  have refused := (ends _).mpr (.refused wrong characters report)
  refine ⟨refused, ?_⟩
  have judged := (endsReversed _).mp rfl
  generalize hr : ofValue (.mapping brokenEntries.reverse) = r at judged
  cases judged with
  | @accepted o =>
      rw [(same o).mp hr] at refused
      cases refused
  | refused _ _ report' =>
      obtain ⟨rfl, perm⟩ := reports _ _ _ _ report report'
      exact ⟨_, perm, rfl⟩
  | undecodable key surrogate =>
      rw [characters _ _ (List.mem_reverse.mp key)] at surrogate
      cases surrogate

/-- Not every defect is reported with every other: a key that is not made of characters hides all of
them. -/
theorem not_every_key_reported :
    ofValue (.mapping [(.text (Text.ofCodes [0xD800]), .null), (.text "source", .integer 3)]) =
      .error ⟨"CompileOptions", [⟨[], .undecodableText⟩]⟩ :=
  error_of_map (by decide +kernel)

end CompileOptions

end CompilerRunner
