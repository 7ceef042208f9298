import CompilerRunner.Options.Session
import CompilerRunner.Proofs.ByteDecoding
import CompilerRunner.Proofs.EntryPointConfiguration
import CompilerRunner.Proofs.Grammar
import CompilerRunner.Proofs.TargetSpelling
import Mathlib

/-!
# Proofs — CanonicalOptions

Data that is accepted as options, and the one form that all of it comes to.

* `MeansText`, `MeansFlag`, `MeansChoice`, `MeansTexts`: what the value of a field is taken for.
  Each check accepts these values and no others, and as this (`text_eq_valid_iff`,
  `flag_eq_valid_iff`, `optional_choice_eq_valid_iff`, `sequence_text_eq_valid_iff`).
* `Means`: what data is taken for as a whole, which is what its validation says
  (`ofValue_eq_ok_iff`).
* `means_canonical`: the data form of options means them.
* `canonical_of_accepted`: so accepted data can be replaced by the data form of its options, which
  is the same for all data that means them, and for no other.
-/

namespace CompilerRunner

namespace Validation

open Text

/-! ### Texts -/

/-- The value is taken for the text: it is the text, or the text in UTF-8. -/
inductive MeansText : Value → String → Prop where
  | text (s : String) : MeansText (.text s) s
  | bytes (cs : List Char) :
      MeansText (.bytes (cs.flatMap String.utf8EncodeChar)) (ofChars cs)

theorem text_eq_valid_iff {v : Value} {s : String} : text v = .valid s ↔ MeansText v s := by
  constructor
  · intro h
    cases v with
    | text t =>
        obtain rfl := Checked.valid.inj h
        exact .text t
    | bytes bs =>
        rw [text] at h
        split at h
        · next t ht =>
            obtain rfl := Checked.valid.inj h
            obtain ⟨cs, rfl, rfl⟩ := Utf8.decode?_eq_some_iff.mp ht
            exact .bytes cs
        · cases h
    | _ => cases h
  · intro h
    cases h with
    | text => rfl
    | bytes cs => rw [text, Utf8.decode?_eq_some_iff.mpr ⟨cs, rfl, rfl⟩]

/-! ### Flags -/

/-- The text is a word for the truth value, in any case. -/
def IsFlagWord (s : String) (b : Bool) : Prop :=
  String.ofList (s.toList.map Char.toLower) ∈ if b then flagWords.1 else flagWords.2

/-- The value is taken for the truth value: it is the value, a word for it, or 1 or 0. -/
inductive MeansFlag : Value → Bool → Prop where
  | bool (b : Bool) : MeansFlag (.bool b) b
  | word {v : Value} {s : String} {b : Bool} (text : MeansText v s) (word : IsFlagWord s b) :
      MeansFlag v b
  | integer (b : Bool) : MeansFlag (.integer (if b then 1 else 0)) b
  | float {x : Float} {b : Bool} (finite : x.isFinite = true)
      (number : Decimal.integer? x = some (if b then 1 else 0)) : MeansFlag (.float x) b

theorem flagOfWord_eq_valid_iff {s : String} {b : Bool} :
    flagOfWord s = .valid b ↔ IsFlagWord s b := by
  -- No word stands for both, so the order in which the lists are tried does not show.
  have apart : ∀ w ∈ flagWords.2, w ∉ flagWords.1 := by decide
  rw [flagOfWord, IsFlagWord]
  generalize String.ofList (s.toList.map Char.toLower) = w
  simp only [List.contains_iff_mem]
  split
  · next yes =>
      cases b with
      | true => simpa using yes
      | false => simpa using fun no => apart w no yes
  · next yes =>
      split
      · next no => cases b <;> simp [yes, no]
      · next no => cases b <;> simp [yes, no, Checked.fault]

/-- The words are characters, and so is what is one of them in another case. -/
theorem IsFlagWord.hasSurrogate {s : String} {b : Bool} (h : IsFlagWord s b) :
    hasSurrogate s = false := by
  have plain : ∀ w ∈ flagWords.1 ++ flagWords.2, mark ∉ w.toList := by decide
  have word : String.ofList (s.toList.map Char.toLower) ∈ flagWords.1 ++ flagWords.2 := by
    cases b with
    | true => exact List.mem_append_left _ h
    | false => exact List.mem_append_right _ h
  refine hasSurrogate_of_not_mem fun hm => plain _ word ?_
  -- The mark has no other case.
  have lower : mark.toLower = mark := by decide
  rw [String.toList_ofList, ← lower]
  exact List.mem_map_of_mem hm

theorem reading_flagOfWord_eq_valid_iff {s : String} {b : Bool} :
    reading flagOfWord s = .valid b ↔ IsFlagWord s b := by
  rw [reading, characters]
  constructor
  · intro h
    split at h
    · next t ht =>
        split at ht
        · cases ht
        · obtain rfl := Checked.valid.inj ht
          exact flagOfWord_eq_valid_iff.mp h
    · cases h
  · intro h
    rw [h.hasSurrogate]
    exact flagOfWord_eq_valid_iff.mpr h

theorem flagOfInteger_eq_valid_iff {n : Int} {b : Bool} :
    flagOfInteger n = .valid b ↔ n = if b then 1 else 0 := by
  rw [flagOfInteger]
  split
  · next one => cases b <;> simp [one]
  · next one =>
      split
      · next zero => cases b <;> simp [zero]
      · next zero => cases b <;> split <;> simp [one, zero, Checked.fault]

theorem integerOfFloat_eq_valid_iff {x : Float} {n : Int} :
    integerOfFloat x = .valid n ↔ x.isFinite = true ∧ Decimal.integer? x = some n ∧
      isWord n = true ∧ n ≠ -9223372036854775808 := by
  unfold integerOfFloat
  split
  · next finite =>
      cases Decimal.integer? x with
      | none => simp [Checked.fault]
      | some m =>
          dsimp only
          split
          · next word => grind
          · next word => grind [Checked.fault]
  · next infinite => simp [infinite, Checked.fault]

theorem flag_eq_valid_iff {v : Value} {b : Bool} : flag v = .valid b ↔ MeansFlag v b := by
  constructor
  · intro h
    cases v with
    | bool c =>
        obtain rfl := Checked.valid.inj h
        exact .bool c
    | text s => exact .word (.text s) (reading_flagOfWord_eq_valid_iff.mp h)
    | bytes bs =>
        rw [flag] at h
        split at h
        · next s hs =>
            exact .word (text_eq_valid_iff.mp (by rw [text, hs])) (flagOfWord_eq_valid_iff.mp h)
        · cases h
    | integer n =>
        rw [flagOfInteger_eq_valid_iff.mp h]
        exact .integer b
    | float x =>
        rw [flag] at h
        split at h
        · next n hn =>
            obtain ⟨finite, number, -⟩ := integerOfFloat_eq_valid_iff.mp hn
            exact .float finite (flagOfInteger_eq_valid_iff.mp h ▸ number)
        · cases h
    | _ => cases h
  · intro h
    cases h with
    | bool => rfl
    | word text word =>
        cases text with
        | text s => exact reading_flagOfWord_eq_valid_iff.mpr word
        | bytes cs =>
            rw [flag, Utf8.decode?_eq_some_iff.mpr ⟨cs, rfl, rfl⟩]
            exact flagOfWord_eq_valid_iff.mpr word
    | integer => exact flagOfInteger_eq_valid_iff.mpr rfl
    | float finite number =>
        have whole := integerOfFloat_eq_valid_iff.mpr
          ⟨finite, number, by cases b <;> rfl, by cases b <;> decide⟩
        rw [flag, whole]
        exact flagOfInteger_eq_valid_iff.mpr rfl

/-! ### Choices and sequences -/

/-- The value is taken for the choice: it is its spelling, or nothing. -/
def MeansChoice {α : Type} (spell : α → String) (v : Value) (a : Option α) : Prop :=
  v = (a.map fun a => Value.text (spell a)).getD .null

theorem optional_choice_eq_valid_iff {α : Type} {choices : List (String × α)} {spell : α → String}
    (spelled : ∀ s a, choices.lookup s = some a → s = spell a)
    (lookup : ∀ a, choices.lookup (spell a) = some a)
    (characters : ∀ a, hasSurrogate (spell a) = false) {v : Value} {a : Option α} :
    optional (choice choices) v = .valid a ↔ MeansChoice spell v a := by
  constructor
  · intro h
    -- Null is taken out before the choice is checked.
    by_cases hv : v = .null
    · obtain rfl : none = a := by
        rw [hv] at h
        exact Checked.valid.inj h
      exact hv
    · have checked : (choice choices v).map some = .valid a := by
        cases v <;> first | exact absurd rfl hv | exact h
      obtain ⟨b, hb, rfl⟩ := Checked.map_eq_valid_iff.mp checked
      cases v with
      | text s =>
          rw [choice, reading, Validation.characters] at hb
          split at hb
          · next t ht =>
              split at ht
              · cases ht
              · obtain rfl := Checked.valid.inj ht
                split at hb
                · next c hc =>
                    obtain rfl := Checked.valid.inj hb
                    exact congrArg Value.text (spelled _ _ hc)
                · cases hb
          · cases hb
      | _ => cases hb
  · rintro rfl
    exact optional_choice lookup characters a

theorem optional_memoryModel_eq_valid_iff {v : Value} {m : Option MemoryModel} :
    optional (choice MemoryModel.choices) v = .valid m ↔ MeansChoice MemoryModel.text v m :=
  optional_choice_eq_valid_iff CompileOptions.eq_text_of_lookup_memoryModel
    MemoryModel.lookup_choices (fun m => by cases m <;> rfl)

theorem optional_outputKind_eq_valid_iff {v : Value} {k : Option OutputKind} :
    optional (choice OutputKind.choices) v = .valid k ↔ MeansChoice OutputKind.text v k :=
  optional_choice_eq_valid_iff CompileOptions.eq_text_of_lookup_outputKind
    OutputKind.lookup_choices (fun k => by cases k <;> rfl)

/-- The value is taken for the texts: it is a collection of any kind of what is taken for them. -/
inductive MeansTexts (v : Value) (ts : List String) : Prop where
  | list {vs : List Value} (opened : v.opened = .list vs) (items : List.Forall₂ MeansText vs ts)
  | tuple {vs : List Value} (opened : v.opened = .tuple vs) (items : List.Forall₂ MeansText vs ts)
  | set {vs : List Value} (opened : v.opened = .set vs) (items : List.Forall₂ MeansText vs ts)

theorem each_elements_text_eq_valid_iff {n : Nat} {vs : List Value} {ts : List String} :
    Checked.each (elements text n vs) = .valid ts ↔ List.Forall₂ MeansText vs ts := by
  induction vs generalizing n ts with
  | nil =>
      rw [List.forall₂_nil_left_iff]
      exact ⟨fun h => (Checked.valid.inj h).symm, fun h => h ▸ rfl⟩
  | cons v vs ih =>
      rw [elements, Checked.each, List.forall₂_cons_left_iff]
      simp only [Checked.seq_eq_valid_iff, Checked.map_eq_valid_iff, Checked.within_eq_valid_iff,
        text_eq_valid_iff, ih]
      constructor
      · rintro ⟨_, rest, ⟨t, ht, rfl⟩, hrest, rfl⟩
        exact ⟨t, rest, ht, hrest, rfl⟩
      · rintro ⟨t, rest, ht, hrest, rfl⟩
        exact ⟨_, rest, ⟨t, ht, rfl⟩, hrest, rfl⟩

theorem sequence_text_eq_valid_iff {v : Value} {ts : List String} :
    sequence text v = .valid ts ↔ MeansTexts v ts := by
  constructor
  · intro h
    rw [sequence] at h
    split at h
    · next vs opened => exact .list opened (each_elements_text_eq_valid_iff.mp h)
    · next vs opened => exact .tuple opened (each_elements_text_eq_valid_iff.mp h)
    · next vs opened => exact .set opened (each_elements_text_eq_valid_iff.mp h)
    · cases h
  · intro h
    cases h with
    | list opened items | tuple opened items | set opened items =>
        rw [sequence, opened]
        exact each_elements_text_eq_valid_iff.mpr items

/-! ### Fields -/

/-- The entries give the field: a value that is taken for it stands under its name. -/
def Gives {α : Type} (es : Entries) (name : String) (means : Value → α → Prop) (a : α) : Prop :=
  ∃ v, es.field? name = some v ∧ means v a

/-- The entries give the field, or leave it out and it has its default. -/
def GivesOrLeaves {α : Type} (es : Entries) (name : String) (default : α)
    (means : Value → α → Prop) (a : α) : Prop :=
  (es.field? name = none ∧ default = a) ∨ Gives es name means a

section Fields

variable {α : Type} {es : Entries} {name : String} {check : Value → Checked α}
  {means : Value → α → Prop} {a default : α}

theorem required_eq_valid_iff_gives (h : ∀ {v a}, check v = .valid a ↔ means v a) :
    required es name check = .valid a ↔ Gives es name means a := by
  simp only [required_eq_valid_iff, Gives, h]

theorem withDefault_eq_valid_iff_givesOrLeaves (h : ∀ {v a}, check v = .valid a ↔ means v a) :
    withDefault es name default check = .valid a ↔ GivesOrLeaves es name default means a := by
  simp only [withDefault_eq_valid_iff, GivesOrLeaves, Gives, h]

end Fields

/-- No entry is foreign if each key is the name of a field. -/
theorem foreignDefects_eq_nil_iff {known : List String} {es : Entries} :
    foreignDefects known es = [] ↔ ∀ e ∈ es, ∃ name ∈ known, e.1 = .text name := by
  rw [foreignDefects, List.filterMap_eq_nil_iff]
  refine forall₂_congr fun e _ => ?_
  cases e.1 <;> simp [foreignDefect]

end Validation

namespace CompileOptions

open Validation

/-! ### Data as a whole -/

/-- The entries of a mapping are taken for the options: each stands under the name of a field, and
the fields are given or left to their defaults. -/
structure MeansFields (es : Entries) (o : CompileOptions) : Prop where
  known : ∀ e ∈ es, ∃ name ∈ fieldNames, e.1 = .text name
  source : Gives es "source" MeansText o.source
  output : Gives es "output" MeansText o.output
  memoryModel : GivesOrLeaves es "memory_model" none (MeansChoice MemoryModel.text) o.memoryModel
  verbose : GivesOrLeaves es "verbose" false MeansFlag o.verbose
  nomain : GivesOrLeaves es "nomain" false MeansFlag o.nomain
  outputKind : GivesOrLeaves es "output_kind" none (MeansChoice OutputKind.text) o.outputKind
  debug : GivesOrLeaves es "debug" false MeansFlag o.debug
  extraArguments : GivesOrLeaves es "extra_arguments" [] MeansTexts o.extraArguments

/-- The data is taken for the options. -/
def Means (d : Value) (o : CompileOptions) : Prop :=
  ∃ es, d.opened = .mapping es ∧ MeansFields es o

theorem checkFields_eq_valid_iff {es : Entries} {o : CompileOptions} :
    checkFields es = .valid o ↔ MeansFields es o := by
  -- The parts are put side by side, so each can be turned around on its own.
  have spread : checkFields es = .valid o ↔
      Checked.seq (Checked.map (Function.const Unit) (Checked.seq (Checked.seq (Checked.seq
        (Checked.seq (Checked.seq (Checked.seq (Checked.seq (Checked.map CompileOptions.mk
          (required es "source" text)) (required es "output" text))
          (withDefault es "memory_model" none (optional (choice MemoryModel.choices))))
          (withDefault es "verbose" false flag)) (withDefault es "nomain" false flag))
          (withDefault es "output_kind" none (optional (choice OutputKind.choices))))
          (withDefault es "debug" false flag))
          (withDefault es "extra_arguments" [] (sequence text))))
        (Checked.reject (foreignDefects fieldNames es)) = .valid o := Iff.rfl
  have rejects : ∀ ds u, Checked.reject ds = .valid u ↔ ds = [] := by
    intro ds u
    cases ds <;> simp [Checked.reject]
  rw [spread]
  simp only [Checked.seq_eq_valid_iff, Checked.map_eq_valid_iff, rejects,
    foreignDefects_eq_nil_iff, required_eq_valid_iff_gives text_eq_valid_iff,
    withDefault_eq_valid_iff_givesOrLeaves flag_eq_valid_iff,
    withDefault_eq_valid_iff_givesOrLeaves optional_memoryModel_eq_valid_iff,
    withDefault_eq_valid_iff_givesOrLeaves optional_outputKind_eq_valid_iff,
    withDefault_eq_valid_iff_givesOrLeaves sequence_text_eq_valid_iff]
  constructor
  · rintro ⟨_, _, ⟨_, ⟨_, x, ⟨_, g, ⟨_, k, ⟨_, n, ⟨_, v, ⟨_, m, ⟨_, p, ⟨s, hs, rfl⟩, hp, rfl⟩,
      hm, rfl⟩, hv, rfl⟩, hn, rfl⟩, hk, rfl⟩, hg, rfl⟩, hx, rfl⟩, rfl⟩, known, rfl⟩
    exact ⟨known, hs, hp, hm, hv, hn, hk, hg, hx⟩
  · rintro ⟨known, hs, hp, hm, hv, hn, hk, hg, hx⟩
    exact ⟨_, (), ⟨_, ⟨_, _, ⟨_, _, ⟨_, _, ⟨_, _, ⟨_, _, ⟨_, _, ⟨_, _, ⟨_, hs, rfl⟩, hp, rfl⟩,
      hm, rfl⟩, hv, rfl⟩, hn, rfl⟩, hk, rfl⟩, hg, rfl⟩, hx, rfl⟩, rfl⟩, known, rfl⟩

/-- The name of a field consists of characters. -/
theorem hasUndecodableKey_of_known {es : Entries}
    (h : ∀ e ∈ es, ∃ name ∈ fieldNames, e.1 = .text name) :
    es.any (fun e => hasUndecodableKey e) = false := by
  have plain : ∀ name ∈ fieldNames, Text.hasSurrogate name = false := by decide
  rw [List.any_eq_false]
  intro e he
  obtain ⟨name, hn, key⟩ := h e he
  simpa [hasUndecodableKey, key] using plain name hn

/-- Validation accepts the data that means options, and as these. -/
theorem ofValue_eq_ok_iff {d : Value} {o : CompileOptions} : ofValue d = .ok o ↔ Means d o := by
  rw [ofValue, Checked.toExcept_eq_ok_iff, record, Means]
  split
  · next es opened =>
      simp only [opened, Value.mapping.injEq, exists_eq_left', check]
      constructor
      · intro h
        split at h
        · cases h
        · exact checkFields_eq_valid_iff.mp h
      · intro h
        rw [hasUndecodableKey_of_known h.known]
        exact checkFields_eq_valid_iff.mpr h
  · next other =>
      simp only [Checked.fault, reduceCtorEq, false_iff]
      rintro ⟨es, opened, -⟩
      exact other es opened

/-! ### The data form of options -/

/-- The data form of the options that a value is accepted as. -/
def canonicalOf (d : Value) : Except Rejection Value := (ofValue d).map canonical

theorem canonical_eq_entriesOf (o : CompileOptions) :
    o.canonical = .mapping (Settings.entriesOf o.writtenOut) := rfl

/-- The data form of options means them. -/
theorem means_canonical (o : CompileOptions) : Means o.canonical o := by
  rw [← ofValue_eq_ok_iff, canonical_eq_entriesOf]
  exact Checked.toExcept_eq_ok_iff.mpr (check_of_writes (writes_writtenOut o))

theorem ofValue_canonical (o : CompileOptions) : ofValue o.canonical = .ok o :=
  ofValue_eq_ok_iff.mpr (means_canonical o)

/-- What the data form is read as tells it from that of other options. -/
theorem canonical_inj {o o' : CompileOptions} : o.canonical = o'.canonical ↔ o = o' := by
  constructor
  · intro h
    exact Except.ok.inj ((ofValue_canonical o).symm.trans (h ▸ ofValue_canonical o'))
  · rintro rfl
    rfl

theorem canonicalOf_eq_ok_iff {d : Value} {o : CompileOptions} :
    canonicalOf d = .ok o.canonical ↔ Means d o := by
  rw [← ofValue_eq_ok_iff, canonicalOf]
  cases ofValue d with
  | error r => simp [Except.map]
  | ok o' => simp [Except.map, canonical_inj]

/-- What stands in its data form is left as it is, and nothing else is. -/
theorem canonicalOf_eq_self_iff {d : Value} : canonicalOf d = .ok d ↔ ∃ o, d = canonical o := by
  constructor
  · intro h
    rw [canonicalOf] at h
    cases ho : ofValue d with
    | error r => simp [ho, Except.map] at h
    | ok o =>
        rw [ho] at h
        exact ⟨o, (Except.ok.inj h).symm⟩
  · rintro ⟨o, rfl⟩
    exact canonicalOf_eq_ok_iff.mpr (means_canonical o)

/-- A session goes on in the same way after data that means the same options. -/
theorem session_validate {d d' : Value} {o : CompileOptions} (h : Means d o) (h' : Means d' o)
    (current : Option CompileOptions) (rest : List Command) :
    session current (.validate d :: rest) = session current (.validate d' :: rest) := by
  simp only [session, step, ofValue_eq_ok_iff.mpr h, ofValue_eq_ok_iff.mpr h']

/-- A target with the entries of data that means options is these. -/
theorem target_of_means {s : Settings} {name : String} {m : Table Value} {o : CompileOptions}
    (hm : s.targets.get? name = some m) (h : Means (.mapping (Settings.entriesOf m)) o) :
    s.target name = .ok o := by
  rw [Settings.target, hm]
  show (ofValue (.mapping (Settings.entriesOf m))).mapError _ = _
  rw [ofValue_eq_ok_iff.mpr h]
  rfl

/-- **Accepted data has a canonical form.**  The data form of the options is accepted as the
options, and the arguments that are built are the same, or the error is.  All data that means these
options comes to this one form, which is its own, and no other data does; options are equal exactly
when their forms are.  So the form can take the place of the data, before any steps of a session and
in any target. -/
theorem canonical_of_accepted {d : Value} {o : CompileOptions} (h : ofValue d = .ok o) :
    ofValue o.canonical = .ok o ∧
    (ofValue o.canonical).map build = (ofValue d).map build ∧
    canonicalOf o.canonical = .ok o.canonical ∧
    (∀ d', canonicalOf d' = .ok o.canonical ↔ Means d' o) ∧
    (∀ d' o', ofValue d' = .ok o' → (o = o' ↔ o.canonical = o'.canonical)) ∧
    (∀ current rest, session current (.validate d :: rest) =
      session current (.validate o.canonical :: rest)) ∧
    ∀ (s : Settings) name m, s.targets.get? name = some m →
      Value.mapping (Settings.entriesOf m) = o.canonical → s.target name = .ok o := by
  have accepted := ofValue_canonical o
  have means : Means d o := ofValue_eq_ok_iff.mp h
  refine ⟨accepted, by rw [accepted, h], canonicalOf_eq_self_iff.mpr ⟨o, rfl⟩,
    fun d' => canonicalOf_eq_ok_iff, fun d' o' _ => canonical_inj.symm,
    session_validate means (means_canonical o), ?_⟩
  intro s name m hm written
  exact target_of_means hm (written ▸ means_canonical o)

/-- Options in many spellings: bytes, words in any case, numbers, a tuple, and a default. -/
def laxData : Value :=
  .mapping
    [(.text "output", .bytes [0xC3, 0xA9]), (.text "verbose", .text "TRUE"),
      (.text "nomain", .bytes [0x59, 0x65, 0x73]), (.text "debug", .integer 1),
      (.text "extra_arguments", .tuple [.text "-x", .bytes [0x79]]), (.text "source", .text "a"),
      (.text "memory_model", .text "relaxed")]

/-- The options that it means. -/
def laxOptions : CompileOptions :=
  { source := "a", output := "é", memoryModel := some .relaxed, verbose := true, nomain := true,
    debug := true, extraArguments := ["-x", "y"] }

theorem canonical_of_accepted_lax :
    ofValue laxData = .ok laxOptions ∧ ofValue laxOptions.canonical = .ok laxOptions ∧
    canonicalOf laxData = .ok laxOptions.canonical ∧
    session none [.validate laxData, .build] =
      [.ok (.options laxOptions),
        .ok (.tokens ["a", "-memory-model", "relaxed", "-verbose", "-nomain", "-g", "-x", "y", "-o",
          "é"])] := by
  have accepted : ofValue laxData = .ok laxOptions := ok_of_toOption (by decide +kernel)
  obtain ⟨again, -, -, form, -, steps, -⟩ := canonical_of_accepted accepted
  refine ⟨accepted, again, (form _).mpr (ofValue_eq_ok_iff.mp accepted), ?_⟩
  have built : laxOptions.build = .ok ["a", "-memory-model", "relaxed", "-verbose", "-nomain",
      "-g", "-x", "y", "-o", "é"] := by cbv
  rw [steps none [.build]]
  simp only [session, step, again, built]

end CompileOptions

end CompilerRunner
