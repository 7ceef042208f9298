import CompilerRunner.Proofs.Pipeline
import CompilerRunner.Proofs.SettingsMerge
import Mathlib

/-!
# Proofs — Isolation

What a run of one target takes from the settings, and what it is left alone by.

* `AgreeFor`: two settings have the same target under a name, and choose the same entry point with
  the same configuration in the same directory.
* `AgreeFor.sameFor`: then the target comes to the same with both, whatever else they hold.
* `Edited`: a mapping from texts with something else at the end of a path through it, where any
  mapping from texts may stand.
* `Edited.lastUnder_of_ne`, `Preserves.cons`: what is not on the path stays as it was, and the
  mapping remains a table of tables.
* `isolation`: settings are accepted after an edit of another target, or of the configuration of
  another entry point, as settings with which the target comes to the same.
-/

namespace CompilerRunner

namespace Validation

variable {α : Type} {check : Value → Checked α} {es : Entries} {name : String}

/-! ### Tables -/

/-- The entries make the table: each has a text as its key and a value that the check accepts. -/
def Makes (check : Value → Checked α) (es : Entries) (t : Table α) : Prop :=
  ∃ ps : Table α, es.map (entry check) = ps.map .valid ∧ Table.overlay [] ps = t

theorem table_eq_valid_iff {v : Value} {t : Table α} :
    table check v = .valid t ↔ ∃ es, v.opened = .mapping es ∧ Makes check es t := by
  unfold table
  split
  · next es h =>
      rw [Checked.map_eq_valid_iff]
      simp [Checked.each_eq_valid_iff, Makes, h]
  · next h =>
      have closed (es : Entries) : v.opened ≠ .mapping es := h es
      simp [Checked.fault, closed]

/-- The check accepts the value. -/
def Accepts (check : Value → Checked α) (v : Value) : Prop := ∃ a, check v = .valid a

/-- The entries are those of a table of values that the check accepts. -/
def AllAccepted (check : Value → Checked α) (es : Entries) : Prop :=
  ∀ e ∈ es, (∃ name, nameOf? e.1 = some name) ∧ Accepts check e.2

theorem allAccepted_append {l r : Entries} :
    AllAccepted check (l ++ r) ↔ AllAccepted check l ∧ AllAccepted check r :=
  List.forall_mem_append

theorem allAccepted_cons {e : Value × Value} {r : Entries} :
    AllAccepted check (e :: r) ↔
      ((∃ name, nameOf? e.1 = some name) ∧ Accepts check e.2) ∧ AllAccepted check r :=
  List.forall_mem_cons

theorem exists_map_entry_iff :
    (∃ ps : Table α, es.map (entry check) = ps.map .valid) ↔ AllAccepted check es := by
  induction es with
  | nil => exact ⟨fun _ _ he => absurd he List.not_mem_nil, fun _ => ⟨[], rfl⟩⟩
  | cons e rest ih =>
      rw [allAccepted_cons, ← ih]
      constructor
      · rintro ⟨_ | ⟨⟨name, a⟩, ps⟩, h⟩
        · cases h
        · obtain ⟨he, hrest⟩ := List.cons.inj h
          obtain ⟨hk, ha⟩ := entry_eq_valid_iff.mp he
          exact ⟨⟨⟨name, hk⟩, a, ha⟩, ps, hrest⟩
      · rintro ⟨⟨⟨name, hk⟩, a, ha⟩, ps, hrest⟩
        refine ⟨(name, a) :: ps, ?_⟩
        rw [List.map_cons, List.map_cons, entry_eq_valid_iff.mpr ⟨hk, ha⟩, hrest]

/-- Entries make a table exactly when all of them are accepted. -/
theorem exists_makes_iff : (∃ t, Makes check es t) ↔ AllAccepted check es := by
  rw [← exists_map_entry_iff]
  exact ⟨fun ⟨_, ps, h, _⟩ => ⟨ps, h⟩, fun ⟨ps, h⟩ => ⟨_, ps, h, rfl⟩⟩

theorem accepts_table_iff {v : Value} :
    Accepts (table check) v ↔ ∃ es, v.opened = .mapping es ∧ AllAccepted check es := by
  constructor
  · rintro ⟨t, h⟩
    obtain ⟨es, hv, makes⟩ := table_eq_valid_iff.mp h
    exact ⟨es, hv, exists_makes_iff.mp ⟨t, makes⟩⟩
  · rintro ⟨es, hv, all⟩
    obtain ⟨t, makes⟩ := exists_makes_iff.mpr all
    exact ⟨t, table_eq_valid_iff.mpr ⟨es, hv, makes⟩⟩

/-- The value of the last of the entries whose key is the text. -/
def lastUnder (name : String) : Entries → Option Value
  | [] => none
  | e :: rest => (lastUnder name rest).or (if nameOf? e.1 = some name then some e.2 else none)

theorem lastUnder_append (name : String) (l r : Entries) :
    lastUnder name (l ++ r) = (lastUnder name r).or (lastUnder name l) := by
  induction l with
  | nil => simp [lastUnder]
  | cons e rest ih => rw [List.cons_append, lastUnder, ih, lastUnder, Option.or_assoc]

/-- A table has under a name what the check makes of the last entry under it. -/
theorem Makes.map_get? {t : Table α} (h : Makes check es t) (name : String) :
    (t.get? name).map .valid = (lastUnder name es).map check := by
  obtain ⟨ps, hps, rfl⟩ := h
  rw [Table.get?_overlay, Table.get?_nil, Option.or_none]
  induction es generalizing ps with
  | nil =>
      obtain rfl : ps = [] := by simpa using hps.symm
      rfl
  | cons e rest ih =>
      obtain _ | ⟨⟨k, a⟩, ps⟩ := ps
      · cases hps
      · obtain ⟨he, hrest⟩ := List.cons.inj hps
        obtain ⟨hk, ha⟩ := entry_eq_valid_iff.mp he
        rw [List.reverse_cons, Table.get?_append, lastUnder, Option.map_or, Option.map_or,
          ih ps hrest, hk]
        by_cases hn : k = name <;> simp [Table.get?, hn, ha]

theorem valid_injective : Function.Injective (Checked.valid : α → Checked α) :=
  fun _ _ h => Checked.valid.inj h

/-- Two tables agree under a name if the last entries under it do. -/
theorem Makes.get?_congr {t t' : Table α} {es' : Entries} (h : Makes check es t)
    (h' : Makes check es' t') (hl : lastUnder name es' = lastUnder name es) :
    t'.get? name = t.get? name :=
  Option.map_injective valid_injective (by rw [h'.map_get?, h.map_get?, hl])

/-! ### Edits -/

/-- The entries of a section of settings: those of a mapping, and none where there is no section. -/
def entriesIn? : Option Value → Option Entries
  | none => some []
  | some v =>
    match v.opened with
    | .mapping es => some es
    | _ => none

theorem entriesIn?_some_iff {v : Value} :
    entriesIn? (some v) = some es ↔ v.opened = .mapping es := by
  rw [entriesIn?]
  split
  · next inner h => simp [h]
  · next h =>
      have closed (es : Entries) : v.opened ≠ .mapping es := h es
      simp [closed]

/-- The entries of the last mapping under the name. -/
def entriesUnder (name : String) (es : Entries) : Entries :=
  (entriesIn? (lastUnder name es)).getD []

/-- The entries with something else at the end of a path of names: any mapping from texts may stand
there, where one stood before, or nothing did, or nothing may where one did.  What is not on the
path is as it was. -/
inductive Edited : List String → Entries → Entries → Prop where
  | here {es es' : Entries} (h : ∀ e ∈ es', ∃ name, nameOf? e.1 = some name) : Edited [] es es'
  | inside {name : String} {path : List String} {l r es es' : Entries} {key v v' : Value}
      (hk : nameOf? key = some name) (hv : v.opened = .mapping es) (hv' : v'.opened = .mapping es')
      (h : Edited path es es') : Edited (name :: path) (l ++ (key, v) :: r) (l ++ (key, v') :: r)
  | added {name : String} {path : List String} {l r es' : Entries} {key v' : Value}
      (hk : nameOf? key = some name) (hn : ∀ e ∈ l ++ r, nameOf? e.1 ≠ some name)
      (hv' : v'.opened = .mapping es') (h : Edited path [] es') :
      Edited (name :: path) (l ++ r) (l ++ (key, v') :: r)
  | removed {name : String} {l r : Entries} {key v : Value} (hk : nameOf? key = some name) :
      Edited [name] (l ++ (key, v) :: r) (l ++ r)

theorem lastUnder_eq_none {l : Entries} (h : ∀ e ∈ l, nameOf? e.1 ≠ some name) :
    lastUnder name l = none := by
  induction l with
  | nil => rfl
  | cons e rest ih =>
      rw [lastUnder, ih fun f hf => h f (List.mem_cons_of_mem e hf),
        if_neg (h e List.mem_cons_self), Option.or_none]

/-- An entry in the middle counts under its own name, if no later entry does. -/
theorem lastUnder_middle {key : Value} {k : String} (hk : nameOf? key = some k) (name : String)
    (l r : Entries) (v : Value) :
    lastUnder name (l ++ (key, v) :: r) =
      (lastUnder name r).or ((if k = name then some v else none).or (lastUnder name l)) := by
  rw [lastUnder_append, lastUnder, hk, Option.or_assoc]
  by_cases hn : k = name <;> simp [hn]

/-- **Other names.**  An edit further in under one name changes nothing under another. -/
theorem Edited.lastUnder_of_ne {path : List String} {es' : Entries}
    (h : Edited (name :: path) es es') {other : String} (hn : name ≠ other) :
    lastUnder other es' = lastUnder other es := by
  cases h with
  | inside hk hv hv' h => rw [lastUnder_middle hk, lastUnder_middle hk, if_neg hn, if_neg hn]
  | added hk hn' hv' h =>
      rw [lastUnder_middle hk, if_neg hn, lastUnder_append, Option.none_or]
  | removed hk => rw [lastUnder_middle hk, if_neg hn, lastUnder_append, Option.none_or]

theorem entriesUnder_of_some {v : Value} {inner : Entries} (h : lastUnder name es = some v)
    (hv : v.opened = .mapping inner) : entriesUnder name es = inner := by
  rw [entriesUnder, h, entriesIn?_some_iff.mpr hv]
  rfl

/-- What a table of tables has under two names, one after the other. -/
theorem Makes.map_get?_get? {t : Table (Table α)} (h : Makes (table check) es t)
    (outer inner : String) :
    ((t.get? outer).bind (Table.get? · inner)).map .valid =
      (lastUnder inner (entriesUnder outer es)).map check := by
  have last := h.map_get? outer
  cases hl : lastUnder outer es with
  | none =>
      have absent : t.get? outer = none := by simpa [hl] using last
      rw [absent, entriesUnder, hl]
      rfl
  | some v =>
      obtain ⟨u, hu, hv⟩ : ∃ u, t.get? outer = some u ∧ .valid u = table check v := by
        simpa [hl] using last
      obtain ⟨es', he, makes⟩ := table_eq_valid_iff.mp hv.symm
      rw [hu, entriesUnder_of_some hl he, ← makes.map_get? inner]
      rfl

/-- **The same name.**  What stands under the first name of a longer path is as it was, or it is
edited by the rest of the path. -/
theorem Edited.entriesUnder_eq_or_edited {next : String} {path : List String} {es' : Entries}
    (h : Edited (name :: next :: path) es es') :
    entriesUnder name es' = entriesUnder name es ∨
      Edited (next :: path) (entriesUnder name es) (entriesUnder name es') := by
  cases h with
  | @inside _ _ l r _ _ key v v' hk hv hv' h =>
      -- a later entry under the name decides both before and after the edit
      cases hr : lastUnder name r with
      | some u =>
          left
          rw [entriesUnder, entriesUnder, lastUnder_middle hk, lastUnder_middle hk, hr]
          rfl
      | none =>
          right
          have before : lastUnder name (l ++ (key, v) :: r) = some v := by
            rw [lastUnder_middle hk, hr, if_pos rfl]
            rfl
          have after : lastUnder name (l ++ (key, v') :: r) = some v' := by
            rw [lastUnder_middle hk, hr, if_pos rfl]
            rfl
          rwa [entriesUnder_of_some before hv, entriesUnder_of_some after hv']
  | @added _ _ l r _ key v' hk hn hv' h =>
      right
      have before : lastUnder name (l ++ r) = none := lastUnder_eq_none hn
      have after : lastUnder name (l ++ (key, v') :: r) = some v' := by
        rw [lastUnder_middle hk, if_pos rfl,
          lastUnder_eq_none fun e he => hn e (List.mem_append_right l he)]
        rfl
      rw [entriesUnder_of_some after hv', entriesUnder, before]
      exact h

/-- Edits at the end of the path leave a table of what the check accepts such a table. -/
def Preserves (path : List String) (check : Value → Checked α) : Prop :=
  ∀ es es', Edited path es es' → AllAccepted check es → AllAccepted check es'

theorem preserves_nil : Preserves [] anything := by
  intro es es' h _
  cases h with
  | here h => exact fun e he => ⟨h e he, e.2, rfl⟩

/-- One step further out the tables are those of tables. -/
theorem Preserves.cons {path : List String} (h : Preserves path check) (name : String) :
    Preserves (name :: path) (table check) := by
  intro es es' edited all
  cases edited with
  | inside hk hv hv' inner =>
      rw [allAccepted_append, allAccepted_cons] at all ⊢
      obtain ⟨hl, ⟨-, hold⟩, hr⟩ := all
      obtain ⟨old, ho, accepted⟩ := accepts_table_iff.mp hold
      obtain rfl := Value.mapping.inj (hv.symm.trans ho)
      exact ⟨hl, ⟨⟨_, hk⟩, accepts_table_iff.mpr ⟨_, hv', h _ _ inner accepted⟩⟩, hr⟩
  | added hk hn hv' inner =>
      rw [allAccepted_append] at all ⊢
      rw [allAccepted_cons]
      have accepted := h _ _ inner fun _ he => absurd he List.not_mem_nil
      exact ⟨all.1, ⟨⟨_, hk⟩, accepts_table_iff.mpr ⟨_, hv', accepted⟩⟩, all.2⟩
  | removed hk =>
      rw [allAccepted_append, allAccepted_cons] at all
      rw [allAccepted_append]
      exact ⟨all.1, all.2.2⟩

end Validation

/-! ### Settings -/

namespace Settings

open Validation

/-- One section of the settings is edited, at a path through it. -/
structure SectionEdited (name : String) (path : List String) (es es' : Entries) : Prop where
  others : ∀ other, other ≠ name → es'.field? other = es.field? other
  edited : ∃ old new, entriesIn? (es.field? name) = some old ∧
    entriesIn? (es'.field? name) = some new ∧ Edited path old new

section

variable {es es' : Entries} {s : Settings}

theorem ofValue_eq_ok_iff :
    ofValue (.mapping es) = .ok s ↔
      withDefault es "entry_point" "subprocess" text = .valid s.entryPoint ∧
      withDefault es "components" [] (table (table (table anything))) = .valid s.components ∧
      withDefault es "targets" [] (table (table anything)) = .valid s.targets ∧
      withDefault es "current_dir" none (optional path) = .valid s.currentDirectory := by
  have accepted : ofValue (.mapping es) = .ok s ↔ check es = .valid s := by
    show (check es).toExcept title = .ok s ↔ _
    cases check es <;> simp [Checked.toExcept]
  rw [accepted]
  show Checked.seq (Checked.seq (Checked.seq (Checked.map Settings.mk _) _) _) _ = _ ↔ _
  simp only [Checked.seq_eq_valid_iff, Checked.map_eq_valid_iff]
  constructor
  · rintro ⟨_, d, ⟨_, t, ⟨_, c, ⟨e, he, rfl⟩, hc, rfl⟩, ht, rfl⟩, hd, rfl⟩
    exact ⟨he, hc, ht, hd⟩
  · rintro ⟨he, hc, ht, hd⟩
    exact ⟨_, _, ⟨_, _, ⟨_, _, ⟨_, he, rfl⟩, hc, rfl⟩, ht, rfl⟩, hd, rfl⟩

section Sections

variable {α : Type} {check : Value → Checked α} {name : String} {t : Table α}

theorem withDefault_congr {default : α} (h : es'.field? name = es.field? name) :
    withDefault es' name default check = withDefault es name default check := by
  rw [withDefault, withDefault, h]

/-- A section that may be left out makes the table that its entries make. -/
theorem withDefault_table_eq_valid_iff :
    withDefault es name [] (table check) = .valid t ↔
      ∃ inner, entriesIn? (es.field? name) = some inner ∧ Makes check inner t := by
  rw [withDefault_eq_valid_iff]
  cases es.field? name with
  | none => simp [entriesIn?, Makes, Table.overlay]
  | some v => simp [table_eq_valid_iff, entriesIn?_some_iff]

/-- A section that is edited makes a table as it did before. -/
theorem SectionEdited.exists_makes {path : List String} (h : SectionEdited name path es es')
    (hp : Preserves path check) (ht : withDefault es name [] (table check) = .valid t) :
    ∃ old new t', Edited path old new ∧ Makes check old t ∧ Makes check new t' ∧
      withDefault es' name [] (table check) = .valid t' := by
  obtain ⟨old, new, hold, hnew, edited⟩ := h.edited
  obtain ⟨inner, hi, makes⟩ := withDefault_table_eq_valid_iff.mp ht
  obtain rfl : inner = old := by simpa [hold, eq_comm] using hi
  obtain ⟨t', makes'⟩ := exists_makes_iff.mpr (hp _ _ edited (exists_makes_iff.mp ⟨t, makes⟩))
  exact ⟨inner, new, t', edited, makes, makes',
    withDefault_table_eq_valid_iff.mpr ⟨new, hnew, makes'⟩⟩

end Sections

/-- **An edited target.**  The settings are accepted, and they have all other targets as before. -/
theorem ofValue_of_targets_edited (h : ofValue (.mapping es) = .ok s) {b : String}
    (edited : SectionEdited "targets" [b] es es') :
    ∃ targets, ofValue (.mapping es') = .ok { s with targets := targets } ∧
      ∀ a, b ≠ a → targets.get? a = s.targets.get? a := by
  obtain ⟨he, hc, ht, hd⟩ := ofValue_eq_ok_iff.mp h
  obtain ⟨old, new, targets, hedit, makes, makes', ht'⟩ :=
    edited.exists_makes (preserves_nil.cons b) ht
  have same {name : String} (hn : name ≠ "targets") : es'.field? name = es.field? name :=
    edited.others name hn
  refine ⟨targets, ofValue_eq_ok_iff.mpr ⟨?_, ?_, ht', ?_⟩, fun a hn =>
    makes.get?_congr makes' (hedit.lastUnder_of_ne hn)⟩
  · rwa [withDefault_congr (same (by decide))]
  · rwa [withDefault_congr (same (by decide))]
  · rwa [withDefault_congr (same (by decide))]

/-- **An edited configuration.**  The settings are accepted, and they have the configuration under
all other keys of the registry as before. -/
theorem ofValue_of_components_edited (h : ofValue (.mapping es) = .ok s) {registry k : String}
    (edited : SectionEdited "components" [registry, k] es es') :
    ∃ components, ofValue (.mapping es') = .ok { s with components := components } ∧
      ∀ key, k ≠ key →
        configuration { s with components := components } registry key =
          s.configuration registry key := by
  obtain ⟨he, hc, ht, hd⟩ := ofValue_eq_ok_iff.mp h
  obtain ⟨old, new, components, hedit, makes, makes', hc'⟩ :=
    edited.exists_makes ((preserves_nil.cons k).cons registry) hc
  have same {name : String} (hn : name ≠ "components") : es'.field? name = es.field? name :=
    edited.others name hn
  refine ⟨components, ofValue_eq_ok_iff.mpr ⟨?_, hc', ?_, ?_⟩, fun key hn => ?_⟩
  · rwa [withDefault_congr (same (by decide))]
  · rwa [withDefault_congr (same (by decide))]
  · rwa [withDefault_congr (same (by decide))]
  · have last : lastUnder key (entriesUnder registry new) =
        lastUnder key (entriesUnder registry old) := by
      rcases hedit.entriesUnder_eq_or_edited with heq | hinner
      · rw [heq]
      · exact hinner.lastUnder_of_ne hn
    have found : (components.get? registry).bind (Table.get? · key) =
        (s.components.get? registry).bind (Table.get? · key) :=
      Option.map_injective valid_injective
        (by rw [makes'.map_get?_get?, makes.map_get?_get?, last])
    exact congrArg (Option.getD · []) found

end

/-! ### One target -/

/-- The settings have the same target under the name, and the same entry point with the same
configuration, for the same directory. -/
structure AgreeFor (name : String) (s s' : Settings) : Prop where
  target : s'.targets.get? name = s.targets.get? name
  entryPoint : s'.entryPoint = s.entryPoint
  configuration : s'.configuration EntryPoint.registry s.entryPoint =
    s.configuration EntryPoint.registry s.entryPoint
  directory : s'.currentDirectory = s.currentDirectory

/-- The target comes to the same with both settings: its options, its arguments, and every run of
it, with its outcome and its events. -/
structure SameFor (name : String) (s s' : Settings) : Prop where
  target : s'.target name = s.target name
  tokens : s'.targetTokens name = s.targetTokens name
  run (launch : EntryPoint → Tool) (tool : Option Tool) :
    Pipeline.runTargetWith launch name s' tool = Pipeline.runTargetWith launch name s tool

namespace AgreeFor

variable {s s' : Settings} {name : String}

/-- The entry point is chosen, configured and placed by what agrees. -/
theorem entryPoint_eq (h : AgreeFor name s s') :
    EntryPoint.ofSettings s' = EntryPoint.ofSettings s := by
  rw [EntryPoint.ofSettings, EntryPoint.ofSettings, h.entryPoint, EntryPoint.new, EntryPoint.new]
  split
  · next kind hk =>
      have key : kind.key = s.entryPoint := by simpa using List.find?_some hk
      rw [EntryPoint.configure, EntryPoint.configure, key, h.configuration, h.directory]
  · rfl

/-- **Agreement is enough.**  A target that the settings have comes to the same. -/
theorem sameFor (h : AgreeFor name s s') {t : Table Value} (ht : s.targets.get? name = some t) :
    SameFor name s s' := by
  have target : s'.target name = s.target name := by
    rw [Settings.target, Settings.target, h.target, ht]
  have choose (launch : EntryPoint → Tool) (tool : Option Tool) :
      Pipeline.choose launch s' tool = Pipeline.choose launch s tool := by
    cases tool with
    | some u => rfl
    | none => exact congrArg (launch <$> ·) h.entryPoint_eq
  refine ⟨target, by rw [targetTokens, targetTokens, target], fun launch tool => ?_⟩
  simp only [Pipeline.runTargetWith, Pipeline.runWith, target, choose]

end AgreeFor

/-- **Isolation.**  What a target comes to depends on the target, on which entry point is chosen, on
its configuration and on the directory, and on nothing else in the settings.  Whatever mapping from
texts stands for another target, or for the configuration of another entry point, where there was
one or where there was none, and also where none is left, the settings are accepted as they were,
and the target comes to the same. -/
theorem isolation (s : Settings) (name : String) (t : Table Value)
    (ht : s.targets.get? name = some t) :
    (∀ s', AgreeFor name s s' → SameFor name s s') ∧
    ∀ es, ofValue (.mapping es) = .ok s →
      (∀ b es', b ≠ name → SectionEdited "targets" [b] es es' →
        ∃ s', ofValue (.mapping es') = .ok s' ∧ AgreeFor name s s' ∧ SameFor name s s') ∧
      ∀ k es', k ≠ s.entryPoint → SectionEdited "components" [EntryPoint.registry, k] es es' →
        ∃ s', ofValue (.mapping es') = .ok s' ∧ AgreeFor name s s' ∧ SameFor name s s' := by
  refine ⟨fun s' h => h.sameFor ht, fun es h => ⟨fun b es' hb edited => ?_,
    fun k es' hk edited => ?_⟩⟩
  · obtain ⟨targets, accepted, others⟩ := ofValue_of_targets_edited h edited
    have agree : AgreeFor name s { s with targets := targets } := ⟨others name hb, rfl, rfl, rfl⟩
    exact ⟨_, accepted, agree, agree.sameFor ht⟩
  · obtain ⟨components, accepted, others⟩ := ofValue_of_components_edited h edited
    have agree : AgreeFor name s { s with components := components } :=
      ⟨rfl, rfl, others s.entryPoint hk, rfl⟩
    exact ⟨_, accepted, agree, agree.sameFor ht⟩

/-! ### Broken neighbours -/

/-- Settings for a function, with the target `a` and with what else is given. -/
def sampleEntries (targets components : Entries) : Entries :=
  [(.text "entry_point", .text "callable"), (.text "components", .mapping components),
    (.text "targets", .mapping ((.text "a", .mapping [(.text "source", .text "a"),
      (.text "output", .text "b")]) :: targets))]

/-- A target without a source, one of whose flags is a list. -/
def brokenTarget : Entries := [(.text "b", .mapping [(.text "verbose", .list [])])]

/-- A child process whose command is a number. -/
def brokenComponent : Entries :=
  [(.text "entry_point", .mapping [(.text "subprocess", .mapping [(.text "command", .integer 1)])])]

theorem edited_brokenTarget :
    SectionEdited "targets" ["b"] (sampleEntries [] []) (sampleEntries brokenTarget []) where
  others other hn := by
    simp [sampleEntries, Entries.field?, Entries.get?, Value.sameKey, Value.sameScalar, hn.symm]
  edited := by
    refine ⟨_, _, rfl, rfl, .added (l := [(.text "a", _)]) (r := []) rfl ?_ rfl (.here ?_)⟩
    · simp [nameOf?, text, Checked.value?]
    · simp [nameOf?, text, Checked.value?]

theorem edited_brokenComponent :
    SectionEdited "components" [EntryPoint.registry, "subprocess"] (sampleEntries [] [])
      (sampleEntries [] brokenComponent) where
  others other hn := by
    simp [sampleEntries, Entries.field?, Entries.get?, Value.sameKey, Value.sameScalar, hn.symm]
  edited := by
    refine ⟨_, _, rfl, rfl, .added (l := []) (r := []) rfl (by simp) rfl
      (.added (l := []) (r := []) rfl (by simp) rfl (.here ?_))⟩
    simp [nameOf?, text, Checked.value?]

/-- Beside a broken target, and beside a broken configuration of the child process, the target `a`
has the arguments that it has without them. -/
theorem isolation_broken :
    (∃ s', ofValue (.mapping (sampleEntries brokenTarget [])) = .ok s' ∧
      s'.targetTokens "a" = .ok ["a", "-o", "b"]) ∧
    ∃ s', ofValue (.mapping (sampleEntries [] brokenComponent)) = .ok s' ∧
      s'.targetTokens "a" = .ok ["a", "-o", "b"] := by
  let t : Table Value := [("source", .text "a"), ("output", .text "b")]
  have accepted : ofValue (.mapping (sampleEntries [] [])) =
      .ok { entryPoint := "callable", targets := [("a", t)] } := by
    cbv
  have tokens : Settings.targetTokens { entryPoint := "callable", targets := [("a", t)] } "a" =
      .ok ["a", "-o", "b"] :=
    ok_of_toOption (by decide +kernel)
  obtain ⟨-, edits⟩ := isolation { entryPoint := "callable", targets := [("a", t)] } "a" t rfl
  obtain ⟨targets, components⟩ := edits _ accepted
  obtain ⟨s₁, h₁, -, same₁⟩ := targets "b" _ (by decide) edited_brokenTarget
  obtain ⟨s₂, h₂, -, same₂⟩ := components "subprocess" _ (by decide) edited_brokenComponent
  exact ⟨⟨s₁, h₁, same₁.tokens.trans tokens⟩, s₂, h₂, same₂.tokens.trans tokens⟩

end Settings

end CompilerRunner
