import CompilerRunner.Proofs.RegistryHistory
import Mathlib

/-!
# Proofs — RegistryIndex

The list of keys by the name of a registry, beside the registries themselves.

Two classes may found registries of one name.  The list of that name is emptied by the second one,
while the first registry keeps its keys; a key that is recorded in either of them later is listed
again.

* `stepped_after`: what one definition makes of the registries and of the lists (`Stepped`).
* `Indexed.step`: what is listed is what has been recorded since a registry of the name was founded
  last (`RecordedSince`), and what the registries offer is what has been recorded at any time.
* `index_history`: this for every sequence of definitions.  Nothing is listed that no registry of
  the name offers, and where the name belongs to one registry alone, nothing is missing.
-/

namespace CompilerRunner.Registry

namespace State

variable {s s' : State} {d : Definition} {name key : String}

/-! ### Lists and registries -/

/-- The key is listed under the name. -/
def Lists (s : State) (name key : String) : Prop :=
  ∃ keys, s.index.get? name = some keys ∧ key ∈ keys

/-- The name of the registry that the class owns. -/
def nameOf? (s : State) (owner : ClassId) : Option String := (s.catalog? owner).map Catalog.name

/-- A class is recorded under the key in a registry of the name. -/
def Offers (s : State) (name key : String) : Prop :=
  ∃ owner catalog r, s.catalog? owner = some catalog ∧ catalog.name = name ∧
    catalog.entries.get? key = some r

/-- No two registries have the name. -/
def Alone (s : State) (name : String) : Prop :=
  ∀ o o', s.nameOf? o = some name → s.nameOf? o' = some name → o = o'

/-! ### One definition -/

/-- What a definition does with the name of a registry. -/
inductive Change where
  | founded (name : String)
  | recorded (name key : String)
deriving DecidableEq

/-- What the definition does with the name of a registry, if it is carried out. -/
def change? (s : State) (d : Definition) : Option Change :=
  match s.define d, d.key with
  | .ok _, some key =>
    match s.host? d with
    | none => some (.founded key)
    | some owner => (s.catalog? owner).map fun k => .recorded k.name key
  | _, _ => none

/-- The registries and lists before and after a change.  At most one class has another registry
afterwards: the one that founds it, or the one that owns it. -/
inductive Stepped (s s' : State) : Option Change → Prop where
  | same (others : ∀ o, s'.catalog? o = s.catalog? o) (index : s'.index = s.index) :
      Stepped s s' none
  | founded {own : ClassId} {key : String} (fresh : s.catalog? own = none)
      (written : s'.catalog? own = some ⟨key, []⟩)
      (others : ∀ o, o ≠ own → s'.catalog? o = s.catalog? o)
      (index : s'.index = s.index.insert key []) :
      Stepped s s' (some (.founded key))
  | recorded {owner : ClassId} {before after : Catalog} {key : String} {r : Registered}
      (there : s.catalog? owner = some before) (written : s'.catalog? owner = some after)
      (name : after.name = before.name)
      (entries : ∀ k, after.entries.get? k = if key = k then some r else before.entries.get? k)
      (others : ∀ o, o ≠ owner → s'.catalog? o = s.catalog? o)
      (index : s'.index = putKey s.index before.name key) :
      Stepped s s' (some (.recorded before.name key))

theorem index_of_unkeyed (h : s.define d = .ok s') (hk : d.key = none) : s'.index = s.index := by
  obtain ⟨order, -, rfl⟩ := define_eq_ok h
  rw [hk]
  rfl

theorem index_of_no_host (hb : s.HasBases d) (h : s.define d = .ok s') (hk : d.key = some key)
    (ho : s.host? d = none) : s'.index = s.index.insert key [] := by
  obtain ⟨order, -, rfl⟩ := define_eq_ok h
  have host := host?_extend order hb
  rw [ho] at host
  simp only [hk, register, host]
  rfl

theorem index_of_host (hb : s.HasBases d) (h : s.define d = .ok s') {owner : ClassId}
    {catalog : Catalog} (hk : d.key = some key) (ho : s.host? d = some owner)
    (hc : s.catalog? owner = some catalog) : s'.index = putKey s.index catalog.name key := by
  obtain ⟨order, -, rfl⟩ := define_eq_ok h
  have host := host?_extend order hb
  rw [ho] at host
  have there : (s.extend d order).catalog? owner = some catalog := hc
  simp only [hk, register, host, there]
  rfl

/-- **One definition.** -/
theorem stepped_after (hs : s.Grounded) (hb : s.HasBases d) :
    Stepped s (s.after d) (s.change? d) := by
  cases h : s.define d with
  | error e =>
      rw [after_of_error h, change?, h]
      exact .same (fun _ => rfl) rfl
  | ok s' =>
      have carried := carried_of_define hs hb h
      rw [after_of_ok h, change?, h]
      cases hk : d.key with
      | none => exact .same (carried.unkeyed hk) (index_of_unkeyed h hk)
      | some key =>
          cases ho : s.host? d with
          | none =>
              obtain ⟨written, others, -⟩ := carried.founded key hk ho
              exact .founded (hs.catalog?_eq_none (le_refl s.classes.length)) written others
                (index_of_no_host hb h hk ho)
          | some owner =>
              obtain ⟨⟨before, after, there, written, name, entries⟩, others⟩ :=
                carried.recorded key owner hk ho
              simp only [there]
              exact .recorded there written name entries others (index_of_host hb h hk ho there)

/-! ### What has been listed and recorded -/

/-- The key has been recorded under the name, with no registry of that name founded since. -/
def RecordedSince (history : List Change) (name key : String) : Prop :=
  ∃ before after, history = before ++ .recorded name key :: after ∧ .founded name ∉ after

theorem RecordedSince.mem {history : List Change} (h : RecordedSince history name key) :
    .recorded name key ∈ history := by
  obtain ⟨before, after, rfl, -⟩ := h
  exact List.mem_append_right before List.mem_cons_self

/-- The last change decides, or else what came before it. -/
theorem recordedSince_concat {history : List Change} {c : Change} :
    RecordedSince (history ++ [c]) name key ↔
      c = .recorded name key ∨ c ≠ .founded name ∧ RecordedSince history name key := by
  constructor
  · rintro ⟨before, after, h, hn⟩
    rcases List.eq_nil_or_concat after with rfl | ⟨rest, last, rfl⟩
    · obtain ⟨-, rfl⟩ := List.append_inj' h rfl |>.imp id List.singleton_inj.mp
      exact .inl rfl
    · rw [List.concat_eq_append] at h hn
      rw [← List.cons_append, ← List.append_assoc] at h
      obtain ⟨rfl, hc⟩ := List.append_inj' h rfl
      obtain rfl := List.singleton_inj.mp hc
      rw [List.mem_append, not_or, List.mem_singleton] at hn
      exact .inr ⟨fun hc => hn.2 hc.symm, before, rest, rfl, hn.1⟩
  · rintro (rfl | ⟨hc, before, after, rfl, hn⟩)
    · exact ⟨history, [], rfl, List.not_mem_nil⟩
    · refine ⟨before, after ++ [c], by rw [List.append_assoc, List.cons_append], ?_⟩
      rw [List.mem_append, not_or, List.mem_singleton]
      exact ⟨hn, Ne.symm hc⟩

/-! ### The lists and registries after a change -/

/-- The keys of the name are those before and the new one, each of them once. -/
theorem exists_get?_putKey (index : Table (List String)) (name key : String) :
    ∃ keys, (putKey index name key).get? name = some keys ∧
      (∀ k, k ∈ keys ↔ k = key ∨ k ∈ (index.get? name).getD []) ∧
      (((index.get? name).getD []).Nodup → keys.Nodup) := by
  refine ⟨_, by rw [putKey, Table.get?_insert, if_pos rfl], fun k => ?_, fun hn => ?_⟩
  · split
    · next hc =>
        have listed : key ∈ (index.get? name).getD [] := List.contains_iff_mem.mp hc
        exact ⟨.inr, fun h => h.elim (fun e => e ▸ listed) id⟩
    · rw [List.mem_append, List.mem_singleton, or_comm]
  · split
    · exact hn
    · next hc =>
        have unlisted : key ∉ (index.get? name).getD [] := mt List.contains_iff_mem.mpr hc
        exact List.nodup_append.mpr ⟨hn, List.nodup_singleton key,
          fun a ha b hb => fun e => unlisted (List.mem_singleton.mp hb ▸ e ▸ ha)⟩

theorem get?_putKey_of_ne (index : Table (List String)) {name name' : String} (key : String)
    (h : name ≠ name') : (putKey index name key).get? name' = index.get? name' := by
  rw [putKey, Table.get?_insert, if_neg h]

theorem lists_iff : s.Lists name key ↔ key ∈ (s.index.get? name).getD [] := by
  cases h : s.index.get? name <;> simp [Lists, h]

namespace Stepped

variable {c : Option Change} {o : ClassId}

/-- A key is listed from the change on that records it, until its name is founded anew. -/
theorem lists_iff (h : Stepped s s' c) :
    s'.Lists name key ↔
      c = some (.recorded name key) ∨ c ≠ some (.founded name) ∧ s.Lists name key := by
  simp only [State.lists_iff]
  cases h with
  | same others index => simp [index]
  | @founded own m fresh written others index =>
      by_cases hm : m = name <;> simp [index, Table.get?_insert, hm]
  | @recorded owner before after j r there written same entries others index =>
      rw [index]
      by_cases hm : before.name = name
      · obtain ⟨keys, hk, mem, -⟩ := exists_get?_putKey s.index before.name j
        rw [← hm, hk, Option.getD_some, mem]
        simp [eq_comm]
      · simp [get?_putKey_of_ne s.index j hm, hm]

/-- A registry keeps its keys and its name. -/
theorem exists_catalog? (h : Stepped s s' c) {k : Catalog} (hk : s.catalog? o = some k) :
    ∃ k', s'.catalog? o = some k' ∧ k'.name = k.name ∧
      ∀ key r, k.entries.get? key = some r → ∃ r', k'.entries.get? key = some r' := by
  cases h with
  | same others index => exact ⟨k, others o ▸ hk, rfl, fun _ r hr => ⟨r, hr⟩⟩
  | @founded own m fresh written others index =>
      have ho : o ≠ own := fun ho => by cases ho; cases fresh.symm.trans hk
      exact ⟨k, others o ho ▸ hk, rfl, fun _ r hr => ⟨r, hr⟩⟩
  | @recorded owner before after j r there written same entries others index =>
      by_cases ho : o = owner
      · subst ho
        obtain rfl := Option.some.inj (there.symm.trans hk)
        refine ⟨after, written, same, fun key r' hr => ?_⟩
        rw [entries, hr]
        split <;> exact ⟨_, rfl⟩
      · exact ⟨k, others o ho ▸ hk, rfl, fun _ r hr => ⟨r, hr⟩⟩

/-- A registry that there is afterwards has been founded, or has been there with the same name; of
its keys, only the one that is recorded is new. -/
theorem of_catalog? (h : Stepped s s' c) {k : Catalog} (hk : s'.catalog? o = some k) :
    c = some (.founded k.name) ∧ s.catalog? o = none ∧ k.entries = [] ∨
      ∃ k', s.catalog? o = some k' ∧ k'.name = k.name ∧
        ∀ key r, k.entries.get? key = some r →
          c = some (.recorded k.name key) ∨ ∃ r', k'.entries.get? key = some r' := by
  cases h with
  | same others index => exact .inr ⟨k, others o ▸ hk, rfl, fun _ r hr => .inr ⟨r, hr⟩⟩
  | @founded own m fresh written others index =>
      by_cases ho : o = own
      · subst ho
        obtain rfl := Option.some.inj (written.symm.trans hk)
        exact .inl ⟨rfl, fresh, rfl⟩
      · exact .inr ⟨k, others o ho ▸ hk, rfl, fun _ r hr => .inr ⟨r, hr⟩⟩
  | @recorded owner before after j r there written same entries others index =>
      by_cases ho : o = owner
      · subst ho
        obtain rfl := Option.some.inj (written.symm.trans hk)
        refine .inr ⟨before, there, same.symm, fun key r' hr => ?_⟩
        by_cases hj : j = key
        · exact .inl (by rw [same, hj])
        · exact .inr ⟨r', by rwa [entries, if_neg hj] at hr⟩
      · exact .inr ⟨k, others o ho ▸ hk, rfl, fun _ r hr => .inr ⟨r, hr⟩⟩

/-- Offered is what has been offered before, and what the change records. -/
theorem offers_iff (h : Stepped s s' c) :
    s'.Offers name key ↔ c = some (.recorded name key) ∨ s.Offers name key := by
  constructor
  · rintro ⟨o, k, r, hk, rfl, hr⟩
    rcases h.of_catalog? hk with ⟨-, -, he⟩ | ⟨k', hk', hn, kept⟩
    · rw [he] at hr
      cases hr
    · exact (kept key r hr).imp id fun ⟨r', hr'⟩ => ⟨o, k', r', hk', hn, hr'⟩
  · rintro (rfl | ⟨o, k, r, hk, rfl, hr⟩)
    · cases h with
      | @recorded owner before after j r there written same entries others index =>
          exact ⟨owner, after, r, written, same, by rw [entries, if_pos rfl]⟩
    · obtain ⟨k', hk', hn, kept⟩ := h.exists_catalog? hk
      obtain ⟨r', hr'⟩ := kept key r hr
      exact ⟨o, k', r', hk', hn, hr'⟩

theorem nameOf?_of_some (h : Stepped s s' c) (ho : s.nameOf? o = some name) :
    s'.nameOf? o = some name := by
  obtain ⟨k, hk, rfl⟩ := Option.map_eq_some_iff.mp ho
  obtain ⟨k', hk', hn, -⟩ := h.exists_catalog? hk
  rw [nameOf?, hk', Option.map_some, hn]

theorem exists_nameOf?_of_founded (h : Stepped s s' (some (.founded name))) :
    ∃ own, s.nameOf? own = none ∧ s'.nameOf? own = some name := by
  cases h with
  | @founded own m fresh written others index =>
      exact ⟨own, by rw [nameOf?, fresh]; rfl, by rw [nameOf?, written]; rfl⟩

/-- The names after a change are those before it and the one that is founded. -/
theorem exists_nameOf?_iff (h : Stepped s s' c) :
    (∃ o, s'.nameOf? o = some name) ↔
      c = some (.founded name) ∨ ∃ o, s.nameOf? o = some name := by
  constructor
  · rintro ⟨o, ho⟩
    obtain ⟨k, hk, rfl⟩ := Option.map_eq_some_iff.mp ho
    rcases h.of_catalog? hk with ⟨hc, -, -⟩ | ⟨k', hk', hn, -⟩
    · exact .inl hc
    · exact .inr ⟨o, by rw [nameOf?, hk', Option.map_some, hn]⟩
  · rintro (rfl | ⟨o, ho⟩)
    · obtain ⟨own, -, hown⟩ := h.exists_nameOf?_of_founded
      exact ⟨own, hown⟩
    · exact ⟨o, h.nameOf?_of_some ho⟩

theorem alone (h : Stepped s s' c) (ha : s'.Alone name) : s.Alone name := fun _ _ ho ho' =>
  ha _ _ (h.nameOf?_of_some ho) (h.nameOf?_of_some ho')

/-- A name that a registry has already does not stay with one registry when it is founded. -/
theorem not_alone_of_founded (h : Stepped s s' (some (.founded name)))
    (ho : s.nameOf? o = some name) : ¬ s'.Alone name := by
  intro ha
  obtain ⟨own, fresh, hown⟩ := h.exists_nameOf?_of_founded
  obtain rfl := ha o own (h.nameOf?_of_some ho) hown
  cases fresh.symm.trans ho

end Stepped

/-- The lists and the registries are those of the history. -/
structure Indexed (s : State) (history : List Change) : Prop where
  /-- There is a list for the names of registries, and for no other name. -/
  named : ∀ name, (∃ keys, s.index.get? name = some keys) ↔ ∃ o, s.nameOf? o = some name
  /-- No key is listed twice under a name. -/
  nodup : ∀ name keys, s.index.get? name = some keys → keys.Nodup
  /-- Listed is what has been recorded since a registry of the name was founded last. -/
  listed : ∀ name key, s.Lists name key ↔ RecordedSince history name key
  /-- Offered is what has been recorded. -/
  offered : ∀ name key, s.Offers name key ↔ .recorded name key ∈ history
  /-- All that a registry offers is listed if no other has its name. -/
  complete : ∀ name, s.Alone name → ∀ key, s.Offers name key → s.Lists name key

theorem Offers.exists_nameOf? (h : s.Offers name key) : ∃ o, s.nameOf? o = some name := by
  obtain ⟨o, k, r, hk, rfl, -⟩ := h
  exact ⟨o, by rw [nameOf?, hk, Option.map_some]⟩

/-- **One step of the history.** -/
theorem Indexed.step {history : List Change} {c : Option Change} (h : s.Indexed history)
    (hc : Stepped s s' c) : s'.Indexed (history ++ c.toList) where
  named name := by
    rw [hc.exists_nameOf?_iff, ← h.named]
    cases hc with
    | same others index => simp [index]
    | @founded own m fresh written others index =>
        by_cases hm : m = name <;> simp [index, Table.get?_insert, hm]
    | @recorded owner before after j r there written same entries others index =>
        by_cases hm : before.name = name
        · subst hm
          obtain ⟨keys, hk, -⟩ := exists_get?_putKey s.index before.name j
          obtain ⟨keys', hk'⟩ := (h.named before.name).mpr ⟨owner, by rw [nameOf?, there]; rfl⟩
          simp [index, hk, hk']
        · simp [index, get?_putKey_of_ne s.index j hm]
  nodup name keys hk := by
    cases hc with
    | same others index => exact h.nodup name keys (index ▸ hk)
    | @founded own m fresh written others index =>
        rw [index, Table.get?_insert] at hk
        split at hk
        · obtain rfl := Option.some.inj hk
          exact List.nodup_nil
        · exact h.nodup name keys hk
    | @recorded owner before after j r there written same entries others index =>
        rw [index] at hk
        by_cases hm : before.name = name
        · subst hm
          obtain ⟨keys', hk', -, nodup⟩ := exists_get?_putKey s.index before.name j
          obtain rfl := Option.some.inj (hk.symm.trans hk')
          refine nodup ?_
          cases hl : s.index.get? before.name with
          | none => exact List.nodup_nil
          | some listed => exact h.nodup before.name listed hl
        · exact h.nodup name keys (get?_putKey_of_ne s.index j hm ▸ hk)
  listed name key := by
    rw [hc.lists_iff, h.listed]
    cases c with
    | none => simp
    | some c => simp [recordedSince_concat]
  offered name key := by
    rw [hc.offers_iff, h.offered]
    cases c with
    | none => simp
    | some c => simp [or_comm, eq_comm]
  complete name ha key ho := by
    rw [hc.lists_iff]
    rcases hc.offers_iff.mp ho with hr | ho
    · exact .inl hr
    · refine .inr ⟨?_, h.complete name (hc.alone ha) key ho⟩
      -- the name has a registry already, so a second one would share it
      rintro rfl
      obtain ⟨o, hn⟩ := ho.exists_nameOf?
      exact hc.not_alone_of_founded hn ha

/-- What the definitions do with the names of registries, one after the other. -/
def changes : State → List Definition → List Change
  | _, [] => []
  | s, d :: ds => (s.change? d).toList ++ changes (s.after d) ds

theorem changes_append (s : State) (ds ds' : List Definition) :
    s.changes (ds ++ ds') = s.changes ds ++ (s.defineAll ds).changes ds' := by
  induction ds generalizing s with
  | nil => rfl
  | cons d rest ih =>
      rw [List.cons_append, changes, changes, ih, List.append_assoc]
      rfl

/-- **The whole history.** -/
theorem Indexed.defineAll {ds : List Definition} {history : List Change} (h : s.Indexed history)
    (hs : s.Grounded) (hd : s.Definable ds) :
    (s.defineAll ds).Indexed (history ++ s.changes ds) := by
  induction ds generalizing s history with
  | nil => simpa [changes, State.defineAll] using h
  | cons d rest ih =>
      have rest' := ih (h.step (stepped_after hs hd.1)) (hs.after hd.1) hd.2
      rwa [List.append_assoc] at rest'

theorem indexed_empty : ({} : State).Indexed [] where
  named name := by simp [nameOf?, catalog?]
  nodup name keys hk := by cases hk
  listed name key := by simp [Lists, RecordedSince]
  offered name key := by simp [Offers, catalog?]
  complete name _ key ho := by simp [Offers, catalog?] at ho

/-- After further definitions the lists are those of all definitions, the shipped ones included. -/
theorem indexed_defineAll {ds : List Definition} (h : shipped.Definable ds) :
    (shipped.defineAll ds).Indexed (changes {} (shippedDefinitions ++ ds)) := by
  have start : shipped.Indexed (changes {} shippedDefinitions) :=
    indexed_empty.defineAll grounded_empty definable_shipped
  rw [changes_append]
  exact start.defineAll grounded_shipped h

/-! ### Requests for instances -/

/-- A request is refused for an unknown key exactly where the registry has no entry under it. -/
theorem new_eq_unknownKey_iff {interface owner : ClassId} {catalog : Catalog}
    (hm : s.MakesInstances interface) (ho : s.owner? interface = some owner)
    (hc : s.catalog? owner = some catalog) (key : String) (settings : Settings)
    (arguments : List Value) (named : Table Value) :
    (∃ known, new s interface key settings arguments named =
      .error (.settings (.unknownKey catalog.name key known))) ↔
        catalog.entries.get? key = none := by
  rw [new_eq hm ho hc]
  cases catalog.entries.get? key with
  | none => simp
  | some r =>
      cases hj : configuredBy r.model settings catalog.name key with
      | error rejection => simp [hj]
      | ok configured => simp [hj, make_ne_settings]

/-- The one registry of a name offers what is offered under the name. -/
theorem Alone.offers_iff {owner : ClassId} {catalog : Catalog} (ha : s.Alone catalog.name)
    (hc : s.catalog? owner = some catalog) :
    s.Offers catalog.name key ↔ ∃ r, catalog.entries.get? key = some r := by
  constructor
  · rintro ⟨o, k, r, hk, hn, hr⟩
    obtain rfl := ha o owner (by rw [nameOf?, hk, Option.map_some, hn])
      (by rw [nameOf?, hc, Option.map_some])
    obtain rfl := Option.some.inj (hc.symm.trans hk)
    exact ⟨r, hr⟩
  · rintro ⟨r, hr⟩
    exact ⟨owner, catalog, r, hc, rfl, hr⟩

end State

/-- **The lists of keys and the registries.**  After any definitions that follow the shipped ones
there is a list for exactly the names of registries, and it holds what has been recorded under the
name since a registry of that name was founded last.  So nothing is listed that no registry of the
name offers; all that is offered is listed exactly if whatever was recorded before the last founding
has been recorded again, which holds where the name belongs to one registry alone.  There the list
tells for which keys a request is not refused as unknown. -/
theorem index_history (ds : List Definition) (h : shipped.Definable ds) :
    let s := shipped.defineAll ds
    let history := State.changes {} (shippedDefinitions ++ ds)
    s.Indexed history ∧
    (∀ name key, s.Lists name key → s.Offers name key) ∧
    (∀ name, (∀ key, s.Lists name key ↔ s.Offers name key) ↔
      ∀ key, .recorded name key ∈ history → State.RecordedSince history name key) ∧
    (∀ name, s.Alone name → ∀ key, s.Lists name key ↔ s.Offers name key) ∧
    ∀ interface owner catalog, s.MakesInstances interface → s.owner? interface = some owner →
      s.catalog? owner = some catalog → ∀ key settings arguments named,
      ((∃ known, new s interface key settings arguments named =
        .error (.settings (.unknownKey catalog.name key known))) ↔
          catalog.entries.get? key = none) ∧
      (s.Alone catalog.name →
        ((∃ known, new s interface key settings arguments named =
          .error (.settings (.unknownKey catalog.name key known))) ↔
            ¬ s.Lists catalog.name key)) := by
  intro s history
  have indexed : s.Indexed history := State.indexed_defineAll h
  have sound (name key : String) (hl : s.Lists name key) : s.Offers name key :=
    (indexed.offered name key).mpr ((indexed.listed name key).mp hl).mem
  have alone (name : String) (ha : s.Alone name) (key : String) :
      s.Lists name key ↔ s.Offers name key :=
    ⟨sound name key, indexed.complete name ha key⟩
  refine ⟨indexed, sound, fun name => ?_, alone, ?_⟩
  · simp only [indexed.listed, indexed.offered]
    exact ⟨fun same key => (same key).mpr, fun again key => ⟨fun hl => hl.mem, again key⟩⟩
  · intro interface owner catalog hm ho hc key settings arguments named
    have unknown := State.new_eq_unknownKey_iff hm ho hc key settings arguments named
    refine ⟨unknown, fun ha => ?_⟩
    rw [unknown, alone catalog.name ha key, ha.offers_iff hc, Option.eq_none_iff_forall_ne_some,
      not_exists]

/-! ### A name that is founded twice -/

/-- An interface `A` of tools with the implementation `B` under `x`, and another interface `C` of
the same name. -/
def sampleInterfaces : List Definition :=
  [{ name := "A", bases := [0], key := some "tool" },
    { name := "B", bases := [5], key := some "x", construction := some .recording },
    { name := "C", bases := [0], key := some "tool" }]

/-- `B` is still made for `A`, and its key is no longer listed; the entry points, of which there is
one registry, are listed as before. -/
theorem index_history_sampleInterfaces :
    let s := shipped.defineAll sampleInterfaces
    shipped.Definable sampleInterfaces ∧
    (s.Offers "tool" "x" ∧ ¬ s.Lists "tool" "x") ∧
    new s 5 "x" {} [] [] = .ok { implementation := 6, received := some ([], []) } ∧
    s.Lists "entry_point" "callable" := by
  intro s
  have definable : shipped.Definable sampleInterfaces := by decide +kernel
  obtain ⟨indexed, -, -, -, -⟩ := index_history sampleInterfaces definable
  refine ⟨definable, ⟨?_, fun hl => ?_⟩, ?_, ?_⟩
  · exact (indexed.offered "tool" "x").mpr (by decide +kernel)
  · have ends : State.changes {} (shippedDefinitions ++ sampleInterfaces) =
        [.founded "entry_point", .recorded "entry_point" "subprocess",
          .recorded "entry_point" "callable", .founded "tool", .recorded "tool" "x"] ++
          [.founded "tool"] := by decide +kernel
    have since := (indexed.listed "tool" "x").mp hl
    rw [ends, State.recordedSince_concat] at since
    simp at since
  · rfl
  · exact (indexed.listed "entry_point" "callable").mpr
      ⟨[.founded "entry_point", .recorded "entry_point" "subprocess"],
        [.founded "tool", .recorded "tool" "x", .founded "tool"], by decide +kernel,
        by decide⟩

end CompilerRunner.Registry
