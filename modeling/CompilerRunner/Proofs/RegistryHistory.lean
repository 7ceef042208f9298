import CompilerRunner.Registry
import Mathlib

/-!
# Proofs — RegistryHistory

What the registries hold after any sequence of class definitions.

A registry is reached through the order in which a class and its bases are searched, so
implementations serve as interfaces for classes derived from them, and a class with several bases
may reach several registries.

* `Grounded`: a class is searched before the classes that it is derived from, and all of these are
  older.  Hence later classes never change the registry that a class has or inherits.
* `carried_of_define`: what one definition makes of the registries (`Carried`).
* `Holds.defineAll`: after any sequence of definitions the registries hold what has been recorded in
  them last (`lastRecorded`), and nothing else.
* `registry_history`: these two, and what a request for an instance makes of it.
-/

namespace CompilerRunner.Registry

/-! ### The order of a class -/

theorem mem_of_mem_dropFront {orders : List (List ClassId)} {c d : ClassId} {order : List ClassId}
    (h : order ∈ dropFront orders c) (hd : d ∈ order) : ∃ o ∈ orders, d ∈ o := by
  obtain ⟨o, ho, rfl⟩ := List.mem_map.mp h
  refine ⟨o, ho, ?_⟩
  split at hd
  · exact List.mem_of_mem_drop hd
  · exact hd

theorem mem_of_next? {orders : List (List ClassId)} {c : ClassId} (h : next? orders = some c) :
    ∃ o ∈ orders, c ∈ o := by
  obtain ⟨o, ho, hc⟩ := List.mem_filterMap.mp (List.mem_of_find?_eq_some h)
  exact ⟨o, ho, List.mem_of_mem_head? hc⟩

theorem mem_of_merge {fuel : Nat} {orders : List (List ClassId)} {merged : List ClassId}
    (h : merge fuel orders = some merged) {c : ClassId} (hc : c ∈ merged) :
    ∃ o ∈ orders, c ∈ o := by
  induction fuel generalizing orders merged with
  | zero => cases h
  | succ fuel ih =>
      rw [merge] at h
      split at h
      · obtain rfl := Option.some.inj h
        cases hc
      · obtain ⟨first, hf, h⟩ := Option.bind_eq_some_iff.mp h
        obtain ⟨rest, hr, h⟩ := Option.bind_eq_some_iff.mp h
        obtain rfl := Option.some.inj h
        -- a class that is chosen heads an order; the others come from what is left of the orders
        rcases List.mem_cons.mp hc with rfl | hc
        · exact mem_of_next? hf
        · obtain ⟨o, ho, hco⟩ := ih hr hc
          exact mem_of_mem_dropFront ho hco

theorem exists_of_linearize {own : ClassId} {bases : List ClassId}
    {orderOf : ClassId → List ClassId} {order : List ClassId}
    (h : linearize own bases orderOf = some order) :
    ∃ rest, order = own :: rest ∧ ∀ c ∈ rest, c ∈ bases ∨ ∃ b ∈ bases, c ∈ orderOf b := by
  simp only [linearize] at h
  split at h
  · obtain ⟨rest, hr, rfl⟩ := Option.map_eq_some_iff.mp h
    refine ⟨rest, rfl, fun c hc => ?_⟩
    obtain ⟨o, ho, hco⟩ := mem_of_merge hr hc
    rcases List.mem_append.mp ho with ho | ho
    · obtain ⟨b, hb, rfl⟩ := List.mem_map.mp ho
      exact .inr ⟨b, hb, hco⟩
    · rw [List.mem_singleton] at ho
      exact .inl (ho ▸ hco)
  · cases h

namespace State

/-! ### One definition -/

variable {s s' : State} {d : Definition} {c o : ClassId} {key : String}

/-- Every class comes first in its own order, before classes that are older; and only classes that
exist own registries. -/
structure Grounded (s : State) : Prop where
  order : ∀ (c : ClassId) (k : Class), s.classes[c]? = some k →
    ∃ rest, k.order = c :: rest ∧ ∀ e ∈ rest, e < c
  owner : ∀ (o : ClassId) (k : Catalog), s.catalog? o = some k → o < s.classes.length

/-- The classes that a definition is derived from exist. -/
def HasBases (s : State) (d : Definition) : Prop := ∀ b ∈ d.bases, b < s.classes.length

/-- The state with the class that a definition makes, which is not registered yet. -/
def extend (s : State) (d : Definition) (order : List ClassId) : State :=
  { s with
    classes := s.classes ++
      [{ name := d.name, order, tracked := d.tracked, makesInstances := d.makesInstances
         construction := d.construction, behaviour := d.behaviour }]
    known := s.known.insert d.name s.classes.length }

/-- The owner of the registry that the first base with a registry has or inherits. -/
def host? (s : State) (d : Definition) : Option ClassId := d.bases.findSome? s.interface?

theorem define_eq_ok (h : s.define d = .ok s') :
    ∃ order, linearize s.classes.length d.bases s.orderOf = some order ∧
      s' = match d.key with
        | none => s.extend d order
        | some key => (s.extend d order).register s.classes.length d.bases key d.model := by
  simp only [define] at h
  split at h
  · cases h
  · next order hl =>
      refine ⟨order, hl, ?_⟩
      split at h <;> next hk => rw [hk]; exact (Except.ok.inj h).symm

theorem classes_register (bases : List ClassId) (model : Option Model) :
    (s.register c bases key model).classes = s.classes := by
  unfold register
  split <;> rfl

theorem classes_of_define (h : s.define d = .ok s') :
    ∃ order, linearize s.classes.length d.bases s.orderOf = some order ∧
      s'.classes = (s.extend d order).classes := by
  obtain ⟨order, hl, rfl⟩ := define_eq_ok h
  refine ⟨order, hl, ?_⟩
  split
  · rfl
  · exact classes_register _ _

theorem length_of_define (h : s.define d = .ok s') :
    s'.classes.length = s.classes.length + 1 := by
  obtain ⟨order, -, hc⟩ := classes_of_define h
  simp [hc, extend]

theorem getElem?_of_define (h : s.define d = .ok s') (hc : c < s.classes.length) :
    s'.classes[c]? = s.classes[c]? := by
  obtain ⟨order, -, hc'⟩ := classes_of_define h
  rw [hc', extend, List.getElem?_append_left hc]

theorem orderOf_congr (h : s'.classes[c]? = s.classes[c]?) : s'.orderOf c = s.orderOf c := by
  rw [orderOf, orderOf, h]

theorem owner?_congr (ho : s'.orderOf c = s.orderOf c)
    (h : ∀ e ∈ s.orderOf c, (s'.catalog? e).isSome = (s.catalog? e).isSome) :
    s'.owner? c = s.owner? c := by
  rw [owner?, owner?, ho]
  exact List.find?_congr h

theorem findSome?_congr {f g : ClassId → Option ClassId} {bases : List ClassId}
    (h : ∀ b ∈ bases, f b = g b) : bases.findSome? f = bases.findSome? g := by
  induction bases with
  | nil => rfl
  | cons b rest ih =>
      rw [List.findSome?_cons, List.findSome?_cons, h b List.mem_cons_self,
        ih fun c hc => h c (List.mem_cons_of_mem b hc)]

/-- The new class itself is not among the bases, so it makes no difference to what they have. -/
theorem host?_extend (order : List ClassId) (h : s.HasBases d) :
    d.bases.findSome? (s.extend d order).interface? = s.host? d := by
  refine findSome?_congr fun b hb => ?_
  have same : (s.extend d order).classes[b]? = s.classes[b]? := by
    rw [extend, List.getElem?_append_left (h b hb)]
  rw [interface?, interface?, same, owner?_congr (orderOf_congr same) fun _ _ => rfl]

theorem lookup_putEntry (catalogs : List (ClassId × Catalog)) (owner : ClassId) (r : Registered) :
    (putEntry catalogs owner key r).lookup o = (catalogs.lookup o).map fun k =>
      if o = owner then { k with entries := k.entries.insert key r } else k := by
  induction catalogs with
  | nil => rfl
  | cons e rest ih =>
      obtain ⟨c, k⟩ := e
      unfold putEntry at ih ⊢
      rw [List.map_cons, List.lookup_cons]
      by_cases hc : o = c
      · subst hc
        by_cases ho : o = owner <;> simp [ho]
      · by_cases ho : c = owner <;> simp [ho, List.lookup_cons, ih, beq_false_of_ne hc]
        · subst ho
          simp [beq_false_of_ne hc]

/-- What a definition that is carried out makes of the registries.  The class that it makes is the
next one, with the number of classes so far. -/
structure Carried (s : State) (d : Definition) (s' : State) : Prop where
  /-- Classes that exist keep the registry that they have or inherit. -/
  kept : ∀ c, c < s.classes.length → s'.owner? c = s.owner? c
  /-- Without a key the registries are as before. -/
  unkeyed : d.key = none → ∀ o, s'.catalog? o = s.catalog? o
  /-- With a key and a base that has a registry, the class and its model replace what is recorded
  under the key in the registry of the first such base, and nothing else. -/
  recorded : ∀ key owner, d.key = some key → s.host? d = some owner →
    (∃ before after, s.catalog? owner = some before ∧ s'.catalog? owner = some after ∧
      after.name = before.name ∧
      ∀ k, after.entries.get? k =
        if key = k then some ⟨s.classes.length, d.model⟩ else before.entries.get? k) ∧
    ∀ o, o ≠ owner → s'.catalog? o = s.catalog? o
  /-- With a key and no such base, the class alone has a new registry. -/
  founded : ∀ key, d.key = some key → s.host? d = none →
    s'.catalog? s.classes.length = some ⟨key, []⟩ ∧
    (∀ o, o ≠ s.classes.length → s'.catalog? o = s.catalog? o) ∧
    ∀ c, s'.owner? c = some s.classes.length ↔ c = s.classes.length

theorem isSome_catalog?_of_owner? (h : s.owner? c = some o) : ∃ k, s.catalog? o = some k :=
  Option.isSome_iff_exists.mp (List.find?_some (p := fun e => (s.catalog? e).isSome) h)

theorem isSome_catalog?_of_host? (h : s.host? d = some o) : ∃ k, s.catalog? o = some k := by
  obtain ⟨b, -, hb⟩ := List.exists_of_findSome?_eq_some h
  unfold interface? at hb
  split at hb
  · split at hb
    · exact isSome_catalog?_of_owner? hb
    · cases hb
  · cases hb

theorem catalog?_of_unkeyed (h : s.define d = .ok s') (hk : d.key = none) (o : ClassId) :
    s'.catalog? o = s.catalog? o := by
  obtain ⟨order, -, rfl⟩ := define_eq_ok h
  rw [hk]
  rfl

theorem catalog?_of_host (hb : s.HasBases d) (h : s.define d = .ok s') {owner : ClassId}
    (hk : d.key = some key) (ho : s.host? d = some owner) (o : ClassId) :
    s'.catalog? o = (s.catalog? o).map fun k =>
      if o = owner then { k with entries := k.entries.insert key ⟨s.classes.length, d.model⟩ }
      else k := by
  obtain ⟨order, -, rfl⟩ := define_eq_ok h
  have host := host?_extend order hb
  rw [ho] at host
  simp only [hk, register, host]
  exact lookup_putEntry s.catalogs owner _

theorem catalog?_of_no_host (hb : s.HasBases d) (h : s.define d = .ok s') (hk : d.key = some key)
    (ho : s.host? d = none) (o : ClassId) :
    s'.catalog? o = if o = s.classes.length then some ⟨key, []⟩ else s.catalog? o := by
  obtain ⟨order, -, rfl⟩ := define_eq_ok h
  have host := host?_extend order hb
  rw [ho] at host
  simp only [hk, register, host]
  show List.lookup o (_ :: s.catalogs) = _
  by_cases hc : o = s.classes.length <;>
    simp [hc, List.lookup_cons, catalog?, beq_false_of_ne]

theorem Grounded.le_of_mem_orderOf (hs : s.Grounded) {e : ClassId} (h : e ∈ s.orderOf c) :
    e ≤ c := by
  unfold orderOf at h
  split at h
  · next k hk =>
      obtain ⟨rest, horder, older⟩ := hs.order c k hk
      rw [horder] at h
      rcases List.mem_cons.mp h with rfl | h
      · exact le_refl e
      · exact (older e h).le
  · rw [List.mem_singleton.mp h]

theorem Grounded.catalog?_eq_none (hs : s.Grounded) (h : s.classes.length ≤ o) :
    s.catalog? o = none := by
  cases hk : s.catalog? o with
  | none => rfl
  | some k => exact absurd (hs.owner o k hk) (Nat.not_lt.mpr h)

/-- The new class comes first in its own order, before classes that are older. -/
theorem exists_order_of_define (hs : s.Grounded) (hb : s.HasBases d) (h : s.define d = .ok s') :
    ∃ k rest, s'.classes[s.classes.length]? = some k ∧ k.order = s.classes.length :: rest ∧
      ∀ e ∈ rest, e < s.classes.length := by
  obtain ⟨order, hl, hc⟩ := classes_of_define h
  obtain ⟨rest, rfl, hr⟩ := exists_of_linearize hl
  refine ⟨_, rest, by rw [hc, extend, List.getElem?_concat_length], rfl, fun e he => ?_⟩
  rcases hr e he with hm | ⟨b, hm, hbo⟩
  · exact hb e hm
  · exact (hs.le_of_mem_orderOf hbo).trans_lt (hb b hm)

/-- The registries after a definition are those before it and at most one of the new class. -/
theorem isSome_catalog?_of_define (hb : s.HasBases d) (h : s.define d = .ok s')
    (ho : o ≠ s.classes.length) : (s'.catalog? o).isSome = (s.catalog? o).isSome := by
  cases hk : d.key with
  | none => rw [catalog?_of_unkeyed h hk]
  | some key =>
      cases hh : s.host? d with
      | none => rw [catalog?_of_no_host hb h hk hh, if_neg ho]
      | some owner => rw [catalog?_of_host hb h hk hh, Option.isSome_map]

/-- Classes stay in order, whatever is defined. -/
theorem Grounded.define (hs : s.Grounded) (hb : s.HasBases d) (h : s.define d = .ok s') :
    s'.Grounded where
  order c k hk := by
    have hc : c < s'.classes.length := (List.getElem?_eq_some_iff.mp hk).1
    rw [length_of_define h] at hc
    rcases Nat.lt_succ_iff_lt_or_eq.mp hc with hlt | rfl
    · exact hs.order c k (getElem?_of_define h hlt ▸ hk)
    · obtain ⟨k', rest, hk', order, older⟩ := exists_order_of_define hs hb h
      obtain rfl : k' = k := Option.some.inj (hk'.symm.trans hk)
      exact ⟨rest, order, older⟩
  owner o k hk := by
    rw [length_of_define h]
    by_cases ho : o = s.classes.length
    · exact ho ▸ Nat.lt_succ_self _
    · have before : (s.catalog? o).isSome = true := by
        rw [← isSome_catalog?_of_define hb h ho, hk]
        rfl
      obtain ⟨k', hk'⟩ := Option.isSome_iff_exists.mp before
      exact Nat.lt_succ_of_lt (hs.owner o k' hk')

theorem owner?_of_define (hs : s.Grounded) (hb : s.HasBases d) (h : s.define d = .ok s')
    (hc : c < s.classes.length) : s'.owner? c = s.owner? c :=
  owner?_congr (orderOf_congr (getElem?_of_define h hc)) fun _ he =>
    isSome_catalog?_of_define hb h ((hs.le_of_mem_orderOf he).trans_lt hc).ne

/-- A new interface is alone in its registry. -/
theorem owner?_eq_some_length_iff (hs : s.Grounded) (hb : s.HasBases d) (h : s.define d = .ok s')
    (hk : d.key = some key) (ho : s.host? d = none) :
    s'.owner? c = some s.classes.length ↔ c = s.classes.length := by
  have own : s'.catalog? s.classes.length = some ⟨key, []⟩ := by
    rw [catalog?_of_no_host hb h hk ho, if_pos rfl]
  constructor
  · intro hc
    -- the owner stands in the order of the class, so the class is not older than it
    have hm : s.classes.length ∈ s'.orderOf c := List.mem_of_find?_eq_some hc
    have hle : s.classes.length ≤ c := (hs.define hb h).le_of_mem_orderOf hm
    by_contra hne
    have beyond : s'.classes[c]? = none := by
      rw [List.getElem?_eq_none_iff, length_of_define h]
      exact lt_of_le_of_ne hle (Ne.symm hne)
    rw [orderOf, beyond, List.mem_singleton] at hm
    exact hne hm.symm
  · rintro rfl
    obtain ⟨k, rest, hc, horder, -⟩ := exists_order_of_define hs hb h
    simp [owner?, orderOf, hc, horder, own]

/-- **One definition.** -/
theorem carried_of_define (hs : s.Grounded) (hb : s.HasBases d) (h : s.define d = .ok s') :
    s.Carried d s' where
  kept c hc := owner?_of_define hs hb h hc
  unkeyed hk o := catalog?_of_unkeyed h hk o
  recorded key owner hk ho := by
    obtain ⟨before, hbefore⟩ := isSome_catalog?_of_host? ho
    let after : Catalog :=
      { before with entries := before.entries.insert key ⟨s.classes.length, d.model⟩ }
    refine ⟨⟨before, after, hbefore, ?_, rfl, fun k => Table.get?_insert ..⟩, fun o hne => ?_⟩
    · rw [catalog?_of_host hb h hk ho, hbefore, Option.map_some, if_pos rfl]
    · rw [catalog?_of_host hb h hk ho, funext fun k => if_neg hne, Option.map_id']
  founded key hk ho := by
    refine ⟨?_, fun o hne => ?_, fun c => owner?_eq_some_length_iff hs hb h hk ho⟩
    · rw [catalog?_of_no_host hb h hk ho, if_pos rfl]
    · rw [catalog?_of_no_host hb h hk ho, if_neg hne]

/-! ### Sequences of definitions -/

/-- The state after a definition; one that is refused changes nothing. -/
def after (s : State) (d : Definition) : State := (s.define d).toOption.getD s

theorem after_of_ok (h : s.define d = .ok s') : s.after d = s' := by
  rw [after, h]
  rfl

theorem after_of_error {e : Crash} (h : s.define d = .error e) : s.after d = s := by
  rw [after, h]
  rfl

/-- The definitions are all of classes whose bases exist by then. -/
def Definable : State → List Definition → Prop
  | _, [] => True
  | s, d :: ds => s.HasBases d ∧ Definable (s.after d) ds

instance (s : State) (d : Definition) : Decidable (s.HasBases d) :=
  inferInstanceAs (Decidable (∀ b ∈ d.bases, b < s.classes.length))

instance decidableDefinable : (s : State) → (ds : List Definition) → Decidable (s.Definable ds)
  | _, [] => isTrue trivial
  | s, d :: ds =>
    have := decidableDefinable (s.after d) ds
    inferInstanceAs (Decidable (s.HasBases d ∧ (s.after d).Definable ds))

theorem Grounded.after (hs : s.Grounded) (hb : s.HasBases d) : (s.after d).Grounded := by
  cases h : s.define d with
  | error e => rwa [after_of_error h]
  | ok s' => exact after_of_ok h ▸ hs.define hb h

theorem Grounded.defineAll {ds : List Definition} (hs : s.Grounded) (hd : s.Definable ds) :
    (s.defineAll ds).Grounded := by
  induction ds generalizing s with
  | nil => exact hs
  | cons d rest ih => exact ih (hs.after hd.1) hd.2

/-! ### What has been recorded -/

/-- A class and its model, put under a key into the registry of the owner. -/
structure Recording where
  owner : ClassId
  key : String
  entry : Registered

/-- What the definition records in a registry that there is, if it is carried out. -/
def recording? (s : State) (d : Definition) : Option Recording :=
  match s.define d, d.key, s.host? d with
  | .ok _, some key, some owner => some ⟨owner, key, ⟨s.classes.length, d.model⟩⟩
  | _, _, _ => none

/-- What the definitions record, one after the other. -/
def recordings : State → List Definition → List Recording
  | _, [] => []
  | s, d :: ds => (s.recording? d).toList ++ recordings (s.after d) ds

theorem recordings_append (s : State) (ds ds' : List Definition) :
    s.recordings (ds ++ ds') = s.recordings ds ++ (s.defineAll ds).recordings ds' := by
  induction ds generalizing s with
  | nil => rfl
  | cons d rest ih =>
      rw [List.cons_append, recordings, recordings, ih, List.append_assoc]
      rfl

/-- What has been recorded last under the key in the registry of the owner. -/
def lastRecorded (history : List Recording) (owner : ClassId) (key : String) :
    Option Registered :=
  history.reverse.findSome? fun r =>
    if r.owner = owner ∧ r.key = key then some r.entry else none

theorem lastRecorded_append_toList (history : List Recording) (r : Option Recording)
    (owner : ClassId) (key : String) :
    lastRecorded (history ++ r.toList) owner key =
      (r.bind fun r => if r.owner = owner ∧ r.key = key then some r.entry else none).or
        (lastRecorded history owner key) := by
  cases r with
  | none => simp [lastRecorded]
  | some r =>
      rw [lastRecorded, Option.toList_some, List.reverse_append, List.reverse_singleton,
        List.singleton_append, List.findSome?_cons, Option.bind_some]
      split <;> next hr => rw [hr]; rfl

/-- The registries hold what has been recorded in them last, and nothing else. -/
def Holds (s : State) (history : List Recording) : Prop :=
  ∀ owner key,
    (s.catalog? owner).bind (fun k => k.entries.get? key) = lastRecorded history owner key

/-- **One step of the history.** -/
theorem Holds.after {history : List Recording} (h : s.Holds history) (hs : s.Grounded)
    (hb : s.HasBases d) : (s.after d).Holds (history ++ (s.recording? d).toList) := by
  intro owner key
  rw [lastRecorded_append_toList, ← h owner key]
  cases hd : s.define d with
  | error e => simp [after_of_error hd, recording?, hd]
  | ok s' =>
      rw [after_of_ok hd]
      cases hk : d.key with
      | none => simp [recording?, hk, catalog?_of_unkeyed hd hk]
      | some own =>
          cases ho : s.host? d with
          | none =>
              -- a new registry is empty, and nothing can have been recorded in it before
              rw [catalog?_of_no_host hb hd hk ho]
              by_cases hne : owner = s.classes.length
              · simp [recording?, ho, hne, hs.catalog?_eq_none (le_refl s.classes.length)]
              · simp [recording?, ho, hne]
          | some host =>
              obtain ⟨before, hbefore⟩ := isSome_catalog?_of_host? ho
              -- only this registry is written to, and there only this key
              rw [catalog?_of_host hb hd hk ho]
              by_cases hne : owner = host
              · subst hne
                by_cases hkey : own = key <;>
                  simp [recording?, hd, hk, ho, hbefore, Table.get?_insert, hkey]
              · simp [recording?, hd, hk, ho, hne, Ne.symm hne]

/-- **The whole history.** -/
theorem Holds.defineAll {ds : List Definition} {history : List Recording} (h : s.Holds history)
    (hs : s.Grounded) (hd : s.Definable ds) :
    (s.defineAll ds).Holds (history ++ s.recordings ds) := by
  induction ds generalizing s history with
  | nil => simpa [recordings, State.defineAll] using h
  | cons d rest ih =>
      have rest' := ih (h.after hs hd.1) (hs.after hd.1) hd.2
      rwa [List.append_assoc] at rest'

/-- Instances can be asked for by a key: the class has or inherits what makes them. -/
def MakesInstances (s : State) (c : ClassId) : Prop :=
  ((s.orderOf c).any fun e => (s.classes[e]?).any Class.makesInstances) = true

end State

/-! ### Instances -/

/-- What the settings configure a class with, by the model that it is registered with. -/
def configuredBy (model : Option Model) (settings : Settings) (registry key : String) :
    Except Rejection Configured :=
  match model with
  | none => .ok (.values [])
  | some m =>
    m.check settings.currentDirectory (Settings.entriesOf (settings.configuration registry key))

/-- What becomes of a request for an instance, by the entry under the key. -/
theorem new_eq {s : State} {interface owner : ClassId} {catalog : Catalog}
    (hm : s.MakesInstances interface) (ho : s.owner? interface = some owner)
    (hc : s.catalog? owner = some catalog) (key : String) (settings : Settings)
    (arguments : List Value) (named : Table Value) :
    new s interface key settings arguments named =
      match catalog.entries.get? key with
      | none => .error (.settings (.unknownKey catalog.name key (State.sortedKeys catalog)))
      | some r =>
        match configuredBy r.model settings catalog.name key with
        | .error rejection =>
          .error (.settings (.invalidConfiguration catalog.name key rejection))
        | .ok configured => make s r.implementation arguments named configured := by
  have found : (s.owner? interface).bind s.catalog? = some catalog := by rw [ho]; exact hc
  unfold State.MakesInstances at hm
  simp only [new, hm, found]
  cases catalog.entries.get? key with
  | none => rfl
  | some r =>
      obtain ⟨implementation, model⟩ := r
      cases model with
      | none => rfl
      | some m =>
          simp only [configuredBy]
          cases m.check settings.currentDirectory
            (Settings.entriesOf (settings.configuration catalog.name key)) <;> rfl

/-- Making an instance finds no fault with the settings. -/
theorem make_ne_settings (s : State) (c : ClassId) (arguments : List Value) (named : Table Value)
    (configured : Configured) (fault : SettingsFault) :
    make s c arguments named configured ≠ .error (.settings fault) := by
  intro h
  dsimp only [make] at h
  split at h
  · next _ e _ =>
      split at h
      · rcases hc : e.checked <;> rw [hc] at h <;> cases h
      · cases h
  · next _ t _ =>
      rcases hj : joinNames named t with f | all
      · rw [hj] at h
        obtain rfl : f = .settings fault := Except.error.inj h
        unfold joinNames at hj
        split at hj <;> cases hj
      · rw [hj] at h
        split at h <;> cases h
  · split at h <;> cases h
  · cases h

/-! ### The shipped classes and all that are defined after them -/

theorem grounded_empty : ({} : State).Grounded where
  order c k hk := by simp at hk
  owner o k hk := by simp [State.catalog?] at hk

theorem holds_empty : ({} : State).Holds [] := fun _ _ => rfl

theorem definable_shipped : State.Definable {} shippedDefinitions := by decide +kernel

theorem grounded_shipped : shipped.Grounded := grounded_empty.defineAll definable_shipped

/-- After further definitions the registries hold what these and the shipped ones have recorded. -/
theorem holds_defineAll {ds : List Definition} (h : shipped.Definable ds) :
    (shipped.defineAll ds).Holds (State.recordings {} (shippedDefinitions ++ ds)) := by
  have start : shipped.Holds (State.recordings {} shippedDefinitions) :=
    holds_empty.defineAll grounded_empty definable_shipped
  rw [State.recordings_append]
  exact start.defineAll grounded_shipped h

/-- **The registries and their history.**  After any definitions that follow the shipped ones, a
refused definition changes nothing, and one that is carried out changes the registries as `Carried`
says.  A request for an instance is refused for an unknown key exactly where nothing has been
recorded under the key in the registry that the interface has or inherits; otherwise it goes by the
class and the model that have been recorded there last, and the settings are at fault only if that
model rejects the configuration. -/
theorem registry_history (ds : List Definition) (h : shipped.Definable ds) :
    let s := shipped.defineAll ds
    let history := State.recordings {} (shippedDefinitions ++ ds)
    (∀ d, s.HasBases d →
      (∀ e, s.define d = .error e → s.after d = s) ∧
      ∀ s', s.define d = .ok s' → s.after d = s' ∧ s.Carried d s') ∧
    ∀ interface owner catalog, s.MakesInstances interface → s.owner? interface = some owner →
      s.catalog? owner = some catalog → ∀ key settings arguments named,
      (State.lastRecorded history owner key = none →
        new s interface key settings arguments named =
          .error (.settings (.unknownKey catalog.name key (State.sortedKeys catalog)))) ∧
      (∀ r, State.lastRecorded history owner key = some r →
        (∀ rejection, configuredBy r.model settings catalog.name key = .error rejection →
          new s interface key settings arguments named =
            .error (.settings (.invalidConfiguration catalog.name key rejection))) ∧
        ∀ configured, configuredBy r.model settings catalog.name key = .ok configured →
          new s interface key settings arguments named =
            make s r.implementation arguments named configured) ∧
      ((∃ fault, new s interface key settings arguments named = .error (.settings fault)) ↔
        State.lastRecorded history owner key = none ∨
        ∃ r rejection, State.lastRecorded history owner key = some r ∧
          configuredBy r.model settings catalog.name key = .error rejection) := by
  intro s history
  have grounded : s.Grounded := grounded_shipped.defineAll h
  have holds : s.Holds history := holds_defineAll h
  refine ⟨fun d hb => ⟨fun e he => State.after_of_error he, fun s' hs' =>
    ⟨State.after_of_ok hs', State.carried_of_define grounded hb hs'⟩⟩, ?_⟩
  intro interface owner catalog hm ho hc key settings arguments named
  have found : catalog.entries.get? key = State.lastRecorded history owner key := by
    rw [← holds owner key, hc, Option.bind_some]
  have outcome := new_eq hm ho hc key settings arguments named
  rw [found] at outcome
  refine ⟨fun hn => by rw [outcome, hn], fun r hr => ⟨fun rejection hj => ?_, fun x hx => ?_⟩, ?_⟩
  · rw [outcome, hr]
    simp only [hj]
  · rw [outcome, hr]
    simp only [hx]
  · rw [outcome]
    cases hl : State.lastRecorded history owner key with
    | none => simp
    | some r =>
        cases hj : configuredBy r.model settings catalog.name key with
        | error rejection => simp [hj]
        | ok x => simp [hj, make_ne_settings]

/-! ### A class whose model rejects the configuration -/

/-- A function is registered, and without a target it cannot be configured: the settings are at
fault although there is a class under the key. -/
theorem new_callable_rejected :
    State.lastRecorded (State.recordings {} shippedDefinitions) 1 "callable" =
      some ⟨3, some (.entryPoint .callable)⟩ ∧
    ∃ fault, new shipped 1 "callable" {} [] [] = .error (.settings fault) :=
  ⟨rfl, .invalidConfiguration _ _ ⟨CallTarget.recordTitle, [⟨[.name "target"], .missing⟩]⟩, rfl⟩

/-! ### A key that is taken over -/

/-- An implementation `A` of the entry points under `k`; an interface `I` of its own; `B`, derived
from both interfaces, under `k`; a class whose bases have no common order; and `C`, which takes the
place of `A`. -/
def sampleDefinitions : List Definition :=
  [{ name := "A", bases := [1], key := some "k", construction := some .recording
     behaviour := some .counting },
    { name := "I", bases := [0], key := some "tool" },
    { name := "B", bases := [6, 1], key := some "k", construction := some .recording
      behaviour := some .counting },
    { name := "D", bases := [0, 6], key := some "k" },
    { name := "C", bases := [1], key := some "k", construction := some .recording
      behaviour := some .counting }]

/-- `C` is made for the entry points, `B` for the other interface, whose registry has no other
key. -/
theorem registry_history_sampleDefinitions :
    let s := shipped.defineAll sampleDefinitions
    new s 1 "k" {} [] [] = .ok { implementation := 8, received := some ([], []) } ∧
    new s 6 "k" {} [] [] = .ok { implementation := 7, received := some ([], []) } ∧
    new s 6 "x" {} [] [] = .error (.settings (.unknownKey "tool" "x" ["k"])) := by
  intro s
  have definable : shipped.Definable sampleDefinitions := by decide +kernel
  have makes (c : ClassId) (h : c = 1 ∨ c = 6) : s.MakesInstances c := by
    rcases h with rfl | rfl <;> unfold State.MakesInstances <;> decide +kernel
  obtain ⟨-, made⟩ := registry_history sampleDefinitions definable
  have entryPoints := made 1 1 ⟨"entry_point", _⟩ (makes 1 (.inl rfl)) (by decide +kernel) rfl
  have tools := made 6 6 ⟨"tool", [("k", ⟨7, none⟩)]⟩ (makes 6 (.inr rfl)) (by decide +kernel) rfl
  refine ⟨?_, ?_, ?_⟩
  · exact ((entryPoints "k" {} [] []).2.1 ⟨8, none⟩ rfl).2 _ rfl
  · exact ((tools "k" {} [] []).2.1 ⟨7, none⟩ rfl).2 _ rfl
  · have keys : State.sortedKeys ⟨"tool", [("k", ⟨7, none⟩)]⟩ = ["k"] := by decide +kernel
    exact keys ▸ (tools "x" {} [] []).1 rfl

end CompilerRunner.Registry
