import CompilerRunner.Package.Walk
import CompilerRunner.Proofs.ModuleImport
import Mathlib

/-!
# Proofs — PackageImport

What the import of a package with everything in it reaches.  It looks behind each package in it by
importing its bare name, which may be that of a module anywhere.

* `Listed`, `Visited`: the entries that a walk through a directory comes across, and the names that
  are imported for what is in the package.  `Touched` are these names, the bare names of the
  packages among the entries, and whatever modules of touched names import.
* `importTree_follows`: a walk loads nothing else, and nothing else makes a difference to it.
* `Clear`, `Touched.own`, `agree_touched`: if no bare name is that of a module elsewhere, it stays
  with the package and with what its modules import.
* `visit_ok`, `importTree_ok`: a walk that ends well has tried every bare name.
* `importPackage_reaches`: all of this together, and that a module that fails under a bare name
  makes the walk fail.
-/

namespace CompilerRunner.Package

/-! ### One step after another -/

/-- The search behind an entry that is a package: its bare name is imported, and if that is a
module, its directory is walked through. -/
def searchBehind (c : Catalogue) (loaded : Loaded) (tree : Name) (within : tree.length ≤ c.depth)
    (bare : Name) : Progress :=
  match importAsked c loaded bare with
  | (loaded, none) =>
    match c.find? bare with
    | none => (loaded, none)
    | some m => visit c loaded tree within bare bare m.entries
  | (loaded, some fault) =>
    if fault.isImportFailure then (loaded, none) else (loaded, some fault)

section Steps

variable {c : Catalogue} {loaded : Loaded} {tree directory stem : Name} {m : Module}
  {within : tree.length ≤ c.depth} {e : Entry} {rest : List Entry}

theorem importTree_of_missing (h : c.find? tree = none) :
    importTree c loaded tree = importName c loaded tree := by
  rw [importTree]
  rcases importName c loaded tree with ⟨l, _ | fault⟩
  · dsimp only
    split
    · rfl
    · next hm => rw [h] at hm; cases hm
  · rfl

theorem importTree_of_find? (h : c.find? tree = some m) (within : tree.length ≤ c.depth) :
    importTree c loaded tree = (importName c loaded tree).andThen fun l =>
      visit c l tree within tree [] m.entries := by
  rw [importTree]
  rcases importName c loaded tree with ⟨l, _ | fault⟩
  · dsimp only
    split
    · next hm => rw [h] at hm; cases hm
    · next m' hm =>
        obtain rfl := Option.some.inj (h.symm.trans hm)
        rfl
  · rfl

theorem visit_nil : visit c loaded tree within directory stem [] = (loaded, none) := by rw [visit]

theorem searchBehind_of_fault {bare : Name} {l : Loaded} {fault : ImportFault}
    (h : importAsked c loaded bare = (l, some fault)) :
    searchBehind c loaded tree within bare =
      if fault.isImportFailure then (l, none) else (l, some fault) := by
  simp only [searchBehind, h]

theorem searchBehind_of_missing {bare : Name} {l : Loaded}
    (h : importAsked c loaded bare = (l, none)) (hm : c.find? bare = none) :
    searchBehind c loaded tree within bare = (l, none) := by
  simp only [searchBehind, h, hm]

theorem searchBehind_of_find? {bare : Name} {l : Loaded}
    (h : importAsked c loaded bare = (l, none)) (hm : c.find? bare = some m) :
    searchBehind c loaded tree within bare = visit c l tree within bare bare m.entries := by
  simp only [searchBehind, h, hm]

theorem visit_cons : visit c loaded tree within directory stem (e :: rest) =
    (if directory = tree then importTree c loaded (tree ++ stem ++ [e.name])
      else (loaded, none)).andThen fun l =>
    (if e.isPackage then searchBehind c l tree within (stem ++ [e.name])
      else (l, none)).andThen fun l =>
    visit c l tree within directory stem rest := by
  let next (r : Progress) : Progress := r.andThen fun l => visit c l tree within directory stem rest
  rw [visit]
  rcases (if directory = tree then importTree c loaded (tree ++ stem ++ [e.name])
    else (loaded, none)) with ⟨l, _ | fault⟩
  · show _ = next (if e.isPackage then searchBehind c l tree within (stem ++ [e.name])
      else (l, none))
    dsimp only
    split
    · cases hi : importAsked c l (stem ++ [e.name]) with
      | mk l' outcome =>
          cases outcome with
          | none =>
              dsimp only
              split
              · next hm => exact congrArg next (searchBehind_of_missing hi hm).symm
              · next m hm => exact congrArg next (searchBehind_of_find? hi hm).symm
          | some fault =>
              rw [searchBehind_of_fault hi]
              dsimp only
              split
              · rfl
              · rfl
    · rfl
  · rfl

end Steps

/-! ### What a walk comes across -/

/-- The walk through a module's directory comes across an entry of a directory, and lists it under a
stem. -/
inductive Listed (c : Catalogue) (tree : Name) : (directory stem : Name) → Entry → Prop where
  | own {m : Module} {e : Entry} (hm : c.find? tree = some m) (he : e ∈ m.entries) :
      Listed c tree tree [] e
  | behind {directory stem : Name} {e e' : Entry} {m : Module}
      (outer : Listed c tree directory stem e) (package : e.isPackage = true)
      (hm : c.find? (stem ++ [e.name]) = some m) (he : e' ∈ m.entries) :
      Listed c tree (stem ++ [e.name]) (stem ++ [e.name]) e'

/-- The import of everything in a package imports a name for what is in it. -/
inductive Visited (c : Catalogue) (p : Name) : Name → Prop where
  | root : Visited c p p
  | entry {tree stem : Name} {e : Entry} (outer : Visited c p tree)
      (listed : Listed c tree tree stem e) : Visited c p (tree ++ stem ++ [e.name])

theorem Visited.inside {c : Catalogue} {p tree : Name} (h : Visited c p tree) : p <+: tree := by
  induction h with
  | root => exact List.prefix_rfl
  | entry _ _ ih =>
      rw [List.append_assoc]
      exact ih.trans (List.prefix_append _ _)

theorem Visited.ne_nil {c : Catalogue} {p tree : Name} (h : Visited c p tree) (hp : p ≠ []) :
    tree ≠ [] := by
  rintro rfl
  exact hp (List.prefix_nil.mp h.inside)

/-- The import of everything in a package can reach the name: by itself, or through what it
imports. -/
inductive Touched (c : Catalogue) (p : Name) : Name → Prop where
  | tree {tree k : Name} (visited : Visited c p tree) (hk : k ∈ lineage tree) : Touched c p k
  | bare {tree directory stem k : Name} {e : Entry} (visited : Visited c p tree)
      (listed : Listed c tree directory stem e) (package : e.isPackage = true)
      (hk : k ∈ lineage (stem ++ [e.name])) : Touched c p k
  | imported {n k : Name} {m : Module} (touched : Touched c p n) (hm : c.find? n = some m)
      (hk : k ∈ m.imported) : Touched c p k

/-- An error that is raised is raised by a module of one of the names. -/
def Raised (c : Catalogue) (names : Name → Prop) : ImportFault → Prop
  | .failed kind => ∃ n m, names n ∧ c.find? n = some m ∧ .fail kind ∈ m.source
  | .noModule _ | .noMember => True

/-- The names that a walk touches, and the errors of modules of these names. -/
def touched (c : Catalogue) (p : Name) : Region := ⟨Touched c p, Raised c (Touched c p)⟩

theorem closed_touched (c : Catalogue) (p : Name) : Closed c (touched c p) := by
  refine ⟨fun _ _ => trivial, fun n m hn hm line hl => ⟨fun k hk => ?_, fun fault hf => ?_⟩⟩
  · exact .imported hn hm (List.mem_flatMap.mpr ⟨line, hl, hk⟩)
  · cases line with
    | importName n => cases hf
    | importSibling s =>
        obtain rfl := List.mem_singleton.mp hf
        trivial
    | bind s => cases hf
    | fail kind =>
        obtain rfl := List.mem_singleton.mp hf
        exact ⟨n, m, hn, hm, hl⟩

/-! ### The walk stays with what it touches -/

/-- The outcome is that of the same step in another catalogue, and the step stays with what the walk
touches. -/
structure Follows (c : Catalogue) (p : Name) (loaded : Loaded) (r r' : Progress) : Prop where
  confined : Confined c (touched c p) loaded r
  same : r' = r

section Walk

variable {c c' : Catalogue} {p : Name} {loaded : Loaded} {r r' : Progress}
  {next next' : Loaded → Progress}

theorem Follows.refl (c : Catalogue) (p : Name) (loaded : Loaded) :
    Follows c p loaded (loaded, none) (loaded, none) :=
  ⟨.refl c _ loaded, rfl⟩

theorem Follows.andThen (h : Follows c p loaded r r')
    (hn : ∀ l, r = (l, none) → Follows c p l (next l) (next' l)) :
    Follows c p loaded (r.andThen next) (r'.andThen next') := by
  refine ⟨h.confined.andThen fun l hl => (hn l hl).confined, ?_⟩
  rw [h.same]
  obtain ⟨l, _ | fault⟩ := r
  · exact (hn l rfl).same
  · rfl

theorem importName_follows (agree : Agree c c' (touched c p)) {n : Name}
    (hn : ∀ k ∈ lineage n, Touched c p k) (loaded : Loaded) :
    Follows c p loaded (importName c loaded n) (importName c' loaded n) :=
  ⟨importName_confined (closed_touched c p) hn loaded,
    importName_congr (closed_touched c p) hn agree loaded⟩

theorem importAsked_follows (agree : Agree c c' (touched c p)) {n : Name}
    (hn : ∀ k ∈ lineage n, Touched c p k) (loaded : Loaded) :
    Follows c p loaded (importAsked c loaded n) (importAsked c' loaded n) :=
  ⟨importAsked_confined (closed_touched c p) hn loaded,
    importAsked_congr (closed_touched c p) hn agree loaded⟩

/-- What a search passes over does not matter to what follows. -/
theorem searchBehind_follows (agree : Agree c c' (touched c p)) {tree bare : Name}
    (hne : bare ≠ []) (hb : ∀ k ∈ lineage bare, Touched c p k) (within : tree.length ≤ c.depth)
    (within' : tree.length ≤ c'.depth)
    (inside : ∀ l m, c.find? bare = some m → Follows c p l
      (visit c l tree within bare bare m.entries) (visit c' l tree within' bare bare m.entries)) :
    Follows c p loaded (searchBehind c loaded tree within bare)
      (searchBehind c' loaded tree within' bare) := by
  obtain ⟨confined, same⟩ := importAsked_follows agree hb loaded
  have found : c'.find? bare = c.find? bare := agree bare (hb bare (self_mem_lineage hne))
  cases hi : importAsked c loaded bare with
  | mk l outcome =>
      rw [hi] at confined same
      cases outcome with
      | none =>
          cases hm : c.find? bare with
          | none =>
              rw [searchBehind_of_missing hi hm, searchBehind_of_missing same (found.trans hm)]
              exact ⟨confined, rfl⟩
          | some m =>
              rw [searchBehind_of_find? hi hm, searchBehind_of_find? same (found.trans hm)]
              obtain ⟨further, same⟩ := inside l m hm
              exact ⟨confined.trans further, same⟩
      | some fault =>
          rw [searchBehind_of_fault hi, searchBehind_of_fault same]
          split
          · exact ⟨⟨confined.loads, nofun⟩, rfl⟩
          · exact ⟨confined, rfl⟩

/-- The walk through a directory, given that the trees below it are imported as they should be.  The
induction is on the room that is left for the stem, and then on the entries. -/
theorem visit_follows (agree : Agree c c' (touched c p)) {tree : Name}
    (visited : Visited c p tree) (within : tree.length ≤ c.depth) (within' : tree.length ≤ c'.depth)
    (below : ∀ n l, tree.length < n.length → Visited c p n →
      Follows c p l (importTree c l n) (importTree c' l n))
    {directory stem : Name} {entries : List Entry}
    (listed : ∀ e ∈ entries, Listed c tree directory stem e) (loaded : Loaded) :
    Follows c p loaded (visit c loaded tree within directory stem entries)
      (visit c' loaded tree within' directory stem entries) := by
  induction hk : c.depth + 1 - stem.length using Nat.strong_induction_on
    generalizing directory stem entries loaded with
  | _ room ih =>
      induction entries generalizing loaded with
      | nil =>
          rw [visit_nil, visit_nil]
          exact .refl c p loaded
      | cons e rest more =>
          obtain ⟨here, others⟩ := List.forall_mem_cons.mp listed
          rw [visit_cons, visit_cons]
          refine .andThen ?_ fun l _ => .andThen ?_ fun l _ => more others l
          · split
            · next same =>
                subst same
                exact below _ loaded (by simp) (.entry visited here)
            · exact .refl c p loaded
          · split
            · next package =>
                refine searchBehind_follows agree (by simp)
                  (fun k hk => .bare visited here package hk) within within' fun l m hm => ?_
                have fits := Catalogue.length_le_depth_of_find? hm
                refine ih _ ?_ (fun e' he => .behind here package hm he) l rfl
                rw [List.length_append, List.length_singleton] at fits ⊢
                omega
            · exact .refl c p l

/-- **The import of everything in a package stays with what it touches, and sees nothing else.** -/
theorem importTree_follows (hp : p ≠ []) (agree : Agree c c' (touched c p)) {tree : Name}
    (visited : Visited c p tree) (loaded : Loaded) :
    Follows c p loaded (importTree c loaded tree) (importTree c' loaded tree) := by
  induction hk : c.depth + 1 - tree.length using Nat.strong_induction_on
    generalizing tree loaded with
  | _ room ih =>
      have own : Follows c p loaded (importName c loaded tree) (importName c' loaded tree) :=
        importName_follows agree (fun k hk => .tree visited hk) loaded
      have found : c'.find? tree = c.find? tree :=
        agree tree (.tree visited (self_mem_lineage (visited.ne_nil hp)))
      cases hm : c.find? tree with
      | none =>
          rw [importTree_of_missing hm, importTree_of_missing (found.trans hm)]
          exact own
      | some m =>
          have within : tree.length ≤ c.depth := Catalogue.length_le_depth_of_find? hm
          have within' : tree.length ≤ c'.depth :=
            Catalogue.length_le_depth_of_find? (found.trans hm)
          rw [importTree_of_find? hm within, importTree_of_find? (found.trans hm) within']
          refine own.andThen fun l _ => visit_follows agree visited within within'
            (fun n l longer hn => ?_) (fun e he => .own hm he) l
          exact ih _ (by omega) hn l rfl

end Walk

/-! ### Packages whose bare names are not taken -/

/-- The name is that of the package, of a module in it or of a package around it. -/
def Near (p n : Name) : Prop := p <+: n ∨ n ∈ lineage p

/-- The name is near the package, or what is imported by modules near the package leads to it. -/
inductive Own (c : Catalogue) (p : Name) : Name → Prop where
  | near {n : Name} (near : Near p n) : Own c p n
  | imported {n k : Name} {m : Module} (own : Own c p n) (hm : c.find? n = some m)
      (hk : k ∈ m.imported) : Own c p k

/-- No module elsewhere has the bare name of a package that a walk comes across. -/
def Clear (c : Catalogue) (p : Name) : Prop :=
  ∀ tree directory stem e, Visited c p tree → Listed c tree directory stem e →
    e.isPackage = true → ∀ m, c.find? (stem ++ [e.name]) = some m → Near p (stem ++ [e.name])

section Clear

variable {c c' : Catalogue} {p n k tree directory stem : Name} {e : Entry} {m : Module}

theorem Near.of_mem_lineage (h : Near p n) (hk : k ∈ lineage n) : Near p k := by
  obtain ⟨hne, hk⟩ := mem_lineage_iff.mp hk
  rcases h with hp | hn
  · rcases List.prefix_or_prefix_of_prefix hp hk with hp | hk
    · exact .inl hp
    · exact .inr (mem_lineage_iff.mpr ⟨hne, hk⟩)
  · exact .inr (mem_lineage_iff.mpr ⟨hne, hk.trans (mem_lineage_iff.mp hn).2⟩)

theorem Visited.near (h : Visited c p tree) : Near p tree := .inl h.inside

/-- What has been listed behind a bare name has been found under it. -/
theorem near_stem (clear : Clear c p) (visited : Visited c p tree)
    (h : Listed c tree directory stem e) (hne : stem ≠ []) : Near p stem := by
  cases h with
  | own => exact absurd rfl hne
  | behind outer package hm _ => exact clear _ _ _ _ visited outer package _ hm

/-- If no bare name is taken, what a walk touches and finds is its own. -/
theorem Touched.own (clear : Clear c p) (h : Touched c p n) (hm : c.find? n = some m) :
    Own c p n := by
  induction h generalizing m with
  | tree visited hk => exact .near (visited.near.of_mem_lineage hk)
  | @bare tree directory stem k e visited listed package hk =>
      obtain ⟨hne, hk⟩ := mem_lineage_iff.mp hk
      -- It is the bare name itself, or above the stem, which was found before.
      rcases List.prefix_concat_iff.mp hk with rfl | hk
      · exact .near (clear _ _ _ _ visited listed package m hm)
      · have outer : stem ≠ [] := fun h => hne (List.prefix_nil.mp (h ▸ hk))
        exact .near ((near_stem clear visited listed outer).of_mem_lineage
          (mem_lineage_iff.mpr ⟨hne, hk⟩))
  | imported _ hm' hk ih => exact .imported (ih hm') hm' hk

theorem Own.transfer (agree : ∀ n, Own c p n → c'.find? n = c.find? n) (h : Own c' p n) :
    Own c p n := by
  induction h with
  | near h => exact .near h
  | imported _ hm hk ih => exact .imported ih ((agree _ ih).symm.trans hm) hk

theorem Listed.transfer (clear : Clear c p) (agree : ∀ n, Own c p n → c'.find? n = c.find? n)
    (visited : Visited c p tree) (h : Listed c tree directory stem e) :
    Listed c' tree directory stem e := by
  induction h with
  | own hm he => exact .own ((agree tree (.near visited.near)).trans hm) he
  | behind outer package hm he ih =>
      have near := clear _ _ _ _ visited outer package _ hm
      exact .behind ih package ((agree _ (.near near)).trans hm) he

theorem Visited.transfer (clear : Clear c p) (agree : ∀ n, Own c p n → c'.find? n = c.find? n)
    (h : Visited c p tree) : Visited c' p tree := by
  induction h with
  | root => exact .root
  | entry outer listed ih => exact .entry ih (listed.transfer clear agree outer)

theorem Touched.transfer (clear : Clear c p) (agree : ∀ n, Own c p n → c'.find? n = c.find? n)
    (h : Touched c p n) : Touched c' p n := by
  induction h with
  | tree visited hk => exact .tree (visited.transfer clear agree) hk
  | bare visited listed package hk =>
      exact .bare (visited.transfer clear agree) (listed.transfer clear agree visited) package hk
  | imported touched hm hk ih =>
      exact .imported ih ((agree _ (touched.own clear hm)).trans hm) hk

/-- Where bare names are not taken, what is a package's own is all that catalogues have to agree
on. -/
theorem agree_touched (clear : Clear c p) (clear' : Clear c' p)
    (agree : ∀ n, Own c p n → c'.find? n = c.find? n) : Agree c c' (touched c p) := by
  intro n hn
  cases hm : c.find? n with
  | some m => exact (agree n (hn.own clear hm)).trans hm
  | none =>
      -- What is found there is the package's own there, and so it is here.
      by_contra found
      obtain ⟨m, hm'⟩ := Option.ne_none_iff_exists'.mp found
      have own : Own c' p n := (hn.transfer clear agree).own clear' hm'
      exact found ((agree n (own.transfer agree)).trans hm)

end Clear

/-! ### What is imported if nothing goes wrong -/

/-- A module of the package's tree, under its dotted name. -/
inductive InTree (c : Catalogue) (p : Name) : Name → Prop where
  | root : InTree c p p
  | entry {n : Name} {m : Module} {e : Entry} (outer : InTree c p n) (hm : c.find? n = some m)
      (he : e ∈ m.entries) : InTree c p (n ++ [e.name])

/-- On the way from what is loaded to what is loaded after it, the name was imported, or it was seen
that it cannot be. -/
def Tried (c : Catalogue) (loaded after : Loaded) (n : Name) : Prop :=
  ∃ l, loaded <:+ l ∧ (importAsked c l n).1 <:+ after ∧
    ∀ fault, (importAsked c l n).2 = some fault → fault.isImportFailure = true

section Success

variable {c : Catalogue} {p tree directory stem : Name} {loaded after l : Loaded} {e : Entry}
  {m : Module}

theorem InTree.visited {n : Name} (h : InTree c p n) : Visited c p n := by
  induction h with
  | root => exact .root
  | @entry n m e outer hm he ih =>
      have listed := Visited.entry ih (.own hm he)
      rwa [List.append_nil] at listed

theorem Tried.mono {loaded' after' : Loaded} {n : Name} (h : Tried c loaded after n)
    (hl : loaded' <:+ loaded) (ha : after <:+ after') : Tried c loaded' after' n := by
  obtain ⟨l, before, later, ends⟩ := h
  exact ⟨l, hl.trans before, later.trans ha, ends⟩

/-- A walk keeps what is loaded. -/
theorem suffix_visit (hp : p ≠ []) (visited : Visited c p tree) (within : tree.length ≤ c.depth)
    {entries : List Entry} (listed : ∀ e ∈ entries, Listed c tree directory stem e)
    (loaded : Loaded) :
    loaded <:+ (visit c loaded tree within directory stem entries).1 :=
  (visit_follows (fun _ _ => rfl) visited within within
    (fun _ l _ hn => importTree_follows hp (fun _ _ => rfl) hn l) listed loaded).confined.suffix

theorem suffix_importTree (hp : p ≠ []) (visited : Visited c p tree) (loaded : Loaded) :
    loaded <:+ (importTree c loaded tree).1 :=
  (importTree_follows hp (fun _ _ => rfl) visited loaded).confined.suffix

section Kept

variable (hp : p ≠ []) (visited : Visited c p tree) (here : Listed c tree directory stem e)
  (within : tree.length ≤ c.depth) (loaded : Loaded)
include hp visited here

/-- The import of an entry's own tree keeps what is loaded. -/
theorem suffix_entryTree : loaded <:+
    (if directory = tree then importTree c loaded (tree ++ stem ++ [e.name])
      else (loaded, none)).1 := by
  split
  · next same =>
      subst same
      exact suffix_importTree hp (.entry visited here) loaded
  · exact List.suffix_rfl

/-- The search behind an entry keeps what is loaded. -/
theorem suffix_entrySearch : loaded <:+
    (if e.isPackage then searchBehind c loaded tree within (stem ++ [e.name])
      else (loaded, none)).1 := by
  split
  · next package =>
      exact (searchBehind_follows (fun _ _ => rfl) (by simp)
        (fun k hk => .bare visited here package hk) within within fun l m hm =>
          visit_follows (fun _ _ => rfl) visited within within
            (fun n l _ hn => importTree_follows hp (fun _ _ => rfl) hn l)
            (fun e' he => .behind here package hm he) l).confined.suffix
  · exact List.suffix_rfl

end Kept

/-- The steps of a walk that ends well, from one entry to the next. -/
theorem visit_cons_ok (hp : p ≠ []) (visited : Visited c p tree) {within : tree.length ≤ c.depth}
    {rest : List Entry} (listed : ∀ e' ∈ e :: rest, Listed c tree directory stem e')
    (h : visit c loaded tree within directory stem (e :: rest) = (after, none)) :
    ∃ l₁ l₂, loaded <:+ l₁ ∧ l₁ <:+ l₂ ∧ l₂ <:+ after ∧
      (directory = tree → importTree c loaded (tree ++ stem ++ [e.name]) = (l₁, none)) ∧
      (e.isPackage = true → searchBehind c l₁ tree within (stem ++ [e.name]) = (l₂, none)) ∧
      visit c l₂ tree within directory stem rest = (after, none) := by
  obtain ⟨here, others⟩ := List.forall_mem_cons.mp listed
  rw [visit_cons] at h
  obtain ⟨l₁, own, h⟩ := andThen_eq_ok_iff.mp h
  obtain ⟨l₂, behind, h⟩ := andThen_eq_ok_iff.mp h
  have first := suffix_entryTree hp visited here loaded
  have second := suffix_entrySearch hp visited here within l₁
  have third := suffix_visit hp visited within others l₂
  rw [own] at first
  rw [behind] at second
  rw [h] at third
  refine ⟨l₁, l₂, first, second, third, fun same => ?_, fun package => ?_, h⟩
  · rwa [if_pos same] at own
  · rwa [if_pos package] at behind

theorem tried_of_searchBehind {within : tree.length ≤ c.depth} {bare : Name}
    (h : searchBehind c loaded tree within bare = (after, none))
    (kept : ∀ l m, c.find? bare = some m →
      l <:+ (visit c l tree within bare bare m.entries).1) : Tried c loaded after bare := by
  refine ⟨loaded, List.suffix_rfl, ?_⟩
  cases hi : importAsked c loaded bare with
  | mk l outcome =>
      cases outcome with
      | none =>
          refine ⟨?_, nofun⟩
          cases hm : c.find? bare with
          | none =>
              obtain rfl : l = after := by simpa [searchBehind_of_missing hi hm] using h
              exact List.suffix_rfl
          | some m =>
              rw [searchBehind_of_find? hi hm] at h
              simpa [h] using kept l m hm
      | some fault =>
          rw [searchBehind_of_fault hi] at h
          split at h
          · next failure =>
              obtain ⟨rfl, -⟩ := Prod.mk.inj h
              exact ⟨List.suffix_rfl, fun _ hf => Option.some.inj hf ▸ failure⟩
          · cases h

/-- A walk through a tree's own directory that ends well has imported the tree of each entry and has
looked behind each package. -/
theorem visit_ok (hp : p ≠ []) (visited : Visited c p tree) {within : tree.length ≤ c.depth}
    {entries : List Entry} (listed : ∀ e ∈ entries, Listed c tree tree [] e)
    (h : visit c loaded tree within tree [] entries = (after, none)) :
    ∀ e ∈ entries,
      (∃ l l', loaded <:+ l ∧ importTree c l (tree ++ [e.name]) = (l', none) ∧ l' <:+ after) ∧
      (e.isPackage = true → Tried c loaded after [e.name]) := by
  induction entries generalizing loaded with
  | nil => simp
  | cons e rest ih =>
      obtain ⟨here, others⟩ := List.forall_mem_cons.mp listed
      obtain ⟨l₁, l₂, first, second, third, own, behind, h⟩ := visit_cons_ok hp visited listed h
      have below : importTree c loaded (tree ++ [e.name]) = (l₁, none) := by
        simpa using own rfl
      have tried (package : e.isPackage = true) : Tried c l₁ l₂ [e.name] :=
        tried_of_searchBehind (behind package) fun l m hm =>
          suffix_visit hp visited within (fun e' he => .behind here package hm he) l
      refine List.forall_mem_cons.mpr ⟨⟨⟨loaded, l₁, List.suffix_rfl, below, second.trans third⟩,
        fun package => (tried package).mono first third⟩, fun e' he => ?_⟩
      obtain ⟨⟨l, l', before, tree_, later⟩, bare⟩ := ih others h e' he
      exact ⟨⟨l, l', (first.trans second).trans before, tree_, later⟩,
        fun package => (bare package).mono (first.trans second) List.suffix_rfl⟩

theorem importTree_entries (hp : p ≠ []) (visited : Visited c p tree) (hm : c.find? tree = some m)
    (h : importTree c loaded tree = (after, none)) (he : e ∈ m.entries) :
    (∃ l l', loaded <:+ l ∧ importTree c l (tree ++ [e.name]) = (l', none) ∧ l' <:+ after) ∧
      (e.isPackage = true → Tried c loaded after [e.name]) := by
  rw [importTree_of_find? hm (Catalogue.length_le_depth_of_find? hm)] at h
  obtain ⟨l₁, own, walk⟩ := andThen_eq_ok_iff.mp h
  have kept : loaded <:+ l₁ := by
    simpa [own] using suffix_importName c loaded tree
  obtain ⟨⟨l, l', before, below, later⟩, bare⟩ :=
    visit_ok hp visited (fun e he => .own hm he) walk e he
  exact ⟨⟨l, l', kept.trans before, below, later⟩,
    fun package => (bare package).mono kept List.suffix_rfl⟩

/-- An import of everything in a package that ends well has imported every tree in it so. -/
theorem importTree_ok (hp : p ≠ []) (h : importTree c loaded p = (after, none)) {n : Name}
    (hn : InTree c p n) :
    ∃ l l', loaded <:+ l ∧ importTree c l n = (l', none) ∧ l' <:+ after := by
  induction hn with
  | root => exact ⟨loaded, after, List.suffix_rfl, h, List.suffix_rfl⟩
  | @entry n m e outer hm he ih =>
      obtain ⟨l, l', before, tree, later⟩ := ih
      obtain ⟨l₁, l₂, between, below, ends⟩ := (importTree_entries hp outer.visited hm tree he).1
      exact ⟨l₁, l₂, before.trans between, below, ends.trans later⟩

/-- The import of a module outside packages that fails at once. -/
theorem importAsked_of_broken {name : String} {kind : Crash} (hl : [name] ∉ l)
    (hm : c.find? [name] = some m) (hs : m.source.head? = some (.fail kind)) :
    importAsked c l [name] = (l, some (.failed kind)) := by
  obtain ⟨rest, hs⟩ := List.head?_eq_some_iff.mp hs
  have alone : asked l [name] = [[name], [name]] := by
    have own : lineage [name] = [[name]] := rfl
    simp [asked, unloaded, own, hl]
  rw [importAsked, alone, loadEach_cons, load_of_find? hl hm, hs, execute_fail]
  show ((([name] :: l).erase [name], some (ImportFault.failed kind)) : Progress) = _
  rw [List.erase_cons_head]

end Success

theorem importPackage_of_name {c : Catalogue} {loaded : Loaded} {name : String} (hne : name ≠ "")
    (hdot : name.toList.head? ≠ some '.') :
    importPackage c loaded name = importTree c loaded (Text.split '.' name) := by
  rw [importPackage, if_neg hne, if_neg hdot]

/-- **What the import of a package reaches.**  It loads only what it touches, its failure is that of
a module that it touches, and other modules make no difference to it.  If no bare name of a package
that it comes across is that of a module elsewhere, then what it touches are modules of the package,
those around it and what these import, and no others make a difference.  Otherwise it does reach
them: before it ends well, it imports the bare name of each package in its tree, or sees that it
cannot be imported; and a module of such a name that fails at once, with another error than that of
an import, makes it fail. -/
theorem importPackage_reaches (c : Catalogue) (loaded : Loaded) {name : String} (hne : name ≠ "")
    (hdot : name.toList.head? ≠ some '.') :
    let p := Text.split '.' name
    let r := importPackage c loaded name
    (∃ new, r.1 = new ++ loaded ∧
      ∀ n ∈ new, n ∉ loaded ∧ Touched c p n ∧ ∃ m, c.find? n = some m) ∧
    (∀ kind, r.2 = some (.failed kind) →
      ∃ n m, Touched c p n ∧ c.find? n = some m ∧ .fail kind ∈ m.source) ∧
    (∀ c', (∀ n, Touched c p n → c'.find? n = c.find? n) → importPackage c' loaded name = r) ∧
    (Clear c p →
      (∀ n m, Touched c p n → c.find? n = some m → Own c p n) ∧
      ∀ c', Clear c' p → (∀ n, Own c p n → c'.find? n = c.find? n) →
        importPackage c' loaded name = r) ∧
    ∀ n m e, InTree c p n → c.find? n = some m → e ∈ m.entries → e.isPackage = true →
      (r.2 = none → Tried c loaded r.1 [e.name]) ∧
      ∀ m' kind, c.find? [e.name] = some m' → m'.source.head? = some (.fail kind) →
        kind ≠ .noImport → kind ≠ .noModule → [e.name] ∉ loaded → r.2 ≠ none := by
  intro p r
  have hp : p ≠ [] := Text.split_ne_nil name
  have run (c' : Catalogue) : importPackage c' loaded name = importTree c' loaded p :=
    importPackage_of_name hne hdot
  have hr : importTree c loaded p = r := (run c).symm
  have frame (c' : Catalogue) (agree : Agree c c' (touched c p)) :
      importPackage c' loaded name = r :=
    (run c').trans ((importTree_follows hp agree .root loaded).same.trans hr)
  have confined : Confined c (touched c p) loaded r :=
    hr ▸ (importTree_follows hp (fun _ _ => rfl) .root loaded).confined
  obtain ⟨new, loads, fresh⟩ := confined.loads
  have tried {n : Name} {m : Module} {e : Entry} (hn : InTree c p n) (hm : c.find? n = some m)
      (he : e ∈ m.entries) (package : e.isPackage = true) (ends : r.2 = none) :
      Tried c loaded r.1 [e.name] := by
    obtain ⟨l, l', before, tree, later⟩ := importTree_ok hp (hr.trans (Prod.ext rfl ends)) hn
    exact ((importTree_entries hp hn.visited hm tree he).2 package).mono before later
  refine ⟨⟨new, loads, fun n hn => ?_⟩, fun kind hk => confined.fault _ hk, frame,
    fun clear => ⟨fun n m hn hm => hn.own clear hm, fun c' clear' agree => ?_⟩,
    fun n m e hn hm he package => ⟨tried hn hm he package, ?_⟩⟩
  · obtain ⟨touched, missing, m, hm, -⟩ := fresh n hn
    exact ⟨missing, touched, m, hm⟩
  · exact frame c' (agree_touched clear clear' agree)
  · -- A module that fails at once is never loaded, so that its import was tried, and did fail.
    intro broken kind hb hs hImport hModule hl ends
    obtain ⟨l, before, later, passed⟩ := tried hn hm he package ends
    have unloaded : [e.name] ∉ l := by
      intro hin
      have after : [e.name] ∈ new ++ loaded :=
        loads ▸ later.subset ((suffix_importAsked c l _).subset hin)
      rcases List.mem_append.mp after with hnew | hold
      · obtain ⟨m', hm', whole⟩ := (fresh _ hnew).whole
        obtain rfl := Option.some.inj (hb.symm.trans hm')
        exact whole kind (List.mem_of_head? hs)
      · exact hl hold
    rw [importAsked_of_broken unloaded hb hs] at passed
    have swallowed := passed _ rfl
    cases kind <;> simp_all [ImportFault.isImportFailure]

/-! ### A package whose bare name is taken -/

/-- A package with a package in it, and further modules. -/
def nestedWith (others : Catalogue) : Catalogue :=
  ⟨["oa"], some [⟨"ob", true⟩], []⟩ :: ⟨["oa", "ob"], some [], []⟩ :: others

theorem Listed.exists_mem {c : Catalogue} {tree directory stem : Name} {e : Entry}
    (h : Listed c tree directory stem e) : ∃ m ∈ c, e ∈ m.entries := by
  cases h with
  | own hm he => exact ⟨_, Catalogue.mem_of_find? hm, he⟩
  | behind _ _ hm he => exact ⟨_, Catalogue.mem_of_find? hm, he⟩

/-- A module of another name stands in nobody's way. -/
theorem clear_nestedWith {source : List Statement} :
    Clear (nestedWith [⟨["oc"], none, source⟩]) ["oa"] := by
  intro tree directory stem e _ listed _ m hm
  obtain ⟨m', hm', he⟩ := listed.exists_mem
  have bare : e.name = "ob" := by
    simp only [nestedWith, List.mem_cons, List.not_mem_nil, or_false] at hm'
    rcases hm' with rfl | rfl | rfl <;> simp_all [Module.entries]
  have named := Catalogue.name_of_find? hm
  rw [bare] at named ⊢
  have found := Catalogue.mem_of_find? hm
  simp only [nestedWith, List.mem_cons, List.not_mem_nil, or_false] at found
  rcases found with rfl | rfl | rfl
  · simpa using congrArg List.getLast? named
  · exact .inl (named ▸ ⟨["ob"], rfl⟩)
  · simpa using congrArg List.getLast? named

/-- Where no source says anything, what is the package's own is near it. -/
theorem Own.near_of_silent {c : Catalogue} {p n : Name} (silent : ∀ m ∈ c, m.source = [])
    (h : Own c p n) : Near p n := by
  cases h with
  | near h => exact h
  | imported _ hm hk =>
      simp [Module.imported, silent _ (Catalogue.mem_of_find? hm)] at hk

/-- The module `ob` is imported with the package `oa`, and if it fails, so does the package.  The
module `oc` is not, and may fail. -/
theorem importPackage_reaches_nestedWith :
    let taken := nestedWith [⟨["ob"], none, []⟩]
    let broken := nestedWith [⟨["ob"], none, [.fail .invalidValue]⟩]
    let aside (source : List Statement) := nestedWith [⟨["oc"], none, source⟩]
    importPackage taken [] "oa" = ([["ob"], ["oa", "ob"], ["oa"]], none) ∧
    Touched taken ["oa"] ["ob"] ∧ ¬ Near ["oa"] ["ob"] ∧
    (importPackage broken [] "oa").2 ≠ none ∧
    importPackage (aside [.fail .invalidValue]) [] "oa" = importPackage (aside []) [] "oa" ∧
    importPackage (aside []) [] "oa" = ([["oa", "ob"], ["oa"]], none) := by
  intro taken broken aside
  have split : Text.split '.' "oa" = ["oa"] := by decide +kernel
  have hne : "oa" ≠ "" := by decide
  have hdot : "oa".toList.head? ≠ some '.' := by decide
  have run : importPackage taken [] "oa" = ([["ob"], ["oa", "ob"], ["oa"]], none) := by
    show importPackage (nestedWith [⟨["ob"], none, []⟩]) [] "oa" = _
    cbv
  have far (name : String) (h : name ≠ "oa") : ¬ Near ["oa"] [name] := by
    rintro (near | near)
    · exact h (by simpa [eq_comm] using near)
    · exact h (by simpa [lineage] using near)
  obtain ⟨⟨new, loads, fresh⟩, -⟩ := importPackage_reaches taken [] hne hdot
  obtain ⟨-, -, -, -, reaches⟩ := importPackage_reaches broken [] hne hdot
  obtain ⟨-, -, -, stays, -⟩ := importPackage_reaches (aside []) [] hne hdot
  rw [split] at fresh reaches stays
  refine ⟨run, ?_, far "ob" (by decide), ?_, ?_, ?_⟩
  · rw [run, List.append_nil] at loads
    exact (fresh _ (loads ▸ List.mem_cons_self)).2.1
  · exact (reaches ["oa"] _ ⟨"ob", true⟩ .root rfl List.mem_cons_self rfl).2 _ _ rfl rfl
      (by decide) (by decide) (by decide)
  · refine (stays clear_nestedWith).2 _ clear_nestedWith fun n hn => ?_
    have near : Near ["oa"] n := hn.near_of_silent (by simp [aside, nestedWith])
    have other : (["oc"] == n) = false := by
      refine beq_false_of_ne ?_
      rintro rfl
      exact far "oc" (by decide) near
    simp [Catalogue.find?, aside, nestedWith, List.find?_cons, other]
  · show importPackage (nestedWith [⟨["oc"], none, []⟩]) [] "oa" = _
    cbv

end CompilerRunner.Package
