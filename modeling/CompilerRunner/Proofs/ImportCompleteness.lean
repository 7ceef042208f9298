import CompilerRunner.Proofs.PackageFiles
import CompilerRunner.Proofs.PackageImport

/-!
# Proofs — ImportCompleteness

Whether the import of a package with everything in it imports everything in it.

* `Bare`: the bare names that a walk imports.  `Reaches` is what can be loaded at some point of a
  walk, and `Ended` how it can end before its time: by a bare name, or by one that is listed for
  something in the package (`importTree_goes`).
* `Unrepeated`: no package in the tree has the name in it that the tree's own begins with.  Then
  nothing is listed but what is in the tree (`Visited.inTree`).
* `comesTo_of_listed`, `mem_of_listed`: the search behind a bare name that leads back into the tree
  lists the entries there once more, and imports them under doubled names.
* `importPackage_complete`: what is imported if every module of the tree can be, and what is in the
  way.  All that stands below the package is in the tree (`inTree_of_stands`).

Whether a module can be imported may depend on what has been loaded before, since what it asks its
package for may be a name that the package has by then.
-/

namespace CompilerRunner.Package

variable {c : Catalogue} {p tree directory stem n : Name} {loaded after l : Loaded} {e : Entry}
  {m : Module} {fault : ImportFault}

/-! ### How a walk ends before its time -/

/-- The bare name of a package that a walk comes across. -/
def Bare (c : Catalogue) (p n : Name) : Prop :=
  ∃ tree directory stem e, Visited c p tree ∧ Listed c tree directory stem e ∧
    e.isPackage = true ∧ n = stem ++ [e.name]

/-- What can be loaded at some point of a walk: names for what is in the package have been imported,
and bare names have been, or it was seen that they cannot be. -/
inductive Reaches (c : Catalogue) (p : Name) (loaded : Loaded) : Loaded → Prop where
  | start : Reaches c p loaded loaded
  | name {l l' : Loaded} {n : Name} (before : Reaches c p loaded l) (visited : Visited c p n)
      (run : importName c l n = (l', none)) : Reaches c p loaded l'
  | bare {l l' : Loaded} {n : Name} {r : Option ImportFault} (before : Reaches c p loaded l)
      (bare : Bare c p n) (run : importAsked c l n = (l', r))
      (passed : ∀ fault, r = some fault → fault.isImportFailure = true) : Reaches c p loaded l'

/-- The walk has ended with an import that failed: of a bare name, unless that is passed over, or of
a name for something in the package. -/
def Ended (c : Catalogue) (p : Name) (loaded after : Loaded) (fault : ImportFault) : Prop :=
  ∃ l n, Reaches c p loaded l ∧
    (Bare c p n ∧ importAsked c l n = (after, some fault) ∧ fault.isImportFailure = false ∨
      Visited c p n ∧ importName c l n = (after, some fault))

/-- The walk goes on to what can be loaded at some point, or it has ended. -/
def Goes (c : Catalogue) (p : Name) (loaded : Loaded) : Progress → Prop
  | (after, none) => Reaches c p loaded after
  | (after, some fault) => Ended c p loaded after fault

theorem Reaches.trans (h : Reaches c p loaded l) (h' : Reaches c p l after) :
    Reaches c p loaded after := by
  induction h' with
  | start => exact h
  | name _ visited run ih => exact ih.name visited run
  | bare _ bare run passed ih => exact ih.bare bare run passed

theorem Reaches.goes {r : Progress} (h : Reaches c p loaded l) (hr : Goes c p l r) :
    Goes c p loaded r := by
  obtain ⟨after, _ | fault⟩ := r
  · exact h.trans hr
  · obtain ⟨l', n, before, reason⟩ := hr
    exact ⟨l', n, h.trans before, reason⟩

theorem Goes.andThen {r : Progress} {next : Loaded → Progress} (h : Goes c p loaded r)
    (hn : ∀ l, Goes c p l (next l)) : Goes c p loaded (r.andThen next) := by
  obtain ⟨l, _ | fault⟩ := r
  · exact Reaches.goes h (hn l)
  · exact h

theorem searchBehind_goes {within : tree.length ≤ c.depth} {bare : Name} (hb : Bare c p bare)
    (inside : ∀ l m, c.find? bare = some m →
      Goes c p l (visit c l tree within bare bare m.entries)) :
    Goes c p loaded (searchBehind c loaded tree within bare) := by
  cases hi : importAsked c loaded bare with
  | mk l outcome =>
      cases outcome with
      | none =>
          have reached : Reaches c p loaded l := .bare .start hb hi nofun
          cases hm : c.find? bare with
          | none =>
              rw [searchBehind_of_missing hi hm]
              exact reached
          | some m =>
              rw [searchBehind_of_find? hi hm]
              exact reached.goes (inside l m hm)
      | some fault =>
          rw [searchBehind_of_fault hi]
          split
          · next passed => exact .bare .start hb hi fun _ hf => Option.some.inj hf ▸ passed
          · next escaped =>
              exact ⟨loaded, bare, .start, .inl ⟨hb, hi, Bool.eq_false_iff.mpr escaped⟩⟩

theorem visit_goes (visited : Visited c p tree) (within : tree.length ≤ c.depth)
    (below : ∀ n l, tree.length < n.length → Visited c p n → Goes c p l (importTree c l n))
    {entries : List Entry} (listed : ∀ e ∈ entries, Listed c tree directory stem e)
    (loaded : Loaded) : Goes c p loaded (visit c loaded tree within directory stem entries) := by
  induction hk : c.depth + 1 - stem.length using Nat.strong_induction_on
    generalizing directory stem entries loaded with
  | _ room ih =>
      induction entries generalizing loaded with
      | nil =>
          rw [visit_nil]
          exact .start
      | cons e rest more =>
          obtain ⟨here, others⟩ := List.forall_mem_cons.mp listed
          rw [visit_cons]
          -- First the entry's own tree, then what is behind its bare name, then the others.
          refine .andThen ?_ fun l => .andThen ?_ fun l => more others l
          · split
            · next same =>
                subst same
                exact below _ loaded (by simp) (.entry visited here)
            · exact .start
          · split
            · next package =>
                refine searchBehind_goes ⟨tree, directory, stem, e, visited, here, package, rfl⟩
                  fun l m hm => ?_
                have fits := Catalogue.length_le_depth_of_find? hm
                refine ih _ ?_ (fun e' he => .behind here package hm he) l rfl
                rw [List.length_append, List.length_singleton] at fits ⊢
                omega
            · exact .start

/-- **How a walk goes on.**  What is loaded comes from the imports that a walk is made of, and if it
ends before its time, one of them has failed. -/
theorem importTree_goes (visited : Visited c p tree) (loaded : Loaded) :
    Goes c p loaded (importTree c loaded tree) := by
  induction hk : c.depth + 1 - tree.length using Nat.strong_induction_on
    generalizing tree loaded with
  | _ room ih =>
      have own : Goes c p loaded (importName c loaded tree) := by
        cases run : importName c loaded tree with
        | mk l outcome =>
            cases outcome with
            | none => exact .name .start visited run
            | some fault => exact ⟨loaded, tree, .start, .inr ⟨visited, run⟩⟩
      cases hm : c.find? tree with
      | none =>
          rw [importTree_of_missing hm]
          exact own
      | some m =>
          have within : tree.length ≤ c.depth := Catalogue.length_le_depth_of_find? hm
          rw [importTree_of_find? hm within]
          refine own.andThen fun l => visit_goes visited within (fun n l longer hn => ?_)
            (fun e he => .own hm he) l
          exact ih _ (by omega) hn l rfl

/-! ### What a walk that ends well has imported -/

theorem importTree_imports (hp : p ≠ []) (visited : Visited c p tree)
    (h : importTree c loaded tree = (after, none)) :
    ∃ l, importName c loaded tree = (l, none) ∧ tree ∈ l ∧ l <:+ after := by
  have named {l : Loaded} (run : importName c loaded tree = (l, none)) : tree ∈ l :=
    mem_of_importName (visited.ne_nil hp) run
  cases hm : c.find? tree with
  | none =>
      rw [importTree_of_missing hm] at h
      exact ⟨after, h, named h, List.suffix_rfl⟩
  | some m =>
      rw [importTree_of_find? hm (Catalogue.length_le_depth_of_find? hm)] at h
      obtain ⟨l, run, walk⟩ := andThen_eq_ok_iff.mp h
      have kept := suffix_visit hp visited (Catalogue.length_le_depth_of_find? hm)
        (fun e he => .own hm he) l
      rw [walk] at kept
      exact ⟨l, run, named run, kept⟩

theorem mem_of_inTree (hp : p ≠ []) (h : importTree c loaded p = (after, none))
    (hn : InTree c p n) : n ∈ after := by
  obtain ⟨l, l', -, tree, later⟩ := importTree_ok hp h hn
  obtain ⟨l₁, -, mem, kept⟩ := importTree_imports hp hn.visited tree
  exact later.subset (kept.subset mem)

/-- Every module of the tree has been imported in its turn, with all its parents loaded. -/
theorem importTree_parents (hp : p ≠ []) (rooted : Rooted loaded)
    (h : importTree c loaded p = (after, none)) (hn : InTree c p n) :
    ∃ l l₁ l', importName c l n = (l₁, none) ∧ lineage n ⊆ l₁ ∧
      importTree c l n = (l', none) ∧ l' <:+ after := by
  induction hn with
  | root =>
      obtain ⟨l₁, run, -, -⟩ := importTree_imports hp .root h
      exact ⟨loaded, l₁, after, run, lineage_subset_of_importName rooted run, h, List.suffix_rfl⟩
  | @entry n m e outer hm he ih =>
      obtain ⟨l, l₁, l', run, parents, tree, later⟩ := ih
      rw [importTree_of_find? hm (Catalogue.length_le_depth_of_find? hm), run] at tree
      obtain ⟨⟨l₂, l₃, between, below, ends⟩, -⟩ :=
        visit_ok hp outer.visited (fun e he => .own hm he) tree e he
      obtain ⟨l₄, own, mem, -⟩ :=
        importTree_imports hp (outer.entry hm he).visited below
      refine ⟨l₂, l₄, l₃, own, ?_, below, ends.trans later⟩
      have kept := suffix_importName c l₂ (n ++ [e.name])
      rw [own] at kept
      rw [lineage_concat]
      intro k hk
      rcases List.mem_append.mp hk with hk | hk
      · exact kept.subset (between.subset (parents hk))
      · exact List.mem_singleton.mp hk ▸ mem

/-! ### Entries that are listed a second time -/

/-- From what is loaded, a walk comes to the entry and goes on to end well. -/
def ComesTo (c : Catalogue) (tree directory stem : Name) (e : Entry) (loaded after : Loaded) :
    Prop :=
  ∃ (within : tree.length ≤ c.depth) (rest : List Entry),
    (∀ e' ∈ e :: rest, Listed c tree directory stem e') ∧
    visit c loaded tree within directory stem (e :: rest) = (after, none)

theorem comesTo_of_visit (hp : p ≠ []) (visited : Visited c p tree) {within : tree.length ≤ c.depth}
    {entries : List Entry} (listed : ∀ e ∈ entries, Listed c tree directory stem e)
    (h : visit c loaded tree within directory stem entries = (after, none)) (he : e ∈ entries) :
    ∃ l, loaded <:+ l ∧ ComesTo c tree directory stem e l after := by
  induction entries generalizing loaded with
  | nil => cases he
  | cons e' rest ih =>
      rcases List.mem_cons.mp he with rfl | he
      · exact ⟨loaded, List.suffix_rfl, within, rest, listed, h⟩
      · obtain ⟨l₁, l₂, first, second, -, -, -, later⟩ := visit_cons_ok hp visited listed h
        obtain ⟨l, kept, comes⟩ := ih (List.forall_mem_cons.mp listed).2 later he
        exact ⟨l, (first.trans second).trans kept, comes⟩

/-- A walk through a tree whose parents are loaded finds each of them behind its bare name, and
comes to what is listed there. -/
theorem comesTo_of_listed (hp : p ≠ []) (visited : Visited c p tree)
    {within : tree.length ≤ c.depth} (hm : c.find? tree = some m) (parents : lineage tree ⊆ loaded)
    (h : visit c loaded tree within tree [] m.entries = (after, none))
    (listed : Listed c tree directory stem e) (hs : stem <+: tree) :
    ∃ l after', loaded <:+ l ∧ after' <:+ after ∧ ComesTo c tree directory stem e l after' := by
  induction listed with
  | own hm' he =>
      obtain rfl := Option.some.inj (hm.symm.trans hm')
      obtain ⟨l, kept, comes⟩ := comesTo_of_visit hp visited (fun e he => .own hm he) h he
      exact ⟨l, after, kept, List.suffix_rfl, comes⟩
  | @behind directory stem e e' m' outer package hm' he ih =>
      obtain ⟨l, after', kept, ends, within, rest, others, walk⟩ :=
        ih ((List.prefix_append _ _).trans hs)
      obtain ⟨l₁, l₂, first, -, third, -, behind, -⟩ := visit_cons_ok hp visited others walk
      have bare : lineage (stem ++ [e.name]) ⊆ l₁ := fun k hk => by
        obtain ⟨hne, hk⟩ := mem_lineage_iff.mp hk
        exact first.subset (kept.subset (parents (mem_lineage_iff.mpr ⟨hne, hk.trans hs⟩)))
      have inner := behind package
      rw [searchBehind_of_find? (importAsked_of_subset bare) hm'] at inner
      obtain ⟨l₃, between, comes⟩ :=
        comesTo_of_visit hp visited (fun e he => .behind outer package hm' he) inner he
      exact ⟨l₃, l₂, (kept.trans first).trans between, third.trans ends, comes⟩

theorem Listed.stem_cases (h : Listed c tree directory stem e) :
    (stem = [] ∧ directory = tree ∧ ∃ m, c.find? tree = some m ∧ e ∈ m.entries) ∨
      (stem = directory ∧ ∃ m e', c.find? tree = some m ∧ e' ∈ m.entries ∧ e'.isPackage = true ∧
        stem.head? = some e'.name) := by
  induction h with
  | own hm he => exact .inl ⟨rfl, rfl, _, hm, he⟩
  | behind outer package hm he ih =>
      rcases ih with ⟨rfl, -, m, hm', he'⟩ | ⟨-, m, e', hm', he', package', first⟩
      · exact .inr ⟨rfl, m, _, hm', he', package, rfl⟩
      · exact .inr ⟨rfl, m, e', hm', he', package', by simp [List.head?_append, first]⟩

/-- A walk that ends well has imported what is listed for a directory of the tree, whatever it is
listed under. -/
theorem mem_of_listed (hp : p ≠ []) (rooted : Rooted loaded)
    (h : importTree c loaded p = (after, none)) (hn : InTree c p tree)
    (listed : Listed c tree tree stem e) : tree ++ stem ++ [e.name] ∈ after := by
  have inside : stem <+: tree := by
    rcases listed.stem_cases with ⟨rfl, -⟩ | ⟨rfl, -⟩
    · exact List.nil_prefix
    · exact List.prefix_rfl
  obtain ⟨m, hm⟩ : ∃ m, c.find? tree = some m := by
    rcases listed.stem_cases with ⟨-, -, m, hm, -⟩ | ⟨-, m, -, hm, -⟩
    · exact ⟨m, hm⟩
    · exact ⟨m, hm⟩
  obtain ⟨l, l₁, l', run, parents, walk, later⟩ := importTree_parents hp rooted h hn
  rw [importTree_of_find? hm (Catalogue.length_le_depth_of_find? hm), run] at walk
  obtain ⟨l₂, after', -, ends, within, rest, others, walk'⟩ :=
    comesTo_of_listed hp hn.visited hm parents walk listed inside
  obtain ⟨l₃, l₄, -, second, third, own, -⟩ := visit_cons_ok hp hn.visited others walk'
  obtain ⟨l₅, -, mem, kept⟩ :=
    importTree_imports hp (.entry hn.visited listed) (own rfl)
  exact later.subset (ends.subset (third.subset (second.subset (kept.subset mem))))

/-! ### Packages without a package of their own name -/

/-- No package in the tree holds a package with the name that the tree's own name begins with. -/
def Unrepeated (c : Catalogue) (p : Name) : Prop :=
  ∀ n m e, InTree c p n → c.find? n = some m → e ∈ m.entries → e.isPackage = true →
    p.head? ≠ some e.name

theorem Visited.inTree (hp : p ≠ []) (unrepeated : Unrepeated c p) (h : Visited c p n) :
    InTree c p n := by
  induction h with
  | root => exact .root
  | @entry tree stem e outer listed ih =>
      rcases listed.stem_cases with ⟨rfl, -, m, hm, he⟩ | ⟨rfl, m, e', hm, he, package, first⟩
      · rw [List.append_nil]
        exact ih.entry hm he
      · obtain ⟨rest, rfl⟩ := outer.inside
        rw [List.head?_append, Option.or_of_isSome (by simpa using hp)] at first
        exact absurd first (unrepeated _ m e' ih hm he package)

/-- **Whether the import of a package is complete.**  What stands anywhere below a package is in its
tree.  Suppose that at no point of a walk the import of a module of the tree fails.  If the call
ends well, it has imported all of them.  If not, it has ended with an import that failed: of a bare
name, with another error than that of an import, or of a name that is listed for the package but is
not in its tree.  Such names are there for every directory that a bare name leads back to, and the
call does fail if one of them is no module's.  If no package in the tree has the name that the
tree's own begins with, there is none, and the call ends well unless a bare name stops it. -/
theorem importPackage_complete (c : Catalogue) (loaded : Loaded) {name : String} (hne : name ≠ "")
    (hdot : name.toList.head? ≠ some '.')
    (imports : ∀ l n, Reaches c (Text.split '.' name) loaded l → InTree c (Text.split '.' name) n →
      (importName c l n).2 = none) :
    let p := Text.split '.' name
    let r := importPackage c loaded name
    (∀ t top, c = Catalogue.ofDirectory t top → ∀ n, p <+: n → Stands t top n → InTree c p n) ∧
    (r.2 = none → ∀ n, InTree c p n → n ∈ r.1) ∧
    (∀ fault, r.2 = some fault → ∃ l n, Reaches c p loaded l ∧
      (Bare c p n ∧ importAsked c l n = r ∧ fault.isImportFailure = false ∨
        Visited c p n ∧ ¬ InTree c p n ∧ importName c l n = r)) ∧
    (Rooted loaded → ∀ tree stem e, InTree c p tree → Listed c tree tree stem e →
      c.find? (tree ++ stem ++ [e.name]) = none → tree ++ stem ++ [e.name] ∉ loaded →
        r.2 ≠ none) ∧
    (Unrepeated c p →
      (∀ l n fault, Reaches c p loaded l → Bare c p n → (importAsked c l n).2 = some fault →
        fault.isImportFailure = true) →
      r.2 = none ∧ ∀ n, InTree c p n → n ∈ r.1) := by
  intro p r
  have hp : p ≠ [] := Text.split_ne_nil name
  have run : importTree c loaded p = r := (importPackage_of_name hne hdot).symm
  have complete (ends : r.2 = none) : ∀ n, InTree c p n → n ∈ r.1 := fun n hn =>
    mem_of_inTree hp (run.trans (Prod.ext rfl ends)) hn
  have fails (fault : ImportFault) (h : r.2 = some fault) : ∃ l n, Reaches c p loaded l ∧
      (Bare c p n ∧ importAsked c l n = r ∧ fault.isImportFailure = false ∨
        Visited c p n ∧ ¬ InTree c p n ∧ importName c l n = r) := by
    have stopped : r = (r.1, some fault) := Prod.ext rfl h
    have goes := importTree_goes .root loaded (c := c) (p := p)
    rw [run, stopped] at goes
    obtain ⟨l, n, reached, ⟨bare, hi, escaped⟩ | ⟨visited, hi⟩⟩ := goes
    · exact ⟨l, n, reached, .inl ⟨bare, hi.trans stopped.symm, escaped⟩⟩
    · refine ⟨l, n, reached, .inr ⟨visited, fun inTree => ?_, hi.trans stopped.symm⟩⟩
      have well := imports l n reached inTree
      rw [hi] at well
      cases well
  refine ⟨fun t top hc n inside stands => hc ▸ inTree_of_stands hp inside stands, complete, fails,
    fun rooted tree stem e inTree listed missing outside ends => ?_, fun unrepeated passed => ?_⟩
  · have confined : Confined c (touched c p) loaded r :=
      run ▸ (importTree_follows hp (fun _ _ => rfl) .root loaded).confined
    obtain ⟨new, loads, fresh⟩ := confined.loads
    have mem := mem_of_listed hp rooted (run.trans (Prod.ext loads ends)) inTree listed
    rcases List.mem_append.mp mem with mem | mem
    · obtain ⟨m, hm, -⟩ := (fresh _ mem).whole
      cases missing.symm.trans hm
    · exact outside mem
  · have ends : r.2 = none := by
      by_contra h
      obtain ⟨fault, h⟩ := Option.ne_none_iff_exists'.mp h
      obtain ⟨l, n, reached, ⟨bare, hi, escaped⟩ | ⟨visited, outside, -⟩⟩ := fails fault h
      · have failure := passed l n fault reached bare (hi ▸ h)
        rw [escaped] at failure
        cases failure
      · exact outside (visited.inTree hp unrepeated)
    exact ⟨ends, complete ends⟩

/-! ### A package of its own name -/

/-- A package that binds a name, with a package in it and a module that asks for the name. -/
def nestedAs (inner : String) : Catalogue :=
  [⟨["oa"], some [⟨inner, true⟩, ⟨"b", false⟩], [.bind "app"]⟩, ⟨["oa", inner], some [], []⟩,
    ⟨["oa", "b"], none, [.importSibling "app"]⟩]

section NestedAs

variable {inner : String}

theorem find?_nestedAs (hm : (nestedAs inner).find? n = some m) :
    n = ["oa"] ∧ m.source = [.bind "app"] ∧ m.entries = [⟨inner, true⟩, ⟨"b", false⟩] ∨
      m.source = [] ∧ m.entries = [] ∨
      n = ["oa", "b"] ∧ m = ⟨["oa", "b"], none, [.importSibling "app"]⟩ := by
  have named := Catalogue.name_of_find? hm
  have found := Catalogue.mem_of_find? hm
  simp only [nestedAs, List.mem_cons, List.not_mem_nil, or_false] at found
  rcases found with rfl | rfl | rfl
  · exact .inl ⟨named.symm, rfl, rfl⟩
  · exact .inr (.inl ⟨rfl, rfl⟩)
  · exact .inr (.inr ⟨named.symm, rfl⟩)

/-- A module that is there can be imported. -/
theorem load_nestedAs (hm : (nestedAs inner).find? n = some m) (l : Loaded) :
    (load (nestedAs inner) [] l n).2 = none := by
  by_cases hl : n ∈ l
  · rw [load_of_mem hl]
  · rw [load_of_find? hl hm, snd_orUnload]
    rcases find?_nestedAs hm with ⟨-, source, -⟩ | ⟨source, -⟩ | ⟨rfl, rfl⟩
    · rw [source, execute_bind, execute_nil]
    · rw [source, execute_nil]
    · have known : "app" ∈ namesOf ((nestedAs inner).without ["oa", "b"]) [(["oa", "b"], [])]
          ["oa"] := List.mem_append_right _ (by simp [nestedAs, Catalogue.without, Catalogue.find?,
            bindings, Statement.bound?, List.lookup])
      rw [execute_importSibling_of_mem (by decide) known, execute_nil]

theorem inTree_nestedAs (h : InTree (nestedAs inner) ["oa"] n) :
    n = ["oa"] ∨ n = ["oa", inner] ∨ n = ["oa", "b"] := by
  cases h with
  | root => exact .inl rfl
  | entry outer hm he =>
      rcases find?_nestedAs hm with ⟨rfl, -, entries⟩ | ⟨-, entries⟩ | ⟨-, rfl⟩
      · rw [entries] at he
        rcases List.mem_cons.mp he with rfl | he
        · exact .inr (.inl rfl)
        · exact .inr (.inr (List.mem_singleton.mp he ▸ rfl))
      · rw [entries] at he
        cases he
      · cases he

theorem loadEach_nestedAs {names : List Name}
    (h : ∀ k ∈ names, ∃ m, (nestedAs inner).find? k = some m) (l : Loaded) :
    (loadEach (nestedAs inner) [] l names).2 = none := by
  induction names generalizing l with
  | nil => rw [loadEach_nil]
  | cons k rest ih =>
      obtain ⟨⟨m, hm⟩, others⟩ := List.forall_mem_cons.mp h
      rw [loadEach_cons, andThen_of_none (load_nestedAs hm l)]
      exact ih others _

theorem imports_nestedAs (l : Loaded) (h : InTree (nestedAs inner) ["oa"] n) :
    (importName (nestedAs inner) l n).2 = none := by
  have tree : ∀ k, InTree (nestedAs inner) ["oa"] k → ∃ m, (nestedAs inner).find? k = some m := by
    intro k hk
    rcases inTree_nestedAs hk with rfl | rfl | rfl
    · exact ⟨_, rfl⟩
    · simp [nestedAs, Catalogue.find?]
    · by_cases hb : inner = "b" <;> simp [nestedAs, Catalogue.find?, hb]
  refine loadEach_nestedAs (fun k hk => ?_) l
  -- The parents of a module of the tree are the package and the module itself.
  have parents : k = ["oa"] ∨ k = n := by
    have above := mem_lineage_of_mem_unloaded hk
    rcases inTree_nestedAs h with rfl | rfl | rfl <;> simpa [lineage, List.range_succ] using above
  rcases parents with rfl | rfl
  · exact tree _ .root
  · exact tree _ h

theorem unrepeated_nestedAs (h : inner ≠ "oa") : Unrepeated (nestedAs inner) ["oa"] := by
  intro n m e _ hm he package
  rcases find?_nestedAs hm with ⟨-, -, entries⟩ | ⟨-, entries⟩ | ⟨-, rfl⟩
  · rw [entries] at he
    rcases List.mem_cons.mp he with rfl | he
    · simpa using Ne.symm h
    · obtain rfl := List.mem_singleton.mp he
      cases package
  · rw [entries] at he
    cases he
  · cases he

/-- Where no source raises anything, an import fails only for want of a module. -/
theorem isImportFailure_nestedAs {fault : ImportFault}
    (h : (importAsked (nestedAs inner) loaded n).2 = some fault) :
    fault.isImportFailure = true := by
  have closed : Closed (nestedAs inner) ⟨fun _ => True, fun f => f.isImportFailure = true⟩ := by
    refine ⟨fun _ _ => rfl, fun n m _ hm => ?_⟩
    rcases find?_nestedAs hm with ⟨-, source, -⟩ | ⟨source, -⟩ | ⟨-, rfl⟩
    · simp [source, Statement.faults]
    · simp [source]
    · simp [Statement.faults, ImportFault.isImportFailure]
  exact (importAsked_confined closed (fun _ _ => trivial) loaded).fault fault h

end NestedAs

/-- A package in the package `oa` is imported with it, unless it is named `oa` too. -/
theorem importPackage_complete_nestedAs :
    (∀ inner, inner ≠ "oa" →
      (importPackage (nestedAs inner) [] "oa").2 = none ∧
      ["oa", inner] ∈ (importPackage (nestedAs inner) [] "oa").1 ∧
      ["oa", "b"] ∈ (importPackage (nestedAs inner) [] "oa").1) ∧
    (importPackage (nestedAs "oa") [] "oa").2 ≠ none := by
  have split : Text.split '.' "oa" = ["oa"] := by decide +kernel
  have hne : "oa" ≠ "" := by decide
  have hdot : "oa".toList.head? ≠ some '.' := by decide
  have law (inner : String) := importPackage_complete (nestedAs inner) [] hne hdot
    (fun l n _ hn => imports_nestedAs l (split ▸ hn))
  rw [split] at law
  refine ⟨fun inner h => ?_, ?_⟩
  · obtain ⟨-, -, -, -, well⟩ := law inner
    obtain ⟨ends, complete⟩ := well (unrepeated_nestedAs h) fun l n fault _ _ hf =>
      isImportFailure_nestedAs hf
    exact ⟨ends, complete _ (.entry (e := ⟨inner, true⟩) .root rfl List.mem_cons_self),
      complete _ (.entry (e := ⟨"b", false⟩) .root rfl (by simp [Module.entries]))⟩
  · obtain ⟨-, -, -, fails, -⟩ := law "oa"
    have own : Listed (nestedAs "oa") ["oa"] ["oa"] [] ⟨"oa", true⟩ := .own rfl List.mem_cons_self
    have again : Listed (nestedAs "oa") ["oa"] ["oa"] ["oa"] ⟨"oa", true⟩ :=
      .behind own rfl rfl List.mem_cons_self
    exact fails (fun _ _ h => by cases h) ["oa"] ["oa"] ⟨"oa", true⟩ .root again (by decide)
      (by simp)

end CompilerRunner.Package
