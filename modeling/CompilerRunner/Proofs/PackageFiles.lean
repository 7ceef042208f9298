import CompilerRunner.Package.Files
import CompilerRunner.Proofs.PackageImport
import CompilerRunner.Proofs.PathSpelling

/-!
# Proofs — PackageFiles

What stands in a package's directory is in its tree.

* `HoldsPackage`, `HoldsModule`: a directory holds a directory with a source of its own, or a source
  file.  A source that has the name of a package beside it stands for no other module.
* `exists_entry_of_package`, `exists_entry_of_module`: each of them has an entry in the listing.
* `find?_ofDirectory`: a package below a directory on the import path is in its catalogue, with the
  listing of the package's directory.
* `inTree_of_stands`: so a module that stands anywhere below a package is in the package's tree.

There are no links on the way: each name leads to the place of that name.
-/

namespace CompilerRunner.Package

variable {t : FileTree} {dir l : Location} {x file : String} {q p n stem : Name}

/-! ### Names of files -/

theorem beforeEnding?_eq_some_iff {ending name : String} :
    beforeEnding? file ending = some name ↔ file = name ++ ending := by
  have ends : file.endsWith ending = true ↔ ending.toList <:+ file.toList := by
    rw [String.endsWith_eq_endsWith_toSlice, String.Slice.endsWith_string_iff]
    simp
  have before : (file.dropEnd ending.length).toString.toList =
      file.toList.take (file.toList.length - ending.toList.length) :=
    String.toList_copy_dropEnd
  unfold beforeEnding?
  constructor
  · intro h
    split at h
    · next he =>
        obtain ⟨front, hf⟩ := ends.mp he
        rw [← hf] at before
        rw [← Option.some.inj h, ← String.toList_inj, String.toList_append, before, ← hf]
        simp
    · cases h
  · rintro rfl
    rw [if_pos (ends.mpr (by simp))]
    rw [Option.some.injEq, ← String.toList_inj, before]
    simp

theorem isSegment_iff : isSegment x = true ↔ x ≠ "" ∧ '.' ∉ x.toList := by
  simp [isSegment]

/-- A name without a dot has no ending. -/
theorem beforeEnding?_of_isSegment (hx : isSegment x = true) {e : String × Format}
    (he : e ∈ endings) : beforeEnding? x e.1 = none := by
  have dotted : '.' ∈ e.1.toList := by
    revert e
    decide
  refine Option.eq_none_iff_forall_not_mem.mpr fun name h => ?_
  rw [beforeEnding?_eq_some_iff.mp h, isSegment_iff, String.toList_append] at hx
  exact hx.2 (List.mem_append_right _ dotted)

theorem moduleOfFile?_of_isSegment (hx : isSegment x = true) : moduleOfFile? x = none :=
  List.findSome?_eq_none_iff.mpr fun _ he => beforeEnding?_of_isSegment hx he

/-- A source file is named for its module. -/
theorem moduleOfFile?_source (x : String) : moduleOfFile? (x ++ ".py") = some x := by
  have own : beforeEnding? (x ++ ".py") ".py" = some x := beforeEnding?_eq_some_iff.mpr rfl
  -- No other ending of a file of machine code has a `y` at its end.
  have other (ending : String) (h : ending.toList.getLast? = some 'o') :
      beforeEnding? (x ++ ".py") ending = none := by
    refine Option.eq_none_iff_forall_not_mem.mpr fun name hn => ?_
    have same := congrArg (fun s : String => s.toList.getLast?) (beforeEnding?_eq_some_iff.mp hn)
    simp [List.getLast?_append, h] at same
  simp [moduleOfFile?, endings, own, other]

/-! ### What stands in a directory -/

/-- A name that something in a directory can have. -/
@[mk_iff] structure FileName (s : String) : Prop where
  nonempty : s ≠ ""
  notHere : s ≠ "."
  notAbove : s ≠ ".."
  noSlash : '/' ∉ s.toList
  noNul : Char.ofNat 0 ∉ s.toList
  short : FileTree.byteCount s ≤ FileTree.nameLimit

instance : DecidablePred FileName := fun _ => decidable_of_iff _ (fileName_iff _).symm

/-- A name in a directory leads to what stands there, unless that is a link. -/
theorem find_of_fileName {node : FileTree.Node} (hf : FileName file)
    (hd : t.node? dir = some .directory) (hn : t.node? (dir ++ [file]) = some node)
    (noLink : ∀ target, node ≠ .link target) : t.find dir file = .ok (dir ++ [file], node) := by
  have relative : Path.anchorOf file.toList = .relative := by
    have noSlash := hf.noSlash
    unfold Path.anchorOf
    split
    · next h => simp [h] at noSlash
    · next h => simp [h] at noSlash
    · next h => simp [h] at noSlash
    · rfl
  have place : t.walk FileTree.linkLimit dir [file] = .ok (dir ++ [file]) := by
    -- That what stands there is no link is what `noLink` says.
    rw [FileTree.walk, hd]
    simp only [hf.nonempty, hf.notHere, hf.notAbove, if_false, hn, Bool.true_eq_false]
    rw [FileTree.walk]
  have fits : ¬ FileTree.pathLimit < FileTree.byteCount file :=
    Nat.not_lt.mpr (hf.short.trans (by decide))
  simp [FileTree.find, FileTree.locate, Path.isAbsolute, Path.ofText, Path.pieces, relative,
    Text.split_eq_singleton hf.noSlash, hf.nonempty, hf.noNul, fits, place, hn, bind, Except.bind,
    pure, Except.pure]

/-- A directory holds a package: a directory with a source of its own. -/
structure HoldsPackage (t : FileTree) (dir : Location) (x : String) : Prop where
  named : FileName x
  segment : isSegment x = true
  outer : t.node? dir = some .directory
  directory : t.node? (dir ++ [x]) = some .directory
  source : ∃ content executable readable,
    t.node? (dir ++ [x] ++ [ownSource ++ ".py"]) = some (.file content executable readable)

/-- A directory holds a source file, not the own one of a package. -/
structure HoldsModule (t : FileTree) (dir : Location) (x : String) : Prop where
  named : FileName (x ++ ".py")
  segment : isSegment x = true
  other : x ≠ ownSource
  outer : t.node? dir = some .directory
  source : ∃ content executable readable,
    t.node? (dir ++ [x ++ ".py"]) = some (.file content executable readable)

theorem mem_filesIn {node : FileTree.Node} (hd : t.node? dir = some .directory)
    (h : t.node? (dir ++ [file]) = some node) : file ∈ filesIn t dir := by
  have mem := FileTree.mem_of_node? h (by simp)
  have listed : filesIn t dir = Text.sorted (t.children dir) := by simp only [filesIn, hd]
  rw [listed]
  refine (List.mergeSort_perm _ _).mem_iff.mpr (List.mem_filterMap.mpr ⟨_, mem, ?_⟩)
  simp

/-! ### Entries -/

/-- The first entry of a name stays. -/
theorem exists_mem_entriesOf {e : Entry} (hf : file ∈ filesIn t dir)
    (he : entryOfFile? t dir file = some e) : ∃ e' ∈ entriesOf t dir, e'.name = e.name := by
  -- An entry that has been kept stays, and one of its name is kept with it.
  have kept (es acc : List Entry) (h : e ∈ es ∨ ∃ e' ∈ acc, e'.name = e.name) :
      ∃ e' ∈ es.foldl
          (fun es e => if es.any fun e' => e'.name == e.name then es else es ++ [e]) acc,
        e'.name = e.name := by
    induction es generalizing acc with
    | nil => simpa using h
    | cons e₁ es ih =>
        rw [List.foldl_cons]
        refine ih _ ?_
        rcases h with h | ⟨e', he', same⟩
        · rcases List.mem_cons.mp h with rfl | h
          · right
            split
            · next named => simpa using named
            · exact ⟨e, by simp, rfl⟩
          · exact .inl h
        · right
          split
          · exact ⟨e', he', same⟩
          · exact ⟨e', List.mem_append_left _ he', same⟩
  exact kept _ [] (.inl (List.mem_filterMap.mpr ⟨file, hf, he⟩))

theorem HoldsPackage.subdirectory? (h : HoldsPackage t dir x) :
    subdirectory? t dir x = some (dir ++ [x]) := by
  simp only [Package.subdirectory?, find_of_fileName h.named h.outer h.directory nofun]

theorem HoldsPackage.mem_filesIn (h : HoldsPackage t dir x) : x ∈ filesIn t dir :=
  Package.mem_filesIn h.outer h.directory

/-- A package has an entry in the listing. -/
theorem exists_entry_of_package (h : HoldsPackage t dir x) :
    ∃ e ∈ entriesOf t dir, e.name = x := by
  obtain ⟨content, executable, readable, own⟩ := h.source
  have any : ((filesIn t (dir ++ [x])).any fun f => moduleOfFile? f == some ownSource) = true :=
    List.any_eq_true.mpr ⟨_, mem_filesIn h.directory own, by rw [moduleOfFile?_source]; simp⟩
  have entry : entryOfFile? t dir x = some ⟨x, true⟩ := by
    simp only [entryOfFile?, moduleOfFile?_of_isSegment h.segment, h.subdirectory?, h.segment, any,
      Bool.and_self, if_true]
  exact exists_mem_entriesOf h.mem_filesIn entry

/-- A source file has an entry in the listing, or a package of its name has it. -/
theorem exists_entry_of_module (h : HoldsModule t dir x) :
    ∃ e ∈ entriesOf t dir, e.name = x := by
  obtain ⟨content, executable, readable, own⟩ := h.source
  have entry : entryOfFile? t dir (x ++ ".py") = some ⟨x, false⟩ := by
    simp only [entryOfFile?, moduleOfFile?_source, if_pos (And.intro h.other h.segment)]
  exact exists_mem_entriesOf (mem_filesIn h.outer own) entry

/-! ### Packages on the way -/

/-- Each segment of the name is that of a package in the one before it. -/
def Packages (t : FileTree) (dir : Location) : Name → Prop
  | [] => True
  | x :: rest => HoldsPackage t dir x ∧ Packages t (dir ++ [x]) rest

/-- A module stands below a directory, in packages of packages. -/
def Stands (t : FileTree) (dir : Location) (n : Name) : Prop :=
  ∃ q x, n = q ++ [x] ∧ Packages t dir q ∧
    (HoldsPackage t (dir ++ q) x ∨ HoldsModule t (dir ++ q) x)

theorem packages_append {k : Name} :
    Packages t dir (q ++ k) ↔ Packages t dir q ∧ Packages t (dir ++ q) k := by
  induction q generalizing dir with
  | nil => simp [Packages]
  | cons x rest ih => simp [Packages, ih, and_assoc]

theorem packages_concat :
    Packages t dir (q ++ [x]) ↔ Packages t dir q ∧ HoldsPackage t (dir ++ q) x := by
  simp [packages_append, Packages]

/-- A way through packages is no longer than there are places. -/
theorem Packages.length_le (h : Packages t dir q) : q.length ≤ t.length := by
  have places : (lineage q).map (dir ++ ·) ⊆ t.map Prod.fst := by
    intro l hl
    obtain ⟨k, hk, rfl⟩ := List.mem_map.mp hl
    obtain ⟨hne, k', rfl⟩ := mem_lineage_iff.mp hk
    obtain ⟨k, x, rfl⟩ := (List.eq_nil_or_concat' k).resolve_left hne
    have held := (packages_concat.mp (packages_append.mp h).1).2
    have mem := FileTree.mem_of_node? held.directory (by simp)
    exact List.mem_map.mpr ⟨_, mem, by simp⟩
  have distinct : ((lineage q).map (dir ++ ·)).Nodup :=
    (nodup_lineage q).map (List.append_right_injective dir)
  simpa [lineage] using (distinct.subperm places).length_le

/-! ### The catalogue -/

/-- The modules whose names go on from `stem` with one segment. -/
def modulesNamed (t : FileTree) (levels : Nat) (dir : Location) (stem : Name) (x : String) :
    Catalogue :=
  let package (l : Location) (source : List Statement) : Catalogue :=
    ⟨stem ++ [x], some (entriesOf t l), source⟩ :: modulesIn t levels l (stem ++ [x])
  match subdirectory? t dir x, source? t dir x with
  | some l, plain =>
    match source? t l ownSource, plain with
    | some source, _ => package l source
    | none, some source => [⟨stem ++ [x], none, source⟩]
    | none, none => package l []
  | none, some source => [⟨stem ++ [x], none, source⟩]
  | none, none => []

variable {levels : Nat} {m : Module}

theorem modulesIn_succ : modulesIn t (levels + 1) dir stem =
    (importable t dir).eraseDups.flatMap (modulesNamed t levels dir stem) := rfl

theorem mem_modulesNamed (h : m ∈ modulesNamed t levels dir stem x) :
    m.name = stem ++ [x] ∨ ∃ l, m ∈ modulesIn t levels l (stem ++ [x]) := by
  have package {l : Location} {source : List Statement}
      (h : m ∈ ⟨stem ++ [x], some (entriesOf t l), source⟩ ::
        modulesIn t levels l (stem ++ [x])) :
      m.name = stem ++ [x] ∨ ∃ l, m ∈ modulesIn t levels l (stem ++ [x]) := by
    rcases List.mem_cons.mp h with rfl | h
    · exact .inl rfl
    · exact .inr ⟨l, h⟩
  unfold modulesNamed at h
  split at h
  · split at h
    · exact package h
    · exact .inl (List.mem_singleton.mp h ▸ rfl)
    · exact package h
  · exact .inl (List.mem_singleton.mp h ▸ rfl)
  · cases h

theorem prefix_of_mem_modulesNamed (h : m ∈ modulesNamed t levels dir stem x) :
    stem ++ [x] <+: m.name := by
  induction levels generalizing dir stem x with
  | zero =>
      rcases mem_modulesNamed h with own | ⟨l, h⟩
      · exact own ▸ List.prefix_rfl
      · cases h
  | succ levels ih =>
      rcases mem_modulesNamed h with own | ⟨l, h⟩
      · exact own ▸ List.prefix_rfl
      · rw [modulesIn_succ] at h
        obtain ⟨y, -, h⟩ := List.mem_flatMap.mp h
        exact (List.prefix_append _ _).trans (ih h)

/-- Where only one element comes to something, the first that does is that one. -/
theorem findSome?_eq_of_only {α β : Type} {f : α → Option β} {x : α} {xs : List α} (hx : x ∈ xs)
    (other : ∀ y, y ≠ x → f y = none) : xs.findSome? f = f x := by
  cases own : f x with
  | none =>
      refine List.findSome?_eq_none_iff.mpr fun y _ => ?_
      by_cases hy : y = x
      · exact hy ▸ own
      · exact other y hy
  | some b =>
      obtain ⟨b', found⟩ := Option.isSome_iff_exists.mp
        (List.findSome?_isSome_iff.mpr ⟨x, hx, Option.isSome_iff_exists.mpr ⟨b, own⟩⟩)
      obtain ⟨y, -, hy⟩ := List.exists_of_findSome?_eq_some found
      obtain rfl : y = x := by
        by_contra ne
        cases (other y ne).symm.trans hy
      exact found.trans (hy.symm.trans own)

theorem find?_modulesIn (hx : x ∈ importable t dir) :
    (modulesIn t (levels + 1) dir stem).find? (stem ++ x :: q) =
      (modulesNamed t levels dir stem x).find? (stem ++ x :: q) := by
  rw [modulesIn_succ, Catalogue.find?, List.find?_flatMap]
  refine findSome?_eq_of_only (List.mem_eraseDups.mpr hx) fun y hy => ?_
  refine Option.eq_none_iff_forall_not_mem.mpr fun m hm => hy ?_
  have inside := prefix_of_mem_modulesNamed (Catalogue.mem_of_find? hm)
  rw [Catalogue.name_of_find? hm, List.prefix_append_right_inj] at inside
  exact (List.cons_prefix_cons.mp inside).1

/-- The own source of a package is found. -/
theorem HoldsPackage.exists_source (h : HoldsPackage t dir x) :
    ∃ source, source? t (dir ++ [x]) ownSource = some source := by
  obtain ⟨content, executable, readable, own⟩ := h.source
  have named : FileName (ownSource ++ ".py") := by decide +kernel
  refine Option.isSome_iff_exists.mp (List.findSome?_isSome_iff.mpr ⟨(".py", .source), ?_, ?_⟩)
  · simp [endings]
  · simp [find_of_fileName named h.directory own nofun]

theorem HoldsPackage.modulesNamed (h : HoldsPackage t dir x) (levels : Nat) (stem : Name) :
    ∃ source, modulesNamed t levels dir stem x =
      ⟨stem ++ [x], some (entriesOf t (dir ++ [x])), source⟩ ::
        modulesIn t levels (dir ++ [x]) (stem ++ [x]) := by
  obtain ⟨source, hs⟩ := h.exists_source
  exact ⟨source, by simp only [Package.modulesNamed, h.subdirectory?, hs]⟩

theorem HoldsPackage.mem_importable (h : HoldsPackage t dir x) : x ∈ importable t dir :=
  List.mem_filter.mpr
    ⟨List.mem_flatMap.mpr ⟨x, h.mem_filesIn, List.mem_cons_self⟩, h.segment⟩

theorem find?_modulesIn_of_packages (h : Packages t dir q) (hq : q ≠ [])
    (room : q.length ≤ levels) :
    ∃ m, (modulesIn t levels dir stem).find? (stem ++ q) = some m ∧
      m.entries = entriesOf t (dir ++ q) := by
  induction q generalizing levels dir stem with
  | nil => exact absurd rfl hq
  | cons x rest ih =>
      obtain _ | levels := levels
      · cases room
      obtain ⟨here, below⟩ := h
      obtain ⟨source, modules⟩ := here.modulesNamed levels stem
      rw [find?_modulesIn here.mem_importable, modules]
      by_cases last : rest = []
      · subst last
        exact ⟨_, List.find?_cons_of_pos (by simp), rfl⟩
      · obtain ⟨m, found, entries⟩ : ∃ m, (modulesIn t levels (dir ++ [x]) (stem ++ [x])).find?
            (stem ++ [x] ++ rest) = some m ∧ m.entries = entriesOf t (dir ++ [x] ++ rest) :=
          ih below last (Nat.le_of_succ_le_succ room)
        rw [List.append_cons stem x rest, List.append_cons dir x rest]
        exact ⟨m, (List.find?_cons_of_neg (by simpa using last)).trans found, entries⟩

/-- **The catalogue has the packages of the tree**, each with the listing of its directory. -/
theorem find?_ofDirectory (h : Packages t dir q) (hq : q ≠ []) :
    ∃ m, (Catalogue.ofDirectory t dir).find? q = some m ∧ m.entries = entriesOf t (dir ++ q) :=
  find?_modulesIn_of_packages h hq (h.length_le.trans (Nat.le_add_right _ _))

/-- **What stands below a package is in its tree.** -/
theorem inTree_of_stands (hp : p ≠ []) (inside : p <+: n) (h : Stands t dir n) :
    InTree (Catalogue.ofDirectory t dir) p n := by
  have entry {q : Name} {x : String} (outer : InTree (Catalogue.ofDirectory t dir) p q)
      (hq : q ≠ []) (packages : Packages t dir q)
      (holds : ∃ e ∈ entriesOf t (dir ++ q), e.name = x) :
      InTree (Catalogue.ofDirectory t dir) p (q ++ [x]) := by
    obtain ⟨m, found, entries⟩ := find?_ofDirectory packages hq
    obtain ⟨e, he, rfl⟩ := holds
    exact outer.entry found (entries ▸ he)
  have packaged (k : Name) (h : Packages t dir (p ++ k)) :
      InTree (Catalogue.ofDirectory t dir) p (p ++ k) := by
    induction k using List.reverseRecOn with
    | nil => simpa using InTree.root
    | append_singleton k x ih =>
        rw [← List.append_assoc] at h ⊢
        obtain ⟨outer, holds⟩ := packages_concat.mp h
        exact entry (ih outer) (by simp [hp]) outer (exists_entry_of_package holds)
  obtain ⟨q, x, rfl, outer, holds⟩ := h
  rcases List.prefix_concat_iff.mp inside with rfl | ⟨k, rfl⟩
  · exact .root
  · exact entry (packaged k outer) (by simp [hp]) outer
      (holds.elim exists_entry_of_package exists_entry_of_module)

/-- A source file in a package is in the package's tree. -/
example :
    let files : FileTree := [(["oa"], .directory), (["oa", "__init__.py"], .file [] false),
      (["oa", "m.py"], .file [] false)]
    InTree (Catalogue.ofDirectory files []) ["oa"] ["oa", "m"] := by
  intro files
  have package : HoldsPackage files [] "oa" :=
    ⟨by decide +kernel, by decide +kernel, rfl, rfl, [], false, true, rfl⟩
  have plain : HoldsModule files ["oa"] "m" :=
    ⟨by decide +kernel, by decide +kernel, by decide, rfl, [], false, true, rfl⟩
  exact inTree_of_stands (by decide) ⟨["m"], rfl⟩ ⟨["oa"], "m", rfl, ⟨package, trivial⟩, .inr plain⟩

end CompilerRunner.Package
