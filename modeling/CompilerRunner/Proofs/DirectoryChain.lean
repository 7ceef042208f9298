import CompilerRunner.Directories
import CompilerRunner.Proofs.Resolution
import Mathlib

/-!
# Proofs — DirectoryChain

The directories that settings are looked for in, for all paths.

* `Descends`: the directories from one path down to another, each directly below the one before,
  with none missing, twice or outside.
* `chain_of_isAbove`, `chain_of_not_isAbove`: they are listed where the second path is the first one
  or stands below it (`Path.IsAbove`); otherwise the list ends after the first path in an error.
* `hierarchy_of_root`: from the root down to a directory nothing stands in the way, so that the list
  is that of all directories above it.
* `directories_descend`: all of this of paths as they are given, which are resolved first.

The list from the root fails in one case.  A path over a link that leads back to itself may be
resolved to one with two slashes in front, and such a path does not stand below the root, which has
one slash (`hierarchy_of_doubleRoot`).
-/

namespace CompilerRunner

/-! ### Paths above others -/

namespace Path

/-- The path `q` is the path `p`, or it stands below it. -/
def IsAbove (p q : Path) : Prop := p.anchor = q.anchor ∧ p.parts <+: q.parts

instance (p q : Path) : Decidable (p.IsAbove q) :=
  inferInstanceAs (Decidable (p.anchor = q.anchor ∧ p.parts <+: q.parts))

/-- The path of what the names lead to from a path. -/
def extend (p : Path) (names : List String) : Path := { p with parts := p.parts ++ names }

variable {p q : Path}

theorem isAbove_iff : p.IsAbove q ↔ ∃ names, q = p.extend names := by
  constructor
  · rintro ⟨ha, names, hn⟩
    refine ⟨names, ?_⟩
    rw [extend, ha, hn]
  · rintro ⟨names, rfl⟩
    exact ⟨rfl, List.prefix_append _ _⟩

@[simp] theorem extend_nil (p : Path) : p.extend [] = p := by simp [extend]

theorem child_extend (p : Path) (name : String) (names : List String) :
    (p.child name).extend names = p.extend (name :: names) := by
  simp [child, extend]

end Path

namespace Directories

/-! ### From one path down to another -/

section Chain

variable {a b : Path} {names : List String}

theorem namesBelow_eq_some_iff {start stop : Location} :
    namesBelow start stop = some names ↔ stop = start ++ names := by
  induction start generalizing stop with
  | nil => simp [namesBelow]
  | cons n start ih =>
      cases stop with
      | nil => simp [namesBelow]
      | cons m stop =>
          by_cases h : n = m
          · simp [namesBelow, h, ih]
          · simp [namesBelow, h, Ne.symm h]

/-- The directories on the way down are those that the first names lead to, more and more of
them. -/
theorem cons_descend (start : Path) (names : List String) :
    start :: descend start names = names.inits.map start.extend := by
  induction names generalizing start with
  | nil => simp [descend]
  | cons name rest ih =>
      rw [descend, ih, List.inits_cons, List.map_cons, List.map_map, Path.extend_nil]
      exact congrArg _ (List.map_congr_left fun names _ => Path.child_extend start name names)

theorem getLast?_descend (start : Path) (names : List String) :
    (start :: descend start names).getLast? = some (start.extend names) := by
  induction names generalizing start with
  | nil => simp [descend]
  | cons name rest ih => rw [descend, List.getLast?_cons_cons, ih, Path.child_extend]

theorem isChain_descend (start : Path) (names : List String) :
    (start :: descend start names).IsChain fun p q => ∃ name, q = p.child name := by
  induction names generalizing start with
  | nil => exact .singleton start
  | cons name rest ih => exact .cons_cons ⟨name, rfl⟩ (ih _)

/-- Each directory is deeper than the ones before it. -/
theorem nodup_of_isChain {ds : List Path}
    (h : ds.IsChain fun p q => ∃ name, q = p.child name) : ds.Nodup := by
  have deeper : (ds.map fun p => p.parts.length).IsChain (· < ·) := by
    rw [List.isChain_map]
    refine h.imp fun p q hpq => ?_
    obtain ⟨name, rfl⟩ := hpq
    simp [Path.child]
  have distinct : (ds.map fun p => p.parts.length).Nodup := deeper.pairwise.imp Nat.ne_of_lt
  exact distinct.of_map _

/-- The list leads from one path down to another, without a gap and without a detour. -/
structure Descends (a b : Path) (ds : List Path) : Prop where
  first : ds.head? = some a
  last : ds.getLast? = some b
  children : ds.IsChain fun p q => ∃ name, q = p.child name
  nodup : ds.Nodup
  mem_iff : ∀ q, q ∈ ds ↔ a.IsAbove q ∧ q.IsAbove b
  length_eq : ds.length = b.parts.length - a.parts.length + 1

theorem mem_map_extend_iff {q : Path} :
    q ∈ names.inits.map a.extend ↔ a.IsAbove q ∧ q.IsAbove (a.extend names) := by
  simp only [List.mem_map, List.mem_inits, Path.isAbove_iff]
  constructor
  · rintro ⟨below, ⟨rest, rfl⟩, rfl⟩
    exact ⟨⟨below, rfl⟩, rest, by simp [Path.extend]⟩
  · rintro ⟨⟨below, rfl⟩, rest, h⟩
    refine ⟨below, ⟨rest, ?_⟩, rfl⟩
    have parts := congrArg Path.parts h
    simpa [Path.extend] using parts.symm

theorem descends_extend (a : Path) (names : List String) :
    Descends a (a.extend names) (a :: descend a names) where
  first := rfl
  last := getLast?_descend a names
  children := isChain_descend a names
  nodup := nodup_of_isChain (isChain_descend a names)
  mem_iff q := by rw [cons_descend, mem_map_extend_iff]
  length_eq := by
    rw [cons_descend]
    simp [Path.extend]

theorem chain_of_isAbove (h : a.IsAbove b) :
    ∃ ds, chain a b = (ds, none) ∧ Descends a b ds := by
  obtain ⟨names, rfl⟩ := Path.isAbove_iff.mp h
  exact ⟨_, chain_of_append a names, descends_extend a names⟩

theorem chain_of_not_isAbove (h : ¬ a.IsAbove b) : chain a b = ([a], some .invalidValue) := by
  have nowhere : (if a.anchor = b.anchor then namesBelow a.parts b.parts else none) = none := by
    split
    · next ha =>
        refine Option.eq_none_iff_forall_ne_some.mpr fun names hn => h ⟨ha, names, ?_⟩
        exact (namesBelow_eq_some_iff.mp hn).symm
    · rfl
  rw [chain, nowhere]

end Chain

/-! ### From the root down -/

section Hierarchy

variable {w : World} {user current : Path}

theorem hierarchy_of_resolve {place : Path} (h : w.resolve current = .ok place) :
    hierarchy w user current =
      (user :: (chain (Path.ofLocation []) place).1, (chain (Path.ofLocation []) place).2) := by
  have absolute : place.anchor ≠ .relative := by
    simpa [Path.isAbsolute] using FileTree.isAbsolute_of_resolve h
  have root : w.resolve { anchor := place.anchor, parts := [] } = .ok (Path.ofLocation []) :=
    FileTree.resolve_of_root absolute w.directory
  rw [hierarchy, h]
  simp only [between, root, h]

theorem hierarchy_of_error {f : PathFault} (h : w.resolve current = .error f) :
    hierarchy w user current = ([user], some f.crash) := by
  rw [hierarchy, h]

/-- For a directory below the root there are the directories above it, from the root on. -/
theorem hierarchy_of_root {place : Location} (h : w.resolve current = .ok (Path.ofLocation place)) :
    hierarchy w user current = (user :: place.inits.map Path.ofLocation, none) := by
  have names : chain (Path.ofLocation []) (Path.ofLocation place) =
      (Path.ofLocation [] :: descend (Path.ofLocation []) place, none) :=
    chain_of_append (Path.ofLocation []) place
  rw [hierarchy_of_resolve h, names, cons_descend]
  rfl

/-- A path with two slashes in front does not stand below the root. -/
theorem hierarchy_of_doubleRoot {place : Path} (h : w.resolve current = .ok place)
    (hp : place.anchor = .doubleRoot) :
    hierarchy w user current = ([user, Path.ofLocation []], some .invalidValue) := by
  have apart : ¬ (Path.ofLocation []).IsAbove place := fun above => by
    have same := above.1
    rw [hp] at same
    cases same
  rw [hierarchy_of_resolve h, chain_of_not_isAbove apart]

/-- **The directories on the way down.**  Where both paths stand for a place, the directories from
the one down to the other are listed if the second is the first or stands below it, and else the
list ends after the first in an error.  From the root down to a directory all that stand above it
are listed after the one of the user, unless the path has two slashes in front; this it has only
over a link that leads back to itself. -/
theorem directories_descend (w : World) :
    (∀ start stop,
      (∀ f, w.resolve start = .error f → between w start stop = ([], some f.crash)) ∧
      ∀ a, w.resolve start = .ok a →
        (∀ f, w.resolve stop = .error f → between w start stop = ([a], some f.crash)) ∧
        ∀ b, w.resolve stop = .ok b →
          (a.IsAbove b → ∃ ds, between w start stop = (ds, none) ∧ Descends a b ds) ∧
          (¬ a.IsAbove b → between w start stop = ([a], some .invalidValue))) ∧
    ∀ user current,
      (∀ f, w.resolve current = .error f → hierarchy w user current = ([user], some f.crash)) ∧
      ∀ b, w.resolve current = .ok b →
        (b.anchor = .root → ∃ ds, hierarchy w user current = (user :: ds, none) ∧
          Descends (Path.ofLocation []) b ds ∧ ∀ q, q ∈ ds ↔ q.IsAbove b) ∧
        (b.anchor ≠ .root →
          hierarchy w user current = ([user, Path.ofLocation []], some .invalidValue)) ∧
        ((∃ l, w.tree.Ends w.directory current l) → b.anchor = .root) := by
  refine ⟨fun start stop => ⟨fun f hf => by rw [between, hf], fun a ha => ⟨fun f hf => ?_,
    fun b hb => ⟨fun above => ?_, fun apart => ?_⟩⟩⟩, fun user current =>
    ⟨fun f hf => hierarchy_of_error hf, fun b hb => ⟨fun root => ?_, fun other => ?_, ?_⟩⟩⟩
  · simp only [between, ha, hf]
  · simp only [between, ha, hb]
    exact chain_of_isAbove above
  · simp only [between, ha, hb]
    exact chain_of_not_isAbove apart
  · have above : (Path.ofLocation []).IsAbove b := ⟨root.symm, List.nil_prefix⟩
    obtain ⟨ds, hds, descends⟩ := chain_of_isAbove above
    refine ⟨ds, by rw [hierarchy_of_resolve hb, hds], descends, fun q => ?_⟩
    rw [descends.mem_iff]
    exact ⟨And.right, fun hq => ⟨⟨root.symm.trans hq.1.symm, List.nil_prefix⟩, hq⟩⟩
  · refine hierarchy_of_doubleRoot hb ?_
    have absolute := FileTree.isAbsolute_of_resolve hb
    cases h : b.anchor with
    | relative => simp [Path.isAbsolute, h] at absolute
    | root => exact absurd h other
    | doubleRoot => rfl
  · rintro ⟨l, ends⟩
    rw [FileTree.eq_destination_of_resolve hb, ends.destination_eq]
    rfl

end Hierarchy

/-! ### A link that leads back to itself -/

/-- A world with a directory, which is the one that commands run in, and with a link whose target
starts with the link, with two slashes after it. -/
def loopWorld : World :=
  { tree := [(["p"], .directory), (["loop"], .link "loop///x")]
    environment := []
    directory := ["p"]
    modules := [] }

theorem resolve_loopWorld_dot :
    loopWorld.resolve (Path.ofText "") = .ok (Path.ofLocation ["p"]) := by
  have place : loopWorld.tree.destination ["p"] (Path.ofText "") = Path.ofLocation ["p"] := by
    cbv
  exact FileTree.resolve_of_destination (by decide) place (by cbv; simp)

theorem resolve_loopWorld_below :
    loopWorld.resolve (Path.ofText "q/../r") = .ok (Path.ofLocation ["p", "r"]) := by
  have parsed : Path.ofText "q/../r" = ⟨.relative, ["q", "..", "r"]⟩ := by cbv
  have place : loopWorld.tree.destination ["p"] ⟨.relative, ["q", "..", "r"]⟩ =
      Path.ofLocation ["p", "r"] := by
    cbv
  rw [parsed]
  exact FileTree.resolve_of_destination (by decide) place (by cbv; simp)

theorem resolve_loopWorld_loop :
    loopWorld.resolve (Path.ofText "/loop") = .ok { anchor := .doubleRoot, parts := ["x"] } := by
  have parsed : Path.ofText "/loop" = ⟨.root, ["loop"]⟩ := by cbv
  have target : Path.pieces "loop///x" = ["loop", "", "", "x"] := by cbv
  have seen : FileTree.seen? [(["p"], .directory), (["loop"], .link "loop///x")] ["p"]
      ⟨.root, ["loop"]⟩ = some (.link "loop///x") := by
    rfl
  have written :
      FileTree.asWritten (FileTree.asWritten (Path.ofLocation ["loop"]) ["", "", "x"]) [] =
        { anchor := .doubleRoot, parts := ["x"] } := by
    cbv
  have place : loopWorld.tree.destination ["p"] ⟨.root, ["loop"]⟩ =
      { anchor := .doubleRoot, parts := ["x"] } := by
    rw [← written]
    simp [FileTree.destination, FileTree.followed, FileTree.follow, FileTree.spot, FileTree.below,
      FileTree.linkCount, Path.child, Path.isAbsolute, Path.ofLocation, loopWorld, List.lookup, seen,
      target]
  rw [parsed]
  exact FileTree.resolve_of_destination (by decide) place (by cbv; simp)

/-- From the directory down to one below it, from there back up, from the root down to it, and from
the root down to the link. -/
theorem directories_descend_loopWorld :
    let here := Path.ofText ""
    let deeper := Path.ofText "q/../r"
    (∃ ds, between loopWorld here deeper = (ds, none) ∧
      Descends (Path.ofLocation ["p"]) (Path.ofLocation ["p", "r"]) ds) ∧
    between loopWorld deeper here = ([Path.ofLocation ["p", "r"]], some .invalidValue) ∧
    (∃ ds, hierarchy loopWorld here deeper = (here :: ds, none) ∧
      Descends (Path.ofLocation []) (Path.ofLocation ["p", "r"]) ds ∧
      ∀ q, q ∈ ds ↔ q.IsAbove (Path.ofLocation ["p", "r"])) ∧
    hierarchy loopWorld here (Path.ofText "/loop") =
      ([here, Path.ofLocation []], some .invalidValue) := by
  intro here deeper
  obtain ⟨down, fromRoot⟩ := directories_descend loopWorld
  refine ⟨?_, ?_, ?_, ?_⟩
  · exact (((down here deeper).2 _ resolve_loopWorld_dot).2 _ resolve_loopWorld_below).1
      (by decide)
  · exact (((down deeper here).2 _ resolve_loopWorld_below).2 _ resolve_loopWorld_dot).2
      (by decide)
  · exact ((fromRoot here deeper).2 _ resolve_loopWorld_below).1 rfl
  · exact ((fromRoot here _).2 _ resolve_loopWorld_loop).2.1 (by decide)

end Directories

end CompilerRunner
