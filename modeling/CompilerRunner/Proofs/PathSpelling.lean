import CompilerRunner.Proofs.Resolution
import Mathlib

/-!
# Proofs — PathSpelling

Which spellings of a path stand for one place.

* `follow_of_leads`, `ends_iff_leads`: a path can be followed to its end exactly if the rules lead
  somewhere.  No link on such a way leads back to itself (`Busy.fresh`), and so no more links are
  followed one inside another than there are (`Busy.length_le`).
* `leads_of_walk`: what is found when a path is opened is where the rules lead.
* `resolve_of_leads`, `resolve_of_locate`: all paths that lead to one place, and all texts that open
  it, are resolved to the path of that place.
-/

namespace CompilerRunner.FileTree

variable {t : FileTree} {dir l m : Location} {p : Path} {n : Nat} {pieces : List String}

/-! ### Links inside one another -/

/-- What stands below the root is in the list of the tree. -/
theorem mem_of_node? {node : Node} (h : t.node? l = some node) (hl : l ≠ []) : (l, node) ∈ t := by
  rw [node?, if_neg hl] at h
  obtain ⟨before, after, rfl, -⟩ := List.lookup_eq_some_iff.mp h
  simp

/-- There are no more places with links than links. -/
theorem length_le_linkCount {links : List Location} (hn : links.Nodup)
    (hl : ∀ l ∈ links, ∃ target, t.node? l = some (.link target)) :
    links.length ≤ t.linkCount := by
  rw [linkCount, List.countP_eq_length_filter, ← List.length_map Prod.fst]
  refine (hn.subperm fun l hm => ?_).length_le
  obtain ⟨target, ht⟩ := hl l hm
  have below : l ≠ [] := by
    rintro rfl
    cases ht
  exact List.mem_map.mpr ⟨_, List.mem_filter.mpr ⟨mem_of_node? ht below, rfl⟩, rfl⟩

/-- The places of the links that are being followed, one inside another.  From each of them the
rules lead on over at least `n` links, so that none is met again on a way over `n` links or
fewer. -/
structure Busy (t : FileTree) (dir : Location) (n : Nat) (trail : Trail) (busy : List Location) :
    Prop where
  mem : ∀ k, trail.lookup k = some none → spot dir k ∈ busy
  nodup : busy.Nodup
  leads : ∀ l ∈ busy, ∃ target i m, t.node? l = some (.link target) ∧ n ≤ i ∧
    Leads t i (followLink l.dropLast target).1 (followLink l.dropLast target).2 m

section Busy

variable {trail trail' : Trail} {busy : List Location} {name target : String} {i : Nat}

theorem busy_nil (t : FileTree) (dir : Location) (n : Nat) : Busy t dir n [] [] :=
  ⟨nofun, .nil, by simp⟩

theorem Busy.mono (h : Busy t dir n trail busy) (hi : i ≤ n) : Busy t dir i trail busy := by
  refine ⟨h.mem, h.nodup, fun l hl => ?_⟩
  obtain ⟨target, j, m, ht, hj, leads⟩ := h.leads l hl
  exact ⟨target, j, m, ht, hi.trans hj, leads⟩

theorem Busy.congr (h : Busy t dir n trail busy)
    (ht : ∀ k, trail'.lookup k = some none → trail.lookup k = some none) :
    Busy t dir n trail' busy :=
  ⟨fun k hk => h.mem k (ht k hk), h.nodup, h.leads⟩

theorem Busy.length_le (h : Busy t dir n trail busy) : busy.length ≤ t.linkCount := by
  refine length_le_linkCount h.nodup fun l hl => ?_
  obtain ⟨target, -, -, ht, -⟩ := h.leads l hl
  exact ⟨target, ht⟩

/-- **No link leads back to itself** where the rules lead somewhere: its target would lead on over
fewer links than its target does. -/
theorem Busy.fresh (h : Busy t dir n trail busy)
    (hl : t.node? (l ++ [name]) = some (.link target)) (hi : i < n)
    (ht : Leads t i (followLink l target).1 (followLink l target).2 m) :
    l ++ [name] ∉ busy := by
  intro mem
  obtain ⟨target', j, m', hl', hj, leads⟩ := h.leads _ mem
  rw [hl] at hl'
  obtain rfl := Node.link.inj (Option.some.inj hl')
  rw [List.dropLast_concat] at leads
  have same : i = j := (ht.unique leads).1
  omega

/-- One link more is being followed, and its target leads on over `i` links. -/
theorem Busy.push (h : Busy t dir n trail busy) (hn : LeadsDown name)
    (hl : t.node? (spot dir p ++ [name]) = some (.link target)) (hi : i < n)
    (ht : Leads t i (followLink (spot dir p) target).1 (followLink (spot dir p) target).2 m) :
    Busy t dir i ((p.child name, none) :: trail) ((spot dir p ++ [name]) :: busy) := by
  refine ⟨fun k hk => ?_, List.nodup_cons.mpr ⟨h.fresh hl hi ht, h.nodup⟩, fun l hm => ?_⟩
  · by_cases same : k = p.child name
    · rw [same, spot_child dir p hn]
      exact List.mem_cons_self
    · rw [List.lookup_cons, beq_eq_false_iff_ne.mpr same] at hk
      exact List.mem_cons_of_mem _ (h.mem k hk)
  · rcases List.mem_cons.mp hm with rfl | hm
    · exact ⟨target, i, m, hl, Nat.le_refl i, by rwa [List.dropLast_concat]⟩
    · exact (h.mono hi.le).leads l hm

end Busy

/-- Once a link has been followed, the links that are still being followed are the ones before. -/
theorem lookup_eq_some_none_iff {trail inner : Trail} {k : Path} (q : Path)
    (hk : trail.lookup k = none)
    (h : ∀ k', inner.lookup k' = some none ↔ ((k, none) :: trail).lookup k' = some none)
    (k' : Path) :
    ((k, some q) :: inner).lookup k' = some none ↔ trail.lookup k' = some none := by
  by_cases same : k' = k
  · subst same
    simp [hk]
  · have other : (k' == k) = false := beq_eq_false_iff_ne.mpr same
    have inside := h k'
    simp only [List.lookup_cons, other] at inside ⊢
    exact inside

/-! ### Where the rules lead can be followed -/

/-- A link that is met for the first time is followed by itself, and then the rest. -/
theorem follow_link {depth : Nat} {trail inner : Trail} {name target : String} {q : Path}
    (hn : LeadsDown name) (ht : t.seen? dir (p.child name) = some (.link target))
    (hm : trail.lookup (p.child name) = none)
    (hi : t.follow dir depth ((p.child name, none) :: trail)
      (if (Path.ofText target).isAbsolute then Path.ofLocation [] else p) (Path.pieces target) =
        .ok (q, inner)) (rest : List String) :
    t.follow dir (depth + 1) trail p (name :: rest) =
      t.follow dir (depth + 1) ((p.child name, some q) :: inner) q rest := by
  rw [follow, if_neg (by simp [hn.1, hn.2.1]), if_neg hn.2.2]
  simp only [ht, hm, hi]

/-- **Following where the rules lead.**  Where the rules lead somewhere, a path can be followed to
its end, whatever links are being followed, as long as those and the depth that is left are not
fewer than the links of the tree. -/
theorem follow_of_leads {depth : Nat} {trail : Trail} {busy : List Location}
    (h : Leads t n l pieces m) (hl : spot dir p = l) (hp : Regular t dir p) (hk : Known t dir trail)
    (hb : Busy t dir n trail busy) (hd : t.linkCount ≤ busy.length + depth) :
    ∃ q trail', t.follow dir depth trail p pieces = .ok (q, trail') ∧
      ∀ k, trail'.lookup k = some none ↔ trail.lookup k = some none := by
  induction h generalizing depth trail busy p with
  | here => exact ⟨p, trail, by rw [follow], fun _ => Iff.rfl⟩
  | stay hn _ ih =>
      rw [follow, if_pos hn]
      exact ih hl hp hk hb hd
  | up _ ih =>
      rw [follow, if_neg (by decide), if_pos rfl]
      exact ih (by rw [spot_parent hp, hl]) hp.parent hk hb hd
  | @down n l m name rest hn hfree _ ih =>
      subst hl
      rw [follow, if_neg (by simp [hn.1, hn.2.1]), if_neg hn.2.2, hp.seen?_child hn]
      split
      · next target ht => exact absurd ht (hfree target)
      · exact ih (spot_child dir p hn) (hp.child hn) hk hb hd
  | @link i n l k m name target rest hn ht leads _ iht ih =>
      subst hl
      have stands := hp.node?_child hn ht
      have seen := (hp.seen?_child hn).trans ht
      have busy_rest : Busy t dir n trail busy := hb.mono (by omega)
      cases hm : trail.lookup (p.child name) with
      | some reached =>
          cases reached with
          | none =>
              -- the link would be met while it is followed
              have mem := hb.mem _ hm
              rw [spot_child dir p hn] at mem
              exact absurd mem (hb.fresh stands (by omega) leads)
          | some q =>
              obtain ⟨regular, known⟩ := hk _ _ hm
              rw [spot_child dir p hn, List.dropLast_concat] at known
              obtain ⟨j, again⟩ := known target ht
              rw [follow, if_neg (by simp [hn.1, hn.2.1]), if_neg hn.2.2]
              simp only [seen, hm]
              exact ih (again.unique leads).2 regular hk busy_rest hd
      | none =>
          have pushed := hb.push hn stands (by omega) leads
          have room : busy.length + 1 ≤ t.linkCount := pushed.length_le
          obtain ⟨depth, rfl⟩ : ∃ d, depth = d + 1 := ⟨depth - 1, by omega⟩
          have start := followLink_spot dir p target
          have met : Known t dir ((p.child name, none) :: trail) := hk.push (by simp)
          have inside : ∃ q inner, t.follow dir depth ((p.child name, none) :: trail)
              (if (Path.ofText target).isAbsolute then Path.ofLocation [] else p)
              (Path.pieces target) = .ok (q, inner) ∧ ∀ k', inner.lookup k' = some none ↔
                ((p.child name, none) :: trail).lookup k' = some none := by
            rw [start] at iht
            exact iht rfl (hp.start target) met pushed (by simp; omega)
          obtain ⟨q, inner, hi, kept⟩ := inside
          obtain ⟨regular, known, j, again⟩ := leads_of_follow (hp.start target) met hi
          have same : spot dir q = k := by
            rw [start] at leads
            exact (again.unique leads).2
          have known' : Known t dir ((p.child name, some q) :: inner) :=
            known.push fun r hr => Option.some.inj hr ▸
              ⟨regular, known_child hn ht (same ▸ leads)⟩
          have still := lookup_eq_some_none_iff q hm kept
          obtain ⟨r, trail', hf, kept'⟩ := ih same regular known'
            (busy_rest.congr fun k' => (still k').mp) hd
          rw [follow_link hn seen hm hi]
          exact ⟨r, trail', hf, fun k' => (kept' k').trans (still k')⟩

/-- A path can be followed to its end exactly if the rules lead somewhere. -/
theorem ends_iff_leads (ho : Reachable t (origin dir p)) :
    Ends t dir p l ↔ ∃ n, Leads t n (origin dir p) p.parts l := by
  constructor
  · exact fun h => h.leads ho
  · rintro ⟨n, leads⟩
    have depth : t.linkCount ≤ ([] : List Location).length + (dir.length + 2) * t.linkCount := by
      simpa using Nat.le_mul_of_pos_left t.linkCount (by omega)
    obtain ⟨q, trail, hf, -⟩ := follow_of_leads leads (spot_start dir p) (regular_start ho)
      known_nil (busy_nil t dir n) depth
    obtain ⟨-, -, i, again⟩ := leads_of_follow (regular_start ho) known_nil hf
    rw [spot_start] at again
    exact ⟨q, trail, hf, (again.unique leads).2⟩

theorem reachable_origin (h : Reachable t dir) (p : Path) : Reachable t (origin dir p) := by
  unfold origin
  split
  · exact reachable_nil t
  · exact h

/-- **Where the rules lead.**  All paths that lead to a place are resolved to the path of it. -/
theorem resolve_of_leads (h : Leads t n (origin dir p) p.parts l)
    (ho : Reachable t (origin dir p))
    (hp : ∀ name ∈ p.parts, Char.ofNat 0 ∉ name.toList) :
    t.resolve dir p = .ok (Path.ofLocation l) :=
  ((ends_iff_leads ho).mpr ⟨n, h⟩).resolve_eq ho hp

/-! ### Paths that can be opened -/

theorem Leads.of_append {rest : List String} (h : Leads t n l (pieces ++ rest) m) :
    ∃ i j k, i + j = n ∧ Leads t i l pieces k ∧ Leads t j k rest m := by
  induction pieces generalizing l n with
  | nil => exact ⟨0, n, l, Nat.zero_add n, .here, h⟩
  | cons name pieces ih =>
      cases h with
      | stay hn h =>
          obtain ⟨i, j, k, hij, hi, hj⟩ := ih h
          exact ⟨i, j, k, hij, .stay hn hi, hj⟩
      | up h =>
          obtain ⟨i, j, k, hij, hi, hj⟩ := ih h
          exact ⟨i, j, k, hij, .up hi, hj⟩
      | down hn hl h =>
          obtain ⟨i, j, k, hij, hi, hj⟩ := ih h
          exact ⟨i, j, k, hij, .down hn hl hi, hj⟩
      | @link o _ _ _ _ _ _ _ hn hl ht h =>
          obtain ⟨i, j, k, hij, hi, hj⟩ := ih h
          exact ⟨o + i + 1, j, k, by omega, .link hn hl ht hi, hj⟩

/-- What is found when pieces are walked is where the rules lead, over no more links than may be
followed. -/
theorem leads_of_walk {links : Nat} (h : t.walk links l pieces = .ok m) (hl : Shown t l) :
    ∃ n ≤ links, Leads t n l pieces m := by
  fun_induction walk t links l pieces with
  | case1 =>
      cases h
      exact ⟨0, Nat.zero_le _, .here⟩
  | case2 _ _ _ _ _ _ ih =>
      obtain ⟨n, hle, leads⟩ := ih h hl
      exact ⟨n, hle, .stay (.inl rfl) leads⟩
  | case4 _ _ _ _ _ _ _ _ ih =>
      obtain ⟨n, hle, leads⟩ := ih h hl
      exact ⟨n, hle, .stay (.inr rfl) leads⟩
  | case5 _ _ _ _ _ _ _ _ _ ih =>
      obtain ⟨n, hle, leads⟩ := ih h hl.dropLast
      exact ⟨n, hle, .up leads⟩
  | case8 dir name _ _ _ here nonempty opened notHere notAbove target hl' _ ih =>
      have hn : LeadsDown name := ⟨nonempty, notHere, notAbove⟩
      have shown := hl.child hn (isClosed_eq_false here opened)
      obtain ⟨n, hle, leads⟩ := ih h (hl.followLink target)
      obtain ⟨i, j, k, hij, inside, after⟩ := leads.of_append
      exact ⟨i + j + 1, by omega, .link hn (shown.sees_eq.trans hl') inside after⟩
  | case9 _ dir name _ _ _ here nonempty opened notHere notAbove node free hl' ih =>
      have hn : LeadsDown name := ⟨nonempty, notHere, notAbove⟩
      have shown := hl.child hn (isClosed_eq_false here opened)
      obtain ⟨n, hle, leads⟩ := ih h shown
      refine ⟨n, hle, .down hn (fun target ht => ?_) leads⟩
      rw [shown.sees_eq, hl'] at ht
      exact free target (Option.some.inj ht)
  | case3 | case6 | case7 | case10 => cases h

/-- Empty pieces and dots make no difference. -/
theorem Leads.filter (h : Leads t n l pieces m) :
    Leads t n l (pieces.filter fun name => name ≠ "" && name ≠ ".") m := by
  induction h with
  | here => exact .here
  | stay hn _ ih =>
      rw [List.filter_cons_of_neg]
      · exact ih
      · rcases hn with rfl | rfl <;> decide
  | up _ ih => exact .up ih
  | down hn hl _ ih =>
      rw [List.filter_cons_of_pos (by simp [hn.1, hn.2.1])]
      exact .down hn hl ih
  | link hn hl ht _ _ ih =>
      rw [List.filter_cons_of_pos (by simp [hn.1, hn.2.1])]
      exact .link hn hl ht ih

theorem exists_walk_of_locate {text : String} (h : t.locate dir text = .ok l) :
    Char.ofNat 0 ∉ text.toList ∧
      ∃ links, t.walk links (origin dir (Path.ofText text)) (Path.pieces text) = .ok l := by
  unfold locate at h
  unfold origin
  split at h
  · cases h
  split at h
  · cases h
  split at h
  · cases h
  next hz _ _ =>
    refine ⟨by simpa using hz, FileTree.linkLimit, ?_⟩
    split at h
    · next ha => rwa [if_pos ha]
    · next ha => rwa [if_neg ha]

/-- **What opens a directory stands for it.**  Each text by which something is found is resolved to
the path of the place where it is found. -/
theorem resolve_of_locate {text : String} (ho : Reachable t (origin dir (Path.ofText text)))
    (h : t.locate dir text = .ok l) :
    t.resolve dir (Path.ofText text) = .ok (Path.ofLocation l) := by
  obtain ⟨hz, links, walked⟩ := exists_walk_of_locate h
  obtain ⟨n, -, leads⟩ := leads_of_walk walked ho.shown
  exact resolve_of_leads leads.filter ho
    fun name hn hc => hz (Text.mem_of_mem_split (List.mem_filter.mp hn).1 hc)

end CompilerRunner.FileTree
