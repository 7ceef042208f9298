import CompilerRunner.World
import Mathlib

/-!
# Proofs — Resolution

Where a path leads.  `Leads` says so by rules, and over how many links: an empty piece and a dot
stay, two dots go up, and a name goes down, over the link that stands there if one does.

* `leads_of_follow`: a path that can be followed to its end ends where the rules lead, whatever
  links have been met before.
* `Leads.unique`: the rules lead to one place.
* `sees`, `Reachable`: what stands behind a directory that may not be searched is not seen, and a
  link there is a name like any other.  A place is reachable if it is reached by names alone and
  nothing on the way is closed.
* `Leads.plain`: the place is reached over no link (`Plain`), so that its own path leads there and
  nowhere else (`resolve_of_plain`); resolving a path that has been resolved changes nothing
  (`Ends.resolve_idem`).

A path that cannot be followed to its end meets a link that leads back to itself.  From there on it
is taken as written, and neither of the last two holds: a link may stand at the place, and where two
slashes come after the link, the path starts with two slashes itself.
-/

namespace CompilerRunner

/-- A step by the name leads one place down. -/
def LeadsDown (name : String) : Prop := name ≠ "" ∧ name ≠ "." ∧ name ≠ ".."

instance (name : String) : Decidable (LeadsDown name) :=
  inferInstanceAs (Decidable (name ≠ "" ∧ name ≠ "." ∧ name ≠ ".."))

theorem leadsDown_of_not {name : String} (hs : ¬ (name = "" ∨ name = ".")) (hu : ¬ name = "..") :
    LeadsDown name :=
  ⟨fun e => hs (.inl e), fun e => hs (.inr e), hu⟩

namespace FileTree

/-! ### Places that names lead to -/

section Below

variable {dir l : Location} {p : Path} {name : String}

@[simp] theorem below_nil (dir : Location) : below dir [] = dir := rfl

theorem below_append (dir : Location) (names rest : List String) :
    below dir (names ++ rest) = below (below dir names) rest := by
  simp [below]

theorem below_singleton (h : LeadsDown name) : below dir [name] = dir ++ [name] := by
  obtain ⟨h1, h2, h3⟩ := h
  simp [below, h1, h2, h3]

theorem below_up (dir : Location) : below dir [".."] = dir.dropLast := by
  simp [below]

theorem below_of_leadsDown (dir : Location) (h : ∀ name ∈ l, LeadsDown name) :
    below dir l = dir ++ l := by
  induction l generalizing dir with
  | nil => simp
  | cons name rest ih =>
      obtain ⟨hn, hrest⟩ := List.forall_mem_cons.mp h
      rw [← List.singleton_append, below_append, below_singleton hn, ih _ hrest,
        List.append_assoc]

theorem spot_ofLocation (dir : Location) (h : ∀ name ∈ l, LeadsDown name) :
    spot dir (Path.ofLocation l) = l := by
  have absolute : (Path.ofLocation l).isAbsolute = true := rfl
  rw [spot, if_pos absolute]
  exact below_of_leadsDown [] h

theorem spot_child (dir : Location) (p : Path) (h : LeadsDown name) :
    spot dir (p.child name) = spot dir p ++ [name] := by
  have same : (p.child name).isAbsolute = p.isAbsolute := rfl
  rw [spot, spot, same]
  exact (below_append _ _ _).trans (below_singleton h)

/-- Steps up, and then names that lead down. -/
inductive Steps : List String → Prop where
  | down {names : List String} (h : ∀ name ∈ names, LeadsDown name) : Steps names
  | up {names : List String} (h : Steps names) : Steps (".." :: names)

theorem Steps.mem {names : List String} (h : Steps names) (hm : name ∈ names) :
    name = ".." ∨ LeadsDown name := by
  induction h with
  | down h => exact .inr (h name hm)
  | up _ ih => exact (List.mem_cons.mp hm).elim .inl ih

theorem Steps.child {names : List String} (h : Steps names) (hn : LeadsDown name) :
    Steps (names ++ [name]) := by
  induction h with
  | down h => exact .down (by simpa [or_imp, forall_and] using ⟨h, hn⟩)
  | up _ ih => exact .up ih

theorem Steps.dropLast {names : List String} (h : Steps names) : Steps names.dropLast := by
  induction h with
  | down h => exact .down fun name hm => h name (List.mem_of_mem_dropLast hm)
  | @up names _ ih =>
      cases names with
      | nil => exact .down (by simp)
      | cons name rest => exact .up ih

theorem Steps.up_last {names : List String} (h : Steps names)
    (hl : ∀ last, names.getLast? = some last → last = "..") : Steps (names ++ [".."]) := by
  induction h with
  | @down names h =>
      cases hn : names.getLast? with
      | none =>
          obtain rfl := List.getLast?_eq_none_iff.mp hn
          exact .up (.down (by simp))
      | some last =>
          have mem : last ∈ names := List.mem_of_getLast? hn
          exact absurd (hl last hn) (h last mem).2.2
  | @up names _ ih =>
      refine .up (ih fun last hn => hl last ?_)
      rw [List.getLast?_cons, hn]
      rfl

end Below

/-! ### What is seen -/

/-- What is seen at a place from the root, links not followed. -/
def sees (t : FileTree) (l : Location) : Option Node := t.seen? [] (Path.ofLocation l)

/-- The place is reached by names alone, over no link that is seen. -/
structure Plain (t : FileTree) (l : Location) : Prop where
  down : ∀ name ∈ l, LeadsDown name
  noLink : ∀ above, above <+: l → ∀ target, t.sees above ≠ some (.link target)

/-- Every directory on the way to the place may be searched, and so may one that stands there. -/
structure Reachable (t : FileTree) (l : Location) : Prop where
  plain : Plain t l
  opened : ∀ above, above <+: l → t.isClosed above = false

section Sees

variable {t : FileTree} {dir l m : Location} {name target : String}

theorem isHidden_append (t : FileTree) (dir : Location) (names rest : List String) :
    t.isHidden dir (names ++ rest) =
      (t.isHidden dir names || t.isHidden (below dir names) rest) := by
  induction names generalizing dir with
  | nil => simp [isHidden]
  | cons name names ih =>
      rw [List.cons_append, isHidden, isHidden, ih, ← below_append, List.singleton_append,
        Bool.or_assoc]

theorem seen?_ofLocation (t : FileTree) (dir l : Location) :
    t.seen? dir (Path.ofLocation l) = t.sees l := rfl

theorem sees_eq (h : ∀ name ∈ l, LeadsDown name) :
    t.sees l = if t.isHidden [] l then none else t.node? l := by
  have absolute : (Path.ofLocation l).isAbsolute = true := rfl
  rw [sees, seen?, if_pos absolute, spot_ofLocation [] h]
  rfl

/-- What is seen stands there. -/
theorem node?_of_sees {node : Node} (h : ∀ name ∈ l, LeadsDown name) (hl : t.sees l = some node) :
    t.node? l = some node := by
  rw [sees_eq h] at hl
  split at hl
  · cases hl
  · exact hl

theorem plain_nil (t : FileTree) : Plain t [] := by
  refine ⟨by simp, fun above h target => ?_⟩
  obtain rfl := List.prefix_nil.mp h
  show (some .directory : Option Node) ≠ some (.link target)
  simp

theorem reachable_nil (t : FileTree) : Reachable t [] := by
  refine ⟨plain_nil t, fun above h => ?_⟩
  obtain rfl := List.prefix_nil.mp h
  rfl

theorem Plain.of_prefix (h : Plain t l) (hm : m <+: l) : Plain t m :=
  ⟨fun name hn => h.down name (hm.subset hn), fun above ha => h.noLink above (ha.trans hm)⟩

theorem Reachable.of_prefix (h : Reachable t l) (hm : m <+: l) : Reachable t m :=
  ⟨h.plain.of_prefix hm, fun above ha => h.opened above (ha.trans hm)⟩

theorem Plain.child (h : Plain t l) (hn : LeadsDown name)
    (hl : ∀ target, t.sees (l ++ [name]) ≠ some (.link target)) : Plain t (l ++ [name]) := by
  refine ⟨fun n hm => ?_, fun above ha => ?_⟩
  · rcases List.mem_append.mp hm with hm | hm
    · exact h.down n hm
    · exact List.mem_singleton.mp hm ▸ hn
  · rcases List.prefix_concat_iff.mp ha with rfl | ha
    · exact hl
    · exact h.noLink above ha

/-- Nothing is hidden on the way to a place if no directory on it is closed. -/
theorem isHidden_eq_false (h : ∀ name ∈ l, LeadsDown name)
    (ho : ∀ above, above <+: l → t.isClosed above = false) : t.isHidden [] l = false := by
  induction l using List.reverseRecOn with
  | nil => rfl
  | append_singleton l name ih =>
      have front : l <+: l ++ [name] := List.prefix_append l [name]
      have place : below [] l = l := below_of_leadsDown [] fun n hn => h n (front.subset hn)
      rw [isHidden_append, place,
        ih (fun n hn => h n (front.subset hn)) fun above ha => ho above (ha.trans front)]
      simpa [isHidden] using ho l front

/-- What stands at the place is seen. -/
structure Shown (t : FileTree) (l : Location) : Prop where
  down : ∀ name ∈ l, LeadsDown name
  shown : t.isHidden [] l = false

theorem shown_nil (t : FileTree) : Shown t [] := ⟨by simp, rfl⟩

theorem Reachable.shown (h : Reachable t l) : Shown t l :=
  ⟨h.plain.down, isHidden_eq_false h.plain.down h.opened⟩

theorem Shown.sees_eq (h : Shown t l) : t.sees l = t.node? l := by
  rw [FileTree.sees_eq h.down, h.shown]
  rfl

theorem Shown.child (h : Shown t l) (hn : LeadsDown name) (ho : t.isClosed l = false) :
    Shown t (l ++ [name]) := by
  refine ⟨by simpa [or_imp, forall_and] using ⟨h.down, hn⟩, ?_⟩
  have place : below [] l = l := below_of_leadsDown [] h.down
  rw [isHidden_append, h.shown, place]
  simpa [isHidden] using ho

theorem isClosed_eq_false {listable searchable : Bool}
    (here : t.node? l = some (.directory listable searchable)) (h : ¬ searchable = false) :
    t.isClosed l = false := by
  simpa [isClosed, here] using h

theorem Shown.dropLast (h : Shown t l) : Shown t l.dropLast := by
  refine ⟨fun name hn => h.down name (List.mem_of_mem_dropLast hn), ?_⟩
  rcases List.eq_nil_or_concat l with rfl | ⟨above, name, rfl⟩
  · rfl
  · have shown := h.shown
    rw [List.concat_eq_append, isHidden_append, Bool.or_eq_false_iff] at shown
    rw [List.concat_eq_append, List.dropLast_concat]
    exact shown.1

theorem Shown.followLink (h : Shown t l) (target : String) :
    Shown t (followLink l target).1 := by
  unfold FileTree.followLink
  split
  · exact shown_nil t
  · exact h

/-- From a place that can be reached, what the names hide is hidden from the root. -/
theorem isHidden_of_steps {names : List String} (hs : Steps names) (hd : Reachable t dir) :
    t.isHidden dir names = t.isHidden [] (below dir names) ∧
      ∀ name ∈ below dir names, LeadsDown name := by
  induction hs generalizing dir with
  | @down names h =>
      have place : below [] dir = dir := below_of_leadsDown [] hd.plain.down
      have hidden := isHidden_eq_false hd.plain.down hd.opened
      rw [below_of_leadsDown dir h, isHidden_append, place, hidden, Bool.false_or]
      exact ⟨rfl, fun name hm => (List.mem_append.mp hm).elim (hd.plain.down name) (h name)⟩
  | @up names _ ih =>
      have above := hd.of_prefix (List.dropLast_prefix dir)
      rw [isHidden, below_up, hd.opened dir (List.prefix_refl dir), Bool.false_or]
      exact ih above

end Sees

/-! ### Paths that are followed -/

/-- The place that a path starts from. -/
def origin (dir : Location) (p : Path) : Location := if p.isAbsolute then [] else dir

/-- Steps up stand nowhere in the path but at the front of a relative one, and the place that it
starts from can be reached. -/
structure Regular (t : FileTree) (dir : Location) (p : Path) : Prop where
  steps : Steps p.parts
  down : p.isAbsolute = true → ∀ name ∈ p.parts, LeadsDown name
  origin : Reachable t (origin dir p)

section Regular

variable {t : FileTree} {dir : Location} {p : Path} {name : String}

theorem Regular.ofLocation_nil (t : FileTree) (dir : Location) :
    Regular t dir (Path.ofLocation []) :=
  ⟨.down (by simp [Path.ofLocation]), by simp [Path.ofLocation], reachable_nil t⟩

theorem Regular.child (h : Regular t dir p) (hn : LeadsDown name) :
    Regular t dir (p.child name) := by
  refine ⟨h.steps.child hn, fun ha n hm => ?_, h.origin⟩
  rcases List.mem_append.mp hm with hm | hm
  · exact h.down ha n hm
  · exact List.mem_singleton.mp hm ▸ hn

theorem Regular.parent (h : Regular t dir p) : Regular t dir p.parent := by
  unfold Path.parent
  split
  · exact ⟨h.steps.dropLast, fun ha n hm => h.down ha n (List.mem_of_mem_dropLast hm), h.origin⟩
  · next hp =>
      have relative : ¬ p.isAbsolute = true := fun ha => hp (.inl ha)
      refine ⟨h.steps.up_last fun last hl => ?_, fun ha => absurd ha relative, h.origin⟩
      by_contra other
      exact hp (.inr (by simp [hl, other]))

/-- A step up leads to the place above. -/
theorem spot_parent (h : Regular t dir p) : spot dir p.parent = (spot dir p).dropLast := by
  unfold Path.parent
  split
  · next hp =>
      show below (if p.isAbsolute = true then [] else dir) p.parts.dropLast = _
      rcases List.eq_nil_or_concat p.parts with hnil | ⟨names, last, hlast⟩
      · -- only a root has nothing to drop
        have absolute : p.isAbsolute = true := by simpa [hnil] using hp
        simp [spot, hnil, absolute]
      · have down : LeadsDown last := by
          have mem : last ∈ p.parts := by simp [hlast]
          rcases hp with ha | hl
          · exact h.down ha last mem
          · refine (h.steps.mem mem).resolve_left ?_
            simpa [hlast] using hl
        rw [spot, hlast, List.concat_eq_append, List.dropLast_concat, below_append,
          below_singleton down, List.dropLast_concat]
  · have same : (p.child "..").isAbsolute = p.isAbsolute := rfl
    rw [spot, spot, same]
    exact (below_append _ _ _).trans (below_up _)

/-- What is seen by a path is what is seen from the root. -/
theorem Regular.seen?_child (h : Regular t dir p) (hn : LeadsDown name) :
    t.seen? dir (p.child name) = t.sees (spot dir p ++ [name]) := by
  obtain ⟨hidden, down⟩ := isHidden_of_steps h.steps h.origin
  have place : below [] (spot dir p) = spot dir p := below_of_leadsDown [] down
  have child : ∀ n ∈ spot dir p ++ [name], LeadsDown n := fun n hm =>
    (List.mem_append.mp hm).elim (down n) fun hm => List.mem_singleton.mp hm ▸ hn
  rw [sees_eq child, isHidden_append, place, seen?, spot_child dir p hn]
  show (if t.isHidden (FileTree.origin dir p) (p.parts ++ [name]) then none else _) = _
  rw [isHidden_append, hidden]
  rfl

/-- What is seen below a path stands there. -/
theorem Regular.node?_child {node : Node} (h : Regular t dir p) (hn : LeadsDown name)
    (hl : t.sees (spot dir p ++ [name]) = some node) :
    t.node? (spot dir p ++ [name]) = some node := by
  obtain ⟨-, down⟩ := isHidden_of_steps h.steps h.origin
  exact node?_of_sees (by simpa [or_imp, forall_and] using ⟨down, hn⟩) hl

end Regular

/-! ### Where pieces lead -/

/-- Where pieces lead from a place, and over how many links.  An empty piece and a dot stay, and two
dots go up.  A name goes down; if a link is seen there, its target leads on from the place that the
link stands in. -/
inductive Leads (t : FileTree) : Nat → Location → List String → Location → Prop where
  | here {l : Location} : Leads t 0 l [] l
  | stay {n : Nat} {l m : Location} {name : String} {rest : List String}
      (hn : name = "" ∨ name = ".") (h : Leads t n l rest m) : Leads t n l (name :: rest) m
  | up {n : Nat} {l m : Location} {rest : List String} (h : Leads t n l.dropLast rest m) :
      Leads t n l (".." :: rest) m
  | down {n : Nat} {l m : Location} {name : String} {rest : List String} (hn : LeadsDown name)
      (hl : ∀ target, t.sees (l ++ [name]) ≠ some (.link target))
      (h : Leads t n (l ++ [name]) rest m) : Leads t n l (name :: rest) m
  | link {i n : Nat} {l k m : Location} {name target : String} {rest : List String}
      (hn : LeadsDown name) (hl : t.sees (l ++ [name]) = some (.link target))
      (ht : Leads t i (followLink l target).1 (followLink l target).2 k)
      (h : Leads t n k rest m) : Leads t (i + n + 1) l (name :: rest) m

section Leads

variable {t : FileTree} {i n : Nat} {l k m : Location} {pieces rest : List String}

/-- The rules lead to one place, over one number of links. -/
theorem Leads.unique (h : Leads t n l pieces k) (h' : Leads t i l pieces m) : n = i ∧ k = m := by
  induction h generalizing i m with
  | here =>
      cases h'
      exact ⟨rfl, rfl⟩
  | stay hn _ ih =>
      cases h' with
      | stay _ h' => exact ih h'
      | up => simp at hn
      | down hd | link hd => exact absurd hn (by simp [hd.1, hd.2.1])
  | up _ ih =>
      cases h' with
      | stay hn => simp at hn
      | up h' => exact ih h'
      | down hn | link hn => simp [LeadsDown] at hn
  | down hn hl _ ih =>
      cases h' with
      | stay hs => exact absurd hs (by simp [hn.1, hn.2.1])
      | up => exact absurd rfl hn.2.2
      | down _ _ h' => exact ih h'
      | link _ hl' => exact absurd hl' (hl _)
  | link hn hl _ _ iht ih =>
      cases h' with
      | stay hs => exact absurd hs (by simp [hn.1, hn.2.1])
      | up => exact absurd rfl hn.2.2
      | down _ hl' => exact absurd hl (hl' _)
      | link _ hl' ht' h' =>
          rw [hl] at hl'
          obtain rfl := FileTree.Node.link.inj (Option.some.inj hl')
          obtain ⟨rfl, rfl⟩ := iht ht'
          obtain ⟨rfl, rfl⟩ := ih h'
          exact ⟨rfl, rfl⟩

/-- Where the rules lead from a place that is reached over no link is such a place again. -/
theorem Leads.plain (h : Leads t n l pieces m) (hl : Plain t l) : Plain t m := by
  induction h with
  | here => exact hl
  | stay _ _ ih => exact ih hl
  | up _ ih => exact ih (hl.of_prefix (List.dropLast_prefix _))
  | down hn hd _ ih => exact ih (hl.child hn hd)
  | link _ _ _ _ iht ih =>
      refine ih (iht ?_)
      unfold followLink
      split
      · exact plain_nil t
      · exact hl

end Leads

/-! ### Following a path -/

section Follow

variable {t : FileTree} {dir : Location} {p q : Path}

/-- Of the links that have been followed it is known where they lead. -/
def Known (t : FileTree) (dir : Location) (trail : Trail) : Prop :=
  ∀ k q, trail.lookup k = some (some q) → Regular t dir q ∧
    ∀ target, t.sees (spot dir k) = some (.link target) →
      ∃ n, Leads t n (followLink (spot dir k).dropLast target).1
        (followLink (spot dir k).dropLast target).2 (spot dir q)

theorem known_nil : Known t dir [] := fun _ _ h => nomatch h

theorem Known.push {trail : Trail} (h : Known t dir trail) {k : Path} {end? : Option Path}
    (hk : ∀ q, end? = some q → Regular t dir q ∧
      ∀ target, t.sees (spot dir k) = some (.link target) →
        ∃ n, Leads t n (followLink (spot dir k).dropLast target).1
          (followLink (spot dir k).dropLast target).2 (spot dir q)) :
    Known t dir ((k, end?) :: trail) := by
  intro k' q hq
  by_cases same : k' = k
  · subst same
    exact hk q (by simpa using hq)
  · refine h k' q ?_
    rwa [List.lookup_cons, beq_eq_false_iff_ne.mpr same] at hq

/-- Where the target of a link starts from, as a path and as a place. -/
theorem followLink_spot (dir : Location) (p : Path) (target : String) :
    followLink (spot dir p) target =
      (spot dir (if (Path.ofText target).isAbsolute then Path.ofLocation [] else p),
        Path.pieces target) := by
  unfold followLink
  split
  · rfl
  · rfl

theorem Regular.start (h : Regular t dir p) (target : String) :
    Regular t dir (if (Path.ofText target).isAbsolute then Path.ofLocation [] else p) := by
  split
  · exact Regular.ofLocation_nil t dir
  · exact h

/-- Where a link leads that has been followed. -/
theorem known_child {i : Nat} {name target : String} {m : Location} (hn : LeadsDown name)
    (hl : t.sees (spot dir p ++ [name]) = some (.link target))
    (ht : Leads t i (followLink (spot dir p) target).1 (followLink (spot dir p) target).2 m)
    (target' : String) (hl' : t.sees (spot dir (p.child name)) = some (.link target')) :
    ∃ n, Leads t n (followLink (spot dir (p.child name)).dropLast target').1
      (followLink (spot dir (p.child name)).dropLast target').2 m := by
  rw [spot_child dir p hn, hl] at hl'
  obtain rfl := FileTree.Node.link.inj (Option.some.inj hl')
  rw [spot_child dir p hn, List.dropLast_concat]
  exact ⟨i, ht⟩

/-- **Following a path.**  A path that can be followed to its end ends where the rules lead. -/
theorem leads_of_follow {depth : Nat} {trail trail' : Trail} {pieces : List String}
    (hp : Regular t dir p) (hk : Known t dir trail)
    (h : t.follow dir depth trail p pieces = .ok (q, trail')) :
    Regular t dir q ∧ Known t dir trail' ∧ ∃ n, Leads t n (spot dir p) pieces (spot dir q) := by
  fun_induction follow t dir depth trail p pieces generalizing q trail' with
  | case1 =>
      cases h
      exact ⟨hp, hk, 0, .here⟩
  | case2 _ _ _ _ _ hn ih =>
      obtain ⟨hq, hk', n, hl⟩ := ih hp hk h
      exact ⟨hq, hk', n, .stay hn hl⟩
  | case3 _ _ _ _ _ ih =>
      obtain ⟨hq, hk', n, hl⟩ := ih hp.parent hk h
      exact ⟨hq, hk', n, .up (spot_parent hp ▸ hl)⟩
  | case4 _ trail p name _ hn hu target ht r hr ih =>
      -- a link that has been met, and it is known where it leads
      have down : LeadsDown name := leadsDown_of_not hn hu
      obtain ⟨regular, leads⟩ := hk _ _ hr
      obtain ⟨hq, hk', n, hl⟩ := ih regular hk h
      rw [spot_child dir p down] at leads
      rw [hp.seen?_child down] at ht
      obtain ⟨i, target_leads⟩ := leads target ht
      rw [List.dropLast_concat] at target_leads
      exact ⟨hq, hk', _, .link down ht target_leads hl⟩
  | case7 _ p name _ hn hu target ht _ _ start r inner hi ih₂ =>
      rename_i ih₁
      have down : LeadsDown name := leadsDown_of_not hn hu
      obtain ⟨hr, hk', i, hl'⟩ := ih₂ (hp.start target) (hk.push nofun) hi
      have target_leads : Leads t i (followLink (spot dir p) target).1
          (followLink (spot dir p) target).2 (spot dir r) := by
        rw [followLink_spot]
        simpa [start] using hl'
      rw [hp.seen?_child down] at ht
      have known : Known t dir ((p.child name, some r) :: inner) :=
        hk'.push fun q hq => Option.some.inj hq ▸ ⟨hr, known_child down ht target_leads⟩
      obtain ⟨hq, hk'', n, hl⟩ := ih₁ hr known h
      exact ⟨hq, hk'', _, .link down ht target_leads hl⟩
  | case5 | case6 | case8 => cases h
  | case9 _ _ p name _ hn hu hl ih =>
      have down : LeadsDown name := leadsDown_of_not hn hu
      obtain ⟨hq, hk', n, hm⟩ := ih (hp.child down) hk h
      rw [hp.seen?_child down] at hl
      rw [spot_child dir p down] at hm
      exact ⟨hq, hk', n, .down down (fun target ht => hl target ht) hm⟩

end Follow

/-! ### Where a path leads -/

/-- The path can be followed to its end, and that is the place; no link on the way leads back to
itself. -/
def Ends (t : FileTree) (dir : Location) (p : Path) (l : Location) : Prop :=
  ∃ q trail, t.followed dir p = .ok (q, trail) ∧ spot dir q = l

section Ends

variable {t : FileTree} {dir l : Location} {p q : Path}

theorem regular_start (h : Reachable t (origin dir p)) :
    Regular t dir (if p.isAbsolute then Path.ofLocation [] else { p with parts := [] }) := by
  split
  · exact Regular.ofLocation_nil t dir
  · next relative =>
      refine ⟨.down (by simp), by simp, ?_⟩
      have same : origin dir { p with parts := [] } = origin dir p := rfl
      exact same ▸ h

theorem spot_start (dir : Location) (p : Path) :
    spot dir (if p.isAbsolute then Path.ofLocation [] else { p with parts := [] }) =
      origin dir p := by
  unfold origin
  split
  · rfl
  · next relative => exact if_neg relative

theorem Ends.leads (h : Ends t dir p l) (ho : Reachable t (origin dir p)) :
    ∃ n, Leads t n (origin dir p) p.parts l := by
  obtain ⟨q, trail, hf, rfl⟩ := h
  exact spot_start dir p ▸ (leads_of_follow (regular_start ho) known_nil hf).2.2

theorem Ends.destination_eq (h : Ends t dir p l) : t.destination dir p = Path.ofLocation l := by
  obtain ⟨q, trail, hf, rfl⟩ := h
  rw [destination, hf]

/-- On a way over no link, no link is one too many. -/
theorem walk_ne_tooManyLinks (above : Location) {below : List String}
    (h : Plain t (above ++ below)) (shown : Shown t above) (links : Nat) :
    t.walk links above below ≠ .error .tooManyLinks := by
  induction below generalizing above with
  | nil => simp [walk]
  | cons name rest ih =>
      obtain ⟨h1, h2, h3⟩ := h.down name (by simp)
      have h' : Plain t (above ++ [name] ++ rest) := by simpa using h
      rw [walk]
      simp only [h1, h2, h3, if_false]
      split
      · next listable searchable here =>
          split
          · simp
          · next opened =>
              have shown' := shown.child ⟨h1, h2, h3⟩ (isClosed_eq_false here opened)
              split
              · split <;> simp
              · next target hl =>
                  exact absurd (shown'.sees_eq.trans hl)
                    (h'.noLink _ (List.prefix_append _ _) target)
              · exact ih _ h' shown'
      · simp

theorem resolve_of_destination (hp : ∀ name ∈ p.parts, Char.ofNat 0 ∉ name.toList)
    (hd : t.destination dir p = q) (hw : t.walk linkLimit [] q.parts ≠ .error .tooManyLinks) :
    t.resolve dir p = .ok q := by
  subst hd
  rw [resolve, if_neg (by simpa using hp)]
  split
  · next h => exact absurd h hw
  · rfl

/-- A path that can be followed to its end stands for the place where the rules lead. -/
theorem Ends.resolve_eq (h : Ends t dir p l) (ho : Reachable t (origin dir p))
    (hp : ∀ name ∈ p.parts, Char.ofNat 0 ∉ name.toList) :
    t.resolve dir p = .ok (Path.ofLocation l) := by
  obtain ⟨n, leads⟩ := h.leads ho
  have plain : Plain t l := leads.plain ho.plain
  exact resolve_of_destination hp h.destination_eq
    (walk_ne_tooManyLinks [] plain (shown_nil t) linkLimit)

theorem follow_of_plain (above : Location) {below : List String} (h : Plain t (above ++ below))
    (dir : Location) (depth : Nat) (trail : Trail) :
    t.follow dir depth trail (Path.ofLocation above) below =
      .ok (Path.ofLocation (above ++ below), trail) := by
  induction below generalizing above with
  | nil => simp [follow]
  | cons name rest ih =>
      have down := h.down name (by simp)
      have h' : Plain t (above ++ [name] ++ rest) := by simpa using h
      have child : (Path.ofLocation above).child name = Path.ofLocation (above ++ [name]) := rfl
      have free := h'.noLink (above ++ [name]) (List.prefix_append _ _)
      rw [follow, if_neg (by simp [down.1, down.2.1]), if_neg down.2.2, child,
        seen?_ofLocation]
      split
      · next target hl => exact absurd hl (free target)
      · simpa using ih (above ++ [name]) h'

theorem ends_of_plain (h : Plain t l) (dir : Location) : Ends t dir (Path.ofLocation l) l :=
  ⟨_, _, follow_of_plain [] h dir _ _, spot_ofLocation dir h.down⟩

/-- A place that is reached over no link is where its own path leads. -/
theorem resolve_of_plain (h : Plain t l) (hl : ∀ name ∈ l, Char.ofNat 0 ∉ name.toList)
    (dir : Location) : t.resolve dir (Path.ofLocation l) = .ok (Path.ofLocation l) :=
  (ends_of_plain h dir).resolve_eq (reachable_nil t) hl

/-- What a path stands for that can be followed to its end stands for itself. -/
theorem Ends.resolve_idem (h : Ends t dir p l) (ho : Reachable t (origin dir p))
    (hn : ∀ name ∈ p.parts ++ l, Char.ofNat 0 ∉ name.toList) :
    t.resolve dir p = .ok (Path.ofLocation l) ∧
      t.resolve dir (Path.ofLocation l) = .ok (Path.ofLocation l) := by
  obtain ⟨n, leads⟩ := h.leads ho
  exact ⟨h.resolve_eq ho fun name hm => hn name (List.mem_append_left l hm),
    resolve_of_plain (leads.plain ho.plain)
      (fun name hm => hn name (List.mem_append_right _ hm)) dir⟩

/-- A root stands for the root. -/
theorem resolve_of_root {a : Anchor} (h : a ≠ .relative) (dir : Location) :
    t.resolve dir { anchor := a, parts := [] } = .ok (Path.ofLocation []) := by
  have absolute : Path.isAbsolute { anchor := a, parts := [] } = true := by
    simp [Path.isAbsolute, h]
  have ends : Ends t dir { anchor := a, parts := [] } [] := by
    refine ⟨Path.ofLocation [], [], ?_, rfl⟩
    simp [followed, absolute, follow]
  refine ends.resolve_eq ?_ (by simp)
  rw [origin, if_pos absolute]
  exact reachable_nil t

theorem isAbsolute_asWritten (h : p.isAbsolute = true) (pieces : List String) :
    (asWritten p pieces).isAbsolute = true := by
  unfold asWritten
  split
  · exact h
  · next hne => simpa [Path.isAbsolute] using hne

theorem isAbsolute_of_follow_eq_error {depth : Nat} {trail : Trail} {pieces : List String}
    (h : t.follow dir depth trail p pieces = .error q) : q.isAbsolute = true := by
  fun_induction follow t dir depth trail p pieces generalizing q with
  | case1 => cases h
  | case2 _ _ _ _ _ _ ih | case3 _ _ _ _ _ ih => exact ih h
  | case4 _ _ _ _ _ _ _ _ _ _ _ ih => exact ih h
  | case5 | case6 =>
      cases h
      exact isAbsolute_asWritten rfl _
  | case7 => rename_i ih; exact ih h
  | case8 _ _ _ _ _ _ _ _ _ _ _ _ hi =>
      rename_i ih
      cases h
      exact isAbsolute_asWritten (ih hi) _
  | case9 _ _ _ _ _ _ _ _ ih => exact ih h

theorem eq_destination_of_resolve (h : t.resolve dir p = .ok q) : q = t.destination dir p := by
  unfold resolve at h
  split at h
  · cases h
  · split at h
    · cases h
    · exact (Except.ok.inj h).symm

/-- What a path stands for is a path from a root. -/
theorem isAbsolute_of_resolve (h : t.resolve dir p = .ok q) : q.isAbsolute = true := by
  rw [eq_destination_of_resolve h, destination]
  split
  · rfl
  · next hf => exact isAbsolute_of_follow_eq_error hf

end Ends

end FileTree

end CompilerRunner
