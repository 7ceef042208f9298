import CompilerRunner.Package.Import
import Mathlib

/-!
# Proofs — ModuleImport

What the import of a module reaches, and that nothing else makes a difference to it.

* `Region`, `Closed`: names and faults, and that the names lead to no others in a catalogue and the
  modules under them to no other faults.
* `load_confined`, `importName_confined`: an import from within a closed region stays there.
  Nothing that was loaded is lost, and what is new is a module whose source has run to its end.
* `load_congr`, `importName_congr`: catalogues that have the same modules in the region are the same
  to an import from within.

Modules run one inside another, each in a catalogue without those that are running, so that the
inductions are on the length of the catalogue (`load_induction`).
-/

namespace CompilerRunner.Package

/-! ### A name and its parents -/

theorem mem_lineage_iff {k n : Name} : k ∈ lineage n ↔ k ≠ [] ∧ k <+: n := by
  simp only [lineage, List.mem_map, List.mem_range]
  constructor
  · rintro ⟨i, hi, rfl⟩
    refine ⟨?_, List.take_prefix _ _⟩
    rw [← List.length_pos_iff_ne_nil, List.length_take]
    omega
  · rintro ⟨hne, hk⟩
    have pos := List.length_pos_iff_ne_nil.mpr hne
    refine ⟨k.length - 1, by have := hk.length_le; omega, ?_⟩
    rw [Nat.sub_add_cancel pos]
    exact (List.prefix_iff_eq_take.mp hk).symm

theorem self_mem_lineage {n : Name} (h : n ≠ []) : n ∈ lineage n :=
  mem_lineage_iff.mpr ⟨h, List.prefix_rfl⟩

theorem nodup_lineage (n : Name) : (lineage n).Nodup := by
  refine List.Nodup.map_on (fun i hi k hk same => ?_) List.nodup_range
  have longer := congrArg List.length same
  simp only [List.length_take, List.mem_range] at longer hi hk
  omega

theorem lineage_concat (n : Name) (s : String) :
    lineage (n ++ [s]) = lineage n ++ [n ++ [s]] := by
  rw [lineage, List.length_append, List.length_singleton, List.range_succ, List.map_append]
  have parents : (List.range n.length).map (fun k => (n ++ [s]).take (k + 1)) = lineage n := by
    refine List.map_congr_left fun k hk => ?_
    exact List.take_append_of_le_length (List.mem_range.mp hk)
  rw [parents]
  simp

theorem unloaded_concat (loaded : Loaded) (n : Name) (s : String) :
    unloaded loaded (n ++ [s]) =
      if n ++ [s] ∈ loaded then [] else unloaded loaded n ++ [n ++ [s]] := by
  rw [unloaded, lineage_concat, List.reverse_concat, List.takeWhile_cons]
  by_cases h : n ++ [s] ∈ loaded
  · simp [h]
  · simp only [h, not_false_eq_true, decide_true, if_true, if_false, List.reverse_cons]
    rfl

theorem mem_lineage_of_mem_unloaded {loaded : Loaded} {k n : Name} (h : k ∈ unloaded loaded n) :
    k ∈ lineage n :=
  List.mem_reverse.mp ((List.takeWhile_subset _) (List.mem_reverse.mp h))

theorem mem_lineage_of_mem_asked {loaded : Loaded} {k n : Name} (h : k ∈ asked loaded n) :
    k ∈ lineage n :=
  (List.mem_append.mp h).elim mem_lineage_of_mem_unloaded List.mem_of_mem_take

/-! ### What a source says -/

/-- What a line imports, in a source that belongs to a package.  What the package is asked for may
be a module in it. -/
def Statement.imported (package : Name) : Statement → List Name
  | .importName n => lineage n
  | .importSibling s => if package = [] then [] else [package, package ++ [s]]
  | .bind _ | .fail _ => []

/-- What goes wrong in a line, apart from what goes wrong in the modules that it imports. -/
def Statement.faults : Statement → List ImportFault
  | .importName _ => []
  | .importSibling _ => [.noMember]
  | .bind _ => []
  | .fail kind => [.failed kind]

/-- The names that a module's source imports. -/
def Module.imported (m : Module) : List Name := m.source.flatMap (Statement.imported m.package)

/-- The source can run to its end. -/
def Module.Whole (m : Module) : Prop := ∀ kind, .fail kind ∉ m.source

/-! ### One step after another -/

/-- What comes next, if nothing has gone wrong. -/
def Progress.andThen (r : Progress) (next : Loaded → Progress) : Progress :=
  match r with
  | (loaded, none) => next loaded
  | stopped => stopped

/-- A module that has not run to its end is not loaded. -/
def Progress.orUnload (r : Progress) (n : Name) : Progress :=
  match r with
  | (loaded, some fault) => (loaded.erase n, some fault)
  | finished => finished

/-- A module that is not there, as seen by a package that asks for it as its member. -/
def Progress.asMember (r : Progress) (n : Name) : Progress :=
  (r.1, r.2.map fun
    | .noModule k => if k = n then .noMember else .noModule k
    | fault => fault)

theorem andThen_eq_ok_iff {r : Progress} {next : Loaded → Progress} {after : Loaded} :
    r.andThen next = (after, none) ↔ ∃ l, r = (l, none) ∧ next l = (after, none) := by
  obtain ⟨l, _ | fault⟩ := r
  · simp [Progress.andThen]
  · simp [Progress.andThen]

theorem andThen_of_none {r : Progress} (h : r.2 = none) (next : Loaded → Progress) :
    r.andThen next = next r.1 := by
  obtain ⟨l, _ | fault⟩ := r
  · rfl
  · cases h

theorem snd_orUnload (r : Progress) (n : Name) : (r.orUnload n).2 = r.2 := by
  obtain ⟨l, _ | fault⟩ := r
  · rfl
  · rfl

theorem orUnload_eq_ok_iff {r : Progress} {n : Name} {after : Loaded} :
    r.orUnload n = (after, none) ↔ r = (after, none) := by
  obtain ⟨l, _ | fault⟩ := r
  · rfl
  · simp [Progress.orUnload]

section Steps

variable {c : Catalogue} {running : Running} {loaded : Loaded} {bound : List String} {n : Name}
  {m : Module}

theorem loadEach_nil : loadEach c running loaded [] = (loaded, none) := by rw [loadEach]

theorem loadEach_cons (rest : List Name) :
    loadEach c running loaded (n :: rest) =
      (load c running loaded n).andThen fun loaded => loadEach c running loaded rest := by
  rw [loadEach]
  rfl

theorem load_of_mem (h : n ∈ loaded) : load c running loaded n = (loaded, none) := by
  rw [load, if_pos h]

theorem load_of_missing (hn : n ∉ loaded) (h : c.find? n = none) :
    load c running loaded n = (loaded, some (.noModule n)) := by
  rw [load, if_neg hn]
  split
  · rfl
  · next hm => rw [h] at hm; cases hm

theorem load_of_find? (hn : n ∉ loaded) (h : c.find? n = some m) :
    load c running loaded n =
      (execute (c.without n) running (n :: loaded) m [] m.source).orUnload n := by
  rw [load, if_neg hn]
  split
  · next hm => rw [h] at hm; cases hm
  · next m' hm =>
      obtain rfl := Option.some.inj (h.symm.trans hm)
      rfl

theorem execute_nil : execute c running loaded m bound [] = (loaded, none) := by rw [execute]

theorem execute_fail (kind : Crash) (rest : List Statement) :
    execute c running loaded m bound (.fail kind :: rest) = (loaded, some (.failed kind)) := by
  rw [execute]

theorem execute_bind (s : String) (rest : List Statement) :
    execute c running loaded m bound (.bind s :: rest) =
      execute c running loaded m (s :: bound) rest := by
  rw [execute]

theorem execute_importName (rest : List Statement) :
    execute c running loaded m bound (.importName n :: rest) =
      (loadEach c ((m.name, bound) :: running) loaded (asked loaded n)).andThen fun loaded =>
        execute c running loaded m (n.head?.toList ++ bound) rest := by
  rw [execute]
  rfl

theorem execute_importSibling_of_nil (h : m.package = []) (s : String) (rest : List Statement) :
    execute c running loaded m bound (.importSibling s :: rest) = (loaded, some .noMember) := by
  rw [execute, if_pos h]

/-- A name that the package has is given, and nothing is imported. -/
theorem execute_importSibling_of_mem (h : m.package ≠ []) {s : String}
    (hs : s ∈ namesOf c ((m.name, bound) :: running) m.package) (rest : List Statement) :
    execute c running loaded m bound (.importSibling s :: rest) =
      execute c running loaded m (s :: bound) rest := by
  rw [execute, if_neg h, if_pos hs]

theorem execute_importSibling (h : m.package ≠ []) {s : String}
    (hs : s ∉ namesOf c ((m.name, bound) :: running) m.package) (rest : List Statement) :
    execute c running loaded m bound (.importSibling s :: rest) =
      ((load c ((m.name, bound) :: running) loaded (m.package ++ [s])).asMember
        (m.package ++ [s])).andThen fun loaded => execute c running loaded m (s :: bound) rest := by
  rw [execute, if_neg h, if_neg hs]
  rcases load c ((m.name, bound) :: running) loaded (m.package ++ [s]) with ⟨l, _ | fault⟩
  · rfl
  · cases fault <;> rfl

end Steps

/-! ### Regions -/

/-- Names of modules, and what may go wrong. -/
structure Region where
  names : Name → Prop
  faults : ImportFault → Prop

/-- The names lead to no other names, and the modules of these names to no other faults. -/
structure Closed (c : Catalogue) (R : Region) : Prop where
  missing : ∀ n, R.names n → R.faults (.noModule n)
  source : ∀ n m, R.names n → c.find? n = some m → ∀ line ∈ m.source,
    (∀ k ∈ line.imported m.package, R.names k) ∧ ∀ fault ∈ line.faults, R.faults fault

/-- What can have been loaded: a name of the region that was not, of a module that runs to its
end. -/
structure Fresh (c : Catalogue) (R : Region) (loaded : Loaded) (n : Name) : Prop where
  inside : R.names n
  missing : n ∉ loaded
  whole : ∃ m, c.find? n = some m ∧ m.Whole

/-- The import stays in the region. -/
structure Confined (c : Catalogue) (R : Region) (loaded : Loaded) (r : Progress) : Prop where
  loads : ∃ new, r.1 = new ++ loaded ∧ ∀ n ∈ new, Fresh c R loaded n
  fault : ∀ fault, r.2 = some fault → R.faults fault

namespace Catalogue

variable {c : Catalogue} {n k : Name} {m : Module}

theorem find?_without (c : Catalogue) (n k : Name) :
    (c.without n).find? k = if k = n then none else c.find? k := by
  rw [find?, without, List.find?_filter]
  split
  · next h =>
      refine List.find?_eq_none.mpr fun m _ => ?_
      simp [h]
  · next h =>
      refine List.find?_congr fun m _ => ?_
      by_cases hm : m.name = k <;> simp [hm, h]

theorem find?_of_without (h : (c.without n).find? k = some m) : c.find? k = some m := by
  rw [find?_without] at h
  split at h
  · cases h
  · exact h

end Catalogue

section Confined

variable {c : Catalogue} {R : Region} {loaded : Loaded} {n : Name} {m : Module} {r : Progress}
  {next : Loaded → Progress}

theorem Closed.without (h : Closed c R) (n : Name) : Closed (c.without n) R :=
  ⟨h.missing, fun k m hk hm => h.source k m hk (Catalogue.find?_of_without hm)⟩

theorem Confined.refl (c : Catalogue) (R : Region) (loaded : Loaded) :
    Confined c R loaded (loaded, none) :=
  ⟨⟨[], rfl, by simp⟩, nofun⟩

theorem Confined.stop {fault : ImportFault} (h : R.faults fault) :
    Confined c R loaded (loaded, some fault) :=
  ⟨⟨[], rfl, by simp⟩, fun _ hf => Option.some.inj hf ▸ h⟩

theorem Confined.suffix (h : Confined c R loaded r) : loaded <:+ r.1 := by
  obtain ⟨new, hr, -⟩ := h.loads
  exact hr ▸ List.suffix_append new loaded

theorem Confined.trans {l : Loaded} (h : Confined c R loaded (l, none)) (hr : Confined c R l r) :
    Confined c R loaded r := by
  obtain ⟨new, rfl, fresh⟩ := h.loads
  obtain ⟨newer, hl, fresher⟩ := hr.loads
  refine ⟨⟨newer ++ new, hl.trans (List.append_assoc _ _ _).symm, fun k hk => ?_⟩, hr.fault⟩
  rcases List.mem_append.mp hk with hk | hk
  · obtain ⟨inside, missing, whole⟩ := fresher k hk
    exact ⟨inside, fun hl => missing (List.mem_append_right new hl), whole⟩
  · exact fresh k hk

theorem Confined.andThen (h : Confined c R loaded r)
    (hn : ∀ l, r = (l, none) → Confined c R l (next l)) : Confined c R loaded (r.andThen next) := by
  obtain ⟨l, _ | fault⟩ := r
  · exact h.trans (hn l rfl)
  · exact h

theorem Confined.asMember (h : Confined c R loaded r) (hf : R.faults .noMember) (n : Name) :
    Confined c R loaded (r.asMember n) := by
  refine ⟨h.loads, fun fault hfault => ?_⟩
  obtain ⟨f, hr, rfl⟩ := Option.map_eq_some_iff.mp hfault
  have own := h.fault f hr
  cases f with
  | noModule k =>
      dsimp only
      split
      · exact hf
      · exact own
  | noMember => exact own
  | failed kind => exact own

/-- What is loaded while a module runs stays loaded, and the module too if it runs to its end. -/
theorem Confined.orUnload (h : Confined (c.without n) R (n :: loaded) r) (hn : n ∉ loaded)
    (hR : R.names n) (hm : c.find? n = some m) (whole : r.2 = none → m.Whole) :
    Confined c R loaded (r.orUnload n) := by
  obtain ⟨new, hnew, fresh⟩ := h.loads
  have others : ∀ k ∈ new, k ≠ n ∧ Fresh c R loaded k := by
    intro k hk
    obtain ⟨inside, missing, m', hm', whole'⟩ := fresh k hk
    exact ⟨fun same => missing (same ▸ List.mem_cons_self), inside,
      fun hl => missing (List.mem_cons_of_mem n hl), m', Catalogue.find?_of_without hm', whole'⟩
  obtain ⟨l, _ | fault⟩ := r
  · obtain rfl : l = new ++ n :: loaded := hnew
    refine ⟨⟨new ++ [n], (List.append_cons new n loaded), fun k hk => ?_⟩, nofun⟩
    rcases List.mem_append.mp hk with hk | hk
    · exact (others k hk).2
    · obtain rfl := List.mem_singleton.mp hk
      exact ⟨hR, hn, m, hm, whole rfl⟩
  · obtain rfl : l = new ++ n :: loaded := hnew
    refine ⟨⟨new, ?_, fun k hk => (others k hk).2⟩, h.fault⟩
    -- What is taken back is the mark that the module was given when its source started.
    have outside : n ∉ new := fun hk => (others n hk).1 rfl
    show (new ++ n :: loaded).erase n = new ++ loaded
    rw [List.erase_append_right _ outside, List.erase_cons_head]

theorem loadEach_confined {running : Running} {names : List Name}
    (loads : ∀ l, ∀ n ∈ names, Confined c R l (load c running l n)) :
    Confined c R loaded (loadEach c running loaded names) := by
  induction names generalizing loaded with
  | nil =>
      rw [loadEach_nil]
      exact .refl c R loaded
  | cons n rest ih =>
      rw [loadEach_cons]
      refine (loads loaded n List.mem_cons_self).andThen fun l _ => ?_
      exact ih fun l k hk => loads l k (List.mem_cons_of_mem n hk)

/-- The run of a source whose lines stay in the region, given that the modules that it imports
do. -/
theorem execute_confined (running : Running) (loaded : Loaded) (bound : List String)
    {source : List Statement}
    (loads : ∀ running l k, R.names k → Confined c R l (load c running l k))
    (lines : ∀ line ∈ source, (∀ k ∈ line.imported m.package, R.names k) ∧
      ∀ fault ∈ line.faults, R.faults fault) :
    Confined c R loaded (execute c running loaded m bound source) ∧
      ((execute c running loaded m bound source).2 = none → ∀ kind, .fail kind ∉ source) := by
  induction source generalizing loaded bound with
  | nil =>
      rw [execute_nil]
      exact ⟨.refl c R loaded, by simp⟩
  | cons line rest ih =>
      obtain ⟨⟨names, faults⟩, others⟩ := List.forall_mem_cons.mp lines
      -- The line has been run as `r`; the rest runs from what is loaded then.
      have goes {r : Progress} (h : Confined c R loaded r) (hl : ∀ kind, line ≠ .fail kind)
          (bound : List String) :
          let run := r.andThen fun l => execute c running l m bound rest
          Confined c R loaded run ∧ (run.2 = none → ∀ kind, .fail kind ∉ line :: rest) := by
        refine ⟨h.andThen fun l _ => (ih l bound others).1, fun hrun kind hk => ?_⟩
        obtain ⟨l, _ | fault⟩ := r
        · rcases List.mem_cons.mp hk with hk | hk
          · exact hl kind hk.symm
          · exact (ih l bound others).2 hrun kind hk
        · cases hrun
      cases line with
      | importName n =>
          rw [execute_importName]
          exact goes (loadEach_confined fun l k hk =>
            loads _ l k (names k (mem_lineage_of_mem_asked hk))) nofun _
      | importSibling s =>
          have noMember : R.faults .noMember := faults _ List.mem_cons_self
          by_cases h : m.package = []
          · rw [execute_importSibling_of_nil h]
            exact ⟨.stop noMember, nofun⟩
          · by_cases hs : s ∈ namesOf c ((m.name, bound) :: running) m.package
            · rw [execute_importSibling_of_mem h hs]
              exact goes (.refl c R loaded) nofun _
            · rw [execute_importSibling h hs]
              refine goes ((loads _ loaded _ (names _ ?_)).asMember noMember _) nofun _
              simp [Statement.imported, h]
      | bind s =>
          rw [execute_bind]
          exact goes (.refl c R loaded) nofun _
      | fail kind =>
          rw [execute_fail]
          exact ⟨.stop (faults _ List.mem_cons_self), nofun⟩

end Confined

/-- A module runs in a catalogue that does not have it, and so in a shorter one. -/
theorem load_induction {P : Catalogue → Running → Loaded → Name → Prop}
    (step : ∀ c running loaded n,
      (∀ m, c.find? n = some m → ∀ running l k, P (c.without n) running l k) →
        P c running loaded n)
    (c : Catalogue) (running : Running) (loaded : Loaded) (n : Name) : P c running loaded n := by
  induction hl : c.length using Nat.strong_induction_on generalizing c running loaded n with
  | _ length ih =>
      refine step c running loaded n fun m hm running l k => ?_
      exact ih _ (hl ▸ Catalogue.length_without_lt hm) (c.without n) running l k rfl

/-- **An import stays in a closed region.** -/
theorem load_confined {R : Region} (c : Catalogue) (running : Running) (loaded : Loaded)
    (n : Name) : Closed c R → R.names n → Confined c R loaded (load c running loaded n) := by
  induction c, running, loaded, n using load_induction with
  | step c running loaded n ih =>
      intro closed hn
      by_cases hl : n ∈ loaded
      · rw [load_of_mem hl]
        exact .refl c R loaded
      · cases hm : c.find? n with
        | none =>
            rw [load_of_missing hl hm]
            exact .stop (closed.missing n hn)
        | some m =>
            rw [load_of_find? hl hm]
            -- The source runs without its module, where the region is as closed as before.
            obtain ⟨confined, whole⟩ := execute_confined running (n :: loaded) []
              (fun running l k => ih m hm running l k (closed.without n)) (closed.source n m hn hm)
            exact confined.orUnload hl hn hm whole

section Names

variable {c : Catalogue} {R : Region} {n : Name}

theorem importName_confined (closed : Closed c R) (hn : ∀ k ∈ lineage n, R.names k)
    (loaded : Loaded) : Confined c R loaded (importName c loaded n) :=
  loadEach_confined fun l k hk =>
    load_confined c [] l k closed (hn k (mem_lineage_of_mem_unloaded hk))

theorem importAsked_confined (closed : Closed c R) (hn : ∀ k ∈ lineage n, R.names k)
    (loaded : Loaded) : Confined c R loaded (importAsked c loaded n) :=
  loadEach_confined fun l k hk =>
    load_confined c [] l k closed (hn k (mem_lineage_of_mem_asked hk))

end Names

theorem closed_everything (c : Catalogue) : Closed c ⟨fun _ => True, fun _ => True⟩ :=
  ⟨fun _ _ => trivial, fun _ _ _ _ _ _ => ⟨fun _ _ => trivial, fun _ _ => trivial⟩⟩

/-! ### What is loaded then -/

section Loaded

variable {c : Catalogue} {running : Running} {loaded after : Loaded} {n : Name}

theorem suffix_importName (c : Catalogue) (loaded : Loaded) (n : Name) :
    loaded <:+ (importName c loaded n).1 :=
  (importName_confined (closed_everything c) (fun _ _ => trivial) loaded).suffix

theorem suffix_importAsked (c : Catalogue) (loaded : Loaded) (n : Name) :
    loaded <:+ (importAsked c loaded n).1 :=
  (importAsked_confined (closed_everything c) (fun _ _ => trivial) loaded).suffix

theorem mem_of_load (h : load c running loaded n = (after, none)) : n ∈ after := by
  by_cases hl : n ∈ loaded
  · rw [load_of_mem hl] at h
    exact (Prod.mk.inj h).1 ▸ hl
  · cases hm : c.find? n with
    | none =>
        rw [load_of_missing hl hm] at h
        cases h
    | some m =>
        rw [load_of_find? hl hm, orUnload_eq_ok_iff] at h
        have kept := (execute_confined (c := c.without n) (m := m) running (n :: loaded) []
          (fun running l k => load_confined _ running l k (closed_everything _))
          ((closed_everything c).source n m trivial hm)).1.suffix
        rw [h] at kept
        exact kept.subset List.mem_cons_self

theorem mem_of_loadEach {names : List Name} (h : loadEach c running loaded names = (after, none)) :
    ∀ n ∈ names, n ∈ after := by
  induction names generalizing loaded with
  | nil => simp
  | cons n rest ih =>
      rw [loadEach_cons] at h
      obtain ⟨l, first, later⟩ := andThen_eq_ok_iff.mp h
      have kept : l <:+ after := by
        have confined : Confined c ⟨fun _ => True, fun _ => True⟩ l (loadEach c running l rest) :=
          loadEach_confined fun l k _ => load_confined c running l k (closed_everything c) trivial
        exact (later ▸ confined).suffix
      exact List.forall_mem_cons.mpr ⟨kept.subset (mem_of_load first), ih later⟩

theorem loadEach_of_subset {names : List Name} (h : names ⊆ loaded) :
    loadEach c running loaded names = (loaded, none) := by
  induction names with
  | nil => rw [loadEach_nil]
  | cons n rest ih =>
      obtain ⟨here, others⟩ := List.cons_subset.mp h
      rw [loadEach_cons, load_of_mem here]
      exact ih others

/-- Of what is loaded, the packages around it are loaded too. -/
def Rooted (loaded : Loaded) : Prop := ∀ n s, n ++ [s] ∈ loaded → n ≠ [] → n ∈ loaded

theorem Rooted.lineage_subset (rooted : Rooted loaded) (hn : n ∈ loaded) :
    lineage n ⊆ loaded := by
  induction n using List.reverseRecOn with
  | nil => simp [lineage]
  | append_singleton n s ih =>
      rw [lineage_concat]
      intro k hk
      rcases List.mem_append.mp hk with hk | hk
      · have hne : n ≠ [] := by
          rintro rfl
          cases hk
        exact ih (rooted n s hn hne) hk
      · exact List.mem_singleton.mp hk ▸ hn

/-- Where packages are loaded with what is in them, nothing is left out. -/
theorem Rooted.mem_unloaded_or (rooted : Rooted loaded) {k : Name} (hk : k ∈ lineage n) :
    k ∈ unloaded loaded n ∨ k ∈ loaded := by
  induction n using List.reverseRecOn with
  | nil => cases hk
  | append_singleton n s ih =>
      by_cases h : n ++ [s] ∈ loaded
      · exact .inr (rooted.lineage_subset h hk)
      · rw [lineage_concat] at hk
        rw [unloaded_concat, if_neg h]
        rcases List.mem_append.mp hk with hk | hk
        · exact (ih hk).imp_left (List.mem_append_left _)
        · exact .inl (List.mem_append_right _ hk)

/-- An import that goes well has loaded the module. -/
theorem mem_of_importName (hn : n ≠ []) (h : importName c loaded n = (after, none)) :
    n ∈ after := by
  obtain ⟨n, s, rfl⟩ := (List.eq_nil_or_concat' n).resolve_left hn
  by_cases hl : n ++ [s] ∈ loaded
  · have kept := suffix_importName c loaded (n ++ [s])
    rw [h] at kept
    exact kept.subset hl
  · refine mem_of_loadEach h _ ?_
    rw [unloaded_concat, if_neg hl]
    exact List.mem_append_right _ List.mem_cons_self

theorem lineage_subset_of_importName (rooted : Rooted loaded)
    (h : importName c loaded n = (after, none)) : lineage n ⊆ after := by
  intro k hk
  have kept := suffix_importName c loaded n
  rw [h] at kept
  exact (rooted.mem_unloaded_or hk).elim (mem_of_loadEach h k) fun hl => kept.subset hl

/-- A module that is loaded with its parents is not imported again. -/
theorem importAsked_of_subset (h : lineage n ⊆ loaded) :
    importAsked c loaded n = (loaded, none) :=
  loadEach_of_subset fun _ hk => h (mem_lineage_of_mem_asked hk)

end Loaded

/-! ### Catalogues that agree -/

/-- The catalogues have the same modules of these names. -/
def Agree (c c' : Catalogue) (R : Region) : Prop := ∀ n, R.names n → c'.find? n = c.find? n

section Agree

variable {c c' : Catalogue} {R : Region} {running : Running} {loaded : Loaded} {n : Name}
  {m : Module}

theorem Agree.without (h : Agree c c' R) (n : Name) : Agree (c.without n) (c'.without n) R := by
  intro k hk
  rw [Catalogue.find?_without, Catalogue.find?_without, h k hk]

theorem loadEach_congr {names : List Name}
    (same : ∀ l, ∀ n ∈ names, load c' running l n = load c running l n) :
    loadEach c' running loaded names = loadEach c running loaded names := by
  induction names generalizing loaded with
  | nil => rw [loadEach_nil, loadEach_nil]
  | cons n rest ih =>
      rw [loadEach_cons, loadEach_cons, same loaded n List.mem_cons_self]
      refine congrArg _ (funext fun l => ?_)
      exact ih fun l k hk => same l k (List.mem_cons_of_mem n hk)

theorem namesOf_congr {package : Name} (h : c'.find? package = c.find? package) :
    namesOf c' running package = namesOf c running package := by
  rw [namesOf, namesOf, h]

theorem execute_congr {bound : List String} {source : List Statement} (agree : Agree c c' R)
    (same : ∀ running l k, R.names k → load c' running l k = load c running l k)
    (lines : ∀ line ∈ source, ∀ k ∈ line.imported m.package, R.names k) :
    execute c' running loaded m bound source = execute c running loaded m bound source := by
  induction source generalizing loaded bound with
  | nil => rw [execute_nil, execute_nil]
  | cons line rest ih =>
      obtain ⟨names, others⟩ := List.forall_mem_cons.mp lines
      have after (bound : List String) :
          (fun l => execute c' running l m bound rest) =
            fun l => execute c running l m bound rest :=
        funext fun l => ih others
      cases line with
      | importName n =>
          rw [execute_importName, execute_importName, after,
            loadEach_congr fun l k hk => same _ l k (names k (mem_lineage_of_mem_asked hk))]
      | importSibling s =>
          by_cases h : m.package = []
          · rw [execute_importSibling_of_nil h, execute_importSibling_of_nil h]
          · have asks : Statement.imported m.package (.importSibling s) =
                [m.package, m.package ++ [s]] := if_neg h
            rw [asks] at names
            have known : namesOf c' ((m.name, bound) :: running) m.package =
                namesOf c ((m.name, bound) :: running) m.package :=
              namesOf_congr (agree _ (names _ List.mem_cons_self))
            by_cases hs : s ∈ namesOf c ((m.name, bound) :: running) m.package
            · rw [execute_importSibling_of_mem h hs, execute_importSibling_of_mem h (known ▸ hs)]
              exact congrFun (after _) loaded
            · rw [execute_importSibling h hs, execute_importSibling h (known ▸ hs), after,
                same _ _ _ (names _ (by simp))]
      | bind s =>
          rw [execute_bind, execute_bind]
          exact congrFun (after _) loaded
      | fail kind => rw [execute_fail, execute_fail]

end Agree

/-- **An import sees nothing else.**  Catalogues that agree on a closed region are the same to
it. -/
theorem load_congr {R : Region} (c : Catalogue) (running : Running) (loaded : Loaded) (n : Name) :
    Closed c R → R.names n →
      ∀ c', Agree c c' R → load c' running loaded n = load c running loaded n := by
  induction c, running, loaded, n using load_induction with
  | step c running loaded n ih =>
      intro closed hn c' agree
      by_cases hl : n ∈ loaded
      · rw [load_of_mem hl, load_of_mem hl]
      · cases hm : c.find? n with
        | none => rw [load_of_missing hl hm, load_of_missing hl ((agree n hn).trans hm)]
        | some m =>
            rw [load_of_find? hl hm, load_of_find? hl ((agree n hn).trans hm)]
            refine congrArg (Progress.orUnload · n) (execute_congr (agree.without n)
              (fun running l k hk => ?_) fun line h => (closed.source n m hn hm line h).1)
            exact ih m hm running l k (closed.without n) hk _ (agree.without n)

section Names

variable {c c' : Catalogue} {R : Region} {n : Name} (closed : Closed c R)
  (hn : ∀ k ∈ lineage n, R.names k) (agree : Agree c c' R) (loaded : Loaded)
include closed hn agree

theorem importName_congr : importName c' loaded n = importName c loaded n :=
  loadEach_congr fun l k hk =>
    load_congr c [] l k closed (hn k (mem_lineage_of_mem_unloaded hk)) c' agree

theorem importAsked_congr : importAsked c' loaded n = importAsked c loaded n :=
  loadEach_congr fun l k hk =>
    load_congr c [] l k closed (hn k (mem_lineage_of_mem_asked hk)) c' agree

end Names

end CompilerRunner.Package
