import CompilerRunner.EntryPoint
import Mathlib

/-!
# Proofs — CallableReference

What a reference refers to, and what becomes of one that refers to nothing.

* `Parts`, `Dotted`, `Leads`, `Stops`: each part of the reading is a relation on texts and modules.
  What is read is related (`Parts.of_split?`, `dotted_split`, `Leads.of_follow`, `stops_missing`),
  and what is related is read (`Parts.split?_eq`, `Dotted.split_eq`, `Leads.follow_eq`,
  `Stops.missing_eq`).
* `resolve_eq_iff`: a reference is resolved as `Refers` says, in exactly one of six ways.
* `callable_reference`: a function is the outcome exactly if the reference denotes it.  Any other
  reference is refused for want of a tool, unless the part before its first colon starts with a dot:
  then the import itself is refused, and that error is not the tool's own.
-/

namespace CompilerRunner.Reference

/-! ### Module and member -/

section Parts

variable {reference module member : String}

/-- The two parts of a reference: they stand on either side of its first colon, and neither is
empty. -/
structure Parts (reference module member : String) : Prop where
  written : reference = module ++ ":" ++ member
  first : ':' ∉ module.toList
  named : module ≠ ""
  chosen : member ≠ ""

theorem Parts.toList (h : Parts reference module member) :
    reference.toList = module.toList ++ ':' :: member.toList := by
  rw [h.written]
  simp

theorem Parts.of_split? (h : split? reference = some (module, member)) :
    Parts reference module member := by
  simp only [split?] at h
  split at h
  next c cs d e es before behind =>
    obtain ⟨rfl, rfl⟩ := Prod.mk.inj (Option.some.inj h)
    have whole := List.takeWhile_append_dropWhile (p := (· ≠ ':')) (l := reference.toList)
    have colon := List.head?_dropWhile_not (· ≠ ':') reference.toList
    rw [before, behind] at whole
    simp only [behind, List.head?_cons, decide_eq_false_iff_not, not_not] at colon
    refine ⟨String.toList_inj.mp ?_, fun hm => ?_, by simp [← String.toList_inj],
      by simp [← String.toList_inj]⟩
    · simp [← whole, colon]
    · rw [String.toList_ofList, ← before] at hm
      simpa using List.mem_takeWhile_imp hm
  next => cases h

theorem Parts.split?_eq (h : Parts reference module member) :
    split? reference = some (module, member) := by
  have plain : ∀ c ∈ module.toList, decide (c ≠ ':') = true := fun c hc =>
    decide_eq_true fun e => h.first (e ▸ hc)
  have before : reference.toList.takeWhile (· ≠ ':') = module.toList := by
    rw [h.toList, List.takeWhile_append_of_pos plain]
    simp
  have behind : reference.toList.dropWhile (· ≠ ':') = ':' :: member.toList := by
    rw [h.toList, List.dropWhile_append_of_pos plain]
    simp
  simp only [split?, before, behind]
  cases hm : module.toList with
  | nil => exact absurd (String.toList_eq_nil_iff.mp hm) h.named
  | cons c cs =>
      cases hn : member.toList with
      | nil => exact absurd (String.toList_eq_nil_iff.mp hn) h.chosen
      | cons d ds => simp [← hm, ← hn]

end Parts

/-! ### Names between dots -/

/-- The names that stand between the dots of a text. -/
inductive Dotted : String → List String → Prop
  | last {name : String} (bare : '.' ∉ name.toList) : Dotted name [name]
  | cons {name text : String} {names : List String} (bare : '.' ∉ name.toList)
      (rest : Dotted text names) : Dotted (name ++ "." ++ text) (name :: names)

theorem Dotted.split_eq {text : String} {names : List String} (h : Dotted text names) :
    Text.split '.' text = names := by
  induction h with
  | last bare => exact Text.split_eq_singleton bare
  | cons bare _ ih =>
      have cut := @Text.split_append '.'
      exact (cut _ _).trans (by rw [Text.split_eq_singleton bare, ih]; rfl)

theorem dotted_intercalate {names : List String} (ne : names ≠ [])
    (bare : ∀ name ∈ names, '.' ∉ name.toList) : Dotted ("." |>.intercalate names) names := by
  induction names with
  | nil => exact absurd rfl ne
  | cons name rest ih =>
      have here := bare name List.mem_cons_self
      cases rest with
      | nil =>
          rw [String.intercalate_singleton]
          exact .last here
      | cons next names =>
          rw [String.intercalate_cons_cons]
          exact .cons here
            (ih (List.cons_ne_nil next names) fun n hn => bare n (List.mem_cons_of_mem name hn))

theorem dotted_split (text : String) : Dotted text (Text.split '.' text) := by
  have back := dotted_intercalate (Text.split_ne_nil text)
    fun _ h => @Text.not_mem_of_mem_split '.' _ _ h
  rwa [show "." = String.singleton '.' from rfl, Text.intercalate_split] at back

theorem dotted_iff {text : String} {names : List String} :
    Dotted text names ↔ Text.split '.' text = names :=
  ⟨Dotted.split_eq, fun h => h ▸ dotted_split text⟩

/-! ### Paths of members -/

/-- The path leads to the object, one name after the other: each is a member of what the names
before it lead to. -/
inductive Leads : Table Member → List String → Member → Prop
  | last {members : Table Member} {name : String} {object : Member}
      (found : members.get? name = some object) : Leads members [name] object
  | through {members : Table Member} {name : String} {inner object : Member} {names : List String}
      (found : members.get? name = some inner) (rest : Leads inner.members names object) :
      Leads members (name :: names) object

theorem Leads.follow_eq {members : Table Member} {names : List String} {object : Member}
    (h : Leads members names object) : follow members names = some object := by
  induction h with
  | last found => exact found
  | through found rest ih =>
      cases rest with
      | last => simpa [follow, found] using ih
      | through => simpa [follow, found] using ih

theorem Leads.of_follow {members : Table Member} {names : List String} {object : Member}
    (h : follow members names = some object) : Leads members names object := by
  induction names generalizing members with
  | nil => cases h
  | cons name rest ih =>
      cases rest with
      | nil => exact .last h
      | cons next names =>
          obtain ⟨inner, found, inside⟩ := Option.bind_eq_some_iff.mp h
          exact .through found (ih inside)

/-! ### Modules -/

section Modules

variable {modules : Modules} {name place : String} {parent : Option String}

/-- A module of that name is imported: the name is not relative to another one, and there is such a
module. -/
structure Imports (modules : Modules) (module : String) (members : Table Member) : Prop where
  absolute : module.toList.head? ≠ some '.'
  there : modules.get? module = some members

/-- Where the import of a missing module stops, and which module it then asks for it.  Parents are
imported first, so it stops at the outermost name in an unbroken row of missing ones. -/
inductive Stops (modules : Modules) : String → String → Option String → Prop
  | root {name : String} (bare : '.' ∉ name.toList) : Stops modules name name none
  | member {package last : String} {members : Table Member} (bare : '.' ∉ last.toList)
      (there : modules.get? package = some members) :
      Stops modules (package ++ "." ++ last) (package ++ "." ++ last) (some package)
  | above {package last place : String} {parent : Option String} (bare : '.' ∉ last.toList)
      (absent : modules.get? package = none) (stops : Stops modules package place parent) :
      Stops modules (package ++ "." ++ last) place parent

theorem parents_eq_nil (bare : '.' ∉ name.toList) : parents name = [] := by
  rw [parents, Text.split_eq_singleton bare]
  rfl

theorem parents_append {package last : String} (bare : '.' ∉ last.toList) :
    parents (package ++ "." ++ last) = package :: parents package := by
  have cut : Text.split '.' (package ++ "." ++ last) = Text.split '.' package ++ [last] :=
    (Text.split_append package last).trans (by rw [Text.split_eq_singleton bare])
  have whole : ".".intercalate (Text.split '.' package) = package := Text.intercalate_split package
  obtain ⟨n, hn⟩ := Nat.exists_eq_succ_of_ne_zero
    (mt List.length_eq_zero_iff.mp (@Text.split_ne_nil '.' package))
  -- The last name is no part of any parent.
  have taken {k : Nat} (hk : k ≤ n) :
      (Text.split '.' package ++ [last]).take (k + 1) = (Text.split '.' package).take (k + 1) :=
    List.take_append_of_le_length (hn ▸ Nat.succ_le_succ hk)
  have above : (List.range n).map
        (fun k => ".".intercalate ((Text.split '.' package ++ [last]).take (k + 1))) =
      (List.range n).map fun k => ".".intercalate ((Text.split '.' package).take (k + 1)) :=
    List.map_congr_left fun k hk => by rw [taken (List.mem_range.mp hk).le]
  simp only [parents, cut, List.length_append, List.length_singleton, Nat.add_sub_cancel, hn,
    List.range_succ, List.map_append, List.reverse_append, above, List.map_singleton,
    taken (le_refl n), List.take_of_length_le hn.le, whole, List.reverse_singleton,
    List.singleton_append, Nat.succ_eq_add_one]

/-- A name is its own root, or the last dot in it parts it from its parent. -/
theorem bare_or_append (name : String) :
    '.' ∉ name.toList ∨ ∃ package last, name = package ++ "." ++ last ∧ '.' ∉ last.toList := by
  refine or_iff_not_imp_left.mpr fun h => ?_
  obtain ⟨last, package, cut, bare⟩ :=
    List.eq_append_cons_of_mem (List.mem_reverse.mpr (not_not.mp h))
  refine ⟨String.ofList package.reverse, String.ofList last.reverse, String.toList_inj.mp ?_, ?_⟩
  · simpa using congrArg List.reverse cut
  · simpa using bare

theorem Stops.missing_eq (h : Stops modules name place parent) :
    missing modules name (parents name) = (place, parent) := by
  induction h with
  | root bare => rw [parents_eq_nil bare, missing]
  | member bare there => rw [parents_append bare, missing, there, Option.isSome_some, if_pos rfl]
  | above bare absent _ ih =>
      rw [parents_append bare, missing, absent, if_neg (by simp), ih]

theorem stops_missing (modules : Modules) (name : String) :
    Stops modules name (missing modules name (parents name)).1
      (missing modules name (parents name)).2 := by
  induction h : parents name generalizing name with
  | nil =>
      rcases bare_or_append name with bare | ⟨package, last, rfl, bare⟩
      · exact .root bare
      · exact absurd (parents_append bare ▸ h) (List.cons_ne_nil _ _)
  | cons outer rest ih =>
      rcases bare_or_append name with bare | ⟨package, last, rfl, bare⟩
      · exact absurd (parents_eq_nil bare ▸ h) (List.cons_ne_nil _ _).symm
      · obtain ⟨rfl, hr⟩ := List.cons.inj (parents_append bare ▸ h)
        rw [missing]
        cases there : modules.get? package with
        | some members => simpa using .member bare there
        | none => simpa using .above bare there (ih package hr)

theorem missing_eq_iff :
    missing modules name (parents name) = (place, parent) ↔ Stops modules name place parent :=
  ⟨fun h => by simpa only [h] using stops_missing modules name, Stops.missing_eq⟩

theorem Imports.importModule_eq {members : Table Member} (h : Imports modules name members) :
    importModule modules name = .ok members := by
  rw [importModule, if_neg h.absolute, h.there]

theorem importModule_of_dot (dot : name.toList.head? = some '.') :
    importModule modules name = .error (.crash .wrongType) := by
  rw [importModule, if_pos dot]

theorem Stops.importModule_eq (h : Stops modules name place parent)
    (absolute : name.toList.head? ≠ some '.') (absent : modules.get? name = none) :
    importModule modules name = .error (.tool (.noModule name place parent)) := by
  rw [importModule, if_neg absolute, absent, h.missing_eq]

end Modules

/-! ### What becomes of a reference -/

section Outcome

variable {modules : Modules} {reference : String} {outcome : Except Failure Routine}

/-- The reference leads to the object: its first part is imported, and its second one is a path to
the object from there. -/
inductive Reaches (modules : Modules) (reference : String) (object : Member) : Prop
  | intro {module member : String} {members : Table Member} {names : List String}
      (parts : Parts reference module member) (imports : Imports modules module members)
      (dotted : Dotted member names) (leads : Leads members names object)

/-- The reference denotes the function: it leads to the object that is that function. -/
def Denotes (modules : Modules) (reference : String) (r : Routine) : Prop :=
  ∃ object, Reaches modules reference object ∧ object.routine? = some r

/-- The module is named relative to another one. -/
def Relative (reference : String) : Prop :=
  ∃ module member, Parts reference module member ∧ module.toList.head? = some '.'

/-- What becomes of a reference: the function that it denotes, or what is wrong with it. -/
inductive Refers (modules : Modules) (reference : String) : Except Failure Routine → Prop
  | function {r : Routine} (denotes : Denotes modules reference r) :
      Refers modules reference (.ok r)
  | malformed (h : ∀ module member, ¬ Parts reference module member) :
      Refers modules reference (.error (.tool (.malformedReference reference)))
  | relative (h : Relative reference) : Refers modules reference (.error (.crash .wrongType))
  | unimportable {module member place : String} {parent : Option String}
      (parts : Parts reference module member) (absolute : module.toList.head? ≠ some '.')
      (absent : modules.get? module = none) (stops : Stops modules module place parent) :
      Refers modules reference (.error (.tool (.noModule module place parent)))
  | nowhere {module member : String} {members : Table Member}
      (parts : Parts reference module member) (imports : Imports modules module members)
      (h : ∀ names object, Dotted member names → ¬ Leads members names object) :
      Refers modules reference (.error (.tool (.noMember member module)))
  | inert {object : Member} (reaches : Reaches modules reference object)
      (h : object.routine? = none) :
      Refers modules reference (.error (.tool (.notCallable reference)))

theorem Refers.resolve_eq (h : Refers modules reference outcome) :
    resolve modules reference = outcome := by
  cases h with
  | function denotes =>
      obtain ⟨object, ⟨parts, imports, dotted, leads⟩, callable⟩ := denotes
      simp only [resolve, parts.split?_eq, imports.importModule_eq, dotted.split_eq,
        bind, Except.bind, leads.follow_eq, callable]
  | malformed h =>
      have none : split? reference = none :=
        Option.eq_none_iff_forall_ne_some.mpr fun ⟨m, n⟩ hs => h m n (.of_split? hs)
      rw [resolve, none]
  | relative h =>
      obtain ⟨module, member, parts, dot⟩ := h
      simp only [resolve, parts.split?_eq, importModule_of_dot dot, bind, Except.bind]
  | unimportable parts absolute absent stops =>
      simp only [resolve, parts.split?_eq, stops.importModule_eq absolute absent, bind,
        Except.bind]
  | @nowhere module member members parts imports h =>
      have none : follow members (Text.split '.' member) = none :=
        Option.eq_none_iff_forall_ne_some.mpr fun object hf =>
          h _ object (dotted_split member) (.of_follow hf)
      simp only [resolve, parts.split?_eq, imports.importModule_eq, bind, Except.bind, none]
  | inert reaches h =>
      obtain ⟨parts, imports, dotted, leads⟩ := reaches
      simp only [resolve, parts.split?_eq, imports.importModule_eq, dotted.split_eq,
        bind, Except.bind, leads.follow_eq, h]

/-- There is no reference of which nothing becomes. -/
theorem exists_refers (modules : Modules) (reference : String) :
    ∃ outcome, Refers modules reference outcome := by
  by_cases parts : ∃ module member, Parts reference module member
  · obtain ⟨module, member, parts⟩ := parts
    by_cases dot : module.toList.head? = some '.'
    · exact ⟨_, .relative ⟨module, member, parts, dot⟩⟩
    · cases there : modules.get? module with
      | none => exact ⟨_, .unimportable parts dot there (stops_missing modules module)⟩
      | some members =>
          cases hf : follow members (Text.split '.' member) with
          | none =>
              refine ⟨_, .nowhere parts ⟨dot, there⟩ fun names object dotted leads => ?_⟩
              rw [dotted.split_eq, leads.follow_eq] at hf
              cases hf
          | some object =>
              have reaches : Reaches modules reference object :=
                ⟨parts, ⟨dot, there⟩, dotted_split member, .of_follow hf⟩
              cases hr : object.routine? with
              | none => exact ⟨_, .inert reaches hr⟩
              | some r => exact ⟨_, .function ⟨object, reaches, hr⟩⟩
  · exact ⟨_, .malformed fun module member h => parts ⟨module, member, h⟩⟩

/-- A reference is resolved in exactly one way, which the relation describes. -/
theorem resolve_eq_iff :
    resolve modules reference = outcome ↔ Refers modules reference outcome := by
  refine ⟨fun h => ?_, Refers.resolve_eq⟩
  obtain ⟨outcome', refers⟩ := exists_refers modules reference
  rwa [← h, refers.resolve_eq]

theorem resolve_eq_ok_iff {r : Routine} :
    resolve modules reference = .ok r ↔ Denotes modules reference r :=
  ⟨fun h => by cases resolve_eq_iff.mp h with | function denotes => exact denotes,
    fun h => resolve_eq_iff.mpr (.function h)⟩

theorem resolve_eq_crash_iff {c : Crash} :
    resolve modules reference = .error (.crash c) ↔ Relative reference ∧ c = .wrongType :=
  ⟨fun h => by cases resolve_eq_iff.mp h with | relative dot => exact ⟨dot, rfl⟩,
    fun h => h.2 ▸ resolve_eq_iff.mpr (.relative h.1)⟩

/-- What ends in a failure, ends in one of the tool, or else the reference is relative. -/
theorem exists_fault {f : Failure} (h : resolve modules reference = .error f)
    (absolute : ¬ Relative reference) : ∃ fault, f = .tool fault := by
  cases resolve_eq_iff.mp h with
  | malformed | unimportable | nowhere | inert => exact ⟨_, rfl⟩
  | relative dot => exact absurd dot absolute

/-- A reference is looked up anew by each run. -/
theorem run_tool (w : World) (reference : String) (arguments : List String) :
    ((CallTarget.reference reference).tool w).run arguments =
      match resolve w.modules reference with
      | .ok r => r.run arguments
      | .error f => Run.fail f := by
  show (Run.ofExcept (resolve w.modules reference)).bind (fun r => r.run arguments) = _
  cases resolve w.modules reference with
  | ok r => exact Run.pure_bind r _
  | error f => rfl

/-- **Callable references.**  A reference is resolved to a function exactly if it denotes it: the
part before its first colon is imported, and the names in the part behind it lead from there, one
after the other, to that function.  Every other reference, however it is spelled, is refused for
want of a tool, except that a module named with a dot in front is refused by the import as a wrong
type, and only then is there an error that is not the tool's own.  A run by reference is a run of
the function, or it ends in that failure and nothing is called. -/
theorem callable_reference (w : World) (reference : String) :
    (∀ outcome,
      resolve w.modules reference = outcome ↔ Refers w.modules reference outcome) ∧
    (∀ r, resolve w.modules reference = .ok r ↔ Denotes w.modules reference r) ∧
    (∀ c, resolve w.modules reference = .error (.crash c) ↔ Relative reference ∧ c = .wrongType) ∧
    ((∀ r, ¬ Denotes w.modules reference r) → ¬ Relative reference →
      ∃ fault, resolve w.modules reference = .error (.tool fault)) ∧
    ∀ arguments,
      let run := ((CallTarget.reference reference).tool w).run arguments
      (∀ r, Denotes w.modules reference r → run = r.run arguments) ∧
      ∀ f, resolve w.modules reference = .error f → run = Run.fail f := by
  refine ⟨fun _ => resolve_eq_iff, fun _ => resolve_eq_ok_iff, fun _ => resolve_eq_crash_iff,
    fun none absolute => ?_, fun arguments => ⟨fun r denotes => ?_, fun f refused => ?_⟩⟩
  · cases h : resolve w.modules reference with
    | ok r => exact absurd (resolve_eq_ok_iff.mp h) (none r)
    | error f =>
        obtain ⟨fault, rfl⟩ := exists_fault h absolute
        exact ⟨fault, rfl⟩
  · rw [run_tool, resolve_eq_ok_iff.mpr denotes]
  · rw [run_tool, refused]

/-- A module `a` with a class `C` that has a function `f`. -/
def sampleModules : Modules :=
  [("a", [("C", .mk none [("f", .mk (some ⟨"a:C.f", fun _ => .returned .null⟩) [])])])]

/-- The function is found by its path.  The module is not found by a name with a dot in front, and
that is not reported as a missing tool, as it is for two dots within the name. -/
theorem callable_reference_sampleModules :
    let w : World := { tree := [], environment := [], directory := [], modules := sampleModules }
    (∃ r, r.name = "a:C.f" ∧ resolve w.modules "a:C.f" = .ok r) ∧
    Relative ".a:C.f" ∧ resolve w.modules ".a:C.f" = .error (.crash .wrongType) ∧
    resolve w.modules "a..b:f" = .error (.tool (.noModule "a..b" "a." (some "a"))) := by
  intro w
  have relative : Relative ".a:C.f" := ⟨".a", "C.f", ⟨rfl, by decide, by decide, by decide⟩, rfl⟩
  have reaches : Reaches sampleModules "a:C.f"
      (.mk (some ⟨"a:C.f", fun _ => .returned .null⟩) []) :=
    ⟨⟨show "a:C.f" = "a" ++ ":" ++ "C.f" from rfl, by decide, by decide, by decide⟩,
      ⟨by decide, rfl⟩, dotted_iff.mpr rfl, .through rfl (.last rfl)⟩
  have absent : Refers sampleModules "a..b:f" (.error (.tool (.noModule "a..b" "a." (some "a")))) :=
    .unimportable ⟨show "a..b:f" = "a..b" ++ ":" ++ "f" from rfl, by decide, by decide, by decide⟩
      (by decide) rfl (missing_eq_iff.mp rfl)
  refine ⟨⟨⟨"a:C.f", fun _ => .returned .null⟩, rfl, ?_⟩, relative, ?_, ?_⟩
  · exact ((callable_reference w "a:C.f").2.1 _).mpr ⟨_, reaches, rfl⟩
  · exact ((callable_reference w ".a:C.f").2.2.1 _).mpr ⟨relative, rfl⟩
  · exact ((callable_reference w "a..b:f").1 _).mpr absent

end Outcome

end CompilerRunner.Reference
