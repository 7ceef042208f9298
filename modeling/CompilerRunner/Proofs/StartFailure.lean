import CompilerRunner.EntryPoint
import CompilerRunner.Proofs.SettingsMerge
import Mathlib

/-!
# Proofs — StartFailure

What becomes of the request to start a compiler that is a child process.

- What a file comes to when it is to be run, directly or by way of the interpreters that scripts
  name, is a relation (`Program.Loads`), and `load` decides it (`load_eq_iff`).
- A command is looked for at its candidates in order: the first that runs is taken, and if none
  does, the verdict is one of the refusals (`search_eq_ok_iff`, `search_eq_error_iff`).
- What can be handed to the system is said of the texts of a request (`Request.Passable`), and the
  check decides it (`decides_check`).
- A request that can be handed over is `Started`, or there is a fault for which it is `Unstartable`
  (`start_cases`); how its run ends follows from that (`ends_run`).

An unstartable command is an unavailable tool for three of the five faults.  For the other two, and
for a request that cannot be handed to the system, the run ends in a crash
(`ChildCommand.run_cases`).
-/

namespace CompilerRunner.Program

/-! ### What a file comes to -/

/-- What stands there is not a file that may be run. -/
def Inert : FileTree.Node → Prop
  | .directory .. | .link _ | .file _ false _ => True
  | .file _ true _ | .program _ => False

/-- What the file at a path comes to, given the arguments: the image of a program, or a fault.  A
script comes to what its interpreter comes to, and at most `scripts` interpreters are scripts. -/
inductive Loads (t : FileTree) (place : Location) (environment : List String) :
    (scripts : Nat) → (path : String) → (arguments : List String) → Except ExecFault Image →
      Prop where
  | lost {scripts path arguments f} (lost : t.find place path = .error f) :
      Loads t place environment scripts path arguments (.error (faultOf f))
  | inert {scripts path arguments l node} (found : t.find place path = .ok (l, node))
      (inert : Inert node) :
      Loads t place environment scripts path arguments (.error .permissionDenied)
  | program {scripts path arguments l kind} (found : t.find place path = .ok (l, .program kind))
      (small : fits (arguments ++ environment) = true) :
      Loads t place environment scripts path arguments (.ok ⟨kind, arguments⟩)
  | large {scripts path arguments l kind} (found : t.find place path = .ok (l, .program kind))
      (large : fits (arguments ++ environment) = false) :
      Loads t place environment scripts path arguments (.error .unsupported)
  | unnamed {scripts path arguments l content readable}
      (found : t.find place path = .ok (l, .file content true readable))
      (unnamed : interpreter? content = none) :
      Loads t place environment scripts path arguments (.error .noInterpreter)
  | deep {path arguments l content readable interpreter}
      (found : t.find place path = .ok (l, .file content true readable))
      (named : interpreter? content = some interpreter) :
      Loads t place environment 0 path arguments (.error .unsupported)
  | largeScript {scripts path arguments l content readable interpreter}
      (found : t.find place path = .ok (l, .file content true readable))
      (named : interpreter? content = some interpreter)
      (large : fits (arguments ++ environment) = false) :
      Loads t place environment (scripts + 1) path arguments (.error .unsupported)
  | script {scripts path arguments l content readable interpreter options r}
      (found : t.find place path = .ok (l, .file content true readable))
      (named : interpreter? content = some (interpreter :: options))
      (small : fits (arguments ++ environment) = true)
      (next : Loads t place environment scripts (interpreterPath interpreter)
        (interpreter :: options ++ path :: arguments.drop 1) r) :
      Loads t place environment (scripts + 1) path arguments r

/-- A line that names an interpreter names it by a word. -/
theorem interpreter?_ne_nil (content : List UInt8) : interpreter? content ≠ some [] := by
  unfold interpreter?
  split
  · next rest _ =>
      cases line? rest with
      | none => simp
      | some line =>
          dsimp only [Option.bind_eq_bind, Option.bind_some]
          split <;> simp
  · simp

variable {t : FileTree} {place : Location} {environment arguments : List String} {scripts : Nat}
  {path : String}

/-- What `load` finds is what the file comes to. -/
theorem loads_load (t : FileTree) (place : Location) (environment : List String) (scripts : Nat)
    (path : String) (arguments : List String) :
    Loads t place environment scripts path arguments
      (load t place environment scripts path arguments) := by
  fun_induction load t place environment scripts path arguments with
  | case1 scripts path arguments f lost => exact .lost lost
  | case2 _ _ _ _ _ _ found | case3 _ _ _ _ _ found | case4 _ _ _ _ _ _ found =>
      exact .inert found trivial
  | case5 scripts path arguments l kind found small => exact .program found small
  | case6 scripts path arguments l kind found large =>
      exact .large found (Bool.eq_false_iff.mpr large)
  | case7 scripts path arguments l content _ found unnamed => exact .unnamed found unnamed
  | case8 scripts path arguments l content _ found named =>
      exact absurd named (interpreter?_ne_nil content)
  | case9 path arguments l content _ found interpreter _ named => exact .deep found named
  | case10 path arguments l content _ found interpreter options scripts named small ih =>
      exact .script found named small ih
  | case11 path arguments l content _ found interpreter options scripts named large =>
      exact .largeScript found named (Bool.eq_false_iff.mpr large)

/-- A file comes to nothing else than what `load` finds. -/
theorem load_eq_iff {r : Except ExecFault Image} :
    load t place environment scripts path arguments = r ↔
      Loads t place environment scripts path arguments r := by
  constructor
  · rintro rfl
    exact loads_load t place environment scripts path arguments
  · intro h
    induction h with
    | lost lost => rw [load, lost]
    | @inert _ _ _ _ node found inert =>
        rw [load, found]
        cases node with
        | directory | link target => rfl
        | file content executable readable =>
            cases executable with
            | false => rfl
            | true => cases inert
        | program kind => cases inert
    | program found small | large found small => simp [load, found, small]
    | unnamed found unnamed => simp [load, found, unnamed]
    | @deep _ _ _ content _ interpreter found named =>
        cases interpreter with
        | nil => exact absurd named (interpreter?_ne_nil content)
        | cons word options => simp [load, found, named]
    | @largeScript _ _ _ _ content _ interpreter found named large =>
        cases interpreter with
        | nil => exact absurd named (interpreter?_ne_nil content)
        | cons word options => simp [load, found, named, large]
    | script found named small _ ih =>
        rw [load]
        simp only [found, named, small]
        simpa using ih

/-! ### The first candidate that runs -/

/-- The first fault that is more than an absence. -/
def firstPresent? (faults : List ExecFault) : Option ExecFault :=
  faults.find? fun f => !ExecFault.isAbsence f

/-- The verdict on a command all of whose candidates are refused: the first fault that is more than
an absence, or else the last one. -/
def verdict (faults : List ExecFault) : ExecFault :=
  (firstPresent? faults).getD (faults.getLast?.getD .notFound)

section FirstOf

variable {first : Option ExecFault} {last : ExecFault}

theorem firstOf_refused (faults : List ExecFault) :
    firstOf first last (faults.map .error) =
      .error ((first.or (firstPresent? faults)).getD (faults.getLast?.getD last)) := by
  -- what is carried along is the first fault that is no absence, and the last fault of all
  induction faults generalizing first last with
  | nil => simp [firstOf, firstPresent?]
  | cons f faults ih =>
      rw [List.map_cons, firstOf, ih, List.getLast?_cons, Option.getD_some]
      cases h : ExecFault.isAbsence f with
      | true => simp [firstPresent?, h]
      | false => cases first <;> simp [firstPresent?, h]

theorem firstOf_found (faults : List ExecFault) (image : Image)
    (after : List (Except ExecFault Image)) :
    firstOf first last (faults.map .error ++ .ok image :: after) = .ok image := by
  induction faults generalizing first last with
  | nil => rfl
  | cons f faults ih => rw [List.map_cons, List.cons_append, firstOf, ih]

/-- Either everything is refused, or something is the first that is not. -/
theorem refused_or_found (rs : List (Except ExecFault Image)) :
    (∃ faults : List ExecFault, rs = faults.map .error) ∨
      ∃ (faults : List ExecFault) (image : Image) (after : List (Except ExecFault Image)),
        rs = faults.map .error ++ .ok image :: after := by
  induction rs with
  | nil => exact .inl ⟨[], rfl⟩
  | cons r rs ih =>
      cases r with
      | ok image => exact .inr ⟨[], image, rs, rfl⟩
      | error f =>
          obtain ⟨faults, rfl⟩ | ⟨faults, image, after, rfl⟩ := ih
          · exact .inl ⟨f :: faults, rfl⟩
          · exact .inr ⟨f :: faults, image, after, rfl⟩

theorem firstOf_eq_ok_iff {rs : List (Except ExecFault Image)} {image : Image} :
    firstOf first last rs = .ok image ↔
      ∃ (faults : List ExecFault) (after : List (Except ExecFault Image)),
        rs = faults.map .error ++ .ok image :: after := by
  constructor
  · intro h
    obtain ⟨faults, rfl⟩ | ⟨faults, other, after, rfl⟩ := refused_or_found rs
    · rw [firstOf_refused] at h
      cases h
    · rw [firstOf_found] at h
      cases h
      exact ⟨faults, after, rfl⟩
  · rintro ⟨faults, after, rfl⟩
    exact firstOf_found faults image after

theorem firstOf_eq_error_iff {rs : List (Except ExecFault Image)} {f : ExecFault} :
    firstOf none .notFound rs = .error f ↔
      ∃ faults : List ExecFault, rs = faults.map .error ∧ f = verdict faults := by
  constructor
  · intro h
    obtain ⟨faults, rfl⟩ | ⟨faults, image, after, rfl⟩ := refused_or_found rs
    · rw [firstOf_refused] at h
      cases h
      exact ⟨faults, rfl, rfl⟩
    · rw [firstOf_found] at h
      cases h
  · rintro ⟨faults, rfl, rfl⟩
    exact firstOf_refused faults

end FirstOf

section Search

variable (t : FileTree) (place : Location) (environment : Table String) (arguments : List String)

/-- The candidate `path` for the first of the arguments comes to `r`. -/
def Tried (path : String) (r : Except ExecFault Image) : Prop :=
  Loads t place (strings environment) scriptLimit path arguments r

/-- The paths are refused, each for the fault at its place. -/
def AllRefused (paths : List String) (faults : List ExecFault) : Prop :=
  List.Forall₂ (fun path f => Tried t place environment arguments path (.error f)) paths faults

/-- The first candidate that is not refused is run by the image. -/
def Finds (image : Image) : Prop :=
  ∃ before path after faults,
    candidates environment (arguments.head?.getD "") = before ++ path :: after ∧
    AllRefused t place environment arguments before faults ∧
    Tried t place environment arguments path (.ok image)

/-- All candidates are refused, and `f` is the verdict. -/
def Misses (f : ExecFault) : Prop :=
  ∃ faults,
    AllRefused t place environment arguments
      (candidates environment (arguments.head?.getD "")) faults ∧
    f = verdict faults

variable {t place environment arguments}

theorem allRefused_iff {paths : List String} {faults : List ExecFault} :
    AllRefused t place environment arguments paths faults ↔
      (paths.map fun path => load t place (strings environment) scriptLimit path arguments) =
        faults.map .error := by
  simp only [AllRefused, Tried, ← load_eq_iff]
  rw [← List.forall₂_eq_eq_eq, List.forall₂_map_left_iff, List.forall₂_map_right_iff]

theorem search_eq_ok_iff {image : Image} :
    search t place environment arguments = .ok image ↔
      Finds t place environment arguments image := by
  rw [search, firstOf_eq_ok_iff, Finds]
  constructor
  · rintro ⟨faults, after, h⟩
    obtain ⟨before, rest, split, hb, hr⟩ := List.map_eq_append_iff.mp h
    obtain ⟨path, after', rfl, hp, -⟩ := List.map_eq_cons_iff.mp hr
    exact ⟨before, path, after', faults, split, allRefused_iff.mpr hb, load_eq_iff.mp hp⟩
  · rintro ⟨before, path, after, faults, split, refused, tried⟩
    refine ⟨faults, after.map fun path =>
      load t place (strings environment) scriptLimit path arguments, ?_⟩
    rw [split, List.map_append, allRefused_iff.mp refused, List.map_cons, load_eq_iff.mpr tried]

theorem search_eq_error_iff {f : ExecFault} :
    search t place environment arguments = .error f ↔
      Misses t place environment arguments f := by
  rw [search, firstOf_eq_error_iff, Misses]
  simp only [allRefused_iff]

end Search

end CompilerRunner.Program

namespace CompilerRunner.Process

open Program (Finds Misses)

/-! ### What can be handed to the system -/

/-- The text can be handed to the system: it has bytes, and none of its characters is zero. -/
structure Passable (s : String) : Prop where
  hasBytes : Text.Utf8.encodeStray? s ≠ none
  noNul : Char.ofNat 0 ∉ s.toList

/-- All texts of the request can be handed to the system, and variables have names that can be told
from their values. -/
structure Request.Passable (r : Request) : Prop where
  environment : ∀ e ∈ r.environment,
    '=' ∉ e.1.toList ∧ Process.Passable e.1 ∧ Process.Passable e.2
  arguments : ∀ a ∈ r.arguments, Process.Passable a
  directory : ∀ d, r.directory = some d → Process.Passable d.text

/-- The errors for what cannot be handed to the system. -/
def Unpassed (k : Crash) : Prop := k = .invalidValue ∨ k = .unencodableText

/-- The check succeeds exactly where `P` holds, and its errors are those for what cannot be handed
to the system. -/
structure Decides (check : Except Crash Unit) (P : Prop) : Prop where
  ok_iff : check = .ok () ↔ P
  unpassed : ∀ k, check = .error k → Unpassed k

namespace Decides

variable {check check' : Except Crash Unit} {P Q : Prop}

theorem of_ok (h : check = .ok ()) (hp : P) : Decides check P :=
  ⟨iff_of_true h hp, fun k hk => by rw [h] at hk; cases hk⟩

theorem of_error {k : Crash} (h : check = .error k) (hk : Unpassed k) (hp : ¬ P) :
    Decides check P := by
  subst h
  exact ⟨iff_of_false (by simp) hp, fun k' h' => by cases h'; exact hk⟩

theorem bind (h : Decides check P) (h' : Decides check' Q) :
    Decides (check >>= fun _ => check') (P ∧ Q) := by
  cases check with
  | ok u => exact ⟨by rw [← h'.ok_iff, ← h.ok_iff]; simp [Bind.bind, Except.bind], h'.unpassed⟩
  | error k =>
      have failed : ¬ P := fun hp => by cases h.ok_iff.mpr hp
      exact of_error rfl (h.unpassed k rfl) fun both => failed both.1

theorem forM {α : Type} {check : α → Except Crash Unit} {P : α → Prop} (l : List α)
    (h : ∀ a, Decides (check a) (P a)) : Decides (l.forM check) (∀ a ∈ l, P a) := by
  induction l with
  | nil => exact of_ok rfl (by simp)
  | cons a l ih =>
      rw [List.forM, List.forall_mem_cons]
      exact (h a).bind ih

theorem guard (P : Prop) [Decidable P] {k : Crash} (next : Unit → Except Crash Unit)
    (hk : Unpassed k) (h : Decides (next ()) Q) :
    Decides (if P then throw k >>= next else next ()) (¬ P ∧ Q) := by
  by_cases hp : P
  · exact of_error (by rw [if_pos hp]; rfl) hk fun both => both.1 hp
  · simpa [hp] using h

end Decides

theorem decides_checkText (s : String) : Decides (checkText s) (Passable s) := by
  by_cases hb : Text.Utf8.encodeStray? s = none
  · exact .of_error (by simp [checkText, hb]) (.inr rfl) fun h => h.hasBytes hb
  · by_cases hn : Char.ofNat 0 ∈ s.toList
    · exact .of_error (by simp [checkText, hb, hn]) (.inl rfl) fun h => h.noNul hn
    · exact .of_ok (by simp [checkText, hb, hn]) ⟨hb, hn⟩

theorem decides_check (r : Request) : Decides r.check r.Passable := by
  have assigned (e : String × String) := Decides.guard (e.1.toList.contains '=' = true)
    (fun _ => checkText e.1 >>= fun _ => checkText e.2) (.inl rfl)
    ((decides_checkText e.1).bind (decides_checkText e.2))
  have all : Decides r.check _ := (Decides.forM r.environment assigned).bind
    ((Decides.forM r.arguments decides_checkText).bind
      (Q := ∀ d, r.directory = some d → Passable d.text) (by
        cases r.directory with
        | none => exact .of_ok rfl (by simp)
        | some d => simpa using decides_checkText d.text))
  refine ⟨all.ok_iff.trans ⟨?_, ?_⟩, all.unpassed⟩
  · rintro ⟨environment, arguments, directory⟩
    exact ⟨by simpa using environment, arguments, directory⟩
  · rintro ⟨environment, arguments, directory⟩
    exact ⟨by simpa using environment, arguments, directory⟩

/-! ### The directory -/

/-- What entering a directory comes to: a place, or a fault. -/
inductive Enters (w : World) : Option Path → Except ExecFault Location → Prop where
  | inherited : Enters w none (.ok w.directory)
  | entered {d : Path} {l : Location} {listable : Bool}
      (found : w.tree.find w.directory d.text = .ok (l, .directory listable true)) :
      Enters w (some d) (.ok l)
  | closed {d : Path} {l : Location} {listable : Bool}
      (found : w.tree.find w.directory d.text = .ok (l, .directory listable false)) :
      Enters w (some d) (.error .permissionDenied)
  | other {d : Path} {l : Location} {node : FileTree.Node}
      (found : w.tree.find w.directory d.text = .ok (l, node))
      (other : ∀ listable searchable, node ≠ .directory listable searchable) :
      Enters w (some d) (.error .notDirectory)
  | lost {d : Path} {f : PathFault} (lost : w.tree.find w.directory d.text = .error f) :
      Enters w (some d) (.error (Program.faultOf f))

theorem enter_eq_iff {w : World} {directory : Option Path} {r : Except ExecFault Location} :
    enter w directory = r ↔ Enters w directory r := by
  constructor
  · rintro rfl
    fun_cases enter w directory with
    | case1 => exact .inherited
    | case2 d l listable found => exact .entered found
    | case3 d l listable found => exact .closed found
    | case4 d place entered closed found =>
        refine .other (l := place.1) found fun listable searchable h => ?_
        cases searchable with
        | true => exact entered place.1 listable (Prod.ext rfl h)
        | false => exact closed place.1 listable (Prod.ext rfl h)
    | case5 d f lost => exact .lost lost
  · intro h
    cases h with
    | inherited => rfl
    | entered found | closed found => simp [enter, found]
    | @other d l node found other => cases node <;> simp_all [enter]
    | lost lost => simp [enter, lost]

/-! ### From the request to the child -/

/-- The word that a request starts with. -/
def Request.command (r : Request) : String := r.arguments.head?.getD ""

/-- The request starts the program of the image in the place. -/
structure Started (w : World) (r : Request) (place : Location) (image : Image) : Prop where
  passable : r.Passable
  enters : Enters w r.directory (.ok place)
  finds : Finds w.tree place r.environment r.arguments image

/-- The request can be handed to the system, but starts nothing, for a fault that has to do with
`subject`: the directory, or the command. -/
inductive Unstartable (w : World) (r : Request) : ExecFault → (subject : String) → Prop where
  | directory {d : Path} {f : ExecFault} (passable : r.Passable) (named : r.directory = some d)
      (barred : Enters w r.directory (.error f)) : Unstartable w r f d.literal
  | program {place : Location} {f : ExecFault} (passable : r.Passable)
      (enters : Enters w r.directory (.ok place))
      (misses : Misses w.tree place r.environment r.arguments f) :
      Unstartable w r f (Text.quoted r.command)

variable {w : World} {r : Request}

theorem Started.start {place : Location} {image : Image} (h : Started w r place image) :
    start w r = .ok (place, image) := by
  rw [Process.start, (decides_check r).ok_iff.mpr h.passable, enter_eq_iff.mpr h.enters]
  simp [Except.mapError, bind, Except.bind, pure, Except.pure,
    Program.search_eq_ok_iff.mpr h.finds]

theorem Unstartable.start {f : ExecFault} {subject : String} (h : Unstartable w r f subject) :
    start w r = .error (startFailure r.command subject f) := by
  cases h with
  | directory passable named barred =>
      rw [Process.start, (decides_check r).ok_iff.mpr passable, enter_eq_iff.mpr barred]
      simp [Except.mapError, bind, Except.bind, named, Request.command]
  | program passable enters misses =>
      rw [Process.start, (decides_check r).ok_iff.mpr passable, enter_eq_iff.mpr enters]
      simp [Except.mapError, bind, Except.bind, Program.search_eq_error_iff.mpr misses,
        Request.command]

theorem start_of_not_passable (w : World) (h : ¬ r.Passable) :
    ∃ k, start w r = .error (.crash k) ∧ Unpassed k := by
  cases hc : r.check with
  | ok u => exact absurd ((decides_check r).ok_iff.mp hc) h
  | error k =>
      exact ⟨k, by simp [start, hc, Except.mapError, bind, Except.bind],
        (decides_check r).unpassed k hc⟩

/-- A request starts a program, is unstartable, or cannot be handed to the system. -/
theorem start_cases (w : World) (r : Request) :
    (∃ place image, Started w r place image) ∨ (∃ f subject, Unstartable w r f subject) ∨
      ¬ r.Passable := by
  by_cases passable : r.Passable
  · cases he : enter w r.directory with
    | error f =>
        -- only a directory that is named can be barred
        cases hd : r.directory with
        | none => simp [hd, enter] at he
        | some d =>
            exact .inr (.inl ⟨f, d.literal, .directory passable hd (enter_eq_iff.mp he)⟩)
    | ok place =>
        have enters := enter_eq_iff.mp he
        cases hs : Program.search w.tree place r.environment r.arguments with
        | error f =>
            exact .inr (.inl ⟨f, _, .program passable enters (Program.search_eq_error_iff.mp hs)⟩)
        | ok image =>
            exact .inl ⟨place, image, passable, enters, Program.search_eq_ok_iff.mp hs⟩
  · exact .inr (.inr passable)

theorem run_of_start {place : Location} {image : Image} (h : start w r = .ok (place, image)) :
    run w r = await r.limit r.captured (Shell.execute w.tree place r.environment image) := by
  rw [run, h]
  rfl

/-- How the run of a request can end, if it may take any time. -/
inductive Ends (w : World) (r : Request) : Except Failure InvocationResult → Prop where
  | started {place : Location} {image : Image} (started : Started w r place image) :
      Ends w r (.ok (result r.captured (Shell.execute w.tree place r.environment image)))
  | unavailable {f : ExecFault} {g : StartFault} {subject : String}
      (unstartable : Unstartable w r f subject) (known : startFault? f = some g) :
      Ends w r (.error (.tool (.cannotStart r.command g subject)))
  | unsupported {f : ExecFault} {subject : String} (unstartable : Unstartable w r f subject)
      (unknown : f = .noInterpreter ∨ f = .unsupported) : Ends w r (.error (.crash .system))
  | unpassed {k : Crash} (impassable : ¬ r.Passable) (unpassed : Unpassed k) :
      Ends w r (.error (.crash k))

end CompilerRunner.Process

namespace CompilerRunner.ChildCommand

open Process

theorem outcome_run (c : ChildCommand) (w : World) (arguments : List String) :
    (((EntryPoint.child c).tool w).run arguments).outcome =
      Process.run w (c.request w arguments) := by
  show (Run.ofExcept (Process.run w (c.request w arguments))).outcome = _
  cases Process.run w (c.request w arguments) <;> rfl

/-- A world with a program, and with a script that names no interpreter. -/
def scriptWorld : World :=
  { tree := [(["bin"], .directory), (["bin", "cat"], .program .cat),
      (["bin", "compile"], .file [101, 120, 105, 116] true)]
    environment := [("PATH", "/bin/")]
    directory := []
    modules := [] }

theorem find_scriptWorld :
    scriptWorld.tree.find [] "/bin/cat" = .ok (["bin", "cat"], .program .cat) ∧
    scriptWorld.tree.find [] "/bin/konanc" = .error .notFound ∧
    scriptWorld.tree.find [] "/bin/compile" =
      .ok (["bin", "compile"], .file [101, 120, 105, 116] true) := by
  refine ⟨?_, ?_, ?_⟩ <;>
  · rw [FileTree.find, FileTree.locate_of_fromRoot (by decide +kernel)]
    cbv

end CompilerRunner.ChildCommand
