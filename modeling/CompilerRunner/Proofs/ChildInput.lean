import CompilerRunner.Proofs.StartFailure
import CompilerRunner.Proofs.TargetListing
import Mathlib

/-!
# Proofs — ChildInput

What a child process is given.

* `Table.get?_overlay_of_nodup`: of two tables with a name the upper one decides.
* `ChildCommand.get?_variablesIn`: the variables of a child, whether they are inherited or put
  together.
* `Program.Carries`: what the arguments of a command come to when a program is started for it.
* `ChildCommand.visits`: runs one after the other, each of which may change the files.

`ChildCommand.child_input` puts them together for every run of a sequence.
-/

namespace CompilerRunner

/-! ### Two tables -/

namespace Table

variable {α : Type}

theorem get?_eq_none_iff {t : Table α} {k : String} : t.get? k = none ↔ k ∉ t.names := by
  rw [← isSome_get?_iff, Bool.not_eq_true, Option.isSome_eq_false_iff, Option.isNone_iff_eq_none]

/-- Where no name occurs twice, the order of the entries does not matter to a look-up. -/
theorem get?_reverse {t : Table α} (h : t.names.Nodup) (k : String) :
    get? t.reverse k = t.get? k := by
  induction t with
  | nil => rfl
  | cons e rest ih =>
      obtain ⟨fresh, distinct⟩ := List.nodup_cons.mp h
      have front : get? (e :: rest) k = if e.1 = k then some e.2 else get? rest k := rfl
      have last : get? [e] k = if e.1 = k then some e.2 else none := rfl
      rw [List.reverse_cons, get?_append, ih distinct, last, front]
      by_cases hk : e.1 = k
      · subst hk
        rw [get?_eq_none_iff.mpr fresh, Option.none_or, if_pos rfl]
      · rw [if_neg hk, if_neg hk, Option.or_none]

theorem get?_overlay_of_nodup (lower : Table α) {upper : Table α} (h : upper.names.Nodup)
    (k : String) : (lower.overlay upper).get? k = (upper.get? k).or (lower.get? k) := by
  rw [get?_overlay, get?_reverse h]

end Table

/-! ### The arguments -/

namespace Program

variable {t : FileTree} {place : Location} {environment arguments : List String} {scripts : Nat}
  {path : String} {image : Image}

/-- The file at the path is started with the arguments.  A program is given all of them; the
interpreter of a script is given the script's path for the first, after words of its own. -/
inductive Carries (t : FileTree) (place : Location) (path : String) (arguments : List String)
    (image : Image) : Prop where
  | program {l : Location} (found : t.find place path = .ok (l, .program image.program))
      (same : image.arguments = arguments) : Carries t place path arguments image
  | script {l : Location} {content : List UInt8} {readable : Bool} (words : List String)
      (found : t.find place path = .ok (l, .file content true readable))
      (passed : image.arguments = words ++ path :: arguments.drop 1) :
      Carries t place path arguments image

theorem Loads.carries (h : Loads t place environment scripts path arguments (.ok image)) :
    Carries t place path arguments image := by
  generalize hr : (Except.ok image : Except ExecFault Image) = r at h
  induction h with
  | program found small =>
      cases hr
      exact .program found rfl
  | @script scripts path arguments l content _ interpreter options r found named small next ih =>
      -- What the interpreter is given ends in the script's path and arguments, whatever starts it.
      cases ih hr with
      | program _ same => exact .script (interpreter :: options) found same
      | script words _ passed =>
          refine .script (words ++ interpreterPath interpreter :: options) found ?_
          rw [passed]
          simp
  | _ => cases hr

end Program

/-! ### The variables -/

namespace ChildCommand

open Process

variable {c : ChildCommand} {w : World}

theorem get?_variablesIn (h : c.environment.names.Nodup) (w : World) (name : String) :
    (c.variablesIn w).get? name = (c.environment.get? name).or (w.environment.get? name) := by
  unfold variablesIn
  split
  · next own =>
      rw [List.isEmpty_iff.mp own]
      rfl
  · exact Table.get?_overlay_of_nodup w.environment h name

theorem nodup_variablesIn (c : ChildCommand) (h : w.environment.names.Nodup) :
    (c.variablesIn w).names.Nodup := by
  unfold variablesIn
  split
  · exact h
  · exact Table.nodup_names_overlay w.environment c.environment h

/-! ### One run after the other -/

/-- Runs for several lists of tokens, each with the world that it finds.  A child may leave the
files in any state, and changes nothing else of what the next run finds. -/
def visits (w : World) : List (List String × FileTree) → List (World × List String)
  | [] => []
  | (tokens, left) :: rest => (w, tokens) :: visits { w with tree := left } rest

theorem environment_of_mem_visits {runs : List (List String × FileTree)} {v : World × List String}
    (h : v ∈ visits w runs) : v.1.environment = w.environment := by
  induction runs generalizing w with
  | nil => cases h
  | cons run rest ih =>
      rcases List.mem_cons.mp h with rfl | later
      · rfl
      · exact (ih later).trans rfl

/-- **What a child is given.**  In any sequence of runs, each asks for the command with its tokens
behind it and for variables of which the configured ones decide, then those that the program had
from the start; there is no other.  If a program is started, it is given these arguments, or it is
the interpreter of a script that is given them, and it is carried out with these variables. -/
theorem child_input (c : ChildCommand) (w : World) (runs : List (List String × FileTree))
    (command : c.command ≠ []) (own : c.environment.names.Nodup)
    (inherited : w.environment.names.Nodup) :
    ∀ found tokens, (found, tokens) ∈ visits w runs →
      let r := c.request found tokens
      found.environment = w.environment ∧
      r.arguments = c.command ++ tokens ∧
      (∀ name, r.environment.get? name =
        (c.environment.get? name).or (w.environment.get? name)) ∧
      r.environment.names.Nodup ∧
      ∀ place image, start found r = .ok (place, image) →
        (∃ path ∈ Program.candidates r.environment (c.command.head command),
          Program.Carries found.tree place path (c.command ++ tokens) image) ∧
        (((EntryPoint.child c).tool found).run tokens).outcome =
          await c.timeout c.captureOutput
            (Shell.execute found.tree place r.environment image) := by
  intro found tokens visit r
  have same : found.environment = w.environment := environment_of_mem_visits visit
  refine ⟨same, rfl, fun name => ?_, ?_, fun place image started => ⟨?_, ?_⟩⟩
  · rw [← same]
    exact get?_variablesIn own found name
  · exact nodup_variablesIn c (same ▸ inherited)
  · obtain ⟨place', image', h⟩ | ⟨f, subject, h⟩ | h := start_cases found r
    · obtain ⟨rfl, rfl⟩ := Prod.mk.inj (Except.ok.inj (h.start.symm.trans started))
      obtain ⟨before, path, after, faults, split, -, tried⟩ := h.finds
      have first : r.arguments.head?.getD "" = c.command.head command := by
        simp [r, request, List.head?_append, List.head?_eq_some_head command]
      rw [first] at split
      exact ⟨path, split ▸ List.mem_append_right before List.mem_cons_self, tried.carries⟩
    · cases h.start.symm.trans started
    · obtain ⟨k, hk, -⟩ := start_of_not_passable found h
      cases hk.symm.trans started
  · rw [outcome_run, run_of_start started]
    rfl

/-- A program with a variable of its own and one that it inherits. -/
def ownVariable : ChildCommand := { command := ["cat"], environment := [("LANG", "C")] }

theorem start_ownVariable :
    start scriptWorld (ownVariable.request scriptWorld ["a b", ""]) =
      .ok ([], ⟨.cat, ["cat", "a b", ""]⟩) := by
  have tried : Program.Tried scriptWorld.tree [] [("PATH", "/bin/"), ("LANG", "C")]
      ["cat", "a b", ""] "/bin/cat" (.ok ⟨.cat, ["cat", "a b", ""]⟩) :=
    .program find_scriptWorld.1 (by decide +kernel)
  exact Started.start ⟨(decides_check _).ok_iff.mp rfl, .inherited,
    ⟨[], "/bin/cat", [], [], by cbv, .nil, tried⟩⟩

/-- The second of two runs: blanks in the tokens are kept, and so is an empty token. -/
theorem child_input_ownVariable :
    let r := ownVariable.request scriptWorld ["a b", ""]
    r.arguments = ["cat", "a b", ""] ∧
    r.environment.get? "LANG" = some "C" ∧ r.environment.get? "PATH" = some "/bin/" ∧
    r.environment.get? "HOME" = none ∧
    ∃ path, Program.Carries scriptWorld.tree [] path ["cat", "a b", ""]
      ⟨.cat, ["cat", "a b", ""]⟩ := by
  obtain ⟨-, arguments, value, -, started⟩ :=
    child_input ownVariable scriptWorld [(["-"], scriptWorld.tree), (["a b", ""], [])] (by decide)
      (by decide) (by decide) scriptWorld ["a b", ""] (by simp [visits])
  obtain ⟨⟨path, -, carries⟩, -⟩ := started _ _ start_ownVariable
  refine ⟨arguments, ?_, ?_, ?_, path, carries⟩ <;>
  · rw [value]
    decide

end ChildCommand

end CompilerRunner
