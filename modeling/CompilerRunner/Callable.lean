import CompilerRunner.Run
import CompilerRunner.Table

/-!
# Callable

Functions that take an argument list and stand for the compiler.  Such a function returns a value,
exits with a code, or fails; `exitCode` says which exit code a value means.  Only nothing, `false`
and zero mean success (`exitCode_eq_zero_iff`).
-/

namespace CompilerRunner

/-- How a call ends. -/
inductive Completion where
  | returned (v : Value)
  | exited (code : Value)
  | failed (f : Failure)

/-- A function of an argument list, with the name under which its calls are seen. -/
structure Routine where
  name : String
  complete : List String → Completion

/-- An object of a module: the function that it is, if it is one, and its members. -/
inductive Member where
  | mk (routine? : Option Routine) (members : List (String × Member))

instance : Inhabited Member := ⟨.mk none []⟩

/-- The function that the object is. -/
def Member.routine? : Member → Option Routine
  | mk r _ => r

/-- The objects that the object has. -/
def Member.members : Member → Table Member
  | mk _ ms => ms

/-- The modules that can be imported, by name. -/
abbrev Modules := Table (Table Member)

/-- The exit code that a value means, if it means one. -/
def Value.exitCode? : Value → Option Int
  | .null => some 0
  | .bool b => some (if b then 1 else 0)
  | .integer n => some n
  | _ => none

/-- The exit code of a value.  One that means none is an error message: it is logged, if it has a
form, and the exit code is 1. -/
def exitCode (v : Value) : Run Int :=
  match v.exitCode? with
  | some n => pure n
  | none => do
    Run.log .error (← Run.ofExcept v.shown)
    pure 1

section ExitCode

variable {v : Value}

theorem exitCode_of_some {n : Int} (h : v.exitCode? = some n) : exitCode v = Run.pure n := by
  rw [exitCode, h]
  rfl

/-- A message is logged. -/
theorem exitCode_of_written (h : v.exitCode? = none) (hw : v.isOversized = false) :
    exitCode v = ⟨[.logged .error v.display], .ok 1⟩ := by
  rw [exitCode, h, Value.shown_of_written hw]
  rfl

/-- A message that has no form is an error in place of an exit code. -/
theorem exitCode_of_oversized (h : v.exitCode? = none) (hw : v.isOversized = true) :
    exitCode v = Run.fail (.crash .invalidValue) := by
  rw [exitCode, h, Value.shown_of_oversized hw]
  rfl

theorem exitCode?_eq_zero_iff :
    v.exitCode? = some 0 ↔ v = .null ∨ v = .bool false ∨ v = .integer 0 := by
  cases v with
  | bool b => cases b <;> simp [Value.exitCode?]
  | _ => simp [Value.exitCode?]

theorem exitCode_eq_zero_iff :
    (exitCode v).outcome = .ok 0 ↔ v = .null ∨ v = .bool false ∨ v = .integer 0 := by
  rw [← exitCode?_eq_zero_iff]
  cases h : v.exitCode? with
  | some n => simp [exitCode_of_some h, Run.pure]
  | none =>
    cases hw : v.isOversized with
    | true => simp [exitCode_of_oversized h hw]
    | false => simp [exitCode_of_written h hw]

end ExitCode

/-- The call of a function.  To exit with a code is the same as to return it. -/
def Routine.run (r : Routine) (arguments : List String) : Run InvocationResult := do
  Run.call r.name arguments
  match r.complete arguments with
  | .returned v | .exited v => return { exitCode := ← exitCode v }
  | .failed f => Run.fail f

end CompilerRunner
