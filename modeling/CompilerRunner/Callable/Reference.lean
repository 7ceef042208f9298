import CompilerRunner.Callable
import CompilerRunner.Text.Split

/-!
# Callable — Reference

References of the form `package.module:function`, and what they refer to.  A module is looked up by
its whole name; if it is missing, the import fails at the first of its parents that is missing too.
The part after the first colon is a path of members.
-/

namespace CompilerRunner.Reference

/-- The module and the member that a reference names, if it has both parts. -/
def split? (reference : String) : Option (String × String) :=
  let cs := reference.toList
  match cs.takeWhile (· ≠ ':'), cs.dropWhile (· ≠ ':') with
  | module@(_ :: _), _ :: member@(_ :: _) => some (String.ofList module, String.ofList member)
  | _, _ => none

/-- The names of the parents of a module, the innermost first. -/
def parents (name : String) : List String :=
  let segments := Text.split '.' name
  ((List.range (segments.length - 1)).map fun n =>
    String.intercalate "." (segments.take (n + 1))).reverse

/-- Where the import of the missing module `name` fails: at `name` if its parent exists, which is no
package then, or if it has no parent; else where the import of the parent fails. -/
def missing (modules : Modules) (name : String) : (parents : List String) → String × Option String
  | [] => (name, none)
  | parent :: rest =>
    if (modules.get? parent).isSome then (name, some parent) else missing modules parent rest

/-- The members of the module of that name. -/
def importModule (modules : Modules) (name : String) : Except Failure (Table Member) :=
  if name.toList.head? = some '.' then .error (.crash .wrongType)
  else
    match modules.get? name with
    | some members => .ok members
    | none =>
      let (place, parent) := missing modules name (parents name)
      .error (.tool (.noModule name place parent))

/-- The object at the end of a path of members. -/
def follow (members : Table Member) : List String → Option Member
  | [] => none
  | [name] => members.get? name
  | name :: next :: rest => (members.get? name).bind fun m => follow m.members (next :: rest)

/-- The function that a reference refers to. -/
def resolve (modules : Modules) (reference : String) : Except Failure Routine :=
  match split? reference with
  | none => .error (.tool (.malformedReference reference))
  | some (module, member) => do
    let members ← importModule modules module
    match follow members (Text.split '.' member) with
    | none => .error (.tool (.noMember member module))
    | some object =>
      match object.routine? with
      | some r => .ok r
      | none => .error (.tool (.notCallable reference))

end CompilerRunner.Reference
