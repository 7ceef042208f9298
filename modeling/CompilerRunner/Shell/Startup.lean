import CompilerRunner.Shell.Setting

/-!
# Shell — Startup

What a shell is asked to do by its arguments.  Words that start with a hyphen come first and are
letters of options; `-c` takes the script from the first word after them, and without it that word
names a file.  Without such a word the script is the input.
-/

namespace CompilerRunner.Shell

/-- What a shell does when it starts, and with which options. -/
inductive Startup where
  | script (options : List Char) (name : String) (arguments : List String) (text : String)
  | file (options : List Char) (path : String) (arguments : List String)
  | input (options : List Char) (arguments : List String)
  | refused (complaint : String)

/-- Options in front of the ones found so far. -/
def withLetters (letters : List Char) (found : List Char × List String) :
    List Char × List String :=
  (letters ++ found.1, found.2)

/-- The letters of the options and the words after them, or the option that there is not.  The
letter `o` takes the long name of an option from the next word, and a plus turns options off. -/
def splitOptions : (named : Bool) → List String → Except String (List Char × List String)
  | _, [] => .ok ([], [])
  | true, name :: rest =>
    match Setting.names.lookup name with
    | some c => withLetters [c] <$> splitOptions false rest
    | none => .error ("-o " ++ name)
  | false, w :: rest =>
    match w.toList with
    | ['-'] | ['-', '-'] => .ok ([], rest)
    | '+' :: _ :: _ => splitOptions false rest
    | '-' :: letters =>
      match letters.find? fun c => !('o' :: Setting.letters ++ Setting.startLetters).contains c with
      | some c => .error ("-" ++ String.singleton c)
      | none => withLetters letters <$> splitOptions (letters.contains 'o') rest
    | _ => .ok ([], w :: rest)

/-- What the arguments ask for; the first is the name that the shell is called by. -/
def Startup.ofArguments (own : String) (arguments : List String) : Startup :=
  match splitOptions false arguments with
  | .error option => .refused (own ++ ": 0: Illegal option " ++ option ++ "\n")
  | .ok (letters, operands) =>
    let options := Setting.letters.filter letters.contains
    if letters.contains 'c' then
      match operands with
      | [] => .refused (own ++ ": 0: -c requires an argument\n")
      | [text] => .script options own [] text
      | text :: name :: rest => .script options name rest text
    else
      match operands with
      | [] => .input options []
      | path :: rest =>
        if letters.contains 's' then .input options operands else .file options path rest

end CompilerRunner.Shell
