import CompilerRunner.Shell.State

/-!
# Shell — Pattern

Patterns for texts and for the names of files.  A star matches any bytes, a question mark one, and
square brackets one of those between them.  What is quoted matches itself.
-/

namespace CompilerRunner.Shell

/-- A text some characters of which are quoted. -/
abbrev Marked := List (Char × Bool)

/-- What one element of a pattern matches. -/
inductive Pattern.Atom where
  | byte (b : UInt8)
  | any
  | many
  | oneOf (negated : Bool) (ranges : List (UInt8 × UInt8))
deriving DecidableEq

/-- A pattern. -/
abbrev Pattern := List Pattern.Atom

namespace Pattern

/-- The ends of a list, from the whole list to the empty one. -/
def ends {α : Type} : List α → List (List α)
  | [] => [[]]
  | a :: as => (a :: as) :: ends as

/-- The whole text matches. -/
def accepts : Pattern → List UInt8 → Bool
  | [], bs => bs.isEmpty
  | .many :: p, bs => (ends bs).any (accepts p)
  | .any :: p, bs =>
    match bs with
    | _ :: bs => accepts p bs
    | [] => false
  | .byte b :: p, bs =>
    match bs with
    | c :: bs => c = b && accepts p bs
    | [] => false
  | .oneOf negated ranges :: p, bs =>
    match bs with
    | c :: bs => (ranges.any fun r => r.1 ≤ c && c ≤ r.2) != negated && accepts p bs
    | [] => false

/-- The ranges of the characters of a class. -/
def classes : List (String × List (Char × Char)) :=
  [("alnum", [('0', '9'), ('A', 'Z'), ('a', 'z')]), ("alpha", [('A', 'Z'), ('a', 'z')]),
    ("blank", [(' ', ' '), ('\t', '\t')]), ("cntrl", [('\x00', '\x1f'), ('\x7f', '\x7f')]),
    ("digit", [('0', '9')]), ("graph", [('!', '~')]), ("lower", [('a', 'z')]),
    ("print", [(' ', '~')]),
    ("punct", [('!', '/'), (':', '@'), ('[', Char.ofNat 0x60), ('\x7b', '~')]),
    ("space", [('\t', '\r'), (' ', ' ')]), ("upper", [('A', 'Z')]),
    ("xdigit", [('0', '9'), ('A', 'F'), ('a', 'f')])]

/-- The byte of a character of ASCII. -/
def byteOf (c : Char) : UInt8 := UInt8.ofNat c.toNat

/-- The class that stands here between `[:` and `:]`, and what follows it. -/
def class? (m : Marked) : Option (List (UInt8 × UInt8) × Marked) :=
  match m with
  | ('[', false) :: (':', false) :: rest =>
    let name := (rest.takeWhile fun e => e.1 ≠ ':').map Prod.fst
    match rest.drop name.length with
    | (':', _) :: (']', _) :: after =>
      (classes.lookup (String.ofList name)).map fun rs =>
        (rs.map fun r => (byteOf r.1, byteOf r.2), after)
    | _ => none
  | _ => none

/-- The ranges up to the closing bracket, and what follows it. -/
def bracket? : (fuel : Nat) → (isFirst : Bool) → Marked →
    Option (List (UInt8 × UInt8) × Marked)
  | 0, _, _ | _, _, [] => none
  | fuel + 1, isFirst, (c, quoted) :: rest =>
    if c = ']' ∧ quoted = false ∧ isFirst = false then some ([], rest)
    else do
      let (ranges, after) :=
        match class? ((c, quoted) :: rest), rest with
        | some found, _ => found
        | none, ('-', false) :: (d, dQuoted) :: after =>
          if d = ']' ∧ dQuoted = false then ([(byteOf c, byteOf c)], rest)
          else ([(byteOf c, byteOf d)], after)
        | none, _ => ((bytesOf (String.singleton c)).map fun b => (b, b), rest)
      let (more, after) ← bracket? fuel false after
      return (ranges ++ more, after)

/-- The pattern that a marked text is. -/
def ofMarked : (fuel : Nat) → Marked → Pattern
  | 0, _ | _, [] => []
  | fuel + 1, (c, quoted) :: rest =>
    let itself : List Atom := (bytesOf (String.singleton c)).map .byte
    if quoted then itself ++ ofMarked fuel rest
    else
      match c, rest with
      | '*', _ => .many :: ofMarked fuel rest
      | '?', _ => .any :: ofMarked fuel rest
      | '\\', (d, _) :: after =>
        (bytesOf (String.singleton d)).map .byte ++ ofMarked fuel after
      | '[', _ =>
        let negated := rest.head?.any fun e => e.2 = false && (e.1 = '!' || e.1 = '^')
        match bracket? (rest.length + 1) true (if negated then rest.drop 1 else rest) with
        | some (ranges, after) => .oneOf negated ranges :: ofMarked fuel after
        | none => itself ++ ofMarked fuel rest
      | _, _ => itself ++ ofMarked fuel rest

/-- The pattern of a marked text. -/
def read (m : Marked) : Pattern := ofMarked (m.length + 1) m

/-- The marked text is more than a text to be matched literally. -/
def isWild (m : Marked) : Bool := m.any fun e => !e.2 && (e.1 = '*' || e.1 = '?' || e.1 = '[')

/-- The text without the shortest or longest part at its start or end that matches. -/
def trim (p : Pattern) (atEnd longest : Bool) (bs : List UInt8) : List UInt8 :=
  let cuts := (List.range (bs.length + 1)).filter fun n =>
    accepts p (if atEnd then bs.drop n else bs.take n)
  match if atEnd = longest then cuts.head? else cuts.getLast? with
  | some n => if atEnd then bs.take n else bs.drop n
  | none => bs

/-- The parts of a marked text between slashes. -/
def pieces : Marked → List Marked
  | [] => [[]]
  | (c, quoted) :: rest =>
    if c = '/' then [] :: pieces rest
    else
      match pieces rest with
      | piece :: more => ((c, quoted) :: piece) :: more
      | [] => [[(c, quoted)]]

/-- The text of a marked text. -/
def plain (m : Marked) : String := String.ofList (m.map Prod.fst)

/-- The names in a directory that a pattern matches; one that starts with a dot has to be asked for
with a dot. -/
def namesIn (t : FileTree) (from_ : Location) (directory : String) (m : Marked) : List String :=
  match t.find from_ (if directory = "" then "." else directory) with
  | .ok (l, .directory true _) =>
    let asksForDot := m.head?.any fun e => e.1 = '.'
    let names := t.children l ++ if asksForDot then [".", ".."] else []
    names.filter fun n =>
      (asksForDot || n.toList.head? ≠ some '.') && accepts (read m) (bytesOf n)
  | _ => []

/-- Something stands where the path leads to. -/
def existsAt (t : FileTree) (from_ : Location) (path : String) : Bool :=
  match t.find from_ path with
  | .ok _ => true
  | .error _ => false

/-- The paths that match, from what has been matched on. -/
def pathsFrom (t : FileTree) (from_ : Location) : (before : String) → List Marked → List String
  | _, [] => []
  | before, [last] =>
    if isWild last then (namesIn t from_ before last).map (before ++ ·)
    else if existsAt t from_ (before ++ plain last) then [before ++ plain last]
    else []
  | before, piece :: rest =>
    if isWild piece then
      (namesIn t from_ before piece).flatMap fun n => pathsFrom t from_ (before ++ n ++ "/") rest
    else pathsFrom t from_ (before ++ plain piece ++ "/") rest

/-- The paths that a marked text matches, in order; the text itself if there are none. -/
def paths (t : FileTree) (from_ : Location) (m : Marked) : List String :=
  if isWild m then
    match pathsFrom t from_ "" (pieces m) with
    | [] => [plain m]
    | found => Text.sorted found
  else [plain m]

end Pattern

end CompilerRunner.Shell
