import CompilerRunner.Shell.Arithmetic
import CompilerRunner.Shell.State

/-!
# Shell — Test

Tests of files, texts and numbers.  The words of a test are read from left to right; a word that
could be an operation is a text where no operation can stand.
-/

namespace CompilerRunner.Shell.Test

/-- The operations on one word. -/
def unaryWords : List String :=
  ["-n", "-z", "-e", "-f", "-d", "-r", "-w", "-x", "-s", "-h", "-L", "-b", "-c", "-p", "-u", "-g",
    "-k", "-S", "-t", "-O", "-G"]

/-- The operations on two words. -/
def binaryWords : List String :=
  ["=", "!=", "<", ">", "-eq", "-ne", "-lt", "-le", "-gt", "-ge", "-nt", "-ot", "-ef"]

/-- What stands where a path leads to. -/
def nodeAt? (s : State) (path : String) : Option (Location × FileTree.Node) :=
  match s.tree.find s.directory path with
  | .ok found => some found
  | .error _ => none

/-- A link stands at the end of a path. -/
def isLink (s : State) (path : String) : Bool :=
  let p := Path.ofText path
  match p.parts.getLast?, s.tree.locate s.directory p.parent.text with
  | some name, .ok l =>
    match s.tree.node? (l ++ [name]) with
    | some (.link _) => true
    | _ => false
  | _, _ => false

/-- The outcome of a test of one word. -/
def unary (s : State) (operation w : String) : Bool :=
  let node := (nodeAt? s w).map Prod.snd
  match operation with
  | "-n" => w ≠ ""
  | "-z" => w = ""
  | "-f" => s.tree.isFile s.directory w
  | "-d" => s.tree.isDirectory s.directory w
  | "-e" | "-w" | "-O" | "-G" => node.isSome
  | "-r" => node.any fun
    | .file _ _ readable => readable
    | .directory listable _ => listable
    | _ => true
  | "-s" => node.any fun
    | .file content .. => !content.isEmpty
    | _ => true
  | "-x" => node.any fun
    | .file _ executable _ => executable
    | .directory _ searchable => searchable
    | _ => true
  | "-h" | "-L" => isLink s w
  | _ => false

/-- The number that a word is. -/
def number (w : String) : Except String Int :=
  let (negative, cs) := Decimal.splitSign (w.toList.dropWhile isSeparating)
  let ds := cs.takeWhile Char.isDigit
  match Decimal.readWhole? 10 ds with
  | some n =>
    if (cs.drop ds.length).all isSeparating ∧ (n : Int) ≤ Arithmetic.greatest then
      .ok (if negative then -(n : Int) else n)
    else .error ("Illegal number: " ++ w)
  | none => .error ("Illegal number: " ++ w)

/-- The outcome of a comparison of two words. -/
def binary (s : State) (a operation b : String) : Except String Bool :=
  let numbers (compare : Int → Int → Bool) : Except String Bool := do
    return compare (← number a) (← number b)
  match operation with
  | "=" => .ok (a = b)
  | "!=" => .ok (a ≠ b)
  | "<" => .ok (!Text.precedes b a)
  | ">" => .ok (!Text.precedes a b)
  | "-eq" => numbers fun m n => m = n
  | "-ne" => numbers fun m n => m ≠ n
  | "-lt" => numbers fun m n => m < n
  | "-le" => numbers fun m n => m ≤ n
  | "-gt" => numbers fun m n => n < m
  | "-ge" => numbers fun m n => n ≤ m
  | "-ef" =>
    match nodeAt? s a, nodeAt? s b with
    | some (l, _), some (m, _) => .ok (l = m)
    | _, _ => .ok false
  | "-nt" => .ok ((nodeAt? s a).isSome && (nodeAt? s b).isNone)
  | "-ot" => .ok ((nodeAt? s a).isNone && (nodeAt? s b).isSome)
  | _ => .ok false

/-- What a word is where it stands. -/
inductive Kind where
  | operand
  | unary
  | binary
  | not
  | and
  | or
  | opening
  | closing
deriving DecidableEq

/-- What the first of the words is.  An operation on one word is a text if no word follows it, or if
an operation on two words does. -/
def kind (ws : List String) : Kind :=
  match ws with
  | [] => .operand
  | w :: rest =>
    if unaryWords.contains w then
      match rest with
      | [] => .operand
      | [_] => .unary
      | next :: _ => if binaryWords.contains next then .operand else .unary
    else if binaryWords.contains w then .binary
    else if w = "!" then .not
    else if w = "-a" then .and
    else if w = "-o" then .or
    else if w = "(" then if rest.isEmpty then .operand else .opening
    else if w = ")" then .closing
    else .operand

mutual

/-- Tests one of which is to hold, and the words after them. -/
def disjunction (s : State) : (fuel : Nat) → List String → Except String (Bool × List String)
  | 0, _ => .error "too many words"
  | fuel + 1, ws => do
    let (a, rest) ← conjunction s fuel ws
    if kind rest = .or then
      let (b, rest) ← disjunction s fuel (rest.drop 1)
      return (a || b, rest)
    else return (a, rest)

/-- Tests all of which are to hold, and the words after them. -/
def conjunction (s : State) : (fuel : Nat) → List String → Except String (Bool × List String)
  | 0, _ => .error "too many words"
  | fuel + 1, ws => do
    let (a, rest) ← negation s fuel ws
    if kind rest = .and then
      let (b, rest) ← conjunction s fuel (rest.drop 1)
      return (a && b, rest)
    else return (a, rest)

/-- A test that may be negated, and the words after it. -/
def negation (s : State) : (fuel : Nat) → List String → Except String (Bool × List String)
  | 0, _ => .error "too many words"
  | fuel + 1, ws => do
    if kind ws = .not ∧ ws.length ≠ 1 then
      let (a, rest) ← negation s fuel (ws.drop 1)
      return (!a, rest)
    else if kind ws = .not then return (true, [])
    else primary s fuel ws

/-- A test of one or two words or one in brackets, and the words after it. -/
def primary (s : State) : (fuel : Nat) → List String → Except String (Bool × List String)
  | 0, _ => .error "too many words"
  | fuel + 1, ws => do
    match ws with
    | [] => return (false, [])
    | w :: rest =>
      if kind ws = .opening then
        if kind rest = .closing then return (false, rest.drop 1)
        else
          let (a, rest) ← disjunction s fuel rest
          if kind rest = .closing then return (a, rest.drop 1)
          else .error "closing paren expected"
      else if kind ws = .unary then
        match rest with
        | operand :: rest => return (unary s w operand, rest)
        | [] => .error (w ++ ": argument expected")
      else
        match rest with
        | operation :: more =>
          if kind rest = .binary then
            match more with
            | b :: rest => return (← binary s w operation b, rest)
            | [] => .error (operation ++ ": argument expected")
          else return (w ≠ "", rest)
        | [] => return (w ≠ "", [])

end

/-- The outcome of a test, or what is wrong with it. -/
def outcome (s : State) (ws : List String) : Except String Bool :=
  let fuel := 5 * ws.length + 5
  let read (ws : List String) : Except String Bool := do
    let (a, rest) ← disjunction s fuel ws
    if rest.isEmpty then return a
    else
      match ((ws.take (ws.length - rest.length)).getLast?).getD "" with
      | "" => .error "unexpected operator"
      | w => .error (w ++ ": unexpected operator")
  match ws with
  | [] => .ok false
  | [a, operation, b] =>
    if binaryWords.contains operation then binary s a operation b
    else if a = "(" ∧ b = ")" then .ok (operation ≠ "")
    else read ws
  | _ => read ws

end CompilerRunner.Shell.Test
