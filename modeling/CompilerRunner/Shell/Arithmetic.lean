import CompilerRunner.Decimal.Reading
import CompilerRunner.Shell.Syntax
import CompilerRunner.Table

/-!
# Shell — Arithmetic

Arithmetic expressions over whole numbers of 64 bits: the operations and comparisons of C, with
assignments to variables.  A number starts with `0x` or `0` for the bases sixteen and eight.  A
division goes toward zero; by zero there is none.
-/

namespace CompilerRunner.Shell.Arithmetic

/-- The operations of two numbers. -/
inductive Operation where
  | or
  | xor
  | and
  | equal
  | unequal
  | less
  | lessOrEqual
  | greater
  | greaterOrEqual
  | left
  | right
  | plus
  | minus
  | times
  | divide
  | remainder
deriving DecidableEq

/-- An expression. -/
inductive Expression where
  | number (n : Int)
  | variable (name : String)
  | assignment (operation : Option Operation) (name : String) (e : Expression)
  | choice (condition yes no : Expression)
  | either (a b : Expression)
  | both (a b : Expression)
  | binary (operation : Operation) (a b : Expression)
  | negative (e : Expression)
  | complement (e : Expression)
  | negation (e : Expression)

/-- The smallest parts of an expression. -/
inductive Token where
  | number (n : Int)
  | name (s : String)
  | mark (s : String)
deriving DecidableEq

/-- The greatest number. -/
def greatest : Int := 9223372036854775807

/-- The number of 64 bits that is left of a number. -/
def wrap (n : Int) : Int :=
  let m := n.emod 18446744073709551616
  if greatest < m then m - 18446744073709551616 else m

/-- The number that a text starts with, none of it taken if it starts with no digit, and the
rest. -/
def readNumber (cs : List Char) : Int × List Char :=
  let (base, digits) : Nat × List Char :=
    match cs with
    | '0' :: x :: d :: rest =>
      if (x = 'x' ∨ x = 'X') ∧ ((Decimal.digitValue? d).any (· < 16)) = true then (16, d :: rest)
      else (8, cs)
    | '0' :: _ => (8, cs)
    | _ => (10, cs)
  let ds := digits.takeWhile fun c => (Decimal.digitValue? c).any (· < base)
  (min greatest ((Decimal.readWhole? base ds).getD 0), digits.drop ds.length)

/-- The marks of several characters, those of three first. -/
def longMarks : List String :=
  ["<<=", ">>=", "&&", "||", "<<", ">>", "<=", ">=", "==", "!=", "+=", "-=", "*=", "/=", "%=",
    "&=", "|=", "^="]

/-- The tokens of a text. -/
def tokens : (fuel : Nat) → List Char → List Token
  | 0, _ | _, [] => []
  | fuel + 1, c :: rest =>
    if isSeparating c then tokens fuel rest
    else if c.isDigit then
      let (n, after) := readNumber (c :: rest)
      .number n :: tokens fuel after
    else if isNameStart c then
      let name := (c :: rest).takeWhile isNameChar
      .name (String.ofList name) :: tokens fuel ((c :: rest).drop name.length)
    else
      match longMarks.find? fun m => m.toList.isPrefixOf (c :: rest) with
      | some m => .mark m :: tokens fuel ((c :: rest).drop m.length)
      | none => .mark (String.singleton c) :: tokens fuel rest

/-- The operations by rank, those that bind least closely first. -/
def ranks : List (List (String × Operation)) :=
  [[("|", .or)], [("^", .xor)], [("&", .and)], [("==", .equal), ("!=", .unequal)],
    [("<", .less), ("<=", .lessOrEqual), (">", .greater), (">=", .greaterOrEqual)],
    [("<<", .left), (">>", .right)], [("+", .plus), ("-", .minus)],
    [("*", .times), ("/", .divide), ("%", .remainder)]]

/-- The operation that a mark of an assignment carries out first: none for a plain assignment. -/
def assigning? (m : String) : Option (Option Operation) :=
  if m = "=" then some none
  else
    (ranks.flatten.find? fun e =>
      e.1 ++ "=" = m && !([Operation.less, .greater, .equal, .unequal].contains e.2)).map
        fun e => some e.2

/-- A reader of expressions, with what is wrong if there is none. -/
abbrev Reader := StateT (List Token) (Except String)

/-- The mark stands here and is moved past. -/
def skipMark (m : String) : Reader Bool := do
  match ← get with
  | t :: rest =>
    if t = .mark m then
      set rest
      return true
    else return false
  | [] => return false

mutual

/-- An assignment, or an expression without one. -/
def assignment : (fuel : Nat) → Reader Expression
  | 0 => throw "expecting primary"
  | fuel + 1 => do
    match ← get with
    | .name s :: .mark m :: rest =>
      match assigning? m with
      | some operation =>
        set rest
        return .assignment operation s (← assignment fuel)
      | none => conditional fuel
    | _ => conditional fuel

/-- A choice between two expressions, or an expression without one. -/
def conditional : (fuel : Nat) → Reader Expression
  | 0 => throw "expecting primary"
  | fuel + 1 => do
    let condition ← disjunction fuel
    if ← skipMark "?" then
      let yes ← assignment fuel
      if !(← skipMark ":") then throw "expecting ':'"
      return .choice condition yes (← conditional fuel)
    else return condition

/-- Expressions one of which is to hold. -/
def disjunction : (fuel : Nat) → Reader Expression
  | 0 => throw "expecting primary"
  | fuel + 1 => do
    let a ← conjunction fuel
    if ← skipMark "||" then return .either a (← disjunction fuel) else return a

/-- Expressions all of which are to hold. -/
def conjunction : (fuel : Nat) → Reader Expression
  | 0 => throw "expecting primary"
  | fuel + 1 => do
    let a ← operations fuel ranks
    if ← skipMark "&&" then return .both a (← conjunction fuel) else return a

/-- Operations of the ranks from the first one on. -/
def operations : (fuel : Nat) → List (List (String × Operation)) → Reader Expression
  | 0, _ => throw "expecting primary"
  | fuel + 1, ranks => do
    match ranks with
    | [] => primary fuel
    | rank :: closer => continued fuel rank closer (← operations fuel closer)

/-- An expression continued by operations of one rank, from left to right. -/
def continued : (fuel : Nat) → List (String × Operation) → List (List (String × Operation)) →
    Expression → Reader Expression
  | 0, _, _, _ => throw "expecting primary"
  | fuel + 1, rank, closer, a => do
    match ← get with
    | .mark m :: rest =>
      match rank.lookup m with
      | some operation =>
        set rest
        continued fuel rank closer (.binary operation a (← operations fuel closer))
      | none => return a
    | _ => return a

/-- A number, a variable, an expression in brackets, or a sign and one of these. -/
def primary : (fuel : Nat) → Reader Expression
  | 0 => throw "expecting primary"
  | fuel + 1 => do
    let ts ← get
    set (ts.drop 1)
    match ts.head? with
    | some (.number n) => return .number n
    | some (.name s) => return .variable s
    | some (.mark "(") =>
      let e ← assignment fuel
      if ← skipMark ")" then return e else throw "expecting ')'"
    | some (.mark "+") => primary fuel
    | some (.mark "-") => return .negative (← primary fuel)
    | some (.mark "!") => return .negation (← primary fuel)
    | some (.mark "~") => return .complement (← primary fuel)
    | _ => throw "expecting primary"

end

/-- The expression that a text is. -/
def read (text : String) : Except String Expression := do
  let ts := tokens (text.length + 1) text.toList
  let (e, rest) ← (assignment (16 * ts.length + 32)).run ts
  if rest.isEmpty then return e else throw "expecting EOF"

/-- One for what holds, and zero. -/
def truth (b : Bool) : Int := if b then 1 else 0

/-- A number of 64 bits without its sign. -/
def unsigned (n : Int) : Nat := (n.emod 18446744073709551616).toNat

/-- The result of an operation. -/
def Operation.apply : Operation → Int → Int → Except String Int
  | .or, a, b => return wrap (unsigned a ||| unsigned b : Nat)
  | .xor, a, b => return wrap (unsigned a ^^^ unsigned b : Nat)
  | .and, a, b => return wrap (unsigned a &&& unsigned b : Nat)
  | .equal, a, b => return truth (a = b)
  | .unequal, a, b => return truth (a ≠ b)
  | .less, a, b => return truth (a < b)
  | .lessOrEqual, a, b => return truth (a ≤ b)
  | .greater, a, b => return truth (b < a)
  | .greaterOrEqual, a, b => return truth (b ≤ a)
  | .left, a, b => return wrap (a * Int.pow 2 (b.emod 64).toNat)
  | .right, a, b => return a.fdiv (Int.pow 2 (b.emod 64).toNat)
  | .plus, a, b => return wrap (a + b)
  | .minus, a, b => return wrap (a - b)
  | .times, a, b => return wrap (a * b)
  | .divide, a, b => if b = 0 then throw "division by zero" else return wrap (a.tdiv b)
  | .remainder, a, b => if b = 0 then throw "division by zero" else return a.tmod b

/-- What is wrong with an expression: its form or an operation, or the value of a variable. -/
inductive Fault where
  | expression (message : String)
  | value (text : String)

/-- The number that the value of a variable is; no value counts as zero. -/
def valueOf? (text : String) : Option Int :=
  let (negative, cs) := Decimal.splitSign (text.toList.dropWhile isSeparating)
  let (n, rest) := readNumber cs
  if (cs.head?.any Char.isDigit) = false then
    if text.isEmpty then some 0 else none
  else if rest.all isSeparating then some (if negative then -n else n)
  else none

/-- The value of an expression and the variables after it. -/
def Expression.evaluate : Expression → StateT (Table String) (Except Fault) Int
  | .number n => return n
  | .variable name => look name
  | .assignment operation name e => do
    let n ← e.evaluate
    let n ← match operation with
      | some o => do applied o (← look name) n
      | none => pure n
    modify fun t => t.insert name (toString n)
    return n
  | .choice condition yes no => do
    if (← condition.evaluate) ≠ 0 then yes.evaluate else no.evaluate
  | .either a b => do
    if (← a.evaluate) ≠ 0 then return 1
    return truth ((← b.evaluate) ≠ 0)
  | .both a b => do
    if (← a.evaluate) = 0 then return 0
    return truth ((← b.evaluate) ≠ 0)
  | .binary operation a b => do
    let m ← a.evaluate
    let n ← b.evaluate
    applied operation m n
  | .negative e => return wrap (-(← e.evaluate))
  | .complement e => return -(← e.evaluate) - 1
  | .negation e => return truth ((← e.evaluate) = 0)
where
  /-- The number that a variable holds. -/
  look (name : String) : StateT (Table String) (Except Fault) Int := do
    let text := ((← get).get? name).getD ""
    match valueOf? text with
    | some n => return n
    | none => throw (.value text)
  /-- The result of an operation. -/
  applied (o : Operation) (m n : Int) : StateT (Table String) (Except Fault) Int :=
    match o.apply m n with
    | .ok n => return n
    | .error message => throw (.expression message)

/-- The value of the expression that a text is and the variables after it, or a complaint. -/
def evaluate (assigned : Table String) (text : String) : Except String (Int × Table String) :=
  let about (message : String) : String :=
    "arithmetic expression: " ++ message ++ ": \"" ++ text ++ "\""
  match read text with
  | .error message => .error (about message)
  | .ok e =>
    match e.evaluate.run assigned with
    | .ok result => .ok result
    | .error (.expression message) => .error (about message)
    | .error (.value v) => .error ("Illegal number: " ++ v)

end CompilerRunner.Shell.Arithmetic
