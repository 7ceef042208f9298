import CompilerRunner.Shell.Arithmetic
import CompilerRunner.Shell.State

/-!
# Shell — Printing

What `echo` and `printf` write.  Backslashes begin escapes; a format of `printf` also has
directives, each of which takes an argument, and is used again until no argument is left.
-/

namespace CompilerRunner.Shell

/-- The bytes that a letter after a backslash stands for. -/
def letterEscapes : List (Char × UInt8) :=
  [('a', 7), ('b', 8), ('e', 27), ('f', 12), ('n', 10), ('r', 13), ('t', 9), ('v', 11),
    ('\\', 92), ('"', 34)]

/-- An octal digit. -/
def isOctal (c : Char) : Bool := '0' ≤ c && c ≤ '7'

/-- What stands after a backslash, and what follows it. -/
def escapeSequence (cs : List Char) : List UInt8 × List Char :=
  match cs with
  | [] => ([92], [])
  | c :: rest =>
    match letterEscapes.lookup c with
    | some b => ([b], rest)
    | none =>
      let ds := (cs.take 3).takeWhile isOctal
      if ds.isEmpty then ([92], cs)
      else ([UInt8.ofNat ((Decimal.readWhole? 8 ds).getD 0)], cs.drop ds.length)

/-- A text with escapes, as its bytes, and whether an escape ends all output. -/
def escapedText : (fuel : Nat) → List Char → List UInt8 × Bool
  | 0, _ | _, [] => ([], false)
  | _, '\\' :: 'c' :: _ => ([], true)
  | fuel + 1, '\\' :: rest =>
    let rest :=
      match rest with
      | '0' :: d :: more => if isOctal d then d :: more else rest
      | _ => rest
    let (bs, after) := escapeSequence rest
    let (more, ends) := escapedText fuel after
    (bs ++ more, ends)
  | fuel + 1, c :: rest =>
    let (more, ends) := escapedText fuel rest
    (bytesOf (String.singleton c) ++ more, ends)

/-- What is printed for words on one line. -/
def echoed (arguments : List String) : List UInt8 :=
  let (isWhole, words) : Bool × List String :=
    match arguments with
    | "-n" :: rest => (false, rest)
    | ws => (true, ws)
  let line := String.intercalate " " words
  let (bs, ends) := escapedText (line.length + 1) line.toList
  if isWhole && !ends then bs ++ [10] else bs

/-- What stands between the percent sign and the letter of a directive. -/
structure Directive where
  flags : List Char
  width : Option Int
  precision : Option Int

/-- A number as the argument of a directive, with what is said about it. -/
def numberArgument (argument : String) : Int × List String :=
  match argument.toList with
  | [] => (0, [])
  | '\'' :: rest | '"' :: rest =>
    (((bytesOf (String.ofList (rest.take 1))).head?.map UInt8.toNat).getD 0, [])
  | cs =>
    let (negative, digits) := Decimal.splitSign (cs.dropWhile isSeparating)
    if (digits.head?.any Char.isDigit) = false then
      (0, [argument ++ ": expected numeric value"])
    else
      let (n, rest) := Arithmetic.readNumber digits
      let said :=
        if rest ≠ [] then [argument ++ ": not completely converted"]
        else if n = Arithmetic.greatest ∧ digits ≠ (toString Arithmetic.greatest).toList then
          [argument ++ ": Numerical result out of range"]
        else []
      (if negative then -n else n, said)

namespace Directive

/-- Bytes brought to the width of a directive. -/
def aligned (d : Directive) (bs : List UInt8) : List UInt8 :=
  let width := d.width.getD 0
  let missing := List.replicate (width.natAbs - bs.length) (32 : UInt8)
  if width < 0 ∨ d.flags.contains '-' then bs ++ missing else missing ++ bs

/-- A text under a directive, which may cut it off. -/
def text (d : Directive) (bs : List UInt8) : List UInt8 :=
  d.aligned (match d.precision with
    | some n => if n < 0 then bs else bs.take n.toNat
    | none => bs)

/-- A sign and digits under a directive. -/
def number (d : Directive) (sign digits : String) : List UInt8 :=
  let least := (d.precision.getD 1).toNat
  let digits := if d.precision = some 0 ∧ digits = "0" then "" else digits
  let zeros (n : Nat) : String := String.ofList (List.replicate n '0')
  let digits := zeros (least - digits.length) ++ digits
  let fills := d.flags.contains '0' && !d.flags.contains '-' && d.precision.isNone
  let width := (d.width.getD 0).toNat
  let digits :=
    if fills then zeros (width - sign.length - digits.length) ++ digits else digits
  d.aligned (bytesOf (sign ++ digits))

/-- A whole number under a directive with that letter. -/
def integer (d : Directive) (letter : Char) (n : Int) : List UInt8 :=
  let digits (base : Nat) : String := String.ofList (Nat.toDigits base (Arithmetic.unsigned n))
  let mark (s : String) : String := if d.flags.contains '#' ∧ n ≠ 0 then s else ""
  match letter with
  | 'u' => d.number "" (digits 10)
  | 'o' => d.number "" (mark "0" ++ digits 8)
  | 'x' => d.number (mark "0x") (digits 16)
  | 'X' => d.number (mark "0X") (digits 16).toUpper
  | _ =>
    let sign :=
      if n < 0 then "-"
      else if d.flags.contains '+' then "+"
      else if d.flags.contains ' ' then " "
      else ""
    d.number sign (toString n.natAbs)

end Directive

/-- What `printf` has done: the bytes written, the arguments left, what it said about them, and
whether it has stopped, in vain if there is a fault. -/
structure Printout where
  bytes : List UInt8 := []
  arguments : List String
  complaints : List String := []
  stopped : Bool := false
  fault : Option String := none

namespace Printout

/-- More bytes. -/
def add (p : Printout) (bs : List UInt8) : Printout := { p with bytes := p.bytes ++ bs }

/-- The next argument as a number. -/
def takeNumber (p : Printout) : Int × Printout :=
  let (n, said) := numberArgument (p.arguments.head?.getD "")
  (n, { p with arguments := p.arguments.drop 1, complaints := p.complaints ++ said })

/-- A width or precision: a star takes it from the arguments. -/
def measure (p : Printout) (cs : List Char) : Option Int × List Char × Printout :=
  match cs with
  | '*' :: rest =>
    let (n, p) := p.takeNumber
    (some n, rest, p)
  | _ =>
    let ds := cs.takeWhile Char.isDigit
    ((Decimal.readWhole? 10 ds).map fun n => (n : Int), cs.drop ds.length, p)

/-- A directive carried out. -/
def convert (p : Printout) (d : Directive) (letter : Char) (written : String) : Printout :=
  let argument := p.arguments.head?.getD ""
  let rest := { p with arguments := p.arguments.drop 1 }
  match letter with
  | 's' => rest.add (d.text (bytesOf argument))
  | 'b' =>
    let (bs, ends) := escapedText (argument.length + 1) argument.toList
    { rest.add (d.text bs) with stopped := ends }
  | 'c' => rest.add (d.aligned ((bytesOf argument).head?.getD 0 :: []))
  | _ =>
    if "diouxX".toList.contains letter then
      let (n, p) := p.takeNumber
      p.add (d.integer letter n)
    else { p with fault := some (written ++ ": invalid directive"), stopped := true }

/-- A directive after the percent sign, and what follows it. -/
def directive (p : Printout) (cs : List Char) : Printout × List Char :=
  let flags := cs.takeWhile "#-+ 0".toList.contains
  let (width, after, p) := p.measure (cs.drop flags.length)
  let (precision, after, p) : Option Int × List Char × Printout :=
    match after with
    | '.' :: rest =>
      let (n, after, p) := p.measure rest
      (some (n.getD 0), after, p)
    | _ => (none, after, p)
  match after with
  | [] => ({ p with fault := some "missing format character", stopped := true }, [])
  | letter :: rest =>
    let written := String.ofList ('%' :: cs.take (cs.length - rest.length))
    (p.convert { flags, width, precision } letter written, rest)

/-- One pass through a format. -/
def pass : (fuel : Nat) → List Char → Printout → Printout
  | 0, _, p | _, [], p => p
  | fuel + 1, '\\' :: rest, p =>
    let (bs, after) := escapeSequence rest
    pass fuel after (p.add bs)
  | fuel + 1, '%' :: '%' :: rest, p => pass fuel rest (p.add [37])
  | fuel + 1, '%' :: rest, p =>
    let (p, after) := p.directive rest
    if p.stopped then p else pass fuel after p
  | fuel + 1, c :: rest, p => pass fuel rest (p.add (bytesOf (String.singleton c)))

/-- A format applied to all arguments, as often as that takes. -/
def all (format : List Char) : (fuel : Nat) → Printout → Printout
  | 0, p => p
  | fuel + 1, p =>
    let after := pass (format.length + 1) format p
    if after.stopped ∨ after.arguments.isEmpty ∨ p.arguments.length ≤ after.arguments.length then
      after
    else all format fuel after

end Printout

/-- What `printf` does with a format and arguments. -/
def formatted (format : String) (arguments : List String) : Printout :=
  Printout.all format.toList (arguments.length + 1) { arguments }

end CompilerRunner.Shell
