import CompilerRunner.Decimal.Reading
import CompilerRunner.Text.CodePoint
import CompilerRunner.Text.Word

/-!
# Markup — Literal

The literals that can be handed to a handler: numbers, texts, bytes, `True`, `False`, `None` and
`...`, and tuples, sets and tables of literals.  `isLiteral` tells whether a text is one; nothing is
computed but a sign before a number and the sum of a real and an imaginary one.  Square brackets
have no place in a tag, so there are no lists.
-/

namespace CompilerRunner.Markup.Literal

/-- The smallest parts of a literal; `stop` is the end of a line outside all brackets. -/
inductive Token where
  | number (imaginary : Bool)
  | text (isBytes : Bool)
  | constant
  | emptySetName
  | sign
  | comma
  | colon
  | opening
  | closing
  | openingBrace
  | closingBrace
  | stop
deriving DecidableEq

/-- The digits that a text starts with are dropped; single underscores may stand between them. -/
def afterDigits (isDigit : Char → Bool) : List Char → List Char
  | [] => []
  | [c] => if isDigit c then [] else [c]
  | c :: d :: rest =>
    if isDigit c then
      if d = '_' ∧ (rest.head?.any isDigit) = true then afterDigits isDigit rest
      else afterDigits isDigit (d :: rest)
    else c :: d :: rest

/-- A number with a base of its own, after its first two characters. -/
def afterPrefixed? (isDigit : Char → Bool) (cs : List Char) : Option (List Char) :=
  let cs := if cs.head? = some '_' then cs.tail else cs
  if (cs.head?.any isDigit) = true then some (afterDigits isDigit cs) else none

/-- The base that a letter stands for. -/
def baseOf? (c : Char) : Option Nat :=
  match c.toLower with
  | 'x' => some 16
  | 'o' => some 8
  | 'b' => some 2
  | _ => none

/-- What follows an exponent, if there is one. -/
def afterExponent? : List Char → Option (List Char)
  | e :: c :: rest =>
    if e = 'e' ∨ e = 'E' then
      let digits := if c = '+' ∨ c = '-' then rest else c :: rest
      if (digits.head?.any Char.isDigit) = true then some (afterDigits Char.isDigit digits)
      else none
    else none
  | _ => none

/-- A decimal number and what follows it.  A whole number does not start with a zero, unless it is
zero. -/
def decimalNumber? (cs : List Char) : Option (Token × List Char) :=
  let afterWhole := afterDigits Char.isDigit cs
  let hasPoint := afterWhole.head? = some '.'
  let afterPoint := if hasPoint then afterDigits Char.isDigit afterWhole.tail else afterWhole
  let exponent := afterExponent? afterPoint
  let rest := exponent.getD afterPoint
  if rest.head? = some 'j' ∨ rest.head? = some 'J' then some (.number true, rest.tail)
  else
    let whole := cs.take (cs.length - afterWhole.length)
    if hasPoint ∨ exponent.isSome = true ∨ whole.head? ≠ some '0' ∨
        (whole.all fun c => c = '0' || c = '_') = true then
      some (.number false, rest)
    else none

/-- A number and what follows it, which does not go on like a word. -/
def number? (cs : List Char) : Option (Token × List Char) := do
  let (t, rest) ← match cs with
    | '0' :: c :: rest =>
      match baseOf? c with
      | some base =>
        let isDigit (d : Char) : Bool := (Decimal.digitValue? d).any (· < base)
        (afterPrefixed? isDigit rest).map fun r => (Token.number false, r)
      | none => decimalNumber? cs
    | _ => decimalNumber? cs
  if (rest.head?.any fun c => Text.isWordChar c || 128 ≤ c.toNat) = true then none
  else some (t, rest)

/-- The contents of a text after its opening quote and what follows its end, which is one quote or
three.  A backslash takes the character after it along; a text in single quotes is on one line. -/
def quoted? (quote : Char) (isTriple : Bool) : List Char → Option (List Char × List Char)
  | [] => none
  | ['\\'] => none
  | '\\' :: c :: rest =>
    (quoted? quote isTriple rest).map fun (inner, after) => ('\\' :: c :: inner, after)
  | c :: rest =>
    if c = quote ∧ isTriple = false then some ([], rest)
    else if c = quote ∧ rest.take 2 = [quote, quote] then some ([], rest.drop 2)
    else if c = '\n' ∧ isTriple = false then none
    else (quoted? quote isTriple rest).map fun (inner, after) => (c :: inner, after)

/-- A text starts with so many hexadecimal digits, of a number that is a code point. -/
def startsWithCode (width : Nat) (cs : List Char) : Bool :=
  let digits := cs.take width
  digits.length = width && (Decimal.readWhole? 16 digits).any (· < 0x110000)

/-- A text starts with the name of a character between braces. -/
def startsWithName : List Char → Bool
  | '\x7b' :: rest =>
    let name := rest.takeWhile fun c => c.isAlphanum || c = ' ' || c = '-'
    name ≠ [] && (rest.drop name.length).head? = some '\x7d'
  | _ => false

/-- The escapes in a text or in bytes stand for something. -/
def hasMeaning (isBytes : Bool) : List Char → Bool
  | '\\' :: c :: rest =>
    (if c = 'x' then startsWithCode 2 rest
      else if isBytes then true
      else if c = 'u' then startsWithCode 4 rest
      else if c = 'U' then startsWithCode 8 rest
      else if c = 'N' then startsWithName rest
      else true) && hasMeaning isBytes rest
  | _ :: rest => hasMeaning isBytes rest
  | [] => true

/-- What the word before a quote says of the text: it is bytes, and its backslashes are meant as
they are. -/
def kind? (word : List Char) : Option (Bool × Bool) :=
  match String.ofList (word.map Char.toLower) with
  | "" => some (false, false)
  | "u" => some (false, false)
  | "r" => some (false, true)
  | "b" => some (true, false)
  | "br" => some (true, true)
  | "rb" => some (true, true)
  | _ => none

/-- A text or bytes after the word and the opening quote, and what follows. -/
def text? (word : List Char) (quote : Char) (rest : List Char) : Option (Token × List Char) := do
  let (isBytes, isRaw) ← kind? word
  let isTriple := rest.take 2 = [quote, quote]
  let (inner, after) ← quoted? quote isTriple (if isTriple then rest.drop 2 else rest)
  if isBytes = true ∧ (inner.all fun c => c.toNat < 128) = false then none
  else if isRaw = true ∨ hasMeaning isBytes inner = true then some (.text isBytes, after)
  else none

/-- A word, or the text that it begins. -/
def word? (cs : List Char) : Option (Token × List Char) :=
  let word := cs.takeWhile Text.isWordChar
  match cs.drop word.length with
  | '\'' :: rest => text? word '\'' rest
  | '"' :: rest => text? word '"' rest
  | rest =>
    match String.ofList word with
    | "True" => some (.constant, rest)
    | "False" => some (.constant, rest)
    | "None" => some (.constant, rest)
    | "set" => some (.emptySetName, rest)
    | _ => none

/-- The token that a text starts with and what follows it. -/
def token? : List Char → Option (Token × List Char)
  | '+' :: rest => some (.sign, rest)
  | '-' :: rest => some (.sign, rest)
  | ',' :: rest => some (.comma, rest)
  | ':' :: rest => if rest.head? = some '=' then none else some (.colon, rest)
  | '(' :: rest => some (.opening, rest)
  | ')' :: rest => some (.closing, rest)
  | '\x7b' :: rest => some (.openingBrace, rest)
  | '\x7d' :: rest => some (.closingBrace, rest)
  | '.' :: '.' :: '.' :: rest => some (.constant, rest)
  | '.' :: c :: rest => if c.isDigit then number? ('.' :: c :: rest) else none
  | c :: rest => if c.isDigit then number? (c :: rest) else word? (c :: rest)
  | [] => none

/-- The brackets that are open after a token. -/
def depthAfter (depth : Nat) : Token → Nat
  | .opening => depth + 1
  | .openingBrace => depth + 1
  | .closing => depth - 1
  | .closingBrace => depth - 1
  | _ => depth

/-- The tokens of a text inside so many brackets.  Blanks and remarks are left out, and the ends of
lines inside brackets. -/
def tokens : (fuel depth : Nat) → List Char → Option (List Token)
  | 0, _, _ => none
  | _, _, [] => some [.stop]
  | fuel + 1, depth, c :: rest =>
    if c = ' ' ∨ c = '\t' ∨ c = '\x0c' then tokens fuel depth rest
    else if c = '\n' then
      if depth = 0 then (tokens fuel depth rest).map (.stop :: ·) else tokens fuel depth rest
    else if c = '#' then tokens fuel depth (rest.dropWhile (· ≠ '\n'))
    else if c = '\\' then
      match rest with
      | '\n' :: d :: rest => tokens fuel depth (d :: rest)
      | _ => none
    else do
      let (t, rest) ← token? (c :: rest)
      let ts ← tokens fuel (depthAfter depth t) rest
      return t :: ts

/-- What is known of a literal: a number as it stands or with a sign, or something else, which can
be an element of a set or not. -/
inductive Shape where
  | number (imaginary signed : Bool)
  | other (isElement : Bool)

/-- The literal can be an element of a set and a key of a table. -/
def Shape.isElement : Shape → Bool
  | .number _ _ => true
  | .other b => b

/-- The tokens after the texts that go on with a text. -/
def afterTexts? (isBytes : Bool) : List Token → Option (List Token)
  | .text b :: rest => if b = isBytes then afterTexts? isBytes rest else none
  | ts => some ts

mutual

/-- A literal and the tokens after it. -/
def literal? : (fuel : Nat) → List Token → Option (Shape × List Token)
  | 0, _ => none
  | fuel + 1, ts => do
    let (first, rest) ← signed? fuel ts
    match rest with
    | .sign :: rest =>
      let (second, rest) ← atom? fuel rest
      match first, second, rest.head? with
      | _, _, some .sign => none
      | .number false _, .number true false, _ => return (.other true, rest)
      | _, _, _ => none
    | _ => return (first, rest)

/-- A literal that is no sum. -/
def signed? : (fuel : Nat) → List Token → Option (Shape × List Token)
  | 0, _ => none
  | fuel + 1, .sign :: rest => do
    match ← atom? fuel rest with
    | (.number imaginary false, rest) => return (.number imaginary true, rest)
    | _ => none
  | fuel + 1, ts => atom? fuel ts

/-- A literal that is no sum and starts with no sign. -/
def atom? : (fuel : Nat) → List Token → Option (Shape × List Token)
  | 0, _ => none
  | fuel + 1, ts =>
    match ts with
    | .number imaginary :: rest => some (.number imaginary false, rest)
    | .text isBytes :: rest => (afterTexts? isBytes rest).map fun rest => (.other true, rest)
    | .constant :: rest => some (.other true, rest)
    | .emptySetName :: .opening :: .closing :: rest => some (.other false, rest)
    | .opening :: .closing :: rest => some (.other true, rest)
    | .opening :: rest => do
      let (first, rest) ← literal? fuel rest
      match rest with
      | .closing :: rest => return (first, rest)
      | .comma :: rest =>
        let (areElements, rest) ← items? fuel .closing rest
        return (.other (first.isElement && areElements), rest)
      | _ => none
    | .openingBrace :: .closingBrace :: rest => some (.other false, rest)
    | .openingBrace :: rest => do
      let (first, rest) ← literal? fuel rest
      if first.isElement then
        match rest with
        | .closingBrace :: rest => return (.other false, rest)
        | .comma :: rest =>
          match ← items? fuel .closingBrace rest with
          | (true, rest) => return (.other false, rest)
          | _ => none
        | .colon :: rest =>
          let rest ← entries? fuel rest
          return (.other false, rest)
        | _ => none
      else none
    | _ => none

/-- Literals between commas up to `closer`: whether all can be elements, and the tokens after it. -/
def items? : (fuel : Nat) → (closer : Token) → List Token → Option (Bool × List Token)
  | 0, _, _ => none
  | fuel + 1, closer, ts =>
    if ts.head? = some closer then some (true, ts.tail)
    else do
      let (item, rest) ← literal? fuel ts
      match rest with
      | .comma :: rest =>
        let (areElements, rest) ← items? fuel closer rest
        return (item.isElement && areElements, rest)
      | t :: rest => if t = closer then return (item.isElement, rest) else none
      | [] => none

/-- The rest of a table after the colon of an entry. -/
def entries? : (fuel : Nat) → List Token → Option (List Token)
  | 0, _ => none
  | fuel + 1, ts => do
    let (_, rest) ← literal? fuel ts
    match rest with
    | .closingBrace :: rest => return rest
    | .comma :: .closingBrace :: rest => return rest
    | .comma :: rest =>
      let (key, rest) ← literal? fuel rest
      match key.isElement, rest with
      | true, .colon :: rest => entries? fuel rest
      | _, _ => none
    | _ => none

end

/-- The tokens are those of one literal, or of several between commas, on one line. -/
def isWhole (ts : List Token) : Bool :=
  let fuel := 4 * ts.length + 4
  match literal? fuel ts with
  | some (_, .comma :: rest) =>
    match items? fuel .stop rest with
    | some (_, rest) => rest.all (· = .stop)
    | none => false
  | some (_, rest) => rest.all (· = .stop)
  | none => false

/-- A text with its line ends as line feeds. -/
def unifyLines : List Char → List Char
  | '\r' :: '\n' :: rest => '\n' :: unifyLines rest
  | '\r' :: rest => '\n' :: unifyLines rest
  | c :: rest => c :: unifyLines rest
  | [] => []

/-- The text is a literal. -/
def isLiteral (s : String) : Bool :=
  let cs := unifyLines s.toList
  if Text.hasSurrogate s || cs.contains (Char.ofNat 0) then false
  else
    match tokens (cs.length + 1) 0 cs with
    | some ts => isWhole ts
    | none => false

example : isLiteral "(None, 'a' \"b\", \x7b1: -2.5e3+4j\x7d)" = true := by decide +kernel
example : isLiteral "(1)(2)" = false := by decide +kernel

end CompilerRunner.Markup.Literal
