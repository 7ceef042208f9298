import CompilerRunner.Decimal.Reading
import CompilerRunner.Text.Base64
import CompilerRunner.Text.Digit
import CompilerRunner.Text.Split
import CompilerRunner.Value
import CompilerRunner.Yaml.Fault
import CompilerRunner.Yaml.Timestamp

/-!
# Yaml — Scalar

The values of scalars.  The text of a tagged scalar need not have the form that its tag announces;
whatever then goes wrong is an `Accident`, except in a binary, which is a fault of the format.
-/

namespace CompilerRunner.Yaml.Scalar

/-- An accident as the outcome. -/
def accident {α : Type} (kind : Accident) : Except Fault α := .error (.accident kind)

/-- A whole number of some base. -/
def readInteger (base : Nat) (cs : List Char) : Except Fault Int :=
  match Decimal.readInteger? base (Text.plainNumber cs) with
  | some n => .ok n
  | none => accident .malformed

/-- A decimal. -/
def readReal (cs : List Char) : Except Fault Float :=
  match Decimal.readReal? (Text.plainNumber cs) with
  | some x => .ok x
  | none => accident .malformed

/-- The number with the digits `ds` of base sixty. -/
def sixties (ds : List Int) : Int := ds.foldl (fun n d => n * 60 + d) 0

/-- The number with the parts `xs` of base sixty, added up from the last; `base` is the value of one
unit of the next part. -/
def realSixties (base : Int) : (acc : Float) → List Float → Except Fault Float
  | acc, [] => .ok acc
  | acc, x :: rest =>
    match Decimal.ofInteger? base with
    | some b => realSixties (base * 60) (acc + x * b) rest
    | none => accident .outOfRange

/-- The text without its underscores. -/
def plainDigits (s : String) : List Char := s.toList.filter (· ≠ '_')

/-- A whole number: to the base 2 after `0b`, 16 after `0x`, 8 after `0`, 60 between colons. -/
def integer (s : String) : Except Fault Int := do
  let cs := plainDigits s
  if cs = [] then accident .emptyText
  else
    let (negative, body) := Decimal.splitSign cs
    let signed (n : Int) : Int := if negative then -n else n
    match body with
    | [] => accident .emptyText
    | ['0'] => return 0
    | '0' :: 'b' :: rest => signed <$> readInteger 2 rest
    | '0' :: 'x' :: rest => signed <$> readInteger 16 rest
    | '0' :: rest => signed <$> readInteger 8 ('0' :: rest)
    | body =>
      if body.contains ':' then
        (fun ds => signed (sixties ds)) <$> (Text.splitAt ':' body).mapM (readInteger 10)
      else signed <$> readInteger 10 body

/-- A number with a point, infinity or not-a-number, or parts to the base 60 between colons. -/
def float (s : String) : Except Fault Float := do
  let cs := (plainDigits s).map Char.toLower
  if cs = [] then accident .emptyText
  else
    let (negative, body) := Decimal.splitSign cs
    let signed (x : Float) : Float := if negative then -x else x
    if body = ".inf".toList then return signed (1 / 0)
    else if body = ".nan".toList then return 0 / 0
    else if body.contains ':' then do
      let xs ← (Text.splitAt ':' body).mapM readReal
      signed <$> realSixties 1 0 xs.reverse
    else signed <$> readReal body

/-- The text of a number with a point is the word for not-a-number. -/
def isNotANumber (s : String) : Bool :=
  (Decimal.splitSign ((plainDigits s).map Char.toLower)).2 = ".nan".toList

/-- A truth value, by one of six words in any case. -/
def bool (s : String) : Except Fault Bool :=
  let word := String.ofList (s.toList.map Char.toLower)
  if ["yes", "true", "on"].contains word then .ok true
  else if ["no", "false", "off"].contains word then .ok false
  else accident .unknownWord

/-- Bytes in base 64; the text must be ASCII. -/
def binary (s : String) : Except Fault (List UInt8) :=
  if s.toList.any fun c => 0x80 ≤ c.toNat then .error .construction
  else
    match Text.Base64.decode? s.toList with
    | some bs => .ok bs
    | none => .error .construction

/-- A date or a moment. -/
def timestamp (s : String) : Except Fault Value :=
  match Timestamp.ofText? s.toList with
  | none => accident .noMatch
  | some t =>
    match t.value? with
    | some (.inl d) => .ok (.date d)
    | some (.inr m) => .ok (.moment m)
    | none => accident .malformed

end CompilerRunner.Yaml.Scalar
