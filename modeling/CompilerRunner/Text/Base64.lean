/-!
# Text — Base64

Bytes from their base 64 form.  Characters outside the alphabet are ignored.  Padding ends the text
as soon as it fills a group of four; a group that is neither full nor padded is refused.
-/

namespace CompilerRunner.Text.Base64

/-- The six bits that a character stands for. -/
def sextet? (c : Char) : Option Nat :=
  if 'A' ≤ c ∧ c ≤ 'Z' then some (c.toNat - 'A'.toNat)
  else if 'a' ≤ c ∧ c ≤ 'z' then some (c.toNat - 'a'.toNat + 26)
  else if '0' ≤ c ∧ c ≤ '9' then some (c.toNat - '0'.toNat + 52)
  else if c = '+' then some 62
  else if c = '/' then some 63
  else none

/-- The bytes of the rest.  Of the group that is being read `count` characters are known, and
`carry` is what they leave for the next byte; `pads` signs of padding stand directly before. -/
def decodeFrom (count carry pads : Nat) : List Char → Option (List UInt8)
  | [] => if count = 0 then some [] else none
  | c :: rest =>
    if c = '=' then
      if 2 ≤ count then
        if 4 ≤ count + pads + 1 then some [] else decodeFrom count carry (pads + 1) rest
      else decodeFrom count carry pads rest
    else
      match sextet? c with
      | none => decodeFrom count carry pads rest
      | some six =>
        match count with
        | 0 => decodeFrom 1 six 0 rest
        | 1 => (UInt8.ofNat (carry * 4 + six / 16) :: ·) <$> decodeFrom 2 (six % 16) 0 rest
        | 2 => (UInt8.ofNat (carry * 16 + six / 4) :: ·) <$> decodeFrom 3 (six % 4) 0 rest
        | _ => (UInt8.ofNat (carry * 64 + six) :: ·) <$> decodeFrom 0 0 0 rest

/-- The bytes of a text. -/
def decode? (cs : List Char) : Option (List UInt8) := decodeFrom 0 0 0 cs

example : decode? "aGk=".toList = some [0x68, 0x69] := by decide

end CompilerRunner.Text.Base64
