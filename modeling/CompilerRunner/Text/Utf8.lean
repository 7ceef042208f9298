import CompilerRunner.Text.CodePoint

/-!
# Text — Utf8

UTF-8 with its well-formed sequences in one table (`Lead`).  `parts` cuts any bytes into characters
and maximal invalid parts; the decoders differ only in what they make of an invalid part: `decode?`
refuses it, `decodeLossy` writes one U+FFFD for it, `decodeStray` carries its bytes as code points
that are no characters.  `encode` is the way back, and `encodeStray?` that of `decodeStray`.
-/

namespace CompilerRunner.Text.Utf8

/-- How a sequence continues after its first byte: how many bytes follow, and the range of the
first of them. -/
structure Lead where
  follow : Nat
  low : UInt8
  high : UInt8

/-- The sequences of two, three and four bytes.  The ranges of the second byte leave out overlong
forms, surrogates and numbers beyond U+10FFFF. -/
def lead? (b : UInt8) : Option Lead :=
  if 0xC2 ≤ b ∧ b ≤ 0xDF then some ⟨1, 0x80, 0xBF⟩
  else if b = 0xE0 then some ⟨2, 0xA0, 0xBF⟩
  else if b = 0xED then some ⟨2, 0x80, 0x9F⟩
  else if 0xE1 ≤ b ∧ b ≤ 0xEF then some ⟨2, 0x80, 0xBF⟩
  else if b = 0xF0 then some ⟨3, 0x90, 0xBF⟩
  else if b = 0xF4 then some ⟨3, 0x80, 0x8F⟩
  else if 0xF1 ≤ b ∧ b ≤ 0xF3 then some ⟨3, 0x80, 0xBF⟩
  else none

/-- A byte that may stand at third or fourth place of a sequence. -/
def isContinuation (b : UInt8) : Bool := 0x80 ≤ b && b ≤ 0xBF

/-- Six more bits of a character's number. -/
def extend (acc : Nat) (b : UInt8) : Nat := acc * 64 + (b.toNat - 0x80)

/-- A piece of decoded input: a character, or bytes that begin or continue none. -/
inductive Part where
  | char (c : Char)
  | invalid (bytes : List UInt8)

/-- The character that starts with `b`, or the maximal invalid part that does, with the rest. -/
def first (b : UInt8) (rest : List UInt8) : Part × List UInt8 :=
  if b < 0x80 then (.char (Char.ofNat b.toNat), rest)
  else
    match lead? b, rest with
    | none, _ => (.invalid [b], rest)
    | some _, [] => (.invalid [b], [])
    | some l, b₂ :: r₂ =>
      if ¬ (l.low ≤ b₂ ∧ b₂ ≤ l.high) then (.invalid [b], rest)
      else if l.follow = 1 then (.char (Char.ofNat (extend (b.toNat - 0xC0) b₂)), r₂)
      else
        match r₂ with
        | [] => (.invalid [b, b₂], [])
        | b₃ :: r₃ =>
          if ¬ isContinuation b₃ then (.invalid [b, b₂], r₂)
          else if l.follow = 2 then
            (.char (Char.ofNat (extend (extend (b.toNat - 0xE0) b₂) b₃)), r₃)
          else
            match r₃ with
            | [] => (.invalid [b, b₂, b₃], [])
            | b₄ :: r₄ =>
              if ¬ isContinuation b₄ then (.invalid [b, b₂, b₃], r₃)
              else
                (.char (Char.ofNat (extend (extend (extend (b.toNat - 0xF0) b₂) b₃) b₄)), r₄)

/-- A part takes at least the byte it starts with. -/
theorem first_length_le (b : UInt8) (rest : List UInt8) :
    (first b rest).2.length ≤ rest.length := by
  unfold first
  repeat' split
  all_goals simp
  all_goals omega

/-- The characters and maximal invalid parts of the bytes, in order. -/
def parts : List UInt8 → List Part
  | [] => []
  | b :: rest => (first b rest).1 :: parts (first b rest).2
termination_by bs => bs.length
decreasing_by
  have := first_length_le b rest
  simp
  omega

/-- The characters of well-formed bytes. -/
def decodeChars? (bytes : List UInt8) : Option (List Char) :=
  (parts bytes).mapM fun
    | .char c => some c
    | .invalid _ => none

/-- The text of well-formed bytes. -/
def decode? (bytes : List UInt8) : Option String := ofChars <$> decodeChars? bytes

/-- One U+FFFD for each maximal invalid part. -/
def decodeLossy (bytes : List UInt8) : String :=
  ofChars <| (parts bytes).map fun
    | .char c => c
    | .invalid _ => Char.ofNat 0xFFFD

/-- A code point of its own for each byte of an invalid part, so that nothing is lost. -/
def decodeStray (bytes : List UInt8) : String :=
  ofCodes <| (parts bytes).flatMap fun
    | .char c => [c.toNat]
    | .invalid bs => bs.map ofStrayByte

/-- The bytes of one code point. -/
def encodeCode (n : Nat) : List UInt8 :=
  let tail (shift : Nat) : UInt8 := UInt8.ofNat (0x80 + n >>> shift % 64)
  if n < 0x80 then [UInt8.ofNat n]
  else if n < 0x800 then [UInt8.ofNat (0xC0 + n / 64), tail 0]
  else if n < 0x10000 then [UInt8.ofNat (0xE0 + n / 4096), tail 6, tail 0]
  else [UInt8.ofNat (0xF0 + n / 262144), tail 12, tail 6, tail 0]

/-- The bytes of a text. -/
def encode (s : String) : List UInt8 := (codes s).flatMap encodeCode

/-- The bytes of a text in which the code points of stray bytes give these bytes back; what is
no character otherwise has no bytes. -/
def encodeStray? (s : String) : Option (List UInt8) :=
  List.flatten <$> (codes s).mapM fun n =>
    if isSurrogate n then (strayByte? n).map fun b => [b] else some (encodeCode n)

end CompilerRunner.Text.Utf8

namespace CompilerRunner.Text

/-- The text with each byte of what is no character replaced. -/
def lossy (s : String) : String := Utf8.decodeLossy (Utf8.encode s)

/-- Every line end is written as one line feed: both CR LF and a lone CR. -/
def unifyLineEnds : List Char → List Char
  | [] => []
  | '\r' :: '\n' :: rest => '\n' :: unifyLineEnds rest
  | '\r' :: rest => '\n' :: unifyLineEnds rest
  | c :: rest => c :: unifyLineEnds rest

end CompilerRunner.Text
