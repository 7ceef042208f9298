/-!
# Text — Blank

White space.  `isSpace` is the White_Space property of Unicode; `isBlankChar` adds the four
information separators U+001C to U+001F, which count as white space in running text.  A text is
*blank* when it holds nothing else: the empty text is blank (`isBlank_empty`).
-/

namespace CompilerRunner.Text

/-- The White_Space property of Unicode. -/
def isSpace (c : Char) : Bool :=
  let n := c.toNat
  (9 ≤ n && n ≤ 13) || n == 0x20 || n == 0x85 || n == 0xA0 || n == 0x1680
    || (0x2000 ≤ n && n ≤ 0x200A) || n == 0x2028 || n == 0x2029 || n == 0x202F || n == 0x205F
    || n == 0x3000

/-- White space, or one of the four information separators. -/
def isBlankChar (c : Char) : Bool :=
  isSpace c || (0x1C ≤ c.toNat && c.toNat ≤ 0x1F)

/-- The text holds nothing but white space and separators. -/
def isBlank (s : String) : Bool := s.toList.all isBlankChar

/-- The characters without those at either end that satisfy `p`. -/
def trimBoth (p : Char → Bool) (cs : List Char) : List Char :=
  ((cs.dropWhile p).reverse.dropWhile p).reverse

@[simp] theorem isBlank_empty : isBlank "" = true := rfl

end CompilerRunner.Text
