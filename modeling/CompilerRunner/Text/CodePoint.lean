/-!
# Text — CodePoint

The code points of a text.  A text may have to carry a unit from U+D800 to U+DFFF (an escape in a
document, a byte of a command line that is not UTF-8), which a `Char` cannot be.  In a `String` such
a unit is written as two characters, `mark` and a stand-in for the unit; `mark` itself is written
twice, and every other character stands for itself.  `codes` is the view of a text as numbers and
`ofCodes` the way back: nothing that is carried is taken for something else (`codes_ofCodes`).  An
undecodable byte `b` is carried as the unit `0xDC00 + b`.
-/

namespace CompilerRunner.Text

/-- The number is that of a unit that is no character. -/
def isSurrogate (n : Nat) : Bool := 0xD800 ≤ n && n ≤ 0xDFFF

/-- How far above a unit its stand-in lies. -/
def standInOffset : Nat := 0x100000

/-- The character that begins what is carried by two characters. -/
def mark : Char := Char.ofNat 0x10FFFF

/-- The characters that carry a code point. -/
def carrier (n : Nat) : List Char :=
  if isSurrogate n then [mark, Char.ofNat (standInOffset + n)]
  else if n = 0x10FFFF then [mark, mark]
  else [Char.ofNat n]

/-- The code point that the character after `mark` stands for. -/
def marked? (c : Char) : Option Nat :=
  if c = mark then some 0x10FFFF
  else if isSurrogate (c.toNat - standInOffset) then some (c.toNat - standInOffset)
  else none

/-- The code points that characters carry. -/
def codesOf : List Char → List Nat
  | [] => []
  | [c] => [c.toNat]
  | c :: d :: rest =>
    if c = mark then
      match marked? d with
      | some n => n :: codesOf rest
      | none => c.toNat :: codesOf (d :: rest)
    else c.toNat :: codesOf (d :: rest)

/-- The code points of a text. -/
def codes (s : String) : List Nat := codesOf s.toList

/-- The text with the code points. -/
def ofCodes (ns : List Nat) : String := String.ofList (ns.flatMap carrier)

/-- The text of characters that stand for themselves, all of them. -/
def ofChars (cs : List Char) : String := ofCodes (cs.map Char.toNat)

/-- Some part of the text is no character. -/
def hasSurrogate (s : String) : Bool := (codes s).any isSurrogate

/-- The order of texts by their code points. -/
def precedes (s t : String) : Bool := !decide (codes t < codes s)

/-- The texts in order. -/
def sorted (ss : List String) : List String := ss.mergeSort precedes

/-- The code point that carries a byte that is part of no character. -/
def ofStrayByte (b : UInt8) : Nat := 0xDC00 + b.toNat

/-- The byte that a code point carries, if it carries one: such a byte is at least 0x80. -/
def strayByte? (n : Nat) : Option UInt8 :=
  if 0xDC80 ≤ n ∧ n ≤ 0xDCFF then some (UInt8.ofNat (n - 0xDC00)) else none

theorem toNat_ofNat {n : Nat} (h : n < 0x110000) (hs : isSurrogate n = false) :
    (Char.ofNat n).toNat = n := by
  have hv : n.isValidChar := by
    simp only [isSurrogate, Bool.and_eq_false_imp, decide_eq_true_eq, decide_eq_false_iff_not,
      Nat.not_le] at hs
    unfold Nat.isValidChar
    omega
  rw [Char.ofNat, dif_pos hv]
  rfl

theorem codesOf_carrier_append {n : Nat} (h : n < 0x110000) (cs : List Char) :
    codesOf (carrier n ++ cs) = n :: codesOf cs := by
  unfold carrier
  split
  · next hs =>
    have hn : 0xD800 ≤ n ∧ n ≤ 0xDFFF := by simpa [isSurrogate] using hs
    have : (Char.ofNat (standInOffset + n)).toNat = standInOffset + n := by
      have hb : ¬ 0x100000 + n ≤ 0xDFFF := by omega
      exact toNat_ofNat (by simp only [standInOffset]; omega)
        (by rw [isSurrogate, standInOffset, decide_eq_false hb, Bool.and_false])
    have hne : Char.ofNat (standInOffset + n) ≠ mark := by
      intro he
      have he := congrArg Char.toNat he
      rw [this] at he
      have hm : mark.toNat = 0x10FFFF := rfl
      simp only [standInOffset, hm] at he
      omega
    simp [codesOf, marked?, this, hne, hs]
  · next hs =>
    split
    · next he => subst he; simp [codesOf, marked?]
    · next hm =>
      have ht := toNat_ofNat h (by simpa using hs)
      have hne : Char.ofNat n ≠ mark := fun he => hm (by
        have := congrArg Char.toNat he
        rw [ht] at this
        exact this)
      cases cs <;> simp [codesOf, hne, ht]

/-- What a text carries is read back from it. -/
theorem codes_ofCodes {ns : List Nat} (h : ∀ n ∈ ns, n < 0x110000) : codes (ofCodes ns) = ns := by
  unfold codes ofCodes
  rw [String.toList_ofList]
  induction ns with
  | nil => rfl
  | cons n ns ih =>
    rw [List.flatMap_cons, codesOf_carrier_append (h n (by simp))]
    simp [ih fun m hm => h m (by simp [hm])]

/-! ### Characters -/

theorem toNat_range (c : Char) : c.toNat < 0xD800 ∨ 0xDFFF < c.toNat ∧ c.toNat < 0x110000 :=
  c.valid

theorem isSurrogate_toNat (c : Char) : isSurrogate c.toNat = false := by
  have range := toNat_range c
  simp only [isSurrogate, Bool.and_eq_false_imp, decide_eq_true_eq, decide_eq_false_iff_not]
  omega

/-- A character is carried by itself, but for the mark, which is written twice. -/
theorem carrier_toNat (c : Char) : carrier c.toNat = if c = mark then [mark, mark] else [c] := by
  have marked : c.toNat = 0x10FFFF ↔ c = mark := by
    constructor
    · intro h
      rw [← Char.ofNat_toNat c, h]
      rfl
    · rintro rfl
      rfl
  rw [carrier, isSurrogate_toNat, Char.ofNat_toNat]
  simp [marked]

theorem ofChars_append (xs ys : List Char) : ofChars (xs ++ ys) = ofChars xs ++ ofChars ys := by
  simp [ofChars, ofCodes]

theorem toList_ofChars (cs : List Char) :
    (ofChars cs).toList = cs.flatMap fun c => carrier c.toNat := by
  rw [ofChars, ofCodes, String.toList_ofList, List.flatMap_map]

theorem codesOf_of_not_mem {cs : List Char} (h : mark ∉ cs) : codesOf cs = cs.map Char.toNat := by
  fun_induction codesOf cs with
  | case1 => rfl
  | case2 c => rfl
  | case3 d rest n => exact absurd List.mem_cons_self h
  | case4 d rest => exact absurd List.mem_cons_self h
  | case5 c d rest _ ih => rw [List.map_cons, ih fun hm => h (List.mem_cons_of_mem c hm)]

/-- Only the mark can carry what is no character. -/
theorem hasSurrogate_of_not_mem {s : String} (h : mark ∉ s.toList) : hasSurrogate s = false := by
  rw [hasSurrogate, codes, codesOf_of_not_mem h, List.any_eq_false]
  intro n hn
  obtain ⟨c, -, rfl⟩ := List.mem_map.mp hn
  rw [isSurrogate_toNat]
  exact Bool.false_ne_true

end CompilerRunner.Text
