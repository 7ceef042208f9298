import CompilerRunner.Text.Utf8
import Mathlib

/-!
# Proofs — ByteDecoding

What the decoder makes of bytes, for all of them.

* `Sequence`: the well-formed sequences of bytes, by the table of first bytes.  They are the ways in
  which characters are written (`Sequence.eq`, `sequence_utf8EncodeChar`).
* `Cut`: how bytes are to be cut.  Where a character stands it is taken, and elsewhere the longest
  bytes that begin one are a part that is none, or one byte if none does.  There is one way to do so
  (`Cut.unique`), and it is what the decoder does (`parts_eq_iff`).
* `Cut.append`: bytes that do not start in the middle of a character are cut by themselves, whatever
  stands before them.
-/

namespace CompilerRunner.Text.Utf8

/-! ### Sequences -/

/-- The first bytes of sequences of several bytes, by their numbers. -/
inductive Opens : Nat → Lead → Prop where
  | two {x : Nat} (h : 0xC2 ≤ x) (h' : x ≤ 0xDF) : Opens x ⟨1, 0x80, 0xBF⟩
  | e0 : Opens 0xE0 ⟨2, 0xA0, 0xBF⟩
  | ed : Opens 0xED ⟨2, 0x80, 0x9F⟩
  | three {x : Nat} (h : 0xE1 ≤ x) (h' : x ≤ 0xEF) (hne : x ≠ 0xED) : Opens x ⟨2, 0x80, 0xBF⟩
  | f0 : Opens 0xF0 ⟨3, 0x90, 0xBF⟩
  | f4 : Opens 0xF4 ⟨3, 0x80, 0x8F⟩
  | four {x : Nat} (h : 0xF1 ≤ x) (h' : x ≤ 0xF3) : Opens x ⟨3, 0x80, 0xBF⟩

theorem lead?_eq_some_iff {b : UInt8} {l : Lead} : lead? b = some l ↔ Opens b.toNat l := by
  have eq (k : UInt8) : b = k ↔ b.toNat = k.toNat := UInt8.toNat_inj.symm
  unfold lead?
  simp only [UInt8.le_iff_toNat_le, eq]
  generalize b.toNat = x
  constructor
  · intro h
    split at h
    · next hb => cases h; exact .two hb.1 hb.2
    split at h
    · next hb => cases h; rw [hb]; exact .e0
    split at h
    · next hb => cases h; rw [hb]; exact .ed
    split at h
    · next hne hb => cases h; exact .three hb.1 hb.2 hne
    split at h
    · next hb => cases h; rw [hb]; exact .f0
    split at h
    · next hb => cases h; rw [hb]; exact .f4
    split at h
    · next hb => cases h; exact .four hb.1 hb.2
    · cases h
  · intro h
    cases h with
    | two h h' => rw [if_pos ⟨h, h'⟩]
    | e0 | ed | f0 | f4 => simp
    | three h h' hne =>
        have two : ¬ (194 ≤ x ∧ x ≤ 223) := by omega
        have e0 : ¬ x = 224 := by omega
        simp [two, e0, h, h', hne]
    | four h h' =>
        have two : ¬ (194 ≤ x ∧ x ≤ 223) := by omega
        have three : ¬ (225 ≤ x ∧ x ≤ 239) := by omega
        have apart : ¬ x = 224 ∧ ¬ x = 237 ∧ ¬ x = 240 ∧ ¬ x = 244 := by omega
        simp [two, three, apart, h, h']

/-- A well-formed sequence of bytes, and the number of the character that it stands for. -/
inductive Sequence : List UInt8 → Nat → Prop where
  | one {b : UInt8} (h : b < 0x80) : Sequence [b] b.toNat
  | two {b b₂ : UInt8} {l : Lead} (hl : lead? b = some l) (hf : l.follow = 1)
      (h₂ : l.low ≤ b₂ ∧ b₂ ≤ l.high) : Sequence [b, b₂] (extend (b.toNat - 0xC0) b₂)
  | three {b b₂ b₃ : UInt8} {l : Lead} (hl : lead? b = some l) (hf : l.follow = 2)
      (h₂ : l.low ≤ b₂ ∧ b₂ ≤ l.high) (h₃ : isContinuation b₃ = true) :
      Sequence [b, b₂, b₃] (extend (extend (b.toNat - 0xE0) b₂) b₃)
  | four {b b₂ b₃ b₄ : UInt8} {l : Lead} (hl : lead? b = some l) (hf : l.follow = 3)
      (h₂ : l.low ≤ b₂ ∧ b₂ ≤ l.high) (h₃ : isContinuation b₃ = true)
      (h₄ : isContinuation b₄ = true) :
      Sequence [b, b₂, b₃, b₄] (extend (extend (extend (b.toNat - 0xF0) b₂) b₃) b₄)

theorem isContinuation_iff {b : UInt8} :
    isContinuation b = true ↔ 0x80 ≤ b.toNat ∧ b.toNat ≤ 0xBF := by
  simp [isContinuation, UInt8.le_iff_toNat_le]

theorem toNat_ofNat_of_range {n : Nat} (h : n < 0xD800 ∨ 0xDFFF < n ∧ n < 0x110000) :
    (Char.ofNat n).toNat = n := by
  refine toNat_ofNat (by omega) ?_
  simp only [isSurrogate, Bool.and_eq_false_imp, decide_eq_true_eq, decide_eq_false_iff_not]
  omega

theorem ofNat_eq (b : UInt8) {n : Nat} (h : n = b.toNat) : UInt8.ofNat n = b := by
  rw [h, UInt8.ofNat_toNat]

/-- The numbers of the bytes that stand second. -/
theorem Opens.bounds {x : Nat} {l : Lead} (h : Opens x l) {b : UInt8}
    (hb : l.low ≤ b ∧ b ≤ l.high) :
    0x80 ≤ b.toNat ∧ b.toNat ≤ 0xBF ∧
      (l.follow = 1 → 0xC2 ≤ x ∧ x ≤ 0xDF) ∧
      (l.follow = 2 → 0xE0 ≤ x ∧ x ≤ 0xEF ∧ (x = 0xE0 → 0xA0 ≤ b.toNat) ∧
        (x = 0xED → b.toNat ≤ 0x9F)) ∧
      (l.follow = 3 → 0xF0 ≤ x ∧ x ≤ 0xF4 ∧ (x = 0xF0 → 0x90 ≤ b.toNat) ∧
        (x = 0xF4 → b.toNat ≤ 0x8F)) := by
  simp only [UInt8.le_iff_toNat_le] at hb
  cases h <;> simp at hb ⊢ <;> omega

theorem Opens.above {x : Nat} {l : Lead} (h : Opens x l) : 0xBF < x := by
  cases h <;> omega

theorem Opens.follow {x : Nat} {l : Lead} (h : Opens x l) :
    l.follow = 1 ∨ l.follow = 2 ∨ l.follow = 3 := by
  cases h <;> simp

theorem utf8EncodeChar_ofNat {n : Nat} (h : n < 0xD800 ∨ 0xDFFF < n ∧ n < 0x110000) :
    String.utf8EncodeChar (Char.ofNat n) =
      if n ≤ 127 then [UInt8.ofNat n]
      else if n ≤ 2047 then [UInt8.ofNat (n / 64 % 32 + 192), UInt8.ofNat (n % 64 + 128)]
      else if n ≤ 65535 then
        [UInt8.ofNat (n / 4096 % 16 + 224), UInt8.ofNat (n / 64 % 64 + 128),
          UInt8.ofNat (n % 64 + 128)]
      else
        [UInt8.ofNat (n / 262144 % 8 + 240), UInt8.ofNat (n / 4096 % 64 + 128),
          UInt8.ofNat (n / 64 % 64 + 128), UInt8.ofNat (n % 64 + 128)] := by
  have number : (Char.ofNat n).val.toNat = n := toNat_ofNat_of_range h
  simp only [String.utf8EncodeChar, number]

/-- A sequence is what its character is written as. -/
theorem Sequence.eq {bs : List UInt8} {n : Nat} (h : Sequence bs n) :
    String.utf8EncodeChar (Char.ofNat n) = bs := by
  cases h with
  | @one b h =>
      rw [UInt8.lt_iff_toNat_lt] at h
      change b.toNat < 128 at h
      rw [utf8EncodeChar_ofNat (by omega), if_pos (by omega), ofNat_eq b rfl]
  | @two b b₂ l hl hf h₂ =>
      obtain ⟨low, high, one, -, -⟩ := (lead?_eq_some_iff.mp hl).bounds h₂
      obtain ⟨least, most⟩ := one hf
      have number : extend (b.toNat - 0xC0) b₂ = (b.toNat - 0xC0) * 64 + (b₂.toNat - 0x80) := rfl
      rw [utf8EncodeChar_ofNat (by omega), if_neg (by omega), if_pos (by omega),
        ofNat_eq b (by omega), ofNat_eq b₂ (by omega)]
  | @three b b₂ b₃ l hl hf h₂ h₃ =>
      obtain ⟨low, high, -, two, -⟩ := (lead?_eq_some_iff.mp hl).bounds h₂
      obtain ⟨least, most, overlong, surrogate⟩ := two hf
      obtain ⟨low₃, high₃⟩ := isContinuation_iff.mp h₃
      have number : extend (extend (b.toNat - 0xE0) b₂) b₃ =
          ((b.toNat - 0xE0) * 64 + (b₂.toNat - 0x80)) * 64 + (b₃.toNat - 0x80) := rfl
      rw [utf8EncodeChar_ofNat (by omega), if_neg (by omega), if_neg (by omega),
        if_pos (by omega), ofNat_eq b (by omega), ofNat_eq b₂ (by omega),
        ofNat_eq b₃ (by omega)]
  | @four b b₂ b₃ b₄ l hl hf h₂ h₃ h₄ =>
      obtain ⟨low, high, -, -, three⟩ := (lead?_eq_some_iff.mp hl).bounds h₂
      obtain ⟨least, most, overlong, beyond⟩ := three hf
      obtain ⟨low₃, high₃⟩ := isContinuation_iff.mp h₃
      obtain ⟨low₄, high₄⟩ := isContinuation_iff.mp h₄
      have number : extend (extend (extend (b.toNat - 0xF0) b₂) b₃) b₄ =
          (((b.toNat - 0xF0) * 64 + (b₂.toNat - 0x80)) * 64 + (b₃.toNat - 0x80)) * 64 +
            (b₄.toNat - 0x80) := rfl
      rw [utf8EncodeChar_ofNat (by omega), if_neg (by omega), if_neg (by omega),
        if_neg (by omega), ofNat_eq b (by omega), ofNat_eq b₂ (by omega),
        ofNat_eq b₃ (by omega), ofNat_eq b₄ (by omega)]

/-! ### Characters -/

theorem toNat_byte {n : Nat} (h : n < 256) : (UInt8.ofNat n).toNat = n :=
  UInt8.toNat_ofNat_of_lt' h

/-- The first byte of a sequence of three bytes. -/
theorem exists_lead_three {x y : Nat} (hx : 0xE0 ≤ x ∧ x ≤ 0xEF) (hy : 0x80 ≤ y ∧ y ≤ 0xBF)
    (overlong : x = 0xE0 → 0xA0 ≤ y) (surrogate : x = 0xED → y ≤ 0x9F) :
    ∃ l, lead? (UInt8.ofNat x) = some l ∧ l.follow = 2 ∧
      l.low ≤ UInt8.ofNat y ∧ UInt8.ofNat y ≤ l.high := by
  simp only [lead?_eq_some_iff, UInt8.le_iff_toNat_le, toNat_byte (n := x) (by omega),
    toNat_byte (n := y) (by omega)]
  by_cases he : x = 0xE0
  · subst he
    exact ⟨⟨2, 0xA0, 0xBF⟩, .e0, rfl, overlong rfl, hy.2⟩
  by_cases hd : x = 0xED
  · subst hd
    exact ⟨⟨2, 0x80, 0x9F⟩, .ed, rfl, hy.1, surrogate rfl⟩
  · exact ⟨⟨2, 0x80, 0xBF⟩, .three (by omega) hx.2 hd, rfl, hy.1, hy.2⟩

/-- The first byte of a sequence of four bytes. -/
theorem exists_lead_four {x y : Nat} (hx : 0xF0 ≤ x ∧ x ≤ 0xF4) (hy : 0x80 ≤ y ∧ y ≤ 0xBF)
    (overlong : x = 0xF0 → 0x90 ≤ y) (beyond : x = 0xF4 → y ≤ 0x8F) :
    ∃ l, lead? (UInt8.ofNat x) = some l ∧ l.follow = 3 ∧
      l.low ≤ UInt8.ofNat y ∧ UInt8.ofNat y ≤ l.high := by
  simp only [lead?_eq_some_iff, UInt8.le_iff_toNat_le, toNat_byte (n := x) (by omega),
    toNat_byte (n := y) (by omega)]
  by_cases h0 : x = 0xF0
  · subst h0
    exact ⟨⟨3, 0x90, 0xBF⟩, .f0, rfl, overlong rfl, hy.2⟩
  by_cases h4 : x = 0xF4
  · subst h4
    exact ⟨⟨3, 0x80, 0x8F⟩, .f4, rfl, hy.1, beyond rfl⟩
  · exact ⟨⟨3, 0x80, 0xBF⟩, .four (by omega) (by omega), rfl, hy.1, hy.2⟩

theorem isContinuation_byte (n : Nat) : isContinuation (UInt8.ofNat (n % 64 + 128)) = true := by
  rw [isContinuation_iff, toNat_byte (by omega)]
  omega

theorem extend_byte (acc n : Nat) :
    extend acc (UInt8.ofNat (n % 64 + 128)) = acc * 64 + n % 64 := by
  have number := toNat_byte (n := n % 64 + 128) (by omega)
  unfold extend
  rw [number]
  simp

/-- What a character is written as is a sequence. -/
theorem sequence_utf8EncodeChar (c : Char) : Sequence (String.utf8EncodeChar c) c.toNat := by
  have range := toNat_range c
  have written := utf8EncodeChar_ofNat range
  rw [Char.ofNat_toNat] at written
  generalize c.toNat = n at range written
  rw [written]
  split
  · next one =>
      have number := toNat_byte (n := n) (by omega)
      have ascii : UInt8.ofNat n < 0x80 := by
        rw [UInt8.lt_iff_toNat_lt, number]
        exact Nat.lt_succ_of_le one
      have sequence := Sequence.one ascii
      rwa [number] at sequence
  split
  · next two =>
      have lead : lead? (UInt8.ofNat (n / 64 % 32 + 192)) = some ⟨1, 0x80, 0xBF⟩ := by
        rw [lead?_eq_some_iff, toNat_byte (by omega)]
        exact .two (by omega) (by omega)
      have allowed := isContinuation_byte n
      rw [isContinuation, Bool.and_eq_true, decide_eq_true_iff, decide_eq_true_iff] at allowed
      have sequence := Sequence.two lead rfl allowed
      have number : extend ((UInt8.ofNat (n / 64 % 32 + 192)).toNat - 0xC0)
          (UInt8.ofNat (n % 64 + 128)) = n := by
        rw [extend_byte, toNat_byte (n := n / 64 % 32 + 192) (by omega)]
        omega
      rwa [number] at sequence
  split
  · next three =>
      obtain ⟨l, lead, follow, allowed⟩ := exists_lead_three (x := n / 4096 % 16 + 224)
        (y := n / 64 % 64 + 128) (by omega) (by omega) (by omega) (by omega)
      have sequence := Sequence.three lead follow allowed (isContinuation_byte n)
      have number : extend (extend ((UInt8.ofNat (n / 4096 % 16 + 224)).toNat - 0xE0)
          (UInt8.ofNat (n / 64 % 64 + 128))) (UInt8.ofNat (n % 64 + 128)) = n := by
        rw [extend_byte, extend_byte, toNat_byte (n := n / 4096 % 16 + 224) (by omega)]
        omega
      rwa [number] at sequence
  · obtain ⟨l, lead, follow, allowed⟩ := exists_lead_four (x := n / 262144 % 8 + 240)
      (y := n / 4096 % 64 + 128) (by omega) (by omega) (by omega) (by omega)
    have sequence := Sequence.four lead follow allowed (isContinuation_byte (n / 64))
      (isContinuation_byte n)
    have number : extend (extend (extend ((UInt8.ofNat (n / 262144 % 8 + 240)).toNat - 0xF0)
        (UInt8.ofNat (n / 4096 % 64 + 128))) (UInt8.ofNat (n / 64 % 64 + 128)))
          (UInt8.ofNat (n % 64 + 128)) = n := by
      rw [extend_byte, extend_byte, extend_byte,
        toNat_byte (n := n / 262144 % 8 + 240) (by omega)]
      omega
    rwa [number] at sequence

/-! ### Bytes that begin a character -/

/-- The bytes begin what a character is written as. -/
def Begins (bs : List UInt8) : Prop := ∃ c : Char, bs <+: String.utf8EncodeChar c

theorem Begins.of_prefix {bs bs' : List UInt8} (h : Begins bs) (hp : bs' <+: bs) : Begins bs' :=
  h.imp fun _ hc => hp.trans hc

theorem begins_iff {bs : List UInt8} : Begins bs ↔ ∃ rest n, Sequence (bs ++ rest) n := by
  constructor
  · rintro ⟨c, rest, hc⟩
    exact ⟨rest, c.toNat, hc ▸ sequence_utf8EncodeChar c⟩
  · rintro ⟨rest, n, h⟩
    exact ⟨Char.ofNat n, rest, h.eq.symm⟩

/-- After a first byte and one that may stand second there is a way to go on. -/
theorem exists_sequence {b b₂ : UInt8} {l : Lead} (hl : lead? b = some l)
    (h₂ : l.low ≤ b₂ ∧ b₂ ≤ l.high) : ∃ rest n, Sequence ([b, b₂] ++ rest) n := by
  rcases (lead?_eq_some_iff.mp hl).follow with hf | hf | hf
  · exact ⟨[], _, .two hl hf h₂⟩
  · exact ⟨[0x80], _, .three hl hf h₂ (by decide)⟩
  · exact ⟨[0x80, 0x80], _, .four hl hf h₂ (by decide) (by decide)⟩

theorem begins_two_iff {b b₂ : UInt8} :
    Begins [b, b₂] ↔ ∃ l, lead? b = some l ∧ l.low ≤ b₂ ∧ b₂ ≤ l.high := by
  rw [begins_iff]
  constructor
  · rintro ⟨rest, n, h⟩
    cases h with
    | two hl _ h₂ | three hl _ h₂ | four hl _ h₂ => exact ⟨_, hl, h₂⟩
  · rintro ⟨l, hl, h₂⟩
    exact exists_sequence hl h₂

theorem begins_three_iff {b b₂ b₃ : UInt8} :
    Begins [b, b₂, b₃] ↔ ∃ l, lead? b = some l ∧ (l.low ≤ b₂ ∧ b₂ ≤ l.high) ∧ l.follow ≠ 1 ∧
      isContinuation b₃ = true := by
  rw [begins_iff]
  constructor
  · rintro ⟨rest, n, h⟩
    cases h with
    | three hl hf h₂ h₃ | four hl hf h₂ h₃ => exact ⟨_, hl, h₂, by omega, h₃⟩
  · rintro ⟨l, hl, h₂, hf, h₃⟩
    rcases (lead?_eq_some_iff.mp hl).follow.resolve_left hf with hf | hf
    · exact ⟨[], _, .three hl hf h₂ h₃⟩
    · exact ⟨[0x80], _, .four hl hf h₂ h₃ (by decide)⟩

theorem isContinuation_of_begins_four {b b₂ b₃ b₄ : UInt8} (h : Begins [b, b₂, b₃, b₄]) :
    isContinuation b₄ = true := by
  obtain ⟨rest, n, h⟩ := begins_iff.mp h
  cases h with
  | four _ _ _ _ h₄ => exact h₄

/-! ### The part that comes first -/

theorem not_ascii_of_lead? {b : UInt8} {l : Lead} (hl : lead? b = some l) : ¬ b < 0x80 := by
  have opens := lead?_eq_some_iff.mp hl
  rw [UInt8.lt_iff_toNat_lt]
  change ¬ b.toNat < 128
  generalize b.toNat = x at opens
  cases opens <;> omega

theorem Sequence.first_eq {b : UInt8} {t : List UInt8} {n : Nat} (h : Sequence (b :: t) n)
    (rest : List UInt8) : first b (t ++ rest) = (.char (Char.ofNat n), rest) := by
  cases h with
  | one hb => simp [first, hb]
  | two hl hf h₂ => simp [first, not_ascii_of_lead? hl, hl, hf, h₂]
  | three hl hf h₂ h₃ => simp [first, not_ascii_of_lead? hl, hl, hf, h₂, h₃]
  | four hl hf h₂ h₃ h₄ => simp [first, not_ascii_of_lead? hl, hl, hf, h₂, h₃, h₄]

theorem sequence_of_first {b : UInt8} {rest r : List UInt8} {c : Char}
    (h : first b rest = (.char c, r)) :
    ∃ t n, Sequence (b :: t) n ∧ c = Char.ofNat n ∧ rest = t ++ r := by
  unfold first at h
  split at h
  · next hb =>
      obtain ⟨rfl, rfl⟩ : Char.ofNat b.toNat = c ∧ rest = r := by simpa using h
      exact ⟨[], _, .one hb, rfl, rfl⟩
  split at h
  · simp at h
  · simp at h
  next l b₂ r₂ hl =>
  split at h
  · simp at h
  next h₂ =>
  split at h
  · next hf =>
      obtain ⟨rfl, rfl⟩ : Char.ofNat _ = c ∧ r₂ = r := by simpa using h
      exact ⟨[b₂], _, .two hl hf (not_not.mp h₂), rfl, rfl⟩
  next hf =>
  split at h
  · simp at h
  next b₃ r₃ =>
  split at h
  · simp at h
  next h₃ =>
  split at h
  · next hf₂ =>
      obtain ⟨rfl, rfl⟩ : Char.ofNat _ = c ∧ r₃ = r := by simpa using h
      exact ⟨[b₂, b₃], _, .three hl hf₂ (not_not.mp h₂) (not_not.mp h₃), rfl, rfl⟩
  next hf₂ =>
  split at h
  · simp at h
  next b₄ r₄ =>
  split at h
  · simp at h
  next h₄ =>
  obtain ⟨rfl, rfl⟩ : Char.ofNat _ = c ∧ r₄ = r := by simpa using h
  have hf₃ : l.follow = 3 :=
    ((lead?_eq_some_iff.mp hl).follow.resolve_left hf).resolve_left hf₂
  exact ⟨[b₂, b₃, b₄], _, .four hl hf₃ (not_not.mp h₂) (not_not.mp h₃) (not_not.mp h₄), rfl, rfl⟩

theorem broken_of_first {b : UInt8} {rest bad r : List UInt8}
    (h : first b rest = (.invalid bad, r)) :
    b :: rest = bad ++ r ∧ bad ≠ [] ∧ (bad.length = 1 ∨ Begins bad) ∧
      ∀ d ∈ r.head?, ¬ Begins (bad ++ [d]) := by
  unfold first at h
  split at h
  · simp at h
  next hb =>
  split at h
  -- a byte that begins nothing, and so nothing that is longer
  · next hl =>
      obtain ⟨rfl, rfl⟩ : [b] = bad ∧ _ = r := by simpa using h
      refine ⟨rfl, by simp, .inl rfl, fun d _ hd => ?_⟩
      obtain ⟨l, hl', -⟩ := begins_two_iff.mp hd
      simp [hl] at hl'
  · next l hl =>
      obtain ⟨rfl, rfl⟩ : [b] = bad ∧ [] = r := by simpa using h
      exact ⟨rfl, by simp, .inl rfl, by simp⟩
  next l b₂ r₂ hl =>
  split at h
  -- the second byte is out of the range that the first one leaves
  · next h₂ =>
      obtain ⟨rfl, rfl⟩ : [b] = bad ∧ b₂ :: r₂ = r := by simpa using h
      refine ⟨rfl, by simp, .inl rfl, fun d hd begun => ?_⟩
      obtain rfl : b₂ = d := by simpa using hd
      obtain ⟨l', hl', h₂'⟩ := begins_two_iff.mp begun
      obtain rfl := Option.some.inj (hl.symm.trans hl')
      exact h₂ h₂'
  next h₂ =>
  have h₂ := not_not.mp h₂
  split at h
  · simp at h
  next hf =>
  have begun : Begins [b, b₂] := begins_two_iff.mpr ⟨l, hl, h₂⟩
  split at h
  · obtain ⟨rfl, rfl⟩ : [b, b₂] = bad ∧ [] = r := by simpa using h
    exact ⟨rfl, by simp, .inr begun, by simp⟩
  next b₃ r₃ =>
  split at h
  -- two bytes begin a sequence, and the third does not go on with it
  · next h₃ =>
      obtain ⟨rfl, rfl⟩ : [b, b₂] = bad ∧ b₃ :: r₃ = r := by simpa using h
      refine ⟨rfl, by simp, .inr begun, fun d hd longer => ?_⟩
      obtain rfl : b₃ = d := by simpa using hd
      obtain ⟨l', -, -, -, h₃'⟩ := begins_three_iff.mp longer
      exact h₃ h₃'
  next h₃ =>
  split at h
  · simp at h
  have begun : Begins [b, b₂, b₃] := begins_three_iff.mpr ⟨l, hl, h₂, hf, not_not.mp h₃⟩
  split at h
  · obtain ⟨rfl, rfl⟩ : [b, b₂, b₃] = bad ∧ [] = r := by simpa using h
    exact ⟨rfl, by simp, .inr begun, by simp⟩
  next b₄ r₄ =>
  split at h
  · next h₄ =>
      obtain ⟨rfl, rfl⟩ : [b, b₂, b₃] = bad ∧ b₄ :: r₄ = r := by simpa using h
      refine ⟨rfl, by simp, .inr begun, fun d hd longer => ?_⟩
      obtain rfl : b₄ = d := by simpa using hd
      exact h₄ (isContinuation_of_begins_four longer)
  · simp at h

/-! ### Cuts -/

/-- How bytes are cut: into characters, and where no character stands into the longest bytes that
begin one, or a single byte if none does. -/
inductive Cut : List UInt8 → List Part → Prop where
  | nil : Cut [] []
  | char {c : Char} {rest : List UInt8} {ps : List Part} (h : Cut rest ps) :
      Cut (String.utf8EncodeChar c ++ rest) (.char c :: ps)
  | invalid {bad rest : List UInt8} {ps : List Part} (hne : bad ≠ [])
      (hbad : bad.length = 1 ∨ Begins bad)
      (none : ∀ c, ¬ String.utf8EncodeChar c <+: bad ++ rest)
      (longest : ∀ d ∈ rest.head?, ¬ Begins (bad ++ [d]))
      (h : Cut rest ps) : Cut (bad ++ rest) (.invalid bad :: ps)

theorem first_utf8EncodeChar (c : Char) :
    ∃ b t, String.utf8EncodeChar c = b :: t ∧ ∀ rest, first b (t ++ rest) = (.char c, rest) := by
  have sequence := sequence_utf8EncodeChar c
  cases h : String.utf8EncodeChar c with
  | nil =>
      rw [h] at sequence
      cases sequence
  | cons b t =>
      rw [h] at sequence
      refine ⟨b, t, rfl, fun rest => ?_⟩
      rw [sequence.first_eq, Char.ofNat_toNat]

/-- Bytes are cut in this way. -/
theorem cut_parts (bytes : List UInt8) : Cut bytes (parts bytes) := by
  fun_induction parts bytes with
  | case1 => exact .nil
  | case2 b rest ih =>
      cases hf : first b rest with
      | mk part r =>
          rw [hf] at ih
          cases part with
          | char c =>
              obtain ⟨t, n, sequence, rfl, rfl⟩ := sequence_of_first hf
              rw [← List.cons_append, ← sequence.eq]
              exact .char ih
          | invalid bad =>
              obtain ⟨split, hne, short, longest⟩ := broken_of_first hf
              rw [split]
              refine .invalid hne short (fun c hc => ?_) longest ih
              -- a whole character would have come first
              obtain ⟨b', t, written, whole⟩ := first_utf8EncodeChar c
              obtain ⟨rest', hrest⟩ := hc
              rw [written, ← split, List.cons_append, List.cons.injEq] at hrest
              obtain ⟨rfl, rfl⟩ := hrest
              simp [whole] at hf

theorem utf8EncodeChar_append_inj {c d : Char} {r s : List UInt8}
    (h : String.utf8EncodeChar c ++ r = String.utf8EncodeChar d ++ s) : c = d ∧ r = s := by
  obtain ⟨b, t, hc, first_c⟩ := first_utf8EncodeChar c
  obtain ⟨b', t', hd, first_d⟩ := first_utf8EncodeChar d
  rw [hc, hd, List.cons_append, List.cons_append, List.cons.injEq] at h
  obtain ⟨rfl, h⟩ := h
  have same := (first_c r).symm.trans (h ▸ first_d s)
  simpa using same

/-- Of two cuts none is longer. -/
theorem length_le_of_longest {bad bad' rest rest' : List UInt8}
    (h : bad ++ rest = bad' ++ rest') (hne : bad' ≠ []) (hbad : bad.length = 1 ∨ Begins bad)
    (longest : ∀ d ∈ rest'.head?, ¬ Begins (bad' ++ [d])) : bad.length ≤ bad'.length := by
  by_contra hlt
  have longer : bad' <+: bad :=
    List.prefix_of_prefix_length_le ⟨rest', h.symm⟩ ⟨rest, rfl⟩ (by omega)
  obtain ⟨more, rfl⟩ := longer
  cases more with
  | nil => simp at hlt
  | cons d more =>
      have next : rest' = d :: (more ++ rest) := by simpa using h.symm
      have begun : Begins (bad' ++ d :: more) := by
        refine hbad.resolve_left fun one => ?_
        have := List.length_pos_iff.mpr hne
        simp at one
        omega
      exact longest d (by simp [next]) (begun.of_prefix ⟨more, by simp⟩)

/-- There is one way to cut bytes. -/
theorem Cut.unique {bytes bytes' : List UInt8} {ps ps' : List Part} (h : Cut bytes ps)
    (h' : Cut bytes' ps') (same : bytes = bytes') : ps = ps' := by
  induction h generalizing bytes' ps' with
  | nil =>
      cases h' with
      | nil => rfl
      | char => simp [String.utf8EncodeChar_ne_nil] at same
      | invalid hne => simp [hne] at same
  | char _ ih =>
      cases h' with
      | nil => simp [String.utf8EncodeChar_ne_nil] at same
      | char h' =>
          obtain ⟨rfl, rest⟩ := utf8EncodeChar_append_inj same
          rw [ih h' rest]
      | invalid _ _ none => exact absurd ⟨_, same⟩ (none _)
  | invalid hne hbad none longest _ ih =>
      cases h' with
      | nil => simp [hne] at same
      | char => exact absurd ⟨_, same.symm⟩ (none _)
      | invalid hne' hbad' _ longest' h' =>
          have lengths := Nat.le_antisymm (length_le_of_longest same hne' hbad longest')
            (length_le_of_longest same.symm hne hbad' longest)
          obtain ⟨rfl, rest⟩ := List.append_inj same lengths
          rw [ih h' rest]

theorem parts_eq_iff {bytes : List UInt8} {ps : List Part} : parts bytes = ps ↔ Cut bytes ps :=
  ⟨fun h => h ▸ cut_parts bytes, fun h => (cut_parts bytes).unique h rfl⟩

/-! ### Bytes after others -/

/-- In a sequence only the first byte is none that continues one. -/
theorem Sequence.continuation {b : UInt8} {t : List UInt8} {n : Nat} (h : Sequence (b :: t) n) :
    isContinuation b = false ∧ ∀ d ∈ t, isContinuation d = true := by
  have second {b₂ : UInt8} {l : Lead} (hl : lead? b = some l) (h₂ : l.low ≤ b₂ ∧ b₂ ≤ l.high) :
      isContinuation b = false ∧ isContinuation b₂ = true := by
    have opens := lead?_eq_some_iff.mp hl
    obtain ⟨low, high, -⟩ := opens.bounds h₂
    refine ⟨Bool.eq_false_iff.mpr fun hb => ?_, isContinuation_iff.mpr ⟨low, high⟩⟩
    exact absurd (isContinuation_iff.mp hb).2 (Nat.not_le.mpr opens.above)
  cases h with
  | one hb =>
      refine ⟨Bool.eq_false_iff.mpr fun h => ?_, by simp⟩
      exact absurd (UInt8.lt_iff_toNat_lt.mp hb) (Nat.not_lt.mpr (isContinuation_iff.mp h).1)
  | two hl _ h₂ => simpa using second hl h₂
  | three hl _ h₂ h₃ => simpa [h₃] using second hl h₂
  | four hl _ h₂ h₃ h₄ => simpa [h₃, h₄] using second hl h₂

theorem isContinuation_of_begins {bad : List UInt8} {d : UInt8} (hne : bad ≠ [])
    (h : Begins (bad ++ [d])) : isContinuation d = true := by
  obtain ⟨rest, n, sequence⟩ := begins_iff.mp h
  obtain ⟨b, bad, rfl⟩ := List.exists_cons_of_ne_nil hne
  exact sequence.continuation.2 d (by simp)

/-- What starts with no continuation is cut by itself. -/
theorem Cut.append {p q : List UInt8} {ps qs : List Part} (h : Cut p ps) (h' : Cut q qs)
    (hq : ∀ d ∈ q.head?, isContinuation d = false) : Cut (p ++ q) (ps ++ qs) := by
  induction h with
  | nil => exact h'
  | char _ ih =>
      rw [List.append_assoc]
      exact .char ih
  | @invalid bad rest ps hne hbad none longest _ ih =>
      rw [List.append_assoc]
      refine .invalid hne hbad (fun c hc => ?_) (fun d hd => ?_) ih
      · -- a character that ends in `q` would go on over the first byte of it
        rw [← List.append_assoc] at hc
        have before := List.prefix_append (bad ++ rest) q
        rcases List.prefix_or_prefix_of_prefix hc before with hc' | hc'
        · exact none c hc'
        · obtain ⟨more, written⟩ := hc'
          cases more with
          | nil => exact none c ⟨[], by simpa using written.symm⟩
          | cons d more =>
              have start : d ∈ q.head? := by
                rw [← written, List.prefix_append_right_inj] at hc
                obtain ⟨after, rfl⟩ := hc
                simp
              have begun : Begins (bad ++ rest ++ [d]) := ⟨c, more, by simp [← written]⟩
              have continues := isContinuation_of_begins (by simp [hne]) begun
              rw [hq d start] at continues
              cases continues
      · intro begun
        cases rest with
        | nil =>
            have continues := isContinuation_of_begins hne begun
            rw [hq d hd] at continues
            cases continues
        | cons => exact longest d hd begun

/-- The bytes of characters are cut into the characters. -/
theorem cut_chars (cs : List Char) : Cut (cs.flatMap String.utf8EncodeChar) (cs.map .char) := by
  induction cs with
  | nil => exact .nil
  | cons c cs ih =>
      rw [List.flatMap_cons, List.map_cons]
      exact .char ih

/-- The bytes of characters start with no continuation. -/
theorem isContinuation_head_chars (cs : List Char) :
    ∀ d ∈ (cs.flatMap String.utf8EncodeChar).head?, isContinuation d = false := by
  cases cs with
  | nil => simp
  | cons c cs =>
      have sequence := sequence_utf8EncodeChar c
      cases h : String.utf8EncodeChar c with
      | nil => exact absurd h String.utf8EncodeChar_ne_nil
      | cons b t =>
          rw [h] at sequence
          simpa [h] using sequence.continuation.1

theorem parts_append_chars (p : List UInt8) (cs : List Char) :
    parts (p ++ cs.flatMap String.utf8EncodeChar) = parts p ++ cs.map .char :=
  parts_eq_iff.mpr ((cut_parts p).append (cut_chars cs) (isContinuation_head_chars cs))

/-! ### Decoding and encoding -/

/-- The character that a part is shown as. -/
def Part.shown : Part → Char
  | .char c => c
  | .invalid _ => Char.ofNat 0xFFFD

theorem decodeLossy_eq (bytes : List UInt8) :
    decodeLossy bytes = ofChars ((parts bytes).map Part.shown) := by
  rw [decodeLossy]
  congr 2

/-- A carriage return at the end comes from one. -/
theorem Cut.getLast?_shown {bytes : List UInt8} {ps : List Part} (h : Cut bytes ps)
    (hr : (ps.map Part.shown).getLast? = some '\r') : bytes.getLast? = some 13 := by
  induction h with
  | nil => simp at hr
  | @char c rest ps h ih =>
      cases ps with
      | nil =>
          cases h
          obtain rfl : c = '\r' := by simpa [Part.shown] using hr
          rfl
      | cons part ps =>
          rw [List.map_cons, List.map_cons, List.getLast?_cons_cons] at hr
          rw [List.getLast?_append, ih hr]
          rfl
  | @invalid bad rest ps _ _ _ _ h ih =>
      cases ps with
      | nil => simp [Part.shown] at hr
      | cons part ps =>
          rw [List.map_cons, List.map_cons, List.getLast?_cons_cons] at hr
          rw [List.getLast?_append, ih hr]
          rfl

theorem encodeCode_toNat (c : Char) : encodeCode c.toNat = String.utf8EncodeChar c := by
  have range := toNat_range c
  have written := utf8EncodeChar_ofNat range
  rw [Char.ofNat_toNat] at written
  rw [written]
  generalize c.toNat = n at range
  have tail (m : Nat) : 0x80 + m % 64 = m % 64 + 128 := Nat.add_comm _ _
  have shift : n >>> 0 = n ∧ n >>> 6 = n / 64 ∧ n >>> 12 = n / 4096 :=
    ⟨rfl, Nat.shiftRight_eq_div_pow n 6, Nat.shiftRight_eq_div_pow n 12⟩
  simp only [encodeCode, shift, tail]
  by_cases one : n ≤ 127
  · rw [if_pos (by omega), if_pos one]
  by_cases two : n ≤ 2047
  · have lead : 0xC0 + n / 64 = n / 64 % 32 + 192 := by omega
    rw [if_neg (by omega), if_pos (by omega), if_neg one, if_pos two, lead]
  by_cases three : n ≤ 65535
  · have lead : 0xE0 + n / 4096 = n / 4096 % 16 + 224 := by omega
    rw [if_neg (by omega), if_neg (by omega), if_pos (by omega), if_neg one, if_neg two,
      if_pos three, lead]
  · have lead : 0xF0 + n / 262144 = n / 262144 % 8 + 240 := by omega
    rw [if_neg (by omega), if_neg (by omega), if_neg (by omega), if_neg one, if_neg two,
      if_neg three, lead]

theorem encode_ofChars (cs : List Char) :
    encode (ofChars cs) = cs.flatMap String.utf8EncodeChar := by
  have small : ∀ n ∈ cs.map Char.toNat, n < 0x110000 := by
    intro n hn
    obtain ⟨c, -, rfl⟩ := List.mem_map.mp hn
    have range := toNat_range c
    omega
  rw [encode, ofChars, codes_ofCodes small, List.flatMap_map]
  exact List.flatMap_congr fun c _ => encodeCode_toNat c

/-- Bytes without an invalid part are those of the characters. -/
theorem Cut.eq_of_chars {bytes : List UInt8} {cs : List Char} (h : Cut bytes (cs.map .char)) :
    bytes = cs.flatMap String.utf8EncodeChar := by
  induction cs generalizing bytes with
  | nil =>
      cases h
      rfl
  | cons c cs ih =>
      cases h with
      | char rest => rw [List.flatMap_cons, ← ih rest]

/-- The character that a part is. -/
def Part.char? : Part → Option Char
  | .char c => some c
  | .invalid _ => none

theorem mapM_char?_eq_some_iff {ps : List Part} {cs : List Char} :
    ps.mapM Part.char? = some cs ↔ ps = cs.map .char := by
  induction ps generalizing cs with
  | nil => cases cs <;> simp
  | cons p ps ih =>
      rw [List.mapM_cons]
      cases p with
      | char c => cases cs <;> simp [Part.char?, Option.bind_eq_some_iff, ih, and_comm]
      | invalid bad => cases cs <;> simp [Part.char?]

/-- The bytes that are accepted are those of characters, and they are read as these. -/
theorem decode?_eq_some_iff {bytes : List UInt8} {s : String} :
    decode? bytes = some s ↔
      ∃ cs, s = ofChars cs ∧ bytes = cs.flatMap String.utf8EncodeChar := by
  have chars (cs : List Char) : decodeChars? bytes = some cs ↔
      bytes = cs.flatMap String.utf8EncodeChar := by
    have parted : decodeChars? bytes = (parts bytes).mapM Part.char? := by
      rw [decodeChars?]
      congr 1
    rw [parted, mapM_char?_eq_some_iff]
    constructor
    · intro h
      exact Cut.eq_of_chars (h ▸ cut_parts bytes)
    · rintro rfl
      exact parts_eq_iff.mpr (cut_chars cs)
  simp [decode?, chars, eq_comm, and_comm]

end CompilerRunner.Text.Utf8
