import CompilerRunner.Text.Blank
import CompilerRunner.Text.Width

/-!
# Text — Wrap

Lines of code points that are to fit into so many cells of a terminal.  A line is divided before a
word that does not fit any more (`fill`); a word that no line can hold is cut by the rule that is
handed in.  A line that is still too wide is cropped between the groups of code points that are
shown together (`groups`), and a wide one that would be cut in two leaves a blank.
-/

namespace CompilerRunner.Text

/-- The code point of a blank. -/
def blank : Nat := ' '.toNat

/-- The code point is white space, or an information separator. -/
def isBlankCode (n : Nat) : Bool := isBlankChar (Char.ofNat n)

/-- The cells that a line takes. -/
def lineWidth (line : List Nat) : Nat := widthFrom none line

/-! ### Words -/

/-- The line without the blanks at its end. -/
def trimEnd (line : List Nat) : List Nat := (line.reverse.dropWhile isBlankCode).reverse

/-- The words of a line with the blanks after each.  Blanks before the first belong to it. -/
def words (line : List Nat) : List (List Nat) :=
  match line.splitBy fun n m => !isBlankCode n || isBlankCode m with
  | blanks :: word :: rest =>
    if blanks.all isBlankCode then (blanks ++ word) :: rest else blanks :: word :: rest
  | ws => ws

/-- The lines into which words are put where `line`, of which `used` cells are taken, has been
begun.  A word that no line holds is cut by `cut`. -/
def fill (limit : Nat) (cut : List Nat → List (List Nat)) (line : List Nat) (used : Nat) :
    List (List Nat) → List (List Nat)
  | [] => [line]
  | word :: rest =>
    if used + lineWidth (trimEnd word) ≤ limit then
      fill limit cut (line ++ word) (used + lineWidth word) rest
    else
      let pieces := if limit < lineWidth (trimEnd word) then cut word else [word]
      let last := pieces.getLastD []
      line :: pieces.dropLast ++ fill limit cut last (lineWidth last) rest

/-- A line divided into lines.  The first word starts the first of them, whether it fits or not. -/
def wrap (limit : Nat) (cut : List Nat → List (List Nat)) (line : List Nat) : List (List Nat) :=
  match fill limit cut [] 0 (words line) with
  | [] :: first :: rest => first :: rest
  | lines => lines

/-- The line without those blanks at its end that lie beyond so many code points. -/
def dropSurplus (limit : Nat) (line : List Nat) : List Nat :=
  line.take (line.length - min (line.reverse.takeWhile isBlankCode).length (line.length - limit))

/-! ### Groups -/

/-- The groups of code points that are shown together, with the cells of each, where `group` has
been begun and `last` is the last code point in it that took a cell and was not widened. -/
def groupsFrom (group : List Nat × Nat) (last : Option Nat) : List Nat → List (List Nat × Nat)
  | [] => [group]
  | [n] =>
    if n = joiner then [(group.1 ++ [n], group.2)]
    else if n = emojiSelector then [(group.1 ++ [n], group.2 + (last.map selectorWidth).getD 0)]
    else if codeWidth n = 0 then [(group.1 ++ [n], group.2)]
    else [group, ([n], codeWidth n)]
  | n :: m :: rest =>
    if n = joiner then groupsFrom (group.1 ++ [n, m], group.2) last rest
    else if n = emojiSelector then
      groupsFrom (group.1 ++ [n], group.2 + (last.map selectorWidth).getD 0)
        (last.filter fun l => selectorWidth l = 0) (m :: rest)
    else if codeWidth n = 0 then groupsFrom (group.1 ++ [n], group.2) last (m :: rest)
    else group :: groupsFrom ([n], codeWidth n) (some n) (m :: rest)

/-- The groups of a line. -/
def groups : List Nat → List (List Nat × Nat)
  | [] => []
  | n :: rest =>
    if n = joiner ∨ n = emojiSelector ∨ codeWidth n = 0 then groupsFrom ([n], 0) none rest
    else groupsFrom ([n], codeWidth n) (some n) rest

/-- The groups that so many cells hold, and a blank in the place of a part of the next. -/
def cropGroups : (limit : Nat) → List (List Nat × Nat) → List Nat
  | 0, _ | _, [] => []
  | limit + 1, (group, width) :: rest =>
    if width ≤ limit + 1 then group ++ cropGroups (limit + 1 - width) rest else [blank]

/-- What is left of a line that is too wide. -/
def crop (limit : Nat) (line : List Nat) : List Nat := cropGroups limit (groups line)

/-- Groups put into lines, of which `line` has been begun and has `used` cells. -/
def chopGroups (limit : Nat) (line : List Nat) (used : Nat) :
    List (List Nat × Nat) → List (List Nat)
  | [] => if used = 0 then [] else [line]
  | (group, width) :: rest =>
    if used + width ≤ limit then chopGroups limit (line ++ group) (used + width) rest
    else line :: chopGroups limit group width rest

/-- A word cut into parts that fit. -/
def chop (limit : Nat) (word : List Nat) : List (List Nat) := chopGroups limit [] 0 (groups word)

end CompilerRunner.Text
