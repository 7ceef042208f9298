import CompilerRunner.Text.Split
import CompilerRunner.Text.Width

/-!
# Text — Tab

Tabs on a terminal.  A tab moves on to the next of the stops, which are every eight cells; shown as
spaces it is one space and as many more as the stop is away.
-/

namespace CompilerRunner.Text

/-- The cells between two stops. -/
def tabStop : Nat := 8

/-- The text before a tab with the spaces that show the tab, where the text starts at a stop. -/
def toStop (s : String) : String :=
  let spaced := s ++ " "
  spaced ++ String.ofList (List.replicate ((tabStop - width spaced % tabStop) % tabStop) ' ')

/-- The pieces of a line between its tabs with the tabs as spaces. -/
def fillStops : List String → String
  | [] => ""
  | [last] => last
  | piece :: pieces => toStop piece ++ fillStops pieces

/-- A line with its tabs as spaces. -/
def untabbed (line : String) : String := fillStops (split '\t' line)

example : untabbed "a\tb" = "a       b" := by decide +kernel

end CompilerRunner.Text
