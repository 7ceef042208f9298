import CompilerRunner.Markup.Colour
import CompilerRunner.Text.Blank

/-!
# Markup — Style

The names of styles.  A closing tag closes the tag that means the same style, however the two are
written: `normalName` brings effects, colours, background and link of a definition into one order,
and a definition that is none into small letters.
-/

namespace CompilerRunner.Markup

/-- The effects of a style, in order, with their other names. -/
def effectNames : List (String × List String) :=
  [("bold", ["b"]), ("dim", ["d"]), ("italic", ["i"]), ("underline", ["u"]), ("blink", []),
    ("blink2", []), ("reverse", ["r"]), ("conceal", ["c"]), ("strike", ["s"]),
    ("underline2", ["uu"]), ("frame", []), ("encircle", []), ("overline", ["o"])]

/-- The effect of that name. -/
def effect? (s : String) : Option String :=
  (effectNames.find? fun a => a.1 = s || a.2.contains s).map Prod.fst

/-- The parts of a style. -/
structure Style where
  effects : List (String × Bool)
  colour : Option String
  background : Option String
  link : Option String

/-- Why a text is the definition of no style: a word of it means nothing, or a number of a colour
cannot be read. -/
inductive StyleFault where
  | unknown
  | unreadable
deriving DecidableEq

/-- The colour that a word names, in small letters. -/
def colourOf (word : String) : Except StyleFault String :=
  let word := Text.small word
  match shade word with
  | .colour => .ok word
  | .unknown => .error .unknown
  | .unreadable => .error .unreadable

/-- The style that the words describe, beside what is known of it. -/
def styleOf (s : Style) : List String → Except StyleFault Style
  | [] => .ok s
  | word :: rest =>
    match Text.small word, rest with
    | "on", colour :: rest => do
      let colour ← colourOf colour
      styleOf { s with background := some colour } rest
    | "not", effect :: rest =>
      match effect? effect with
      | some a => styleOf { s with effects := (a, false) :: s.effects } rest
      | none => .error .unknown
    | "link", target :: rest => styleOf { s with link := some target } rest
    | w, rest =>
      match effect? w with
      | some a => styleOf { s with effects := (a, true) :: s.effects } rest
      | none => do
        let colour ← colourOf w
        styleOf { s with colour := some colour } rest

/-- The words of a style, in order. -/
def Style.words (s : Style) : List String :=
  (effectNames.filterMap fun a => (s.effects.lookup a.1).map fun on =>
      if on then a.1 else "not " ++ a.1) ++
    s.colour.toList ++ (s.background.toList.map ("on " ++ ·)) ++ (s.link.toList.map ("link " ++ ·))

/-- The words of a text between blanks. -/
def blankWords (s : String) : List String :=
  let spaced := s.toList.map fun c => if Text.isBlankChar c then ' ' else c
  (Text.split ' ' (String.ofList spaced)).filter (· ≠ "")

example : blankWords " on\tRed" = ["on", "Red"] := by decide +kernel

/-- The one name of all definitions of a style. -/
def normalName (definition : String) : Except StyleFault String :=
  let trimmed := String.ofList (Text.trimBoth Text.isBlankChar definition.toList)
  if trimmed = "" ∨ trimmed = "none" then .ok "none"
  else
    match styleOf ⟨[], none, none, none⟩ (blankWords definition) with
    | .ok s => .ok (String.intercalate " " s.words)
    | .error .unknown => .ok (Text.small trimmed)
    | .error .unreadable => .error .unreadable

end CompilerRunner.Markup
