import CompilerRunner.Markup.Emoji
import CompilerRunner.Markup.Literal
import CompilerRunner.Markup.Style

/-!
# Markup

Texts in which tags in square brackets open and close styles.  On a plain output nothing is left of
a tag; a backslash before it keeps it as text.  A closing tag has to have a tag to close, the last
one that is open if it has no name of its own.
-/

namespace CompilerRunner.Markup

/-- A tag: what stands between the brackets, up to and after the first equals sign. -/
structure Tag where
  name : String
  parameters : Option String
deriving DecidableEq

/-- A piece of a text with markup. -/
inductive Piece where
  | text (cs : List Char)
  | tag (t : Tag)
deriving DecidableEq

/-- A closing tag that closes nothing, one whose tag has parameters that mean nothing, or a style
with a colour that cannot be read. -/
inductive Fault where
  | unmatched (name : String)
  | parameters (text : String)
  | colour (style : String)
deriving DecidableEq

/-- The tag that the text between two brackets is. -/
def Tag.ofBody (body : List Char) : Tag :=
  { name := String.ofList (body.takeWhile (· ≠ '='))
    parameters :=
      match body.dropWhile (· ≠ '=') with
      | _ :: rest => some (String.ofList rest)
      | [] => none }

/-- What stands between the brackets, if the text after an opening bracket is that of a tag. -/
def tagBody? : List Char → Option (List Char)
  | [] => none
  | c :: rest =>
    let more := rest.takeWhile fun d => d ≠ '[' && d ≠ ']'
    if (c.isLower || c = '#' || c = '/' || c = '@') ∧ (rest.drop more.length).head? = some ']' then
      some (c :: more)
    else none

/-- The backslashes and the body of the tag that a text starts with. -/
def tag? (cs : List Char) : Option (Nat × List Char) :=
  let backslashes := (cs.takeWhile (· = '\\')).length
  match cs.drop backslashes with
  | '[' :: rest => (tagBody? rest).map fun body => (backslashes, body)
  | _ => none

/-- The pieces of a tag after backslashes: two of them stand for one, an odd one keeps the tag as
text. -/
def tagPieces (backslashes : Nat) (body : List Char) : List Piece :=
  .text (List.replicate (backslashes / 2) '\\') ::
    if backslashes % 2 = 1 then [.text ('[' :: body ++ [']'])] else [.tag (Tag.ofBody body)]

/-- The pieces of the rest of a text, of which `skip` characters have been dealt with, after the
plain characters `before`.  A backslash before a bracket that opens no tag is dropped. -/
def piecesFrom : (skip : Nat) → (before : List Char) → List Char → List Piece
  | _, before, [] => [.text before]
  | skip + 1, before, _ :: rest => piecesFrom skip before rest
  | 0, before, c :: rest =>
    match tag? (c :: rest) with
    | some (backslashes, body) =>
      .text before :: tagPieces backslashes body ++
        piecesFrom (backslashes + body.length + 1) [] rest
    | none =>
      if c = '\\' ∧ rest.head? = some '[' then piecesFrom 1 (before ++ ['[']) rest
      else piecesFrom 0 (before ++ [c]) rest

/-- What the parameters of an event tag hand to the handler: if they are its name, maybe with round
brackets after it, what is in the brackets with these, otherwise all of them. -/
def handed (parameters : String) : String :=
  let cs := Text.trimBoth Text.isBlankChar parameters.toList
  let brackets := cs.dropWhile fun c => Text.isWordChar c || c = '.'
  if brackets = [] then "()"
  else if brackets.head? = some '(' ∧ brackets.getLast? = some ')' ∧ '\n' ∉ brackets then
    String.ofList brackets
  else String.ofList cs

/-- The name of the style that a text defines. -/
def styleName (definition : String) : Except Fault String :=
  match normalName definition with
  | .ok name => .ok name
  | .error _ => .error (.colour definition)

/-- The open tags after the last of those that satisfy `isMeant` is closed by a tag of that name. -/
def closeTag (opened : List Tag) (name : String) (isMeant : Tag → Bool) :
    Except Fault (List Tag) :=
  match opened.find? isMeant with
  | none => .error (.unmatched name)
  | some t =>
    let parameters := t.parameters.getD ""
    if t.name.startsWith "@" ∧ parameters ≠ "" ∧ Literal.isLiteral (handed parameters) = false then
      .error (.parameters parameters)
    else .ok (opened.eraseP isMeant)

/-- The open tags after a closing one, which is unnamed or closes the last tag of its style. -/
def close (opened : List Tag) (style : String) : Except Fault (List Tag) :=
  if style = "" then closeTag opened style fun _ => true
  else do
    let name ← styleName style
    closeTag opened style fun t => t.name = name

/-- The plain text of the pieces, where the tags `opened` are open. -/
def plainFrom (opened : List Tag) : List Piece → Except Fault (List Char)
  | [] => .ok []
  | .text cs :: rest => (withEmoji cs ++ ·) <$> plainFrom opened rest
  | .tag t :: rest =>
    match t.name.toList with
    | '/' :: style => do
      let opened ← close opened (String.ofList (Text.trimBoth Text.isBlankChar style))
      plainFrom opened rest
    | _ => do
      let name ← styleName t.name
      plainFrom ({ t with name } :: opened) rest

/-- A control character that a terminal would act on: bell, backspace, vertical tab, form feed or
carriage return. -/
def isControl (c : Char) : Bool := [7, 8, 11, 12, 13].contains c.toNat

/-- What a text shows on a plain output. -/
def plain (s : String) : Except Fault String :=
  (fun cs => String.ofList (cs.filter fun c => !isControl c)) <$>
    plainFrom [] (piecesFrom 0 [] s.toList)

end CompilerRunner.Markup
