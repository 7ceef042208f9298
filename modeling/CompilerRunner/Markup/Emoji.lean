import CompilerRunner.Decimal.Reading
import CompilerRunner.Markup.EmojiNames
import CompilerRunner.Text.Blank
import CompilerRunner.Text.SmallLetter
import CompilerRunner.Text.Split

/-!
# Markup — Emoji

Emoji written as names between colons.  A name that names nothing is left as it is, with both its
colons; a name may end in the form that is wanted, as text or as a picture.  Some emoji of people
come in the tones of a skin as well, and each country stands for its flag.
-/

namespace CompilerRunner.Markup

/-- The character that asks for a form of the one before it. -/
def forms : List (String × Char) :=
  [("-emoji", Char.ofNat 0xFE0F), ("-text", Char.ofNat 0xFE0E)]

/-- The tones of a skin, as a name ends in them, with the character that gives a person the tone. -/
def tones : List (String × Char) :=
  [("_medium-light_skin_tone", Char.ofNat 0x1F3FC), ("_medium-dark_skin_tone", Char.ofNat 0x1F3FE),
    ("_light_skin_tone", Char.ofNat 0x1F3FB), ("_medium_skin_tone", Char.ofNat 0x1F3FD),
    ("_dark_skin_tone", Char.ofNat 0x1F3FF)]

/-- What the name of a flag may start with before the name of the country. -/
def flagOpening : String := "flag_for_"

/-- The words of lines. -/
def wordsOf (lines : List String) : List String := lines.flatMap (Text.split ' ')

/-- The words at odd places with the words after them. -/
def inPairs : List String → List (String × String)
  | name :: value :: rest => (name, value) :: inPairs rest
  | _ => []

/-- The emoji by name, each as its code points between hyphens. -/
def emojiNames : List (String × String) :=
  inPairs (wordsOf emojiToF) ++ inPairs (wordsOf emojiToP) ++ inPairs (wordsOf emojiFromQ)

/-- The countries by name, each as its two letters. -/
def countries : List (String × String) := inPairs (wordsOf countryLines)

/-- The character with that number in hexadecimal digits. -/
def charOf (digits : String) : Char :=
  Char.ofNat ((Decimal.readWhole? 16 digits.toList).getD 0)

/-- The emoji of its own name. -/
def plainEmoji? (name : String) : Option (List Char) :=
  (emojiNames.lookup name).map fun codes => (Text.split '-' codes).map charOf

/-- The two regional indicators of a country. -/
def flag? (name : String) : Option (List Char) :=
  let country :=
    if name.startsWith flagOpening then (name.drop flagOpening.length).toString else name
  (countries.lookup country).map fun letters =>
    letters.toList.map fun c => Char.ofNat (0x1F1E6 + (c.toNat - 'A'.toNat))

/-- A person with the tone of a skin, which comes after the first character in the place of one that
asks for the form as a picture. -/
def withTone (tone : Char) : List Char → List Char
  | c :: d :: rest =>
    if d = Char.ofNat 0xFE0F then c :: tone :: rest else c :: tone :: d :: rest
  | cs => cs ++ [tone]

/-- The emoji of a person with the tone that the name ends in. -/
def toned? (name : String) : Option (List Char) :=
  match tones.find? fun t => name.endsWith t.1 with
  | some (ending, tone) =>
    let base := (name.dropEnd ending.length).toString
    if (wordsOf tonedNames).contains base then (plainEmoji? base).map (withTone tone) else none
  | none => none

/-- The name without the form that it ends in, and the character for the form. -/
def splitForm (name : String) : String × List Char :=
  match forms.find? fun f => name.endsWith f.1 with
  | some (ending, c) => ((name.dropEnd ending.length).toString, [c])
  | none => (name, [])

/-- The emoji of that name. -/
def emoji? (name : String) : Option (List Char) :=
  let (base, form) := splitForm name
  let base := Text.small base
  (plainEmoji? base <|> toned? base <|> flag? base).map (· ++ form)

/-- The name that a text after a colon starts with, up to the next colon. -/
def emojiName? (cs : List Char) : Option (List Char) :=
  let name := cs.takeWhile fun c => c ≠ ':' && !Text.isBlankChar c
  if (cs.drop name.length).head? = some ':' then some name else none

/-- The rest of a text with its emoji, of which `skip` characters have been dealt with. -/
def emojiFrom : (skip : Nat) → List Char → List Char
  | _, [] => []
  | skip + 1, _ :: rest => emojiFrom skip rest
  | 0, c :: rest =>
    match if c = ':' then emojiName? rest else none with
    | some name =>
      ((emoji? (String.ofList name)).getD (':' :: name ++ [':'])) ++
        emojiFrom (name.length + 1) rest
    | none => c :: emojiFrom 0 rest

/-- A text with its emoji. -/
def withEmoji (cs : List Char) : List Char := emojiFrom 0 cs

end CompilerRunner.Markup
