import CompilerRunner.Calendar

/-!
# Yaml — Timestamp

Dates and times as they are written in documents: `2024-01-31`, or with a time
`2024-01-31T10:20:30.5 +02:00`.  `Timestamp.ofText?` reads the form, `Timestamp.value?` refuses
numbers that name no moment.
-/

namespace CompilerRunner.Yaml

/-- The time of a timestamp. -/
structure TimeText where
  hour : Nat
  minute : Nat
  second : Nat
  microsecond : Nat
  offset : Option Int

/-- The numbers of a timestamp; `padded` if month and day have two digits each. -/
structure Timestamp where
  year : Nat
  month : Nat
  day : Nat
  padded : Bool
  time : Option TimeText

namespace Timestamp

/-- The number that the digits make. -/
def number (ds : List Char) : Nat := ds.foldl (fun n d => n * 10 + (d.toNat - '0'.toNat)) 0

/-- At least `least` and at most `most` digits, and what follows them. -/
def digits? (least most : Nat) (cs : List Char) : Option (List Char × List Char) :=
  let ds := (cs.take most).takeWhile Char.isDigit
  if least ≤ ds.length then some (ds, cs.drop ds.length) else none

/-- The rest after the character, if it stands here. -/
def after? (c : Char) : List Char → Option (List Char)
  | d :: rest => if d = c then some rest else none
  | [] => none

/-- Spaces and tabs. -/
def isGap (c : Char) : Bool := c = ' ' || c = '\t'

/-- The offset of a zone after its sign: hours, and minutes after a colon. -/
def offset? (cs : List Char) : Option Int := do
  let (hours, rest) ← digits? 1 2 cs
  match rest with
  | [] => return number hours * 60
  | rest =>
    let (minutes, rest) ← digits? 2 2 (← after? ':' rest)
    if rest = [] then return number hours * 60 + number minutes else none

/-- The zone at the end of a time: none, `Z`, or a signed offset. -/
def zone? (cs : List Char) : Option (Option Int) :=
  match cs, cs.dropWhile isGap with
  | [], _ => some none
  | _, ['Z'] => some (some 0)
  | _, '+' :: rest => some <$> offset? rest
  | _, '-' :: rest => (fun o => some (-o)) <$> offset? rest
  | _, _ => none

/-- The fraction of a second in microseconds; further digits are dropped. -/
def microseconds (ds : List Char) : Nat :=
  let six := ds.take 6
  number (six ++ List.replicate (6 - six.length) '0')

/-- The time after a date. -/
def time? (cs : List Char) : Option TimeText := do
  let (hour, rest) ← digits? 1 2 cs
  let (minute, rest) ← digits? 2 2 (← after? ':' rest)
  let (second, rest) ← digits? 2 2 (← after? ':' rest)
  let (fraction, rest) :=
    match rest with
    | '.' :: r => (r.takeWhile Char.isDigit, r.dropWhile Char.isDigit)
    | r => ([], r)
  return {
    hour := number hour
    minute := number minute
    second := number second
    microsecond := microseconds fraction
    offset := ← zone? rest }

/-- The time after the mark or the gap behind a date, if there is more than the date. -/
def timePart? : List Char → Option (Option TimeText)
  | [] => some none
  | c :: rest =>
    if c = 'T' ∨ c = 't' then some <$> time? rest
    else if isGap c then some <$> time? (rest.dropWhile isGap)
    else none

/-- The timestamp that a text is; one line break at its end is left aside. -/
def ofText? (cs : List Char) : Option Timestamp := do
  let cs := if cs.getLast? = some '\n' then cs.dropLast else cs
  let (year, rest) ← digits? 4 4 cs
  let (month, rest) ← digits? 1 2 (← after? '-' rest)
  let (day, rest) ← digits? 1 2 (← after? '-' rest)
  return {
    year := number year
    month := number month
    day := number day
    padded := month.length = 2 && day.length = 2
    time := ← timePart? rest }

/-- A text that is a timestamp without being marked as one: a date alone must be padded. -/
def isObvious (cs : List Char) : Bool :=
  match ofText? cs with
  | some t => t.padded || t.time.isSome
  | none => false

/-- The date or the moment. -/
def value? (t : Timestamp) : Option (Date ⊕ Moment) := do
  let date ← Date.of? t.year t.month t.day
  match t.time with
  | none => return .inl date
  | some c =>
    return .inr (← Moment.of? date c.hour c.minute c.second c.microsecond c.offset)

end Timestamp

end CompilerRunner.Yaml
