import CompilerRunner.Decimal.Reading

/-!
# Process — Sleep

The arguments of the program that does nothing for some time.
-/

namespace CompilerRunner.Sleep

/-- The seconds that an argument stands for. -/
def time? (s : String) : Option Float :=
  let cs := s.toList
  let unit : Option Float :=
    match cs.getLast? with
    | some 's' => some 1
    | some 'm' => some 60
    | some 'h' => some 3600
    | some 'd' => some 86400
    | _ => none
  match unit with
  | some u => (Decimal.readReal? cs.dropLast).map (· * u)
  | none => Decimal.readReal? cs

/-- What is said about words that are no times. -/
def complaint (words : List String) : String :=
  let hint := "Try 'sleep --help' for more information.\n"
  match words.find? fun w => w.toList.head? = some '-' && w ≠ "-" && w ≠ "--" with
  | some w =>
    "sleep: invalid option -- '" ++ String.ofList ((w.toList.drop 1).take 1) ++ "'\n" ++ hint
  | none =>
    if words.isEmpty then "sleep: missing operand\n" ++ hint
    else
      String.join ((words.filter fun w => (time? w).isNone).map fun w =>
        "sleep: invalid time interval '" ++ w ++ "'\n") ++ hint

/-- The seconds that all arguments together stand for. -/
def duration? (words : List String) : Option Float :=
  match words.mapM time? with
  | some (d :: ds) => some (ds.foldl (· + ·) d)
  | _ => none

end CompilerRunner.Sleep
