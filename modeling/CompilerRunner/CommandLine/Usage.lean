/-!
# CommandLine — Usage

What is wrong with the words of a command line, and what the user is told of it.
-/

namespace CompilerRunner.CommandLine

/-- What is wrong with the words of a command line. -/
inductive UsageFault where
  | unknownCommand
  | unknownOption (word : String)
  | missingValue (option : String)
  | invalidValue (option value : String)
  | repeated (option : String)
  | contradictory (option : String)
  | missing (parameter : String)
  | unexpected (word : String)
deriving DecidableEq

/-- What the user is told. -/
def UsageFault.message : UsageFault → String
  | .unknownCommand => "unknown command"
  | .unknownOption word => "unknown option " ++ word
  | .missingValue option => "option --" ++ option ++ " needs a value"
  | .invalidValue option value => "invalid value " ++ value ++ " for " ++ option
  | .repeated option => "option --" ++ option ++ " can be given once only"
  | .contradictory option => "option --" ++ option ++ " cannot be emptied and given"
  | .missing parameter => parameter ++ " is missing"
  | .unexpected word => "unexpected argument " ++ word

end CompilerRunner.CommandLine
