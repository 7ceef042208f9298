/-!
# Shell — Setting

The options of a shell, which can be set when it starts and while it runs.  Each has a letter, and
most have a long name too.
-/

namespace CompilerRunner.Shell.Setting

/-- The letters of the options, in the order in which they are shown. -/
def letters : List Char := "ubaCEVvxsnmiIfe".toList

/-- The letters that are only known when a shell starts. -/
def startLetters : List Char := "clp".toList

/-- The long names of options, each with its letter. -/
def names : List (String × Char) :=
  [("errexit", 'e'), ("noglob", 'f'), ("ignoreeof", 'I'), ("interactive", 'i'), ("monitor", 'm'),
    ("noexec", 'n'), ("stdin", 's'), ("xtrace", 'x'), ("verbose", 'v'), ("vi", 'V'),
    ("emacs", 'E'), ("noclobber", 'C'), ("allexport", 'a'), ("notify", 'b'), ("nounset", 'u'),
    ("privileged", 'p')]

end CompilerRunner.Shell.Setting
