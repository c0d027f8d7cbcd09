/-!
# The environment of a run

The variables that a run finds set, and what they say about colors.
-/
namespace BlockComments

structure Environment where
  bindings : List (String × String) := []
  deriving DecidableEq, Repr

namespace Environment

def get? (env : Environment) (name : String) : Option String := env.bindings.lookup name

def has (env : Environment) (name : String) : Bool := (env.get? name).isSome

def isNonempty (env : Environment) (name : String) : Bool := (env.get? name).any (· != "")

def logName : String := "BLOCKIFY_LOG"

def logSetting (env : Environment) : Option String := env.get? logName

/-- The variables that a run looks at. -/
def names : List String := [logName, "NO_COLOR", "CLICOLOR_FORCE", "CLICOLOR", "TERM", "CI"]

/-- Whether the terminal of the run is one with colors. -/
def hasColorTerminal (env : Environment) : Bool :=
  (env.get? "TERM").any (· != "dumb") || env.has "CLICOLOR" || env.has "CI"

/-- Whether refusals are colored: never if that is forbidden, always if it is
forced, else on a terminal with colors unless they are switched off. -/
def usesColor (env : Environment) (terminal : Bool) : Bool :=
  if env.isNonempty "NO_COLOR" then false
  else if env.isNonempty "CLICOLOR_FORCE" then true
  else if env.get? "CLICOLOR" = some "0" then false
  else terminal && env.hasColorTerminal

end Environment

end BlockComments
