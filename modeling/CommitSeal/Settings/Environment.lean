import CommitSeal.Failure

/-!
# The environment

The variables that the program finds when it starts, and the home directories of the accounts of the
system. Of several variables with the same name the last one counts, of several accounts the first.
-/

namespace CommitSeal

/-- What the program finds when it starts. -/
structure Environment where
  /-- Variables with their values, in order. -/
  bindings : List (String × String) := []
  /-- The home directories of accounts, by name. -/
  accounts : List (String × String) := []
  /-- The home directory of the account that the program runs under, if there is one. -/
  ownDirectory : Option String := none
  deriving DecidableEq, Repr

namespace Environment

/-- The value of a variable. -/
def get? (environment : Environment) (name : String) : Option String :=
  environment.bindings.reverse.lookup name

/-- The home directories. A tilde alone stands for the value of the home variable. -/
def homes (environment : Environment) : Path.Homes where
  own := (environment.get? "HOME").or environment.ownDirectory
  accounts := environment.accounts

/-- A path with a tilde in front replaced by the home directory. -/
def expand (environment : Environment) (path : Path) : Except Fault Path :=
  match path.expandHome environment.homes with
  | .ok path => .ok path
  | .error .unknown => .error .noHome
  | .error .impossible => .error (.invalid "embedded null byte")

end Environment

end CommitSeal
