/-!
# Script errors
-/

namespace ResolverTypes.Script

/-- a script that cannot be read; `line` is the line of the offending token, counted from 1 -/
structure Error where
  line : Nat
deriving DecidableEq, Repr

def Error.message (e : Error) : String :=
  "Parse error at line " ++ toString e.line ++ ": unexpected text"

end ResolverTypes.Script
