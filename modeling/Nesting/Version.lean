/-!
# The version of the program
-/

namespace Nesting

/-- A version number. -/
structure Version where
  major : Nat
  minor : Nat
  patch : Nat
  /-- What the build was made from, if that is known. -/
  build : String := ""

namespace Version

/-- The three numbers. -/
def core (v : Version) : String :=
  toString v.major ++ "." ++ toString v.minor ++ "." ++ toString v.patch

/-- The three numbers and the build. -/
def full (v : Version) : String :=
  if v.build = "" then v.core else v.core ++ "+" ++ v.build

end Version

/-- The version of this program. -/
def version : Version where
  major := 0
  minor := 1
  patch := 0

end Nesting
