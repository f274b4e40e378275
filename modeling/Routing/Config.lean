import Routing.Text.Ascii
import Routing.Text.Blank

/-!
# Configuration

The settings of a router, read from environment variables. A variable with an unusable value counts
as absent.
-/

namespace Routing

/-- The values of the environment variables that are set. -/
abbrev Environment := String → Option String

/-- Reads a word for yes or no, without regard to case and to blanks around it. -/
def readSwitch? (raw : String) : Option Bool :=
  let word := Text.asciiLower (Text.trim raw)
  if word ∈ ["1", "true", "yes", "on"] then some true
  else if word ∈ ["0", "false", "no", "off"] then some false
  else none

/-- Reads a number below 2^64 in decimal digits with an optional plus sign in front. -/
def readUnsigned? (raw : List Char) : Option Nat :=
  let digits := match raw with
    | '+' :: digits => digits
    | digits => digits
  if digits.isEmpty then none
  else (Text.numeral? 10 Text.digitValue? digits).filter (· < UInt64.size)

/-- The settings of a router. -/
structure Config where
  /-- Whether a route only takes requests with its own method. -/
  enforceMethod : Bool := false
  /-- The number of microseconds from which on a match counts as slow. -/
  slowMatchMicros : Nat := 1000
  deriving Repr, DecidableEq

namespace Config

/-- The settings from the variables of an environment. -/
def ofEnvironment (environment : Environment) : Config where
  enforceMethod := ((environment "SROUTER_ENFORCE_METHOD").bind readSwitch?).getD false
  slowMatchMicros :=
    ((environment "SROUTER_SLOW_MATCH_US").bind fun raw =>
      readUnsigned? (Text.trim raw).toList).getD 1000

end Config

end Routing
