import Routing.Config

/-!
# Log levels

How much is logged, from nothing to everything.
-/

namespace Routing.Log

/-- How much is logged. -/
inductive Level where
  | off | error | warn | info | debug | trace
  deriving Repr, DecidableEq

namespace Level

/-- All levels, the quietest first. -/
def all : List Level :=
  [off, error, warn, info, debug, trace]

/-- The name of the level. -/
def name : Level → String
  | off => "off"
  | error => "error"
  | warn => "warn"
  | info => "info"
  | debug => "debug"
  | trace => "trace"

/-- Reads a level in a directive: a name in any case, or the number of the level. -/
def ofText? (text : String) : Option Level :=
  match readUnsigned? text.toList with
  | some n => all[n]?
  | none => all.find? fun level => Text.sameIgnoringCase level.name text

/-- Reads a level in a configuration: one of the five names of levels that log something, in any
case; anything else is `info`. -/
def ofSetting (text : String) : Level :=
  match Text.asciiLower text with
  | "trace" => trace
  | "debug" => debug
  | "warn" => warn
  | "error" => error
  | _ => info

end Level

end Routing.Log
