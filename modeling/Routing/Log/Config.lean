import Routing.Log.Filter

/-!
# Configuration of logging

The settings of a log, and the filter that follows from them.
-/

namespace Routing.Log

/-- The form of log entries. -/
inductive Format where
  /-- One JSON object per entry. -/
  | json
  /-- Text for readers. -/
  | pretty
  deriving Repr, DecidableEq

namespace Format

/-- Reads a form, without regard to case; anything unknown is JSON. -/
def ofText (text : String) : Format :=
  if Text.asciiLower text = "pretty" then pretty else json

end Format

/-- The settings of a log. -/
structure Config where
  /-- The level as it was given. -/
  level : String := "info"
  /-- The form of entries. -/
  format : Format := .json
  /-- Further directives, separated by commas. -/
  targets : Option String := none
  /-- Whether entries tell where they come from. -/
  includeLocation : Bool := false
  deriving Repr, DecidableEq

namespace Config

/-- The settings for development. -/
def development : Config :=
  { level := "debug", format := .pretty, includeLocation := true }

/-- The settings from the variables of an environment. -/
def ofEnvironment (environment : Environment) : Config where
  level := (environment "SROUTER_LOG_LEVEL").getD "info"
  format := ((environment "SROUTER_LOG_FORMAT").map Format.ofText).getD .json
  targets := environment "SROUTER_LOG_TARGET_FILTER"
  includeLocation := ((environment "SROUTER_LOG_INCLUDE_LOCATION").bind readSwitch?).getD false

/-- The filter of a log: the one that `RUST_LOG` holds, if it can be read, or else the level of the
settings; and on top of it the further directives. -/
def filter (config : Config) (environment : Environment) : Filter :=
  let level : Directive :=
    { target := none, span := none, fields := [], level := .ofSetting config.level }
  let base := ((environment "RUST_LOG").bind Filter.ofText?).getD (.ofDirectives [level])
  match config.targets with
  | none => base
  | some targets => base.addAll targets

end Config

end Routing.Log
