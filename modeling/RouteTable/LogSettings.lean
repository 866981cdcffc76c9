/-!
# Log settings

How much is logged and in which form, as the environment sets it.
-/

namespace RouteTable

inductive LogFormat
  | json | pretty
deriving DecidableEq, Repr

/-- Every word but `pretty` means JSON. -/
def LogFormat.parse (s : String) : LogFormat := if s.toLower = "pretty" then pretty else json

structure LogSettings where
  level : String := "info"
  format : LogFormat := .json
  targets : Option String := none
  includeLocation : Bool := false
deriving DecidableEq, Repr

namespace LogSettings

def flag? (s : String) : Option Bool :=
  if s = "true" then some true else if s = "false" then some false else none

def ofLookup (lookup : String → Option String) : LogSettings :=
  { level := (lookup "BRRTR_LOG_LEVEL").getD "info"
    format := ((lookup "BRRTR_LOG_FORMAT").map LogFormat.parse).getD .json
    targets := lookup "BRRTR_LOG_TARGETS"
    includeLocation := ((lookup "BRRTR_LOG_INCLUDE_LOCATION").bind flag?).getD false }

def withLevel (s : LogSettings) (level : String) : LogSettings := { s with level }

end LogSettings

end RouteTable
