import RouteTable.Disk

/-!
# Failures and their causes

A failure is told by its outermost text and the causes behind it, the nearest first.
-/

namespace RouteTable

inductive Cause
  | io (e : IoError)
  /-- A text that is not JSON. -/
  | json
  /-- A text that is not YAML, or not YAML of what is asked for. -/
  | yaml
  | text (message : String)
deriving DecidableEq

namespace Cause

def message : Cause → String
  | io e => e.message
  | json => "malformed JSON"
  | yaml => "malformed YAML"
  | text m => m

end Cause

structure Failure where
  message : String
  causes : List Cause := []
deriving DecidableEq

namespace Failure

def because (message : String) (cause : Cause) : Failure := ⟨message, [cause]⟩

/-- The text of a failure with its causes below, numbered if there are several. -/
def report (f : Failure) : String :=
  let line (i : Nat) (c : Cause) := if f.causes.length = 1 then "    " ++ c.message
    else "    " ++ toString i ++ ": " ++ c.message
  let lines := f.causes.zipIdx.map fun (c, i) => line i c
  "\n".intercalate (f.message :: (if lines.isEmpty then [] else "" :: "Caused by:" :: lines))

/-- Puts a text in front of a failure. -/
def within (outer : String) (f : Failure) : Failure := ⟨outer, .text f.message :: f.causes⟩

end Failure

end RouteTable
