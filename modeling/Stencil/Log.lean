import Stencil.Text.Basic

/-!
# Log records

What the engine reports while it works.  A record may carry the trace of an error that was caught.
-/

namespace Stencil

/-- How much a record matters. -/
inductive Level where
  | debug
  | info
  | warning
  | error
  deriving DecidableEq, Repr

/-- The rank of a level. -/
def Level.rank : Level → Nat
  | .debug => 0
  | .info => 1
  | .warning => 2
  | .error => 3

/-- The name of a level. -/
def Level.name : Level → Text
  | .debug => "DEBUG"
  | .info => "INFO"
  | .warning => "WARNING"
  | .error => "ERROR"

/-- One report. -/
structure Record where
  level : Level
  message : Text
  traced : Bool := false
  deriving DecidableEq, Repr

/-- A report as a line. -/
def Record.line (r : Record) : Text := r.level.name ++ " " ++ r.message ++ "\n"

/-- Reports in the order in which they were made. -/
abbrev Log := List Record

end Stencil
