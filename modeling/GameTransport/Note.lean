/-!
# Notes

What a server tells its operator in passing: a line of text and how much it matters.
-/

namespace GameTransport

/-- How much a note matters. -/
inductive Severity where
  | debug
  | info
  | warn
  deriving DecidableEq, Repr

def Severity.name : Severity → String
  | debug => "DEBUG"
  | info => "INFO"
  | warn => "WARN"

/-- A line for the operator. -/
structure Note where
  severity : Severity
  text : String
  deriving DecidableEq, Repr

namespace Note

def debug (text : String) : Note := ⟨.debug, text⟩

def info (text : String) : Note := ⟨.info, text⟩

def warn (text : String) : Note := ⟨.warn, text⟩

end Note

end GameTransport
