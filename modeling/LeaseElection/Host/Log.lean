namespace LeaseElection

/-- Why something failed: a text, and beneath it the causes, the nearest first. -/
structure Failure where
  /-- What failed, as far as it is known at the outermost place. -/
  text : String
  causes : List String
  deriving DecidableEq, Repr

namespace Failure

def ofText (text : String) : Failure := ⟨text, []⟩

def within (f : Failure) (attempt : String) : Failure := ⟨attempt, f.text :: f.causes⟩

def chain (f : Failure) : String := String.intercalate ": " (f.text :: f.causes)

end Failure

inductive LogLevel where
  | warn
  | error
  deriving DecidableEq, Repr

/-- A line of the log, without its fields. -/
structure LogLine where
  level : LogLevel
  message : String
  deriving DecidableEq, Repr

namespace LogLine

def warn (message : String) : LogLine := ⟨.warn, message⟩

def error (message : String) : LogLine := ⟨.error, message⟩

def text (line : LogLine) : String :=
  (match line.level with | .warn => "WARN " | .error => "ERROR ") ++ line.message

end LogLine

end LeaseElection
