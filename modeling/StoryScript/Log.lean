/-!
# Log records

Operations that report their progress return the records with their value. Which
records are shown depends on a threshold.
-/

namespace StoryScript

inductive LogLevel where
  | unset
  | debug
  | info
  | warning
  | error
  | critical
  deriving DecidableEq, Repr

namespace LogLevel

def rank : LogLevel → Nat
  | .unset => 0
  | .debug => 10
  | .info => 20
  | .warning => 30
  | .error => 40
  | .critical => 50

/-- The name that stands in a record's line. -/
def name : LogLevel → String
  | .unset => "NOTSET"
  | .debug => "DEBUG"
  | .info => "INFO"
  | .warning => "WARNING"
  | .error => "ERROR"
  | .critical => "CRITICAL"

/-- Reads a level's name in capitals; two levels have a second name. -/
def ofName? : String → Option LogLevel
  | "NOTSET" => some .unset
  | "DEBUG" => some .debug
  | "INFO" => some .info
  | "WARNING" | "WARN" => some .warning
  | "ERROR" => some .error
  | "CRITICAL" | "FATAL" => some .critical
  | _ => none

@[simp] theorem ofName?_name (l : LogLevel) : ofName? l.name = some l := by cases l <;> rfl

end LogLevel

/-- The part of the program that a record comes from. -/
inductive Origin where
  | service
  | server
  deriving DecidableEq, Repr

def Origin.name : Origin → String
  | .service => "vnscript.service"
  | .server => "vnscript.mcp"

structure LogRecord where
  level : LogLevel
  origin : Origin
  message : String
  deriving DecidableEq, Repr

namespace LogRecord

def line (r : LogRecord) : String := r.level.name ++ " " ++ r.origin.name ++ " " ++ r.message

/-- Whether a record is shown at a threshold. -/
def shownAt (threshold : LogLevel) (r : LogRecord) : Bool := threshold.rank ≤ r.level.rank

end LogRecord

/-- A value together with the records written while it was made. -/
structure Logged (α : Type) where
  records : List LogRecord
  value : α

namespace Logged

/-- The lines of the records that are shown at a threshold. -/
def lines {α : Type} (threshold : LogLevel) (l : Logged α) : List String :=
  (l.records.filter (·.shownAt threshold)).map (·.line)

end Logged

end StoryScript
