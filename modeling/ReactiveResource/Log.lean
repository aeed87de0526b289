/-!
# Log entries

What a component reports about its work: a level and a message. Entries are values, so that what is
reported is part of what an operation returns.
-/

namespace ReactiveResource

/-- The levels of a log entry, from the finest to the gravest. -/
inductive LogLevel where
  | trace
  | debug
  | info
  | warn
  | error
  deriving DecidableEq, Repr, Inhabited

/-- The name of a level. -/
def LogLevel.name : LogLevel → String
  | .trace => "trace"
  | .debug => "debug"
  | .info => "info"
  | .warn => "warn"
  | .error => "error"

/-- A level and a message. -/
structure LogEntry where
  level : LogLevel
  message : String
  deriving DecidableEq, Repr, Inhabited

namespace LogEntry

/-- An entry for those who follow the work in detail. -/
def debug (message : String) : LogEntry := { level := .debug, message }

/-- An entry for something that went wrong and was dealt with. -/
def warn (message : String) : LogEntry := { level := .warn, message }

/-- An entry for something that went wrong. -/
def error (message : String) : LogEntry := { level := .error, message }

end LogEntry

end ReactiveResource
