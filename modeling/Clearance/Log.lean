/-! Lines of the log, each with a level. -/

namespace Clearance

inductive LogLevel where
  | error | warn | info | debug
  deriving DecidableEq

def LogLevel.name : LogLevel → String
  | .error => "ERROR"
  | .warn => "WARN"
  | .info => "INFO"
  | .debug => "DEBUG"

structure LogLine where
  level : LogLevel
  text : String
  deriving DecidableEq

end Clearance
