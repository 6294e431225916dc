namespace GraphBoard.Log

inductive Level where
  | error
  | warn
  | info
  | debug
  deriving DecidableEq, Repr

namespace Level

/-- All severities, the gravest first. -/
def all : List Level := [.error, .warn, .info, .debug]

def name : Level → String
  | .error => "error"
  | .warn => "warn"
  | .info => "info"
  | .debug => "debug"

def fileName (level : Level) : String := level.name ++ ".log"

def ofName? (name : String) : Option Level := all.find? (·.name == name)

end Level

structure Line where
  level : Level
  text : String
  deriving DecidableEq, Repr

def textsOf (level : Level) (lines : List Line) : List String :=
  (lines.filter (·.level == level)).map Line.text

end GraphBoard.Log
