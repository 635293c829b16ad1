import Dispatch.Decimal

namespace Dispatch

inductive Level where
  | error
  | warn
  | info
  | debug
  | trace
  deriving DecidableEq, Inhabited

namespace Level

def all : List Level := [.error, .warn, .info, .debug, .trace]

def verbosity : Level → Nat
  | .error => 1
  | .warn => 2
  | .info => 3
  | .debug => 4
  | .trace => 5

def label : Level → String
  | .error => "ERROR"
  | .warn => "WARN"
  | .info => "INFO"
  | .debug => "DEBUG"
  | .trace => "TRACE"

def column (l : Level) : String :=
  l.label ++ String.ofList (List.replicate (5 - l.label.length) ' ')

def ofName? (name : String) : Option Level :=
  all.find? fun l => l.label == name.map Char.toUpper

end Level

structure LogEntry where
  level : Level
  target : String
  text : String
  deriving DecidableEq, Inhabited

namespace LogEntry

def stamped (level : Level) (time : Binary64) (target text : String) : LogEntry where
  level := level
  target := target
  text := "[" ++ time.toFixed 3 ++ " " ++ level.column ++ " " ++ target ++ "] " ++ text

end LogEntry

end Dispatch
