/-!
# Diagnostic records

What the library has to say besides its results: a level, a message and named fields, already
written as text.
-/

namespace MetricRelay

inductive Diagnostic.Level where
  | debug
  | warn
  | error
deriving DecidableEq, Repr

def Diagnostic.Level.text : Diagnostic.Level → String
  | .debug => "DEBUG"
  | .warn => "WARN"
  | .error => "ERROR"

structure Diagnostic where
  level : Diagnostic.Level
  message : String
  fields : List (String × String)
deriving DecidableEq, Repr

end MetricRelay
