/-!
# Larder — the package logger

The logger of the package and what showing debug records does to it: it gets one handler, its level
is lowered and its records no longer go to the loggers above. Asking again changes nothing, so no
record is shown twice.
-/

namespace Larder

/-- How serious a record has to be to be shown. -/
inductive LogLevel where
  /-- Nothing is decided; the logger above decides. -/
  | notSet
  /-- Every record is shown. -/
  | debug
  deriving DecidableEq, Repr

/-- The name of a level. -/
def LogLevel.name : LogLevel → String
  | notSet => "NOTSET"
  | debug => "DEBUG"

/-- The logger of the package. -/
structure Logger where
  /-- The number of its handlers. -/
  handlers : Nat := 0
  level : LogLevel := .notSet
  /-- Whether its records go to the loggers above too. -/
  propagates : Bool := true
  /-- Whether debug records were asked for. -/
  verbose : Bool := false
  deriving DecidableEq, Repr

namespace Logger

/-- Asks for debug records. -/
def enableVerbose (l : Logger) : Logger :=
  if l.verbose then l else ⟨l.handlers + 1, .debug, false, true⟩

/-- What is shown of debug records: each of them once by each handler. Without a level of its own the
logger leaves them to the loggers above, which show none. -/
def shown (l : Logger) (records : List String) : List String :=
  match l.level with
  | .notSet => []
  | .debug => records.flatMap (List.replicate l.handlers)

/-- The logger after each of so many times that debug records were asked for. -/
def afterEach : Nat → Logger → List Logger
  | 0, _ => []
  | n + 1, l => l.enableVerbose :: afterEach n l.enableVerbose

end Logger

end Larder
