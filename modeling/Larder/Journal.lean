import Larder.Importer.Types
import Larder.Text.Lines

/-!
# Larder — debug records

The journal of an importer as debug records: the name of a logger, a colon and what happened. Not
every event is worth a record.
-/

namespace Larder

namespace Event

/-- The logger of answered and deferred imports. -/
def importerLogger : String := "pantry_import.importer"

/-- The logger of requests and the ends of discoveries. -/
def cacheLogger : String := "pantry_import.pantry_cache"

/-- The logger of what discoveries tell. -/
def discoveryLogger : String := "pantry_import.discovery"

/-- The logger of suppressed imports. -/
def emissionLogger : String := "pantry_import.emission"

/-- What every logger's name starts with. -/
def loggerRoot : String := "pantry_import."

/-- A record of a logger. -/
def record (logger text : String) : String := logger ++ ": " ++ text

/-- The debug record of an event, if it leaves one. -/
def record? : Event → Option String
  | createdIdle =>
    some (record importerLogger "no running event loop; seeded pantries load on first import")
  | deferred _ specifier pantry =>
    some (record importerLogger
      ("deferring " ++ specifier ++ " until pantry " ++ pantry ++ " is resolved"))
  | deferredUnbound _ specifier pantry =>
    some (record importerLogger
      ("deferring " ++ specifier ++ " until pantry " ++ pantry ++ " is resolved"))
  | refused specifier pantry =>
    some (record importerLogger
      ("deferring " ++ specifier ++ " until pantry " ++ pantry ++ " is resolved"))
  | joined pantry =>
    some (record cacheLogger ("joining in-flight discovery of pantry " ++ pantry))
  | started pantry => some (record cacheLogger ("starting discovery of pantry " ++ pantry))
  | told (.found pantry path) =>
    some (record discoveryLogger ("pantry " ++ pantry ++ " found at " ++ path.toString))
  | told (.loaded pantry ingredients) =>
    some (record discoveryLogger
      ("loaded pantry " ++ pantry ++ " with " ++ toString ingredients ++ " ingredient(s)"))
  | resolved name _ => some (record cacheLogger ("pantry " ++ name ++ " resolved"))
  | failed pantry fault =>
    some (record cacheLogger ("discovery of pantry " ++ pantry ++ " failed: " ++ fault.message))
  | prefetchFailed fault => some (record cacheLogger ("prefetch failed: " ++ fault.message))
  | promiseCancelled pantry =>
    some (record importerLogger ("discovery of pantry " ++ pantry ++ " was cancelled"))
  | decided _ path outcome =>
    if outcome = Outcome.suppressed then
      some (record emissionLogger ("suppressing repeated import of " ++ path.toString))
    else none
  | _ => none

/-- The lines that the records of events begin, in order. A record may run over several lines. -/
def recordLines (events : List Event) : List String :=
  (events.filterMap record?).flatMap fun text =>
    (Text.splitLines text).filter fun line => loggerRoot.isPrefixOf line

end Event

end Larder
