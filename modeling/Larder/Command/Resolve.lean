import Larder.Command.Session
import Larder.Report

/-!
# Larder — the resolve command

Resolves specifiers in order, within one compilation and as imports of one document, and reports
the outcomes: as one JSON object per line, or as a table with a message for each failure. Pantries
known by location start loading first. The exit status is 1 when an import failed and 2 when the
options are refused. The texts in the table are whatever was imported and came of it; with one that
the console cannot read as markup, the command is stopped before it has a status.

## Results

* `Resolve.all_accepts_report`: when all there is to say can be printed.
-/

namespace Larder

/-- The options of the resolve command. -/
structure ResolveOptions where
  specifiers : List String
  /-- The document that the imports stand in. -/
  importingFile : Option Path
  /-- Where pantries are looked for; without any the default holds. -/
  searchPaths : List Path
  /-- The locations of pantries, as `NAME=DIR`. -/
  pantries : List String
  /-- Whether outcomes are reported as JSON. -/
  asJson : Bool

namespace Resolve

/-- The document that imports without a document stand in. -/
def standardInput : Component := ⟨"stdin", by decide +kernel⟩

/-- The document that the imports stand in. -/
def origin (cwd : Path) (file : Option Path) : Path :=
  match file with
  | some path => cwd.anchor path
  | none => cwd.child standardInput

/-- The imports of the specifiers, all in one compilation. -/
def imports (document : Path) (specifiers : List String) : List Import :=
  specifiers.map fun s => ⟨.unnamed 0, .str s, .str document.toString⟩

/-- The outcomes that a task of imports ended with. -/
def outcomes (s : State) (t : Ticket) : List Outcome :=
  match s.taskResult? t with
  | some (.outcomes os) => os
  | _ => []

/-- The state of an importer after it resolved imports, and the number of the task that did. -/
def settled (env : Setup) (s : State) (what : List Import) : State × Ticket :=
  let r := s.resolveAll env what
  (r.1.drain env, r.2)

/-- The rows of specifiers with their outcomes. -/
def rows (specifiers : List String) (os : List Outcome) : List Row :=
  List.zipWith Row.ofOutcome specifiers os

/-- The exit status for rows. -/
def status (rs : List Row) : Nat := if rs.any Row.isError then 1 else 0

/-- The table of rows. -/
def table (document : Path) (rs : List Row) : Table where
  title := "Imports from " ++ document.toString
  columns := ["Specifier", "Outcome", "Detail"]
  rows := rs.map fun r => [r.specifier, r.label, r.detail]
  styles := rs.map fun r => if r.isError then some "red" else none

/-- The message for a row that is an error. -/
def failureMessage (r : Row) : String :=
  "Failed to resolve \"" ++ r.specifier ++ "\": " ++ r.detail

/-- What there is to say of rows: JSON lines, or a table and the messages after it. -/
def report (asJson : Bool) (document : Path) (rs : List Row) : List Output :=
  if asJson then rs.map fun r => .echo r.toJson
  else
    .table (table document rs) ::
      (if rs.any Row.isError then
        (rs.filter Row.isError).map fun r => .message .fail (failureMessage r)
      else [.message .ok ("Resolved " ++ toString rs.length ++ " import(s)")])

/-- All there is to say of rows can be printed if it is JSON or if their table can. -/
theorem all_accepts_report (c : Console) (asJson : Bool) (document : Path) (rs : List Row) :
    (report asJson document rs).all c.accepts = (asJson || c.prints (table document rs)) := by
  cases asJson with
  | true => simp [report, Console.accepts]
  | false =>
    by_cases hError : rs.any Row.isError = true <;> simp [report, hError, Console.accepts]

/-- Runs the resolve command. -/
def run (w : World) (o : ResolveOptions) : Run :=
  match configOf w.cwd o.searchPaths o.pantries with
  | .error fault => ⟨some 2, [.message .fail fault.message], []⟩
  | .ok config =>
    let document := origin w.cwd o.importingFile
    let s := settled (w.setup config true) (w.importer config) (imports document o.specifiers)
    let rs := rows o.specifiers (outcomes s.1 s.2)
    w.console.conclude (status rs) (report o.asJson document rs) s.1.history

end Resolve

end Larder
