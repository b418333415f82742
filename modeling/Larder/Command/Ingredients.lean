import Larder.Command.Session

/-!
# Larder — the ingredients command

Finds a pantry and lists the ingredients that it publishes, by name, with their entry points and
places. The exit status is 1 when there is no such pantry. A list with a text that the console cannot
read as markup stops the command.
-/

namespace Larder

namespace Ingredients

/-- Puts a pair at its place in a list sorted by key. -/
def insertByKey (e : String × α) : List (String × α) → List (String × α)
  | [] => [e]
  | f :: rest => if e.1 ≤ f.1 then e :: f :: rest else f :: insertByKey e rest

/-- Pairs in the order of their keys, code point by code point. -/
def sortByKey : List (String × α) → List (String × α)
  | [] => []
  | e :: rest => insertByKey e (sortByKey rest)

/-- The entry points of an ingredient as a list of `kind=file`, or a dash if it has none. -/
def entryPointsCell (i : Ingredient) : String :=
  if i.entryPoints.entries = [] then "-"
  else ", ".intercalate ((sortByKey i.entryPoints.entries).map fun e => e.1 ++ "=" ++ e.2)

/-- The title over the ingredients of a pantry. -/
def title (p : Pantry) : String :=
  let name := p.name.getD "None"
  match p.path with
  | some path => name ++ " (" ++ path.toString ++ ")"
  | none => name

/-- The ingredients of a pantry as a table. -/
def table (p : Pantry) : Table where
  title := title p
  columns := ["Ingredient", "Entry points", "Path"]
  rows := (sortByKey p.ingredients.entries).map fun e =>
    [e.1, entryPointsCell e.2, e.2.path.toString]
  styles := p.ingredients.entries.map fun _ => none

/-- What there is to say of a pantry that was found. -/
def report (name : String) (p : Pantry) : List Output :=
  if p.ingredients.entries = [] then
    [.message .warn ("Pantry \"" ++ name ++ "\" publishes no ingredients")]
  else [.table (table p)]

/-- The state of an importer after a task of its awaited a pantry, and the number of that task. -/
def settled (env : Setup) (s : State) (name : String) : State × Ticket :=
  ((s.startTask env (.pantry name)).1.drain env, s.tickets)

/-- What the task of a command came to, in words. -/
def conclude (name : String) : Option TaskResult → Nat × List Output
  | some (.pantry p) => (0, report name p)
  | some (.fault fault) => (1, [.message .fail fault.message])
  | _ => (1, [])

/-- Runs the ingredients command. -/
def run (w : World) (name : String) (searchPaths : List Path) : Run :=
  match configOf w.cwd searchPaths [] with
  | .error fault => ⟨some 2, [.message .fail fault.message], []⟩
  | .ok config =>
    let s := settled (w.setup config true) (w.importer config) name
    let result := conclude name (s.1.taskResult? s.2)
    w.console.conclude result.1 result.2 s.1.history

end Ingredients

end Larder
