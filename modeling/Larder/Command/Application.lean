import Larder.Command.Arguments
import Larder.Command.Ingredients
import Larder.Command.Resolve
import Larder.Journal
import Larder.Logger

/-!
# Larder — the command line

The command line names a command and gives its options and arguments. Arguments that cannot be read
end with status 2 and say nothing on the standard output. With the verbose flag the debug records
of the importer are shown too. A command that was stopped ends the program with status 1.
-/

namespace Larder

/-- What an option of a command sets. -/
inductive CommandOption where
  /-- The document that the imports stand in. -/
  | importingFile
  | searchPath
  /-- The location of a pantry. -/
  | pantry
  | json
  | verbose
  deriving DecidableEq, Repr

/-- A command that was read from the command line. -/
inductive Invocation where
  | resolve (options : ResolveOptions) (verbose : Bool)
  | ingredients (name : String) (searchPaths : List Path) (verbose : Bool)

/-- What the command line came to. -/
structure Exit where
  status : Nat
  /-- What is printed on the standard output. -/
  stdout : String
  /-- The debug records. -/
  log : List String

namespace Application

/-- The options of the resolve command. -/
def resolveSpecs : List (OptionSpec CommandOption) :=
  [⟨.importingFile, "--from", none, true⟩, ⟨.searchPath, "--search-path", some 's', true⟩,
    ⟨.pantry, "--pantry", some 'p', true⟩, ⟨.json, "--json", none, false⟩,
    ⟨.verbose, "--verbose", some 'v', false⟩]

/-- The options of the ingredients command. -/
def ingredientsSpecs : List (OptionSpec CommandOption) :=
  [⟨.searchPath, "--search-path", some 's', true⟩, ⟨.verbose, "--verbose", some 'v', false⟩]

/-- The path that the value of an option names. No path has a NUL in it. -/
def readPath (value : String) : Except UsageFault Path :=
  if value.toList.contains '\x00' then .error (.notAPath value) else .ok (Path.ofString value)

/-- The search paths among arguments. -/
def searchPathsOf (a : Arguments CommandOption) : Except UsageFault (List Path) :=
  (a.valuesOf .searchPath).mapM readPath

/-- The document among arguments: the last one that is given counts. -/
def importingFileOf (a : Arguments CommandOption) : Except UsageFault (Option Path) :=
  match (a.valuesOf .importingFile).getLast? with
  | none => .ok none
  | some value => (readPath value).map some

/-- Reads the arguments of the resolve command. -/
def readResolve (args : List String) : Except UsageFault Invocation := do
  let a ← Arguments.read resolveSpecs none args
  let importingFile ← importingFileOf a
  let searchPaths ← searchPathsOf a
  if a.positional = [] then .error .missingArgument
  else
    .ok (.resolve ⟨a.positional, importingFile, searchPaths, a.valuesOf .pantry, a.isSet .json⟩
      (a.isSet .verbose))

/-- Reads the arguments of the ingredients command. -/
def readIngredients (args : List String) : Except UsageFault Invocation := do
  let a ← Arguments.read ingredientsSpecs none args
  let searchPaths ← searchPathsOf a
  match a.positional with
  | [] => .error .missingArgument
  | [name] => .ok (.ingredients name searchPaths (a.isSet .verbose))
  | _ :: extra :: _ => .error (.extraArgument extra)

/-- Reads a command name and its arguments. -/
def readCommand : List String → Except UsageFault Invocation
  | [] => .error .missingCommand
  | name :: args =>
    if name = "resolve" then readResolve args
    else if name = "ingredients" then readIngredients args
    else .error (.noSuchCommand name)

/-- Reads the command line. -/
def read : List String → Except UsageFault Invocation
  | [] => .error .missingCommand
  | first :: rest =>
    if first = "--" then readCommand rest
    else if Arguments.isOption first then .error (.noSuchOption first)
    else readCommand (first :: rest)

/-- The logger that a command works with. -/
def logger (verbose : Bool) : Logger := if verbose then Logger.enableVerbose {} else {}

/-- What a run of a command prints and ends the program with. -/
def exit (c : Console) (glyphs verbose : Bool) (r : Run) : Exit where
  status := r.status.getD 1
  stdout := String.join (r.outputs.map (Output.text c glyphs))
  log := (logger verbose).shown (Event.recordLines r.history)

/-- Runs a command. -/
def invoke (w : World) : Invocation → Exit
  | .resolve options verbose => exit w.console (!options.asJson) verbose (Resolve.run w options)
  | .ingredients name searchPaths verbose =>
    exit w.console true verbose (Ingredients.run w name searchPaths)

/-- Runs the command line. -/
def run (w : World) (args : List String) : Exit :=
  match read args with
  | .error _ => ⟨2, "", []⟩
  | .ok invocation => invoke w invocation

end Application

end Larder
