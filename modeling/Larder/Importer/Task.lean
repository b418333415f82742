import Larder.Importer.Import

/-!
# Larder — tasks

What a task does each time it runs, up to where it has to wait again. A task resolves imports one
after another, or awaits one pantry, or awaits every pantry that is known by location. An import
that is bound to no compilation is resolved by a task too; nothing can be recorded for it.

## Results

* `resume_of_ended`: a task that has ended does nothing more.
-/

namespace Larder

namespace State

/-- Goes on with the imports of a task until one is deferred or none is left. -/
def runImports (env : Setup) (t : Ticket) : List Import → List Outcome → State → State
  | [], outcomes, s => s.finish t (.imports [] outcomes) (.outcomes outcomes)
  | what :: rest, outcomes, s =>
    let r := s.resolve env what (.task t)
    let work := Work.imports rest outcomes
    match r.2 with
    | .answered .passThrough =>
      if env.passThrough.isNull then r.1.setTask t ⟨work, .suspended⟩
      else runImports env t rest (outcomes ++ [.passThrough]) r.1
    | .answered outcome => runImports env t rest (outcomes ++ [outcome]) r.1
    | .deferred _ => r.1.setTask t ⟨work, .suspended⟩
    | .noLoop => r.1.finish t work (.fault .noRunningLoop)

/-- Ends a task whose import was passed through; where nothing is what the host takes for that, the
task cannot tell it from a deferred import and waits. -/
def passUnbound (env : Setup) (t : Ticket) (work : Work) (s : State) : State :=
  if env.passThrough.isNull then s.setTask t ⟨work, .suspended⟩
  else s.finish t work (.outcomes [.passThrough])

/-- Defers an import that is bound to no compilation. -/
def deferUnbound (env : Setup) (t : Ticket) (work : Work) (specifier : String)
    (citation : Citation) (s : State) : State :=
  let s := s.note (.deferredUnbound t specifier citation.pantryName)
  let r := s.request env citation.pantryName
  (r.1.attach r.2 (.unbound specifier citation t)).setTask t ⟨work, .suspended⟩

/-- Lets a task resolve an import that is bound to no compilation. -/
def runUnbound (env : Setup) (t : Ticket) (specifier file : Value) (s : State) : State :=
  let work := Work.unbound specifier file
  match classify env.cwd specifier file with
  | .absolute _ => passUnbound env t work s
  | .unrecognized _ => passUnbound env t work s
  | .relative path =>
    if s.inPantry env path then s.finish t work (.fault .noSession)
    else passUnbound env t work s
  | .ingredient citation =>
    match s.cache.get? citation.pantryName with
    | some pantry =>
      match resolveUnbound env specifier.text pantry citation.ingredientName with
      | .ok outcome => s.finish t work (.outcomes [outcome])
      | .error fault => s.finish t work (.fault fault)
    | none => deferUnbound env t work specifier.text citation s

/-- Lets a task await one pantry. -/
def awaitPantry (env : Setup) (t : Ticket) (name : String) (s : State) : State :=
  let r := s.request env name
  match r.2 with
  | .ready pantry => r.1.finish t (.pantry name) (.pantry pantry)
  | .shared i => (r.1.attach (.shared i) (.resolver t)).setTask t ⟨.pantry name, .suspended⟩

/-- Lets a task await pantries, the first of them for the given place in its list. -/
def awaitAll (env : Setup) (t : Ticket) : Nat → List String → State → State
  | _, [], s => s
  | slot, name :: rest, s =>
    let r := s.request env name
    awaitAll env t (slot + 1) rest (r.1.attach r.2 (.collector t slot))

/-- Lets a task await all pantries that are known by location. -/
def awaitSeeds (env : Setup) (t : Ticket) (s : State) : State :=
  let names := s.cache.locations.keys
  if names = [] then s.finish t (.preload []) (.pantries [])
  else (awaitAll env t 0 names s).setTask t ⟨.preload (names.map fun _ => none), .suspended⟩

/-- Lets a task begin. -/
def begin (env : Setup) (s : State) (t : Ticket) : Work → State
  | .imports rest outcomes => runImports env t rest outcomes s
  | .unbound specifier file => runUnbound env t specifier file s
  | .pantry name => awaitPantry env t name s
  | .preload _ => awaitSeeds env t s

/-- Lets a task go on with what it was woken with. -/
def goOn (env : Setup) (s : State) (t : Ticket) (work : Work) : Wake → State
  | .outcome outcome =>
    match work with
    | .imports rest outcomes => runImports env t rest (outcomes ++ [outcome]) s
    | _ => s.finish t work (.outcomes [outcome])
  | .pantry pantry => s.finish t work (.pantry pantry)
  | .pantries pantries => s.finish t work (.pantries pantries)
  | .fault fault => s.finish t work (.fault fault)
  | .cancelled => s.finish t work .cancelled

/-- Runs a task up to where it has to wait again. -/
def resume (env : Setup) (s : State) (t : Ticket) : State :=
  match s.tasks.get? t with
  | some ⟨work, .ready⟩ => s.begin env t work
  | some ⟨work, .woken w⟩ => s.goOn env t work w
  | _ => s

/-- A task that has ended does nothing more. -/
theorem resume_of_ended {env : Setup} {s : State} {t : Ticket} {work : Work} {result : TaskResult}
    (h : s.tasks.get? t = some ⟨work, .ended result⟩) : s.resume env t = s := by
  simp [resume, h]

end State

end Larder
