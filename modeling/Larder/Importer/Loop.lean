import Larder.Importer.Task

/-!
# Larder — the event loop

The jobs of the queue are run one at a time, in order; running one may put others at the end.
`tick` runs the next job and `drain` runs them all.

## Results

* `tick_nil`: an empty queue leaves nothing to do.
-/

namespace Larder

namespace State

/-- Runs a job. -/
def perform (env : Setup) (s : State) : Job → State
  | .launch i => s.launch env i
  | .land i => s.land i
  | .notify settlement w => s.notify env settlement w
  | .resume t => s.resume env t

/-- Runs the next job, if there is one. -/
def tick (env : Setup) (s : State) : State :=
  match s.queue with
  | [] => s
  | job :: rest => ({ s with queue := rest }).perform env job

/-- An empty queue leaves nothing to do. -/
theorem tick_nil {env : Setup} {s : State} (h : s.queue = []) : s.tick env = s := by
  simp [tick, h]

/-- Runs so many jobs. -/
def run (env : Setup) : Nat → State → State
  | 0, s => s
  | n + 1, s => run env n (s.tick env)

/-! ## How many jobs are left

Each waiter, job and task is worth the number of jobs that it can still lead to, those included
that its scripts and imports lead to. -/

/-- The sum of numbers. -/
def total (ns : List Nat) : Nat := ns.foldr (fun n rest => n + rest) 0

@[simp] theorem total_nil : total [] = 0 := rfl

@[simp] theorem total_cons (n : Nat) (ns : List Nat) : total (n :: ns) = n + total ns := rfl

@[simp] theorem total_append (ms ns : List Nat) : total (ms ++ ns) = total ms + total ns := by
  induction ms with
  | nil => simp
  | cons m ms ih => rw [List.cons_append, total_cons, total_cons, ih, Nat.add_assoc]

/-- The jobs that the imports of a script can lead to. -/
def scriptWork : Script → Nat
  | .stop => 0
  | .fail => 0
  | .importing _ receive next => 2 + scriptWork receive + scriptWork next

/-- The jobs that telling someone can lead to, itself included. -/
def waiterWork : Waiter → Nat
  | .importing _ _ _ (.callback _ script) => 1 + scriptWork script
  | _ => 2

/-- The jobs that a job can lead to, itself included. -/
def jobWork : Job → Nat
  | .notify _ w => waiterWork w
  | _ => 1

/-- The jobs that settling a promise can lead to. -/
def promiseWork : Promise → Nat
  | .waiting ws => total (ws.map waiterWork)
  | .settled _ => 0

/-- The jobs that the rest of a task can lead to, when so many pantries are known by location. Only
imports are left to a task that has begun. -/
def taskWork (locations : Nat) (task : Task) : Nat :=
  match task.phase, task.work with
  | .ended _, _ => 0
  | _, .imports rest _ => 3 * rest.length
  | .ready, .unbound _ _ => 3
  | .ready, .pantry _ => 3
  | .ready, .preload _ => 3 * locations
  | _, _ => 0

/-- The jobs that the queue can lead to, those in it included. -/
def queueWork (s : State) : Nat := total (s.queue.map jobWork)

/-- The jobs that settling the promises can lead to. -/
def promisesWork (s : State) : Nat :=
  total (s.cache.flights.map fun f => promiseWork f.promise)

/-- The jobs that the tasks can lead to. -/
def tasksWork (s : State) : Nat :=
  total (s.tasks.values.map (taskWork s.cache.locations.keys.length))

/-- A bound on the number of jobs that are left: running a job uses some of it up. -/
def work (s : State) : Nat := s.queueWork + s.promisesWork + s.tasksWork

/-- Runs all jobs, those included that they put into the queue. -/
def drain (env : Setup) (s : State) : State := run env s.work s

end State

end Larder
