import Larder.Importer.Progress
import Larder.Importer.Action
import Mathlib.Logic.Relation

/-!
# Larder — the moves of an importer

An action may do many things at once: a completion callback imports again and again, a task goes
through its imports until one is deferred, a discovery that is answered at once starts and ends in
one job. Whatever an importer does is a chain of *moves*, each small enough that an invariant can
be checked on it. `Move` lists them with everything that is known when they are made.

A job leaves the queue with the last of its moves that needs it: a task that resolves three imports
is taken out of the queue when it ends or waits, not when it begins. So in every state between two
moves, who is to run next is still read off the queue.

Cancelling a promise is a move of its own, which is open to some runs only (`cancels`).

## Results

* `Move`: the moves, and what is known when one is made.
* `Moves.invariant`: what the moves keep, runs keep.
-/

namespace Larder

-- ---------------------------------------------------------------------------
-- Vocabulary
-- ---------------------------------------------------------------------------

/-- Whether a waiter is a deferred import that belongs to a compilation. -/
def Waiter.isImport : Waiter → Bool
  | .importing .. => true
  | _ => false

/-- Whether an event is a mere remark: nothing else changes with it. -/
def Event.isRemark : Event → Bool
  | .createdIdle => true
  | .joined _ => true
  | .nested .. => true
  | .deferredUnbound .. => true
  | .refused .. => true
  | _ => false

/-- Whether a task can run. -/
def Phase.isRunnable : Phase → Bool
  | .ready => true
  | .woken _ => true
  | _ => false

/-- Whether a task that runs goes on with imports: it has just begun, or an import was answered. -/
def Phase.takesImports : Phase → Bool
  | .ready => true
  | .woken (.outcome _) => true
  | _ => false

/-- Whether the work is an import that is bound to no compilation. -/
def Work.isUnbound : Work → Bool
  | .unbound .. => true
  | _ => false

/-- Whether a piece of work can be what another one has become. -/
def Work.Continues : Work → Work → Prop
  | .imports .., .imports .. => True
  | .unbound s f, .unbound s' f' => s = s' ∧ f = f'
  | .pantry m, .pantry n => m = n
  | .preload _, .preload _ => True
  | _, _ => False

theorem Work.Continues.refl (w : Work) : w.Continues w := by
  cases w <;> simp [Continues]

theorem Work.Continues.isUnbound_eq {w w' : Work} (h : w.Continues w') :
    w'.isUnbound = w.isUnbound := by
  cases w <;> cases w' <;> simp_all [Continues, isUnbound]

/-- An outcome for a path that was not given before: the file of the normalised path itself, or
leave to the host. -/
def Fresh (path : Path) (fresh : Outcome) : Prop :=
  path.normalize = path ∧ (fresh = .passThrough ∨ fresh = .file path.toString)

/-- Whether an action cancels a promise. -/
def Action.cancels : Action → Bool
  | .cancelRequest _ => true
  | .cancelPromise _ => true
  | _ => false

namespace Cache

/-- What a request for a name can have been given. -/
def Offers (c : Cache) (name : String) : State.Handle → Prop
  | .ready pantry => c.get? name = some pantry
  | .shared i => c.pending.get? name = some i

end Cache

namespace State

/-- The state with the next job taken out of the queue. -/
def pop (s : State) : State := { s with queue := s.queue.tail }

/-- Whether the work of a task is of some kind. -/
def TaskIs (s : State) (t : Ticket) (kind : Work → Prop) : Prop :=
  ∃ work phase, s.tasks.get? t = some ⟨work, phase⟩ ∧ kind work

/-- Whether someone who is no import of a compilation may wait for a pantry: tasks wait for what
their work needs, a task that needs several pantries asks for them when it begins, and observers
have a number. -/
def Admits (s : State) (name : String) : Waiter → Prop
  | .importing .. => False
  | .unbound _ citation t => citation.pantryName = name ∧ s.TaskIs t (Work.isUnbound · = true)
  | .observer t => t < s.tickets
  | .resolver t => s.TaskIs t (· = .pantry name)
  | .collector t _ => ∃ slots, s.tasks.get? t = some ⟨.preload slots, .ready⟩
  | .prefetcher => True

/-- Whether there is nothing to do for a job. -/
def Idle (s : State) : Job → Prop
  | .launch i => s.cache.flights[i]? = none
  | .land i => ∀ f landing, s.cache.flights[i]? = some f → f.stage ≠ .landing landing
  | .notify .. => False
  | .resume t => ∀ task, s.tasks.get? t = some task → task.phase.isRunnable = false

-- ---------------------------------------------------------------------------
-- Moves
-- ---------------------------------------------------------------------------

/-- A move of an importer. -/
inductive Move (env : Setup) (cancels : Prop) : State → State → Prop where
  -- notes and numbers
  | remark {s e} (hRemark : Event.isRemark e = true) : Move env cancels s (s.note e)
  | number {s} : Move env cancels s s.takeTicket
  -- a compilation is answered for a path
  | give {s session path fresh} (hFresh : Fresh path fresh) :
      Move env cancels s (s.giveOnce session path fresh).1
  -- a pantry is asked for, and someone waits for it
  | request {s name} : Move env cancels s (s.request env name).1
  | attach {s name handle w} (hOffer : s.cache.Offers name handle) (hAdmit : s.Admits name w) :
      Move env cancels s (s.attach handle w)
  | defer {s session specifier citation script}
      (hNone : s.cache.get? citation.pantryName = none)
      (hSpelled : Citation.ofString? specifier = some citation) :
      Move env cancels s
        (s.defer env session specifier citation (.callback s.tickets script)).takeTicket
  | cancel {s name i} (hCancels : cancels) (hOffer : s.cache.Offers name (.shared i)) :
      Move env cancels s (s.settle i .cancelled)
  -- a discovery makes its call, comes back, and takes effect
  | launch {s i rest f} (hQueue : s.queue = .launch i :: rest)
      (hFlight : s.cache.flights[i]? = some f) :
      Move env cancels s
        ((s.pop.withCache (s.cache.setStage i .flying)).note (.called f.call))
  | landNow {s i f landing} (hFlight : s.cache.flights[i]? = some f) (hFlying : f.stage = .flying)
      (hAnswer : env.collaborator i f.call = some landing) :
      Move env cancels s (s.landWith i f.call.name landing)
  | comeBack {s i f landing} (hFlight : s.cache.flights[i]? = some f)
      (hFlying : f.stage = .flying) :
      Move env cancels s
        ((s.withCache (s.cache.setStage i (.landing landing))).enqueue [.land i])
  | land {s i rest f landing} (hQueue : s.queue = .land i :: rest)
      (hFlight : s.cache.flights[i]? = some f) (hLanding : f.stage = .landing landing) :
      Move env cancels s (s.pop.landWith i f.call.name landing)
  -- those who wait are told
  | deliver {s settlement specifier citation session t script rest}
      (hQueue : s.queue =
        .notify settlement (.importing specifier citation session (.callback t script)) :: rest) :
      Move env cancels s
        ((s.pop.complete env session specifier citation settlement).1.note
          (.delivered t (s.pop.complete env session specifier citation settlement).2))
  | hand {s settlement specifier citation session t rest}
      (hQueue : s.queue =
        .notify settlement (.importing specifier citation session (.task t)) :: rest) :
      Move env cancels s
        ((s.pop.complete env session specifier citation settlement).1.handOver t
          (s.pop.complete env session specifier citation settlement).2)
  | tell {s settlement w rest} (hQueue : s.queue = .notify settlement w :: rest)
      (hOther : w.isImport = false) : Move env cancels s (s.pop.notify env settlement w)
  -- tasks begin, are cancelled, wait and end
  | startTask {s work} : Move env cancels s (s.startTask env work).1
  | cancelTask {s t} : Move env cancels s (s.cancelTask t).1
  | deferTask {s t rest work phase session specifier citation more outcomes}
      (hQueue : s.queue = .resume t :: rest) (hTask : s.tasks.get? t = some ⟨work, phase⟩)
      (hPhase : phase.takesImports = true) (hWork : work.Continues (.imports more outcomes))
      (hNone : s.cache.get? citation.pantryName = none)
      (hSpelled : Citation.ofString? specifier = some citation) :
      Move env cancels s
        ((s.pop.defer env session specifier citation (.task t)).setTask t
          ⟨.imports more outcomes, .suspended⟩)
  | park {s t rest work work' phase} (hQueue : s.queue = .resume t :: rest)
      (hTask : s.tasks.get? t = some ⟨work, phase⟩) (hPhase : phase.isRunnable = true)
      (hWork : work.Continues work') : Move env cancels s (s.pop.setTask t ⟨work', .suspended⟩)
  | finish {s t rest work work' phase result} (hQueue : s.queue = .resume t :: rest)
      (hTask : s.tasks.get? t = some ⟨work, phase⟩) (hPhase : phase.isRunnable = true)
      (hWork : work.Continues work') : Move env cancels s (s.pop.finish t work' result)
  -- a job that has nothing to do leaves the queue
  | skip {s job rest} (hQueue : s.queue = job :: rest) (hIdle : s.Idle job) :
      Move env cancels s s.pop

/-- A chain of moves. -/
abbrev Moves (env : Setup) (cancels : Prop) : State → State → Prop :=
  Relation.ReflTransGen (Move env cancels)

variable {env : Setup} {cancels : Prop} {s s' : State}

/-- What every move keeps, a chain of moves keeps. -/
theorem Moves.invariant {P : State → Prop}
    (hStep : ∀ s s', Move env cancels s s' → P s → P s') (h : Moves env cancels s s') (hs : P s) :
    P s' := by
  induction h with
  | refl => exact hs
  | tail _ hMove ih => exact hStep _ _ hMove ih

end State

end Larder
