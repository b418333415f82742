import Larder.Proofs.Importer.Move
import Larder.Proofs.Path.Normal

/-!
# Larder — what the elementary changes leave alone

Asking for a pantry, waiting for it, settling a promise, letting a discovery land, answering for a
path and waking a task each touch a part of the state and put jobs at the end of the queue. This
module says of each what it does to the other parts, so that later proofs need not look inside.

## Results

* `request_cases`: what a request can come to.
* `attach_cases`, `wake_cases`: what waiting and waking can do.
* `complete_cases`: what the outcome of a deferred import can be.
* `aside_notify`, `aside_finish` and others: what tasks do concerns nobody else.
-/

namespace Larder

/-- Whether an event concerns tasks and observers only. -/
def Event.isAside : Event → Bool
  | .handed .. => true
  | .observed .. => true
  | .finished .. => true
  | .promiseCancelled _ => true
  | .prefetchFailed _ => true
  | _ => false

/-- Changing one element of a list changes its own part of what is gathered from the list. -/
theorem flatMap_modify {α β : Type} (p : α → List β) (change : α → α) {l : List α} {i : Nat} {a : α}
    (h : l[i]? = some a) :
    ∃ rest, (l.flatMap p).Perm (p a ++ rest) ∧
      ((l.modify i change).flatMap p).Perm (p (change a) ++ rest) := by
  induction l generalizing i with
  | nil => simp at h
  | cons b l ih =>
    cases i with
    | zero =>
      obtain rfl : b = a := by simpa using h
      exact ⟨l.flatMap p, by simp, by simp⟩
    | succ i =>
      obtain ⟨rest, hOld, hNew⟩ := ih h
      have hMove : ∀ (xs : List β) (ys : List β), (p b ++ (xs ++ ys)).Perm (xs ++ (p b ++ ys)) :=
        fun xs ys => by
          rw [← List.append_assoc, ← List.append_assoc]
          exact (List.perm_append_comm).append_right ys
      refine ⟨p b ++ rest, ?_, ?_⟩
      · rw [List.flatMap_cons]
        exact (hOld.append_left (p b)).trans (hMove (p a) rest)
      · rw [List.modify_succ_cons, List.flatMap_cons]
        exact (hNew.append_left (p b)).trans (hMove (p (change a)) rest)

/-- What is counted among the events of a kind is counted among all of them. -/
theorem countP_filter_kind {p kind : Event → Bool} (h : ∀ e, p e = true → kind e = true)
    (es : List Event) : (es.filter kind).countP p = es.countP p := by
  rw [List.countP_filter]
  refine List.countP_congr fun e _ => ?_
  rw [Bool.and_eq_true]
  exact ⟨And.left, fun hp => ⟨hp, h e hp⟩⟩

namespace State

variable {env : Setup} {s : State} {name : String} {handle : Handle} {w : Waiter}

-- ---------------------------------------------------------------------------
-- Notes, jobs and numbers
-- ---------------------------------------------------------------------------

section Fields

variable (s : State) (e : Event) (jobs : List Job) (c : Cache) (t : Ticket) (task : Task)

@[simp] theorem cache_note : (s.note e).cache = s.cache := rfl
@[simp] theorem queue_note : (s.note e).queue = s.queue := rfl
@[simp] theorem sessions_note : (s.note e).sessions = s.sessions := rfl
@[simp] theorem tasks_note : (s.note e).tasks = s.tasks := rfl
@[simp] theorem tickets_note : (s.note e).tickets = s.tickets := rfl
@[simp] theorem journal_note : (s.note e).journal = e :: s.journal := rfl

@[simp] theorem cache_enqueue : (s.enqueue jobs).cache = s.cache := rfl
@[simp] theorem queue_enqueue : (s.enqueue jobs).queue = s.queue ++ jobs := rfl
@[simp] theorem sessions_enqueue : (s.enqueue jobs).sessions = s.sessions := rfl
@[simp] theorem tasks_enqueue : (s.enqueue jobs).tasks = s.tasks := rfl
@[simp] theorem tickets_enqueue : (s.enqueue jobs).tickets = s.tickets := rfl
@[simp] theorem journal_enqueue : (s.enqueue jobs).journal = s.journal := rfl

@[simp] theorem cache_withCache : (s.withCache c).cache = c := rfl
@[simp] theorem queue_withCache : (s.withCache c).queue = s.queue := rfl
@[simp] theorem sessions_withCache : (s.withCache c).sessions = s.sessions := rfl
@[simp] theorem tasks_withCache : (s.withCache c).tasks = s.tasks := rfl
@[simp] theorem tickets_withCache : (s.withCache c).tickets = s.tickets := rfl
@[simp] theorem journal_withCache : (s.withCache c).journal = s.journal := rfl

@[simp] theorem cache_takeTicket : s.takeTicket.cache = s.cache := rfl
@[simp] theorem queue_takeTicket : s.takeTicket.queue = s.queue := rfl
@[simp] theorem sessions_takeTicket : s.takeTicket.sessions = s.sessions := rfl
@[simp] theorem tasks_takeTicket : s.takeTicket.tasks = s.tasks := rfl
@[simp] theorem tickets_takeTicket : s.takeTicket.tickets = s.tickets + 1 := rfl
@[simp] theorem journal_takeTicket : s.takeTicket.journal = s.journal := rfl

@[simp] theorem cache_setTask : (s.setTask t task).cache = s.cache := rfl
@[simp] theorem queue_setTask : (s.setTask t task).queue = s.queue := rfl
@[simp] theorem sessions_setTask : (s.setTask t task).sessions = s.sessions := rfl
@[simp] theorem tasks_setTask : (s.setTask t task).tasks = s.tasks.insert t task := rfl
@[simp] theorem tickets_setTask : (s.setTask t task).tickets = s.tickets := rfl
@[simp] theorem journal_setTask : (s.setTask t task).journal = s.journal := rfl

@[simp] theorem cache_pop : s.pop.cache = s.cache := rfl
@[simp] theorem queue_pop : s.pop.queue = s.queue.tail := rfl
@[simp] theorem sessions_pop : s.pop.sessions = s.sessions := rfl
@[simp] theorem tasks_pop : s.pop.tasks = s.tasks := rfl
@[simp] theorem tickets_pop : s.pop.tickets = s.tickets := rfl
@[simp] theorem journal_pop : s.pop.journal = s.journal := rfl

end Fields

-- ---------------------------------------------------------------------------
-- Requests
-- ---------------------------------------------------------------------------

/-- A pantry at hand is given and nothing happens; a discovery under way is joined; else one is
started. -/
theorem request_cases (env : Setup) (s : State) (name : String) :
    (∃ pantry, s.cache.get? name = some pantry ∧ s.request env name = (s, .ready pantry)) ∨
    (∃ i, s.cache.get? name = none ∧ s.cache.joinable? name = some i ∧
      s.request env name = (s.note (.joined name), .shared i)) ∨
    (s.cache.get? name = none ∧ s.cache.joinable? name = none ∧
      s.request env name =
        (((s.withCache (s.cache.start env.searchPaths name)).note (.started name)).enqueue
          [.launch s.cache.flights.length], .shared s.cache.flights.length)) := by
  cases hGet : s.cache.get? name with
  | some pantry =>
    refine Or.inl ⟨pantry, rfl, ?_⟩
    simp [request, Cache.request, hGet, withCache, afterRequest, Handle.ofRequested]
  | none =>
    refine Or.inr ?_
    cases hJoin : s.cache.joinable? name with
    | some i =>
      refine Or.inl ⟨i, rfl, rfl, ?_⟩
      simp [request, Cache.request, hGet, hJoin, withCache, afterRequest, Handle.ofRequested]
    | none =>
      refine Or.inr ⟨rfl, rfl, ?_⟩
      simp [request, Cache.request, hGet, hJoin, afterRequest, Handle.ofRequested]

theorem pending_of_joinable {c : Cache} {i : FlightId} (h : c.joinable? name = some i) :
    c.pending.get? name = some i := by
  unfold Cache.joinable? at h
  split at h
  · exact absurd h (by simp)
  · split at h <;> simp_all

/-- A request gives what the cache then has to offer for the name. -/
theorem offers_request (env : Setup) (s : State) (name : String) :
    (s.request env name).1.cache.Offers name (s.request env name).2 := by
  rcases request_cases env s name with ⟨p, hGet, h⟩ | ⟨i, _, hJoin, h⟩ | ⟨_, _, h⟩ <;> rw [h]
  · exact hGet
  · exact pending_of_joinable hJoin
  · exact Cache.pending_start _ _ _

theorem tickets_request (env : Setup) (s : State) (name : String) :
    (s.request env name).1.tickets = s.tickets := by
  rcases request_cases env s name with ⟨p, _, h⟩ | ⟨i, _, _, h⟩ | ⟨_, _, h⟩ <;> rw [h] <;> rfl

/-- Asking for a pantry brings none. -/
theorem get?_request (env : Setup) (s : State) (asked name : String) :
    (s.request env asked).1.cache.get? name = s.cache.get? name := by
  rcases request_cases env s asked with ⟨p, _, h⟩ | ⟨i, _, _, h⟩ | ⟨_, _, h⟩ <;> rw [h] <;> rfl

-- ---------------------------------------------------------------------------
-- Waiting
-- ---------------------------------------------------------------------------

/-- One who waits is told in a job of their own, or is added to those who wait for a promise; only
a promise that is not there is waited for in vain. -/
theorem attach_cases (s : State) (handle : Handle) (w : Waiter) :
    (∃ settlement, s.attach handle w = s.enqueue [.notify settlement w]) ∨
    (∃ i ws, handle = .shared i ∧ s.cache.promise? i = some (.waiting ws) ∧
      s.attach handle w = s.withCache (s.cache.setPromise i (.waiting (ws ++ [w])))) ∨
    (∃ i, handle = .shared i ∧ s.cache.promise? i = none ∧ s.attach handle w = s) := by
  cases handle with
  | ready pantry => exact Or.inl ⟨.kept pantry, rfl⟩
  | shared i =>
    simp only [attach]
    split
    · rename_i ws h
      exact Or.inr (Or.inl ⟨i, ws, rfl, h, rfl⟩)
    · rename_i settlement _
      exact Or.inl ⟨settlement, rfl⟩
    · rename_i h
      exact Or.inr (Or.inr ⟨i, rfl, h, rfl⟩)

theorem sessions_attach (s : State) (handle : Handle) (w : Waiter) :
    (s.attach handle w).sessions = s.sessions := by
  rcases attach_cases s handle w with ⟨_, h⟩ | ⟨_, _, _, _, h⟩ | ⟨_, _, _, h⟩ <;> rw [h] <;> rfl

theorem tickets_attach (s : State) (handle : Handle) (w : Waiter) :
    (s.attach handle w).tickets = s.tickets := by
  rcases attach_cases s handle w with ⟨_, h⟩ | ⟨_, _, _, _, h⟩ | ⟨_, _, _, h⟩ <;> rw [h] <;> rfl

theorem journal_attach (s : State) (handle : Handle) (w : Waiter) :
    (s.attach handle w).journal = s.journal := by
  rcases attach_cases s handle w with ⟨_, h⟩ | ⟨_, _, _, _, h⟩ | ⟨_, _, _, h⟩ <;> rw [h] <;> rfl

theorem get?_attach (s : State) (handle : Handle) (w : Waiter) (name : String) :
    (s.attach handle w).cache.get? name = s.cache.get? name := by
  rcases attach_cases s handle w with ⟨_, h⟩ | ⟨_, _, _, _, h⟩ | ⟨_, _, _, h⟩ <;> rw [h] <;> rfl

-- ---------------------------------------------------------------------------
-- Ends of discoveries
-- ---------------------------------------------------------------------------

/-- Of the end of a discovery the journal tells the result, besides what was told on the way. -/
theorem filter_journal_landWith (kind : Event → Bool) (hTold : ∀ n, kind (.told n) = false)
    (s : State) (i : FlightId) (name : String) (landing : Landing) :
    (s.landWith i name landing).journal.filter kind =
      [resultEvent name (conclude name landing.returned)].filter kind ++
        s.journal.filter kind := by
  have hNone : (landing.notes.map Event.told).reverse.filter kind = [] := by
    simp [List.filter_eq_nil_iff, hTold]
  rw [← List.filter_append, List.singleton_append]
  simp [landWith, settle, noteAll, List.filter_cons, hNone]

-- ---------------------------------------------------------------------------
-- Tasks
-- ---------------------------------------------------------------------------

/-- A task that awaits something is woken; any other is left alone. -/
theorem wake_cases (s : State) (t : Ticket) (w : Wake) :
    (∃ work, s.tasks.get? t = some ⟨work, .suspended⟩ ∧
      s.wake t w = (s.setTask t ⟨work, .woken w⟩).enqueue [.resume t]) ∨
    s.wake t w = s := by
  unfold wake
  split
  · rename_i work h
    exact Or.inl ⟨work, h, rfl⟩
  · exact Or.inr rfl

@[simp] theorem tickets_wake (s : State) (t : Ticket) (w : Wake) :
    (s.wake t w).tickets = s.tickets := by
  rcases wake_cases s t w with ⟨_, _, h⟩ | h
  · rw [h]
    rfl
  · rw [h]

@[simp] theorem journal_wake (s : State) (t : Ticket) (w : Wake) :
    (s.wake t w).journal = s.journal := by
  rcases wake_cases s t w with ⟨_, _, h⟩ | h
  · rw [h]
    rfl
  · rw [h]

/-- A pantry that came is put in its place in a preload, which may then be woken. -/
theorem collect_cases (s : State) (t : Ticket) (slot : Nat) (pantry : Pantry) :
    (∃ slots slots', s.tasks.get? t = some ⟨.preload slots, .suspended⟩ ∧
      ((s.collect t slot pantry = s.setTask t ⟨.preload slots', .suspended⟩) ∨
        ∃ pantries, s.collect t slot pantry =
          (s.setTask t ⟨.preload slots', .suspended⟩).wake t (.pantries pantries))) ∨
    s.collect t slot pantry = s := by
  unfold collect
  split
  · rename_i slots h
    refine Or.inl ⟨slots, slots.set slot (some pantry), h, ?_⟩
    simp only
    split
    · exact Or.inr ⟨_, rfl⟩
    · exact Or.inl rfl
  · exact Or.inr rfl

-- ---------------------------------------------------------------------------
-- What concerns nobody but tasks and observers
-- ---------------------------------------------------------------------------

/-- Whether all that happened between two states is that tasks went on, and that they and observers
were told something. -/
structure Aside (s s' : State) : Prop where
  cache : s'.cache = s.cache
  sessions : s'.sessions = s.sessions
  queue : ∃ ts : List Ticket, s'.queue = s.queue ++ ts.map Job.resume
  journal : ∃ es, s'.journal = es ++ s.journal ∧ ∀ e ∈ es, Event.isAside e = true

namespace Aside

theorem refl (s : State) : Aside s s :=
  ⟨rfl, rfl, ⟨[], by simp⟩, ⟨[], rfl, by simp⟩⟩

theorem trans {s₁ s₂ s₃ : State} (h : Aside s₁ s₂) (h' : Aside s₂ s₃) : Aside s₁ s₃ := by
  obtain ⟨hCache, hSessions, ⟨ts, hQueue⟩, ⟨es, hJournal, hEvents⟩⟩ := h
  obtain ⟨hCache', hSessions', ⟨ts', hQueue'⟩, ⟨es', hJournal', hEvents'⟩⟩ := h'
  refine ⟨hCache'.trans hCache, hSessions'.trans hSessions, ⟨ts ++ ts', ?_⟩, ⟨es' ++ es, ?_, ?_⟩⟩
  · rw [hQueue', hQueue, List.map_append, List.append_assoc]
  · rw [hJournal', hJournal, List.append_assoc]
  · intro e he
    rcases List.mem_append.mp he with he | he
    · exact hEvents' e he
    · exact hEvents e he

end Aside

/-- So the journal tells nothing new of any other kind. -/
theorem filter_journal_of_aside {s' : State} {kind : Event → Bool}
    (hKind : ∀ e, Event.isAside e = true → kind e = false) (h : Aside s s') :
    s'.journal.filter kind = s.journal.filter kind := by
  obtain ⟨es, hJournal, hEvents⟩ := h.journal
  have hNone : es.filter kind = [] := by
    rw [List.filter_eq_nil_iff]
    intro e he
    simp [hKind e (hEvents e he)]
  rw [hJournal, List.filter_append, hNone, List.nil_append]

theorem aside_note {e : Event} (h : e.isAside = true) : Aside s (s.note e) :=
  ⟨rfl, rfl, ⟨[], by simp⟩, ⟨[e], rfl, by simpa using h⟩⟩

theorem aside_setTask (t : Ticket) (task : Task) : Aside s (s.setTask t task) :=
  ⟨rfl, rfl, ⟨[], by simp⟩, ⟨[], rfl, by simp⟩⟩

theorem aside_resume (t t' : Ticket) (task : Task) :
    Aside s ((s.setTask t task).enqueue [.resume t']) :=
  ⟨rfl, rfl, ⟨[t'], rfl⟩, ⟨[], rfl, by simp⟩⟩

theorem aside_wake (t : Ticket) (w : Wake) : Aside s (s.wake t w) := by
  rcases wake_cases s t w with ⟨work, _, h⟩ | h <;> rw [h]
  · exact aside_resume _ _ _
  · exact .refl s

theorem aside_collect (t : Ticket) (slot : Nat) (pantry : Pantry) :
    Aside s (s.collect t slot pantry) := by
  rcases collect_cases s t slot pantry with ⟨_, _, _, h | ⟨_, h⟩⟩ | h <;> rw [h]
  · exact aside_setTask _ _
  · exact (aside_setTask _ _).trans (aside_wake _ _)
  · exact .refl s

theorem aside_handOver (t : Ticket) (outcome : Outcome) : Aside s (s.handOver t outcome) :=
  (aside_note rfl).trans (aside_wake _ _)

theorem aside_finish (t : Ticket) (work : Work) (result : TaskResult) :
    Aside s (s.finish t work result) :=
  (aside_setTask _ _).trans (aside_note rfl)

theorem aside_completeUnbound (specifier : String) (citation : Citation) (t : Ticket)
    (settlement : Settlement) : Aside s (s.completeUnbound env specifier citation t settlement) := by
  cases settlement with
  | kept pantry =>
    simp only [completeUnbound]
    split
    · exact aside_handOver _ _
    · exact .refl s
  | broken fault => exact aside_handOver _ _
  | cancelled => exact (aside_note rfl).trans (aside_handOver _ _)

/-- Telling someone who is no import concerns tasks and observers only. -/
theorem aside_notify {w : Waiter} (hOther : w.isImport = false) (settlement : Settlement) :
    Aside s (s.notify env settlement w) := by
  cases w with
  | importing => exact absurd hOther (by simp [Waiter.isImport])
  | unbound specifier citation t => exact aside_completeUnbound _ _ _ _
  | observer t => exact aside_note rfl
  | resolver t => cases settlement <;> exact aside_wake _ _
  | collector t slot =>
    cases settlement with
    | kept pantry => exact aside_collect _ _ _
    | broken fault => exact aside_wake _ _
    | cancelled => exact aside_wake _ _
  | prefetcher =>
    cases settlement with
    | broken fault => exact aside_note rfl
    | kept pantry => exact .refl s
    | cancelled => exact .refl s

theorem aside_cancelTask (t : Ticket) : Aside s (s.cancelTask t).1 := by
  unfold cancelTask
  split
  · exact .refl s
  · exact .refl s
  · exact aside_resume _ _ _
  · exact aside_setTask _ _

theorem aside_startTask (work : Work) : Aside s (s.startTask env work).1 := by
  unfold startTask
  split
  · exact ⟨rfl, rfl, ⟨[s.tickets], rfl⟩, ⟨[], rfl, by simp⟩⟩
  · exact .refl s

-- ---------------------------------------------------------------------------
-- Outcomes
-- ---------------------------------------------------------------------------

/-- A path is answered for with the fresh outcome, or with empty contents. -/
theorem giveOnce_cases (s : State) (session : SessionId) (path : Path) (fresh : Outcome) :
    (s.giveOnce session path fresh).2 = fresh ∨
      (s.giveOnce session path fresh).2 = .suppressed := by
  show ((s.emission session).answer path fresh).2 = fresh ∨
    ((s.emission session).answer path fresh).2 = .suppressed
  by_cases hGiven : (s.emission session).contains path = true
  · rw [Emission.answer_of_contains hGiven]
    exact Or.inr rfl
  · rw [Emission.answer_of_not_contains (Bool.eq_false_iff.mpr hGiven)]
    exact Or.inl rfl

/-- Entry points are given by their normalised paths. -/
theorem normalize_entryPoint {pantry : Pantry} {cwd path : Path} {ingredient kind : String}
    (h : pantry.entryPointFor cwd ingredient kind = .ok path) : path.normalize = path := by
  obtain ⟨found, file, _, _, rfl⟩ := Pantry.entryPointFor_eq_ok_iff.mp h
  exact Path.normalize_absolute _ _

/-- An import whose pantry is at hand is answered by its entry point, or fails. -/
theorem resolveIn_cases (env : Setup) (s : State) (session : SessionId) (specifier : String)
    (pantry : Pantry) (ingredient : String) :
    (∃ path, pantry.entryPointFor env.cwd ingredient Pantry.styleKind = .ok path ∧
      path.normalize = path ∧
      s.resolveIn env session specifier pantry ingredient =
        s.giveOnce session path (.file path.toString)) ∨
    (∃ fault, pantry.entryPointFor env.cwd ingredient Pantry.styleKind = .error fault ∧
      s.resolveIn env session specifier pantry ingredient = (s, .failure specifier fault)) := by
  unfold resolveIn
  split
  · rename_i fault h
    exact Or.inr ⟨fault, h, rfl⟩
  · rename_i path h
    exact Or.inl ⟨path, h, normalize_entryPoint h, rfl⟩

/-- A deferred import is answered by its entry point, or fails; a cancelled promise is noted. -/
theorem complete_cases (env : Setup) (s : State) (session : SessionId) (specifier : String)
    (citation : Citation) (settlement : Settlement) :
    (∃ pantry path, settlement = .kept pantry ∧
      pantry.entryPointFor env.cwd citation.ingredientName Pantry.styleKind = .ok path ∧
      path.normalize = path ∧
      s.complete env session specifier citation settlement =
        s.giveOnce session path (.file path.toString)) ∨
    (∃ fault, s.complete env session specifier citation settlement =
        (s, .failure specifier fault)) ∨
    (∃ fault, settlement = .cancelled ∧
      s.complete env session specifier citation settlement =
        (s.note (.promiseCancelled citation.pantryName), .failure specifier fault)) := by
  cases settlement with
  | kept pantry =>
    rcases resolveIn_cases env s session specifier pantry citation.ingredientName with
      ⟨path, hPath, hNormal, h⟩ | ⟨fault, _, h⟩
    · exact Or.inl ⟨pantry, path, rfl, hPath, hNormal, h⟩
    · exact Or.inr (Or.inl ⟨fault, h⟩)
  | broken fault => exact Or.inr (Or.inl ⟨fault, rfl⟩)
  | cancelled => exact Or.inr (Or.inr ⟨_, rfl, rfl⟩)

end State

end Larder
