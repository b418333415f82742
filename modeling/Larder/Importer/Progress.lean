import Larder.Importer.Loop

/-!
# Larder — the event loop runs dry

Every job that the loop runs uses up some of the work that is left (`work`), whatever it puts into
the queue: the requests of an import are paid for by the import, those of a script by the waiter
that carries the script, and telling those who wait by the promise they wait for. So the queue is
empty after as many jobs as there was work at the start.

Each elementary change has a lemma on what it does to the work; the changes of one job are added up
from them.

## Results

* `work_tick_lt`: running a job uses up work.
* `queue_drain`: after `drain` no job is left.
-/

namespace Larder

namespace State

/-! ## What is left to a task -/

/-- The jobs that a task which has a number can lead to. -/
def leftTo (s : State) (t : Ticket) : Nat :=
  match s.tasks.get? t with
  | none => 0
  | some task => taskWork s.cache.locations.keys.length task

theorem taskWork_mono {m n : Nat} (h : m ≤ n) (task : Task) : taskWork m task ≤ taskWork n task := by
  unfold taskWork
  split <;> omega

theorem sum_map_le {α : Type} {f g : α → Nat} (l : List α) (h : ∀ a, f a ≤ g a) :
    total (l.map f) ≤ total (l.map g) := by
  induction l with
  | nil => simp
  | cons a l ih =>
    simp only [List.map_cons, total_cons]
    have := h a
    omega

/-- Entering a value under a key replaces what the old one counted for. -/
theorem sum_insertPair {κ α : Type} [DecidableEq κ] (f : α → Nat) (key : κ) (value : α)
    (ps : List (κ × α)) :
    total ((insertPair key value ps).map (f ∘ Prod.snd)) + ((lookupPair key ps).map f).getD 0 =
      total (ps.map (f ∘ Prod.snd)) + f value := by
  induction ps with
  | nil => simp [insertPair, lookupPair]
  | cons p rest ih =>
    obtain ⟨k, v⟩ := p
    by_cases h : k = key
    · simp only [insertPair, lookupPair, if_pos h, List.map_cons, total_cons, Option.map_some,
        Option.getD_some, Function.comp]
      omega
    · simp only [insertPair, lookupPair, if_neg h, List.map_cons, total_cons, Function.comp]
        at ih ⊢
      omega

/-! ## Elementary changes -/

theorem work_note (s : State) (e : Event) : (s.note e).work = s.work := rfl

theorem work_enqueue (s : State) (jobs : List Job) :
    (s.enqueue jobs).work = s.work + total (jobs.map jobWork) := by
  simp only [work, enqueue, queueWork, promisesWork, tasksWork, List.map_append, total_append]
  omega

theorem work_setTask (s : State) (t : Ticket) (task : Task) :
    (s.setTask t task).work + s.leftTo t =
      s.work + taskWork s.cache.locations.keys.length task := by
  have h := sum_insertPair (taskWork s.cache.locations.keys.length) t task s.tasks.entries
  have hLeft : s.leftTo t =
      ((lookupPair t s.tasks.entries).map (taskWork s.cache.locations.keys.length)).getD 0 := by
    unfold leftTo Registry.get?
    cases lookupPair t s.tasks.entries <;> rfl
  simp only [work, setTask, queueWork, promisesWork, tasksWork, Registry.values, Registry.insert,
    List.map_map] at h ⊢
  omega

/-- A task in a phase that leaves it no more than before leaves no more work. -/
theorem work_setTask_le {s : State} {t : Ticket} {old task : Task}
    (hOld : s.tasks.get? t = some old)
    (h : taskWork s.cache.locations.keys.length task ≤
      taskWork s.cache.locations.keys.length old) : (s.setTask t task).work ≤ s.work := by
  have hSet := work_setTask s t task
  have hLeft : s.leftTo t = taskWork s.cache.locations.keys.length old := by simp [leftTo, hOld]
  omega

theorem work_finish (s : State) (t : Ticket) (what : Work) (result : TaskResult) :
    (s.finish t what result).work + s.leftTo t = s.work := by
  have h := work_setTask s t ⟨what, .ended result⟩
  rw [show taskWork s.cache.locations.keys.length ⟨what, .ended result⟩ = 0 by
    simp [taskWork]] at h
  exact h

theorem work_wake_le (s : State) (t : Ticket) (w : Wake) : (s.wake t w).work ≤ s.work + 1 := by
  unfold wake
  split
  · rename_i what h
    rw [work_enqueue]
    have hSet : (s.setTask t ⟨what, .woken w⟩).work ≤ s.work :=
      work_setTask_le h (by cases what <;> simp [taskWork])
    simpa [jobWork] using hSet
  · exact Nat.le_succ _

/-! ## The cache -/

/-- The work that is left depends on the cache through its promises and its locations alone. -/
theorem work_withCache_le (s : State) (c : Cache)
    (hLocations : c.locations.keys.length ≤ s.cache.locations.keys.length) :
    (s.withCache c).work + s.promisesWork ≤
      s.work + total (c.flights.map fun f => promiseWork f.promise) := by
  have h : total ((s.tasks.values).map (taskWork c.locations.keys.length)) ≤ s.tasksWork :=
    sum_map_le _ fun task => taskWork_mono hLocations task
  simp only [work, withCache, queueWork, promisesWork, tasksWork] at h ⊢
  omega

/-- Changing one discovery replaces what its promise counted for. -/
theorem sum_modify {α : Type} (f : α → Nat) (g : α → α) (l : List α) (i : Nat) :
    total ((l.modify i g).map f) + ((l[i]?).map f).getD 0 =
      total (l.map f) + ((l[i]?).map fun a => f (g a)).getD 0 := by
  induction l generalizing i with
  | nil => simp
  | cons a l ih =>
    cases i with
    | zero =>
      simp
      omega
    | succ i =>
      have := ih i
      simp at this ⊢
      omega

theorem flights_conclude (c : Cache) (name : String) (i : FlightId) (r : Except Fault Pantry) :
    (c.conclude name i r).flights = c.flights := by
  unfold Cache.conclude Cache.release
  cases r <;> simp only <;> split <;> rfl

theorem locations_conclude_le (c : Cache) (name : String) (i : FlightId)
    (r : Except Fault Pantry) :
    (c.conclude name i r).locations.keys.length ≤ c.locations.keys.length := by
  have hErase : (c.locations.erase name).keys.length ≤ c.locations.keys.length := by
    simpa [Registry.keys, Registry.erase] using
      List.length_filter_le (fun p => p.1 ≠ name) c.locations.entries
  unfold Cache.conclude Cache.release
  cases r <;> simp only <;> split
  · exact Nat.le_refl _
  · exact Nat.le_refl _
  · exact hErase
  · exact hErase

/-- The stage of a discovery does not count. -/
theorem work_setStage_le (s : State) (i : FlightId) (stage : Stage) :
    (s.withCache (s.cache.setStage i stage)).work ≤ s.work := by
  have hSum := sum_modify (fun f : Flight => promiseWork f.promise)
    (fun f => { f with stage := stage }) s.cache.flights i
  have h := work_withCache_le s (s.cache.setStage i stage) (Nat.le_refl _)
  simp only [Cache.setStage, Cache.modifyFlight, promisesWork] at h hSum ⊢
  omega

theorem work_setPromise (s : State) (i : FlightId) (promise old : Promise)
    (hOld : s.cache.promise? i = some old) :
    (s.withCache (s.cache.setPromise i promise)).work + promiseWork old ≤
      s.work + promiseWork promise := by
  have hSum := sum_modify (fun f : Flight => promiseWork f.promise)
    (fun f => { f with promise := promise }) s.cache.flights i
  have h := work_withCache_le s (s.cache.setPromise i promise) (Nat.le_refl _)
  unfold Cache.promise? at hOld
  cases hGet : s.cache.flights[i]? with
  | none => simp [hGet] at hOld
  | some flight =>
    simp only [hGet, Option.map_some, Option.some.injEq] at hOld
    subst hOld
    simp only [hGet, Option.map_some, Option.getD_some, Cache.setPromise, Cache.modifyFlight,
      promisesWork] at h hSum ⊢
    omega

theorem work_request_le (env : Setup) (s : State) (name : String) :
    (s.request env name).1.work ≤ s.work + 1 := by
  unfold request Cache.request
  split
  · exact Nat.le_succ _
  · split
    · exact Nat.le_succ _
    · -- the new discovery has nobody waiting, and its call is one job
      have h := work_withCache_le s (s.cache.start env.searchPaths name) (Nat.le_refl _)
      simp only [Cache.start, List.map_append, total_append, promisesWork] at h
      simp only [afterRequest, work_enqueue, work_note]
      simp only [Cache.start, Cache.newFlight, promiseWork, jobWork, List.map_cons, List.map_nil,
        total_cons, total_nil] at h ⊢
      omega

theorem tasks_request (env : Setup) (s : State) (name : String) :
    (s.request env name).1.tasks = s.tasks := by
  unfold request
  generalize s.cache.request env.searchPaths name = r
  obtain ⟨c, q⟩ := r
  cases q <;> rfl

theorem locations_request (env : Setup) (s : State) (name : String) :
    (s.request env name).1.cache.locations = s.cache.locations := by
  unfold request Cache.request
  split
  · rfl
  · split <;> rfl

theorem work_attach_le (s : State) (handle : Handle) (w : Waiter) :
    (s.attach handle w).work ≤ s.work + waiterWork w := by
  cases handle with
  | ready pantry => simp [attach, work_enqueue, jobWork]
  | shared i =>
    simp only [attach]
    split
    · rename_i ws h
      have := work_setPromise s i (.waiting (ws ++ [w])) _ h
      simp only [promiseWork, List.map_append, total_append, List.map_cons, List.map_nil,
        total_cons, total_nil] at this
      omega
    · simp [work_enqueue, jobWork]
    · exact Nat.le_add_right _ _

theorem tasks_attach (s : State) (handle : Handle) (w : Waiter) :
    (s.attach handle w).tasks = s.tasks := by
  cases handle with
  | ready pantry => rfl
  | shared i =>
    simp only [attach]
    split <;> rfl

theorem locations_attach (s : State) (handle : Handle) (w : Waiter) :
    (s.attach handle w).cache.locations = s.cache.locations := by
  cases handle with
  | ready pantry => rfl
  | shared i =>
    simp only [attach]
    split <;> rfl

/-- Asking for a pantry and waiting for it leads to a call and to being told. -/
theorem work_request_attach_le (env : Setup) (s : State) (name : String) (handle : Handle)
    (w : Waiter) :
    ((s.request env name).1.attach handle w).work ≤ s.work + 1 + waiterWork w := by
  have hRequest := work_request_le env s name
  have hAttach := work_attach_le (s.request env name).1 handle w
  omega

/-! ## Ends of discoveries -/

theorem work_settle_le (s : State) (i : FlightId) (settlement : Settlement) :
    (s.settle i settlement).work ≤ s.work := by
  unfold settle Cache.settle Cache.waiters
  rw [work_enqueue]
  split
  · rename_i ws h
    have := work_setPromise s i (.settled settlement) _ h
    simp only [promiseWork, List.map_map] at this ⊢
    have hSame : total (ws.map (jobWork ∘ fun w => Job.notify settlement w)) =
        total (ws.map waiterWork) := rfl
    omega
  · simp [withCache]

theorem work_landWith_le (s : State) (i : FlightId) (name : String) (landing : Landing) :
    (s.landWith i name landing).work ≤ s.work := by
  unfold landWith
  refine Nat.le_trans (work_settle_le _ _ _) ?_
  rw [work_note]
  refine Nat.le_trans ?_ (work_setStage_le s i (.landed landing.returned))
  -- the result frees the slot and may forget a location; promises stay as they are
  have h := work_withCache_le (s.withCache (s.cache.setStage i (.landed landing.returned)))
    ((s.cache.setStage i (.landed landing.returned)).conclude name i
      (Larder.conclude name landing.returned)) (locations_conclude_le _ _ _ _)
  rw [flights_conclude] at h
  exact Nat.le_of_add_le_add_right h

theorem work_launch_le (env : Setup) (s : State) (i : FlightId) :
    (s.launch env i).work ≤ s.work := by
  unfold launch
  split
  · exact Nat.le_refl _
  · rename_i f _
    have hStage := work_setStage_le s i .flying
    simp only
    split
    · exact hStage
    · exact Nat.le_trans (work_landWith_le _ _ _ _) hStage

theorem work_land_le (s : State) (i : FlightId) : (s.land i).work ≤ s.work := by
  unfold land
  split
  · exact work_landWith_le _ _ _ _
  · exact Nat.le_refl _

/-! ## Imports -/

/-- The jobs that a deferred import leads to: the call of a discovery, and telling the receiver. -/
def receiverWork : Receiver → Nat
  | .callback _ script => 2 + scriptWork script
  | .task _ => 3

/-- What an import that was answered so leads to. -/
def replyWork (receiver : Receiver) : Reply → Nat
  | .deferred _ => receiverWork receiver
  | _ => 0

theorem work_resolveRelative (env : Setup) (s : State) (session : SessionId) (path : Path) :
    (s.resolveRelative env session path).1.work = s.work := by
  unfold resolveRelative
  split <;> rfl

theorem work_resolveIn (env : Setup) (s : State) (session : SessionId) (specifier : String)
    (pantry : Pantry) (ingredient : String) :
    (s.resolveIn env session specifier pantry ingredient).1.work = s.work := by
  unfold resolveIn
  split <;> rfl

theorem work_defer_le (env : Setup) (s : State) (session : SessionId) (specifier : String)
    (citation : Citation) (receiver : Receiver) :
    (s.defer env session specifier citation receiver).work ≤ s.work + receiverWork receiver := by
  have h := work_request_attach_le env (s.note (.deferred receiver.ticket specifier
    citation.pantryName)) citation.pantryName
    ((s.note (.deferred receiver.ticket specifier citation.pantryName)).request env
      citation.pantryName).2 (.importing specifier citation session receiver)
  rw [work_note] at h
  unfold defer
  cases receiver <;> simp only [receiverWork, waiterWork] at h ⊢ <;> omega

theorem work_resolve_le (env : Setup) (s : State) (what : Import) (receiver : Receiver) :
    (s.resolve env what receiver).1.work ≤
      s.work + replyWork receiver (s.resolve env what receiver).2 := by
  unfold resolve
  split
  · exact Nat.le_refl _
  · exact Nat.le_refl _
  · exact Nat.le_of_eq (work_resolveRelative _ _ _ _)
  · simp only
    split
    · exact Nat.le_of_eq (work_resolveIn _ _ _ _ _ _)
    · split
      · exact work_defer_le _ _ _ _ _ _
      · exact Nat.le_refl _

theorem tasks_resolve (env : Setup) (s : State) (what : Import) (receiver : Receiver) :
    (s.resolve env what receiver).1.tasks = s.tasks := by
  unfold resolve resolveRelative resolveIn defer
  split
  · rfl
  · rfl
  · simp only
    split <;> rfl
  · simp only
    split
    · split <;> rfl
    · split
      · rw [tasks_attach, tasks_request]
        rfl
      · rfl

theorem locations_resolve (env : Setup) (s : State) (what : Import) (receiver : Receiver) :
    (s.resolve env what receiver).1.cache.locations = s.cache.locations := by
  unfold resolve resolveRelative resolveIn defer
  split
  · rfl
  · rfl
  · simp only
    split <;> rfl
  · simp only
    split
    · split <;> rfl
    · split
      · rw [locations_attach, locations_request]
        rfl
      · rfl

theorem work_importing_le (env : Setup) (s : State) (what : Import) (script : Script) :
    (s.importing env what script).1.work ≤ s.work + 2 + scriptWork script := by
  have h := work_resolve_le env s what (.callback s.tickets script)
  have hReply : replyWork (.callback s.tickets script)
      (s.resolve env what (.callback s.tickets script)).2 ≤ 2 + scriptWork script := by
    unfold replyWork receiverWork
    split
    · exact Nat.le_refl _
    · exact Nat.zero_le _
  have hLe : (s.resolve env what (.callback s.tickets script)).1.work ≤
      s.work + 2 + scriptWork script := by omega
  unfold importing
  simp only
  split
  · exact hLe
  · split <;> exact hLe
  · exact hLe

theorem work_runScript_le (env : Setup) (t : Ticket) (script : Script) (s : State) :
    (runScript env t script s).work ≤ s.work + scriptWork script := by
  induction script generalizing s with
  | stop => exact Nat.le_refl _
  | fail => exact Nat.le_refl _
  | importing what receive next _ ih =>
    have hImport := work_importing_le env s what receive
    have hNext := ih ((s.importing env what receive).1.note
      (.nested t (s.importing env what receive).2))
    rw [work_note] at hNext
    simp only [runScript, scriptWork]
    omega

theorem work_handOver_le (s : State) (t : Ticket) (outcome : Outcome) :
    (s.handOver t outcome).work ≤ s.work + 1 :=
  work_wake_le (s.note (.handed t outcome)) t (.outcome outcome)

theorem work_deliver_lt (env : Setup) (s : State) (specifier : String) (citation : Citation)
    (session : SessionId) (receiver : Receiver) (outcome : Outcome) :
    (s.deliver env receiver outcome).work <
      s.work + waiterWork (.importing specifier citation session receiver) := by
  cases receiver with
  | callback t script =>
    have h := work_runScript_le env t script (s.note (.delivered t outcome))
    rw [work_note] at h
    simp only [deliver, waiterWork]
    omega
  | task t =>
    have h := work_handOver_le s t outcome
    simp only [deliver, waiterWork]
    omega

theorem work_complete (env : Setup) (s : State) (session : SessionId) (specifier : String)
    (citation : Citation) (settlement : Settlement) :
    (s.complete env session specifier citation settlement).1.work = s.work := by
  cases settlement with
  | kept pantry => exact work_resolveIn _ _ _ _ _ _
  | broken fault => rfl
  | cancelled => rfl

theorem work_completeUnbound_le (env : Setup) (s : State) (specifier : String)
    (citation : Citation) (t : Ticket) (settlement : Settlement) :
    (s.completeUnbound env specifier citation t settlement).work ≤ s.work + 1 := by
  cases settlement with
  | kept pantry =>
    simp only [completeUnbound]
    split
    · exact work_handOver_le _ _ _
    · exact Nat.le_succ _
  | broken fault => exact work_handOver_le _ _ _
  | cancelled => exact work_handOver_le (s.note _) _ _

theorem work_collect_le (s : State) (t : Ticket) (slot : Nat) (pantry : Pantry) :
    (s.collect t slot pantry).work ≤ s.work + 1 := by
  unfold collect
  split
  · rename_i slots h
    have hSet : (s.setTask t ⟨.preload (slots.set slot (some pantry)), .suspended⟩).work ≤ s.work :=
      work_setTask_le h (by simp [taskWork])
    simp only
    split
    · have := work_wake_le (s.setTask t ⟨.preload (slots.set slot (some pantry)), .suspended⟩) t
        (.pantries ((slots.set slot (some pantry)).filterMap id))
      omega
    · omega
  · exact Nat.le_succ _

theorem work_notify_lt (env : Setup) (s : State) (settlement : Settlement) (w : Waiter) :
    (s.notify env settlement w).work < s.work + waiterWork w := by
  cases w with
  | importing specifier citation session receiver =>
    have h := work_deliver_lt env (s.complete env session specifier citation settlement).1
      specifier citation session receiver
      (s.complete env session specifier citation settlement).2
    rw [work_complete] at h
    exact h
  | unbound specifier citation t =>
    have := work_completeUnbound_le env s specifier citation t settlement
    simp only [notify, waiterWork]
    omega
  | observer t =>
    simp only [notify, waiterWork, work_note]
    omega
  | resolver t =>
    cases settlement with
    | kept pantry => exact Nat.lt_succ_of_le (work_wake_le _ _ _)
    | broken fault => exact Nat.lt_succ_of_le (work_wake_le _ _ _)
    | cancelled => exact Nat.lt_succ_of_le (work_wake_le _ _ _)
  | collector t slot =>
    cases settlement with
    | kept pantry => exact Nat.lt_succ_of_le (work_collect_le _ _ _ _)
    | broken fault => exact Nat.lt_succ_of_le (work_wake_le _ _ _)
    | cancelled => exact Nat.lt_succ_of_le (work_wake_le _ _ _)
  | prefetcher =>
    simp only [notify, waiterWork]
    split
    · rw [work_note]
      omega
    · omega

/-! ## Tasks -/

theorem leftTo_of_tasks {s s' : State} {t : Ticket} (hTasks : s'.tasks = s.tasks)
    (hLocations : s'.cache.locations = s.cache.locations) : s'.leftTo t = s.leftTo t := by
  unfold leftTo
  rw [hTasks, hLocations]

theorem work_runImports_le (env : Setup) (t : Ticket) (rest : List Import)
    (outcomes : List Outcome) (s : State) :
    (runImports env t rest outcomes s).work + s.leftTo t ≤ s.work + 3 * rest.length := by
  induction rest generalizing outcomes s with
  | nil => exact Nat.le_of_eq (work_finish _ _ _ _)
  | cons what rest ih =>
    have hResolve := work_resolve_le env s what (.task t)
    have hLeft : (s.resolve env what (.task t)).1.leftTo t = s.leftTo t :=
      leftTo_of_tasks (tasks_resolve _ _ _ _) (locations_resolve _ _ _ _)
    have hSuspend := work_setTask (s.resolve env what (.task t)).1 t
      ⟨.imports rest outcomes, .suspended⟩
    rw [show taskWork _ ⟨.imports rest outcomes, .suspended⟩ = 3 * rest.length by
      simp [taskWork]] at hSuspend
    rw [runImports, List.length_cons]
    split <;> rename_i hReply <;> rw [hReply] at hResolve <;>
      simp only [replyWork, receiverWork] at hResolve
    · split
      · omega
      · have := ih (outcomes ++ [.passThrough]) (s.resolve env what (.task t)).1
        omega
    · rename_i outcome _
      have := ih (outcomes ++ [outcome]) (s.resolve env what (.task t)).1
      omega
    · omega
    · have := work_finish (s.resolve env what (.task t)).1 t (.imports rest outcomes)
        (.fault .noRunningLoop)
      omega

theorem work_passUnbound_le (env : Setup) (t : Ticket) (specifier file : Value) (s : State) :
    (passUnbound env t (.unbound specifier file) s).work + s.leftTo t ≤ s.work + 3 := by
  have hSet := work_setTask s t ⟨.unbound specifier file, .suspended⟩
  have hFinish := work_finish s t (.unbound specifier file) (.outcomes [.passThrough])
  simp only [taskWork] at hSet
  unfold passUnbound
  split <;> omega

theorem work_runUnbound_le (env : Setup) (t : Ticket) (specifier file : Value) (s : State) :
    (runUnbound env t specifier file s).work + s.leftTo t ≤ s.work + 3 := by
  have hPass := work_passUnbound_le env t specifier file s
  have hFinish := fun result => work_finish s t (.unbound specifier file) result
  unfold runUnbound
  simp only
  split
  · exact hPass
  · exact hPass
  · split
    · have := hFinish (.fault .noSession)
      omega
    · exact hPass
  · rename_i citation _
    split
    · split
      · rename_i outcome _
        have := hFinish (.outcomes [outcome])
        omega
      · rename_i fault _
        have := hFinish (.fault fault)
        omega
    · unfold deferUnbound
      simp only
      generalize hNoted : s.note (.deferredUnbound t specifier.text citation.pantryName) = noted
      have hSame : noted.work = s.work := by rw [← hNoted, work_note]
      have hTasks : noted.leftTo t = s.leftTo t := by rw [← hNoted]; rfl
      generalize hAsked : (noted.request env citation.pantryName).1.attach
        (noted.request env citation.pantryName).2 (.unbound specifier.text citation t) = asked
      have hWork := work_request_attach_le env noted citation.pantryName
        (noted.request env citation.pantryName).2 (.unbound specifier.text citation t)
      have hLeft : asked.leftTo t = noted.leftTo t := by
        rw [← hAsked]
        exact leftTo_of_tasks (by rw [tasks_attach, tasks_request])
          (by rw [locations_attach, locations_request])
      have hSet := work_setTask asked t ⟨.unbound specifier file, .suspended⟩
      rw [hAsked] at hWork
      simp only [taskWork, waiterWork] at hSet hWork
      omega

theorem work_awaitPantry_le (env : Setup) (t : Ticket) (name : String) (s : State) :
    (awaitPantry env t name s).work + s.leftTo t ≤ s.work + 3 := by
  have hRequest := work_request_le env s name
  have hLeft : (s.request env name).1.leftTo t = s.leftTo t :=
    leftTo_of_tasks (tasks_request _ _ _) (locations_request _ _ _)
  unfold awaitPantry
  simp only
  split
  · rename_i pantry _
    have := work_finish (s.request env name).1 t (.pantry name) (.pantry pantry)
    omega
  · rename_i i _
    have hAttach := work_attach_le (s.request env name).1 (.shared i) (.resolver t)
    have hSame : ((s.request env name).1.attach (.shared i) (.resolver t)).leftTo t =
        (s.request env name).1.leftTo t :=
      leftTo_of_tasks (tasks_attach _ _ _) (locations_attach _ _ _)
    have hSet := work_setTask ((s.request env name).1.attach (.shared i) (.resolver t)) t
      ⟨.pantry name, .suspended⟩
    simp only [taskWork, waiterWork] at hSet hAttach
    omega

theorem work_awaitAll_le (env : Setup) (t : Ticket) (slot : Nat) (names : List String) (s : State) :
    (awaitAll env t slot names s).work ≤ s.work + 3 * names.length ∧
      (awaitAll env t slot names s).leftTo t = s.leftTo t := by
  induction names generalizing slot s with
  | nil => exact ⟨Nat.le_refl _, rfl⟩
  | cons name rest ih =>
    have hAsked := work_request_attach_le env s name (s.request env name).2 (.collector t slot)
    have hLeft : ((s.request env name).1.attach (s.request env name).2
        (.collector t slot)).leftTo t = s.leftTo t :=
      leftTo_of_tasks (by rw [tasks_attach, tasks_request])
        (by rw [locations_attach, locations_request])
    have hRest := ih (slot + 1) ((s.request env name).1.attach (s.request env name).2
      (.collector t slot))
    simp only [waiterWork] at hAsked
    rw [awaitAll, List.length_cons]
    exact ⟨by omega, hRest.2.trans hLeft⟩

theorem work_awaitSeeds_le (env : Setup) (t : Ticket) (s : State) :
    (awaitSeeds env t s).work + s.leftTo t ≤ s.work + 3 * s.cache.locations.keys.length := by
  unfold awaitSeeds
  simp only
  split
  · have := work_finish s t (.preload []) (.pantries [])
    omega
  · have hAll := work_awaitAll_le env t 0 s.cache.locations.keys s
    have hSet := work_setTask (awaitAll env t 0 s.cache.locations.keys s) t
      ⟨.preload (s.cache.locations.keys.map fun _ => none), .suspended⟩
    simp only [taskWork] at hSet
    omega

theorem work_begin_le (env : Setup) (s : State) (t : Ticket) (what : Work)
    (h : s.tasks.get? t = some ⟨what, .ready⟩) : (s.begin env t what).work ≤ s.work := by
  have hLeft : s.leftTo t = taskWork s.cache.locations.keys.length ⟨what, .ready⟩ := by
    simp [leftTo, h]
  cases what with
  | imports rest outcomes =>
    have := work_runImports_le env t rest outcomes s
    simp only [taskWork, begin] at hLeft ⊢
    omega
  | unbound specifier file =>
    have := work_runUnbound_le env t specifier file s
    simp only [taskWork, begin] at hLeft ⊢
    omega
  | pantry name =>
    have := work_awaitPantry_le env t name s
    simp only [taskWork, begin] at hLeft ⊢
    omega
  | preload slots =>
    have := work_awaitSeeds_le env t s
    simp only [taskWork, begin] at hLeft ⊢
    omega

theorem work_goOn_le (env : Setup) (s : State) (t : Ticket) (what : Work) (w : Wake)
    (h : s.tasks.get? t = some ⟨what, .woken w⟩) : (s.goOn env t what w).work ≤ s.work := by
  have hFinish := fun result => work_finish s t what result
  have hEnd : ∀ result, (s.finish t what result).work ≤ s.work := fun result => by
    have := hFinish result
    omega
  cases w with
  | outcome outcome =>
    cases what with
    | imports rest outcomes =>
      have hLeft : s.leftTo t = 3 * rest.length := by simp [leftTo, h, taskWork]
      have := work_runImports_le env t rest (outcomes ++ [outcome]) s
      simp only [goOn]
      omega
    | unbound specifier file => exact hEnd _
    | pantry name => exact hEnd _
    | preload slots => exact hEnd _
  | pantry pantry => exact hEnd _
  | pantries pantries => exact hEnd _
  | fault fault => exact hEnd _
  | cancelled => exact hEnd _

theorem work_resume_le (env : Setup) (s : State) (t : Ticket) : (s.resume env t).work ≤ s.work := by
  unfold resume
  split
  · rename_i what h
    exact work_begin_le env s t what h
  · rename_i what w h
    exact work_goOn_le env s t what w h
  · exact Nat.le_refl _

/-! ## The loop -/

theorem work_perform_lt (env : Setup) (s : State) (job : Job) :
    (s.perform env job).work < s.work + jobWork job := by
  cases job with
  | launch i => exact Nat.lt_succ_of_le (work_launch_le env s i)
  | land i => exact Nat.lt_succ_of_le (work_land_le s i)
  | notify settlement w => exact work_notify_lt env s settlement w
  | resume t => exact Nat.lt_succ_of_le (work_resume_le env s t)

/-- Running a job uses up work. -/
theorem work_tick_lt (env : Setup) {s : State} (h : s.queue ≠ []) : (s.tick env).work < s.work := by
  unfold tick
  split
  · rename_i hNil
    exact absurd hNil h
  · rename_i job rest hQueue
    have hPerform := work_perform_lt env { s with queue := rest } job
    have hTake : s.work = State.work { s with queue := rest } + jobWork job := by
      simp only [work, queueWork, promisesWork, tasksWork, hQueue, List.map_cons, total_cons]
      omega
    omega

theorem run_of_nil (env : Setup) (n : Nat) {s : State} (h : s.queue = []) : run env n s = s := by
  induction n with
  | zero => rfl
  | succ n ih => rw [run, tick_nil h, ih]

theorem queue_run (env : Setup) (n : Nat) (s : State) (h : s.work ≤ n) :
    (run env n s).queue = [] := by
  induction n generalizing s with
  | zero =>
    by_cases hQueue : s.queue = []
    · exact hQueue
    · have := work_tick_lt env hQueue
      omega
  | succ n ih =>
    by_cases hQueue : s.queue = []
    · rw [run_of_nil env (n + 1) hQueue]
      exact hQueue
    · have := work_tick_lt env hQueue
      exact ih (s.tick env) (by omega)

/-- After `drain` no job is left. -/
theorem queue_drain (env : Setup) (s : State) : (s.drain env).queue = [] :=
  queue_run env s.work s (Nat.le_refl _)

end State

end Larder
