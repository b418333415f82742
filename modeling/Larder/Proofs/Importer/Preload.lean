import Larder.Proofs.Importer.Behalf
import Larder.Proofs.Importer.Routing
import Mathlib.Data.List.Forall2

/-!
# Larder — what a preload gives

A preload is there to load every pantry that is known by location. When its turn comes it takes the
names whose places are kept, asks for all of them, and puts each pantry that comes in its place;
when the last one has come it ends with them. But a place is forgotten when its pantry is resolved.
So what a preload gives are the pantries of those location seeds that were not resolved at its turn,
in the order of the seeds, and no others.

Each of them is a version of its name: the one at hand, unless a discovery whose promise was
cancelled overwrote it.

## Results

* `Standing.act`: what an action leaves of where a preload stands.
* `Underway.act`: what comes into a place is what the name in this place came to.
* `preload_gives_unresolved`: a preload gives the location seeds that were not resolved at its turn.
-/

namespace Larder

-- ---------------------------------------------------------------------------
-- Vocabulary
-- ---------------------------------------------------------------------------

/-- Whether a task waits for nothing any more: it was woken or has ended. -/
def Phase.isSettled : Phase → Bool
  | .woken _ => true
  | .ended _ => true
  | _ => false

/-- The pantries that a task was woken with or has ended with. -/
def Phase.pantries? : Phase → Option (List Pantry)
  | .woken (.pantries ps) => some ps
  | .ended (.pantries ps) => some ps
  | _ => none

/-- Whether a waiter puts the pantry of a name in its place, in a preload of these names. -/
def Waiter.Collects (t : Ticket) (names : List String) (w : Waiter) (name : String) : Prop :=
  ∃ slot, w = .collector t slot ∧ names[slot]? = some name

/-- Whether the pantries that have come are pantries that the names in their places came to. -/
def Filled (V : String → Settlement → Prop) (names : List String) (slots : List (Option Pantry)) :
    Prop :=
  List.Forall₂ (fun name place => ∀ P, place = some P → V name (.kept P)) names slots

section Filled

variable {V : String → Settlement → Prop} {names : List String} {slots : List (Option Pantry)}

theorem filled_empty (V : String → Settlement → Prop) (names : List String) :
    Filled V names (names.map fun _ => none) := by
  induction names with
  | nil => exact .nil
  | cons name names ih => exact .cons (fun _ hNone => absurd hNone (by simp)) ih

theorem Filled.set (h : Filled V names slots) {slot : Nat} {P : Pantry}
    (hCame : ∀ name, names[slot]? = some name → V name (.kept P)) :
    Filled V names (slots.set slot (some P)) := by
  induction h generalizing slot with
  | nil => exact .nil
  | cons hPlace hRest ih =>
    cases slot with
    | zero => exact .cons (fun Q hQ => Option.some.inj hQ ▸ hCame _ rfl) hRest
    | succ slot => exact .cons hPlace (ih hCame)

/-- When every place is filled, each name has its pantry. -/
theorem Filled.all (h : Filled V names slots) (hAll : slots.all Option.isSome = true) :
    List.Forall₂ (fun name P => V name (.kept P)) names (slots.filterMap id) := by
  induction h with
  | nil => exact .nil
  | @cons name place names slots hPlace _ ih =>
    rw [List.all_cons, Bool.and_eq_true] at hAll
    obtain ⟨P, rfl⟩ := Option.isSome_iff_exists.mp hAll.1
    exact .cons (hPlace P rfl) (ih hAll.2)

theorem Filled.mono {W : String → Settlement → Prop} (h : Filled V names slots)
    (hMore : ∀ name x, V name x → W name x) : Filled W names slots :=
  h.imp fun name _ hPlace P hP => hMore name _ (hPlace P hP)

end Filled

namespace State

variable {env : Setup} {cancels : Prop} {config : Config} {s s' : State} {t : Ticket}
  {names : List String}

/-- Whether a preload has not begun, and nobody waits on its behalf. -/
structure Unbegun (s : State) (t : Ticket) : Prop where
  ready : ∃ slots, s.tasks.get? t = some ⟨.preload slots, .ready⟩
  alone : ∀ w ∈ s.waiting, w.number? ≠ some t

/-- Where a preload stands that has begun or was cancelled before: what came to its places, and what
it was given in the end. -/
inductive Standing (Came : List (Option Pantry) → Prop) (Given : List Pantry → Prop) (s : State)
    (t : Ticket) : Prop where
  | collecting {slots} (hTask : s.tasks.get? t = some ⟨.preload slots, .suspended⟩)
      (hCame : Came slots)
  | settled {slots phase} (hTask : s.tasks.get? t = some ⟨.preload slots, phase⟩)
      (hSettled : phase.isSettled = true) (hGiven : ∀ ps, phase.pantries? = some ps → Given ps)

/-- Whether a preload was cancelled before its turn. -/
abbrev Forgone : State → Ticket → Prop := Standing (fun _ => False) fun _ => False

-- ---------------------------------------------------------------------------
-- Where a preload stands
-- ---------------------------------------------------------------------------

namespace Standing

variable {Came : List (Option Pantry) → Prop} {Given : List Pantry → Prop}

theorem congr (h : Standing Came Given s t) (hTask : s'.tasks.get? t = s.tasks.get? t) :
    Standing Came Given s' t := by
  cases h with
  | collecting hOld hCame => exact .collecting (hTask.trans hOld) hCame
  | settled hOld hSettled hGiven => exact .settled (hTask.trans hOld) hSettled hGiven

theorem mono {Came' : List (Option Pantry) → Prop} {Given' : List Pantry → Prop}
    (h : Standing Came Given s t) (hCame : ∀ slots, Came slots → Came' slots)
    (hGiven : ∀ ps, Given ps → Given' ps) : Standing Came' Given' s t := by
  cases h with
  | collecting hTask hOld => exact .collecting hTask (hCame _ hOld)
  | settled hTask hSettled hOld =>
    exact .settled hTask hSettled fun ps hps => hGiven ps (hOld ps hps)

/-- It is a preload, and it has begun. -/
theorem begun (h : Standing Came Given s t) :
    ∃ slots phase, s.tasks.get? t = some ⟨.preload slots, phase⟩ ∧ phase ≠ .ready := by
  cases h with
  | collecting hTask => exact ⟨_, _, hTask, by simp⟩
  | settled hTask hSettled =>
    refine ⟨_, _, hTask, ?_⟩
    rintro rfl
    exact absurd hSettled (by simp [Phase.isSettled])

/-- The pantries that it ended with. -/
theorem of_result (h : Standing Came Given s t) {ps : List Pantry}
    (hResult : s.taskResult? t = some (.pantries ps)) : Given ps := by
  unfold taskResult? at hResult
  cases h with
  | collecting hTask => simp [hTask] at hResult
  | @settled slots phase hTask _ hGiven =>
    rw [hTask] at hResult
    refine hGiven ps ?_
    cases phase <;> simp_all [Phase.pantries?]

theorem wake (h : Standing Came Given s t) (w : Wake) (hGiven : ∀ ps, w = .pantries ps → Given ps) :
    Standing Came Given (s.wake t w) t := by
  rcases wake_cases s t w with ⟨work, hSuspended, hWake⟩ | hWake <;> rw [hWake]
  · obtain ⟨slots, phase, hTask, _⟩ := h.begun
    obtain ⟨rfl, rfl⟩ := Task.mk.inj (Option.some.inj (hTask.symm.trans hSuspended))
    have hWoken : (s.setTask t ⟨.preload slots, .woken w⟩).tasks.get? t =
        some ⟨.preload slots, .woken w⟩ := Registry.get?_insert_self _ _ _
    refine .settled hWoken rfl fun ps hps => hGiven ps ?_
    cases w <;> simp_all [Phase.pantries?]
  · exact h

theorem collect (h : Standing Came Given s t) {slot : Nat} {P : Pantry}
    (hPut : ∀ slots, Came slots → Came (slots.set slot (some P)))
    (hAll : ∀ slots, Came slots → slots.all Option.isSome = true → Given (slots.filterMap id)) :
    Standing Came Given (s.collect t slot P) t := by
  unfold State.collect
  split
  · rename_i slots hSuspended
    have hCame : Came (slots.set slot (some P)) := by
      cases h with
      | collecting hTask hCame =>
        obtain ⟨hWork, _⟩ := Task.mk.inj (Option.some.inj (hTask.symm.trans hSuspended))
        exact hPut _ (Work.preload.inj hWork ▸ hCame)
      | settled hTask hSettled =>
        obtain ⟨_, rfl⟩ := Task.mk.inj (Option.some.inj (hTask.symm.trans hSuspended))
        exact absurd hSettled (by simp [Phase.isSettled])
    have hSet : Standing Came Given
        (s.setTask t ⟨.preload (slots.set slot (some P)), .suspended⟩) t :=
      .collecting (Registry.get?_insert_self _ _ _) hCame
    simp only
    split
    · rename_i hFull
      exact hSet.wake _ fun ps hps => Wake.pantries.inj hps ▸ hAll _ hCame hFull
    · exact hSet
  · exact h

theorem resume (h : Standing Came Given s t) : Standing Came Given (s.resume env t) t := by
  cases h with
  | collecting hTask hCame =>
    have hStays : s.resume env t = s := by simp [State.resume, hTask]
    rw [hStays]
    exact .collecting hTask hCame
  | @settled slots phase hTask hSettled hGiven =>
    have hEnds : ∀ result, (∀ ps, result = .pantries ps → Given ps) →
        Standing Came Given (s.finish t (.preload slots) result) t := by
      intro result hEnd
      have hEnded : (s.finish t (.preload slots) result).tasks.get? t =
          some ⟨.preload slots, .ended result⟩ := Registry.get?_insert_self _ _ _
      refine .settled hEnded rfl fun ps hps => hEnd ps ?_
      cases result <;> simp_all [Phase.pantries?]
    cases phase with
    | ready => exact absurd hSettled (by simp [Phase.isSettled])
    | suspended => exact absurd hSettled (by simp [Phase.isSettled])
    | ended result =>
      rw [resume_of_ended hTask]
      exact .settled hTask hSettled hGiven
    | woken w =>
      have hGoes : s.resume env t = s.goOn env t (.preload slots) w := by simp [State.resume, hTask]
      rw [hGoes]
      cases w with
      | outcome outcome => exact hEnds _ (by simp)
      | pantry pantry => exact hEnds _ (by simp)
      | pantries ps =>
        refine hEnds _ fun qs hqs => hGiven qs ?_
        rw [← TaskResult.pantries.inj hqs]
        rfl
      | fault fault => exact hEnds _ (by simp)
      | cancelled => exact hEnds _ (by simp)

theorem cancelTask (h : Standing Came Given s t) : Standing Came Given (s.cancelTask t).1 t := by
  have hWoken : ∀ slots, Standing Came Given
      (s.setTask t ⟨.preload slots, .woken .cancelled⟩) t := fun slots =>
    .settled (Registry.get?_insert_self _ _ _) rfl (by simp [Phase.pantries?])
  obtain ⟨slots, phase, hTask, _⟩ := h.begun
  unfold State.cancelTask
  rw [hTask]
  split
  · exact h
  · exact h
  · rename_i hSame
    rw [← (Task.mk.inj (Option.some.inj hSame)).1]
    exact (hWoken slots).congr rfl
  · rename_i hSame
    rw [← (Task.mk.inj (Option.some.inj hSame)).1]
    exact hWoken slots

/-- Whoever tells the preload something, puts a pantry in its place or wakes it without any. -/
theorem notify (h : Standing Came Given s t) {x : Settlement} {w : Waiter}
    (hMine : w.number? = some t) (hTask : w.callback? ≠ some t)
    (hPut : ∀ P slot slots, x = .kept P → w = .collector t slot → Came slots →
      Came (slots.set slot (some P)))
    (hAll : ∀ slots, Came slots → slots.all Option.isSome = true → Given (slots.filterMap id)) :
    Standing Came Given (s.notify env x w) t := by
  have hHanded : ∀ {s' : State} outcome, s'.tasks = s.tasks →
      Standing Came Given (s'.handOver t outcome) t := by
    intro s' outcome hTasks
    have hNoted : Standing Came Given (s'.note (.handed t outcome)) t := by
      refine h.congr ?_
      rw [tasks_note, hTasks]
    exact hNoted.wake _ (by simp)
  cases w with
  | importing specifier citation session receiver =>
    cases receiver with
    | callback u script => exact absurd hMine hTask
    | task u =>
      obtain rfl := Option.some.inj hMine
      exact hHanded _ (congrArg Desk.tasks (desk_complete _ _ _ _ _ _))
  | unbound specifier citation u =>
    obtain rfl := Option.some.inj hMine
    cases x with
    | kept P =>
      simp only [State.notify, completeUnbound]
      split
      · exact hHanded _ rfl
      · exact h
    | broken fault => exact hHanded _ rfl
    | cancelled => exact hHanded _ rfl
  | observer u => exact absurd hMine (by simp [Waiter.number?])
  | resolver u =>
    obtain rfl := Option.some.inj hMine
    cases x <;> exact h.wake _ (by simp)
  | collector u slot =>
    obtain rfl := Option.some.inj hMine
    cases x with
    | kept P => exact h.collect (fun slots => hPut P slot slots rfl rfl) hAll
    | broken fault => exact h.wake _ (by simp)
    | cancelled => exact h.wake _ (by simp)
  | prefetcher => exact absurd hMine (by simp [Waiter.number?])

/-- **What an action leaves of where a preload stands.** -/
theorem act (h : Standing Came Given s t) (hRoster : s.Roster)
    (hPut : ∀ P slot slots, .notify (.kept P) (.collector t slot) ∈ s.queue → Came slots →
      Came (slots.set slot (some P)))
    (hAll : ∀ slots, Came slots → slots.all Option.isSome = true → Given (slots.filterMap id))
    (a : Action) : Standing Came Given (s.act env a).1 t := by
  obtain ⟨slots, phase, hTask, _⟩ := h.begun
  have hKnown : s.tasks.get? t ≠ none := by simp [hTask]
  by_cases hMine : s.number? a = some t
  · have hPop : ∀ rest, Standing Came Given ({ s with queue := rest } : State) t :=
      fun rest => h.congr rfl
    have hNext : ∀ {job rest}, s.queue = job :: rest →
        (s.act env .tick).1 = ({ s with queue := rest } : State).perform env job := by
      intro job rest hQueue
      simp [State.act, tick, hQueue]
    rcases concern_cases hMine with
      rfl | ⟨rfl, ⟨rest, hQueue⟩ | ⟨x, w, rest, hQueue, hIn, hNumber⟩⟩
    · exact h.cancelTask
    · rw [hNext hQueue]
      exact (hPop rest).resume
    · rw [hNext hQueue]
      refine (hPop rest).notify hNumber (fun hCallback => ?_) (fun P slot slots hx hw => ?_) hAll
      · -- the number of a callback is not that of a task
        exact hKnown (hRoster.apart w hIn t hCallback).2
      · exact hPut P slot slots (by rw [hQueue, hx, hw]; exact List.mem_cons_self)
  · exact h.congr (act_others env hRoster hKnown hMine).1

end Standing

/-- A preload that was cancelled before its turn gives nothing. -/
theorem Forgone.actAll (hMoves : Moves env True (seeded config) s) (h : s.Forgone t)
    (more : List Action) : (actAll env more s).1.Forgone t := by
  induction more generalizing s with
  | nil => exact h
  | cons a rest ih =>
    have hNext : (s.act env a).1.Forgone t :=
      h.act hMoves.roster (fun _ _ _ _ => False.elim) (fun _ => False.elim) a
    exact ih (hMoves.trans (act_moves a (fun _ => trivial) s)) hNext

-- ---------------------------------------------------------------------------
-- Those who wait on behalf of a preload
-- ---------------------------------------------------------------------------

/-- A task that has begun does not begin again. -/
theorem Moves.begun (hSound : s.fleet.Sound) (h : Moves env cancels s s') (hTaken : t < s.tickets)
    (hBegun : ∀ work, s.tasks.get? t ≠ some ⟨work, .ready⟩) (work : Work) :
    s'.tasks.get? t ≠ some ⟨work, .ready⟩ :=
  (Desk.begun_steps (h.desk hSound) hTaken hBegun).2 work

/-- Once a preload has begun, nobody new waits on its behalf, and those who do are told of what the
names in their places came to. -/
theorem Moves.informed_collectors (hMoves : Moves env cancels (seeded config) s)
    (h : Moves env cancels s s') (hTaken : t < s.tickets)
    (hBegun : ∀ work, s.tasks.get? t ≠ some ⟨work, .ready⟩)
    (hInformed : s.Informed (Waiter.Collects t names) (s.Known config)) :
    s'.Informed (Waiter.Collects t names) (s'.Known config) := by
  induction h with
  | refl => exact hInformed
  | @tail s₁ s₂ hBefore hMove ih =>
    refine hMove.informed_known (hMoves.trans hBefore) ih (fun name w other hAdmit hCollects => ?_)
      fun _ _ _ _ _ hCollects => ?_
    · -- to collect, the task would have to be at its beginning
      obtain ⟨slot, rfl, _⟩ := hCollects
      obtain ⟨slots, hReady⟩ := hAdmit
      exact absurd hReady (Moves.begun hMoves.sound hBefore hTaken hBegun _)
    · obtain ⟨_, hSame, _⟩ := hCollects
      exact absurd hSame (by simp)

/-- Those who begin to wait on behalf of a preload wait for what their places are for. -/
theorem informed_awaitAll (env : Setup) {V : String → Settlement → Prop} (hSound : s.fleet.Sound)
    (hHand : ∀ name P, s.cache.get? name = some P → V name (.kept P))
    (hCancelled : ∀ name, V name .cancelled) {slot : Nat} {rest : List String}
    (hRest : rest = names.drop slot) (h : s.Informed (Waiter.Collects t names) V) :
    (awaitAll env t slot rest s).Informed (Waiter.Collects t names) V := by
  induction rest generalizing s slot with
  | nil => exact h
  | cons name rest ih =>
    obtain ⟨hName, hMore⟩ : names[slot]? = some name ∧ rest = names.drop (slot + 1) := by
      have hHead := congrArg List.head? hRest
      have hTail := congrArg List.tail hRest
      rw [List.head?_cons, List.head?_drop] at hHead
      rw [List.tail_cons, List.tail_drop] at hTail
      exact ⟨hHead.symm, hTail⟩
    have hSteps : Fleet.Steps env True s.fleet
        ((s.request env name).1.attach (s.request env name).2 (.collector t slot)).fleet :=
      (fleet_request env s name).trans (fleet_attach _ _ _)
    refine ih (hSound.steps hSteps) (fun other P hGet => hHand other P ?_) hMore
      (h.request_attach hSound (fun other hCollects => ?_) (hHand name) (hCancelled name))
    · rw [← hGet, get?_attach, get?_request]
    · obtain ⟨slot', hSame, hOther⟩ := hCollects
      rw [← (Waiter.collector.inj hSame).2, hName] at hOther
      exact (Option.some.inj hOther).symm

-- ---------------------------------------------------------------------------
-- Runs
-- ---------------------------------------------------------------------------

/-- Whether a preload of these names has begun: those who wait on its behalf are told of what the
names came to, and that is what it has been given so far. -/
structure Underway (s : State) (config : Config) (names : List String) (t : Ticket) : Prop where
  standing : Standing (Filled (s.Known config) names)
    (List.Forall₂ (fun name P => s.Known config name (.kept P)) names) s t
  informed : s.Informed (Waiter.Collects t names) (s.Known config)

/-- **What comes into a place is what the name in this place came to**, after every action. -/
theorem Underway.act (hMoves : Moves env True (seeded config) s) (h : s.Underway config names t)
    (a : Action) : (s.act env a).1.Underway config names t := by
  have hNext : Moves env True s (s.act env a).1 := act_moves a (fun _ => trivial) s
  have hGrow : ∀ name x, s.Known config name x → (s.act env a).1.Known config name x :=
    fun name x => known_of_moves hMoves.sound hNext
  obtain ⟨slots, phase, hTask, hBegun⟩ := h.standing.begun
  have hTaken : t < s.tickets := by
    refine Nat.lt_of_not_le fun hLe => ?_
    simp [hMoves.roster.used hLe] at hTask
  refine ⟨?_, Moves.informed_collectors hMoves hNext hTaken (fun work hReady => ?_) h.informed⟩
  · have hStands : Standing _ _ (s.act env a).1 t :=
      h.standing.act hMoves.roster (fun P slot slots hJob hCame => ?_) (fun slots => Filled.all) a
    · exact hStands.mono (fun slots hCame => hCame.mono hGrow)
        fun ps hGiven => hGiven.imp fun name P => hGrow name _
    · exact hCame.set fun name hName => h.informed.told _ _ name hJob ⟨slot, rfl, hName⟩
  · exact hBegun (Task.mk.inj (Option.some.inj (hTask.symm.trans hReady))).2

theorem Underway.actAll (hMoves : Moves env True (seeded config) s) (h : s.Underway config names t)
    (more : List Action) : (actAll env more s).1.Underway config names t := by
  induction more generalizing s with
  | nil => exact h
  | cons a rest ih => exact ih (hMoves.trans (act_moves a (fun _ => trivial) s)) (h.act hMoves a)

/-- At its turn a preload takes the names whose places are kept, and waits for all of them. -/
theorem Unbegun.turn (hMoves : Moves env True (seeded config) s) (h : s.Unbegun t) {rest : List Job}
    (hQueue : s.queue = .resume t :: rest) :
    (s.tick env).Underway config s.cache.locations.keys t := by
  obtain ⟨⟨slots, hTask⟩, hAlone⟩ := h
  have hNext : s.tick env = awaitSeeds env t s.pop := by
    simp [tick, hQueue, perform, State.resume, pop, hTask, begin]
  have hTurn : Moves env True s (s.tick env) := tick_moves
  have hGrow : ∀ name x, s.Known config name x → (s.tick env).Known config name x :=
    fun name x => known_of_moves hMoves.sound hTurn
  have hSound : s.pop.fleet.Sound := sound_pop hMoves.sound hQueue fun _ => rfl
  -- nobody has waited on its behalf before
  have hNobody : s.pop.Informed (Waiter.Collects t s.cache.locations.keys) (s.Known config) := by
    constructor
    · rintro f hf w hw name ⟨slot, rfl, _⟩
      have hIn : .collector t slot ∈ s.waiting :=
        List.mem_append_left _ (List.mem_flatMap.mpr ⟨f, hf, hw⟩)
      exact absurd rfl (hAlone _ hIn)
    · rintro x w name hJob ⟨slot, rfl, _⟩
      have hIn : .collector t slot ∈ s.waiting :=
        List.mem_append_right _ (List.mem_flatMap.mpr
          ⟨.notify x (.collector t slot), List.mem_of_mem_tail hJob, List.mem_singleton_self _⟩)
      exact absurd rfl (hAlone _ hIn)
  have hAsked := informed_awaitAll env hSound (fun name P hGet =>
    hMoves.known_kept_iff.mpr (hMoves.version_of_uses (.atHand hGet))) (fun _ => Or.inl rfl)
    (List.drop_zero).symm hNobody
  have hNow : Standing (Filled (s.Known config) s.cache.locations.keys) (List.Forall₂
        (fun name P => s.Known config name (.kept P)) s.cache.locations.keys) (s.tick env) t ∧
      (s.tick env).Informed (Waiter.Collects t s.cache.locations.keys) (s.Known config) := by
    rw [hNext]
    by_cases hNone : s.cache.locations.keys = []
    · have hEnds : awaitSeeds env t s.pop = s.pop.finish t (.preload []) (.pantries []) :=
        if_pos hNone
      rw [hEnds]
      have hEnded : (s.pop.finish t (.preload []) (.pantries [])).tasks.get? t =
          some ⟨.preload [], .ended (.pantries [])⟩ := Registry.get?_insert_self _ _ _
      refine ⟨.settled hEnded rfl fun ps hps => ?_, hNobody.aside (aside_finish _ _ _)⟩
      rw [← Option.some.inj hps, hNone]
      exact .nil
    · have hWaits : awaitSeeds env t s.pop =
          (awaitAll env t 0 s.cache.locations.keys s.pop).setTask t
            ⟨.preload (s.cache.locations.keys.map fun _ => none), .suspended⟩ := if_neg hNone
      rw [hWaits]
      exact ⟨.collecting (Registry.get?_insert_self _ _ _) (filled_empty _ _),
        hAsked.aside (aside_setTask _ _)⟩
  exact ⟨hNow.1.mono (fun _ hCame => hCame.mono hGrow) fun _ hGiven =>
    hGiven.imp fun name P => hGrow name _, hNow.2.mono hGrow⟩

/-- A preload begins at its turn, if it is not cancelled before. -/
theorem Unbegun.act (hMoves : Moves env True (seeded config) s) (h : s.Unbegun t) (a : Action) :
    (s.act env a).1.Unbegun t ∨ (s.act env a).1.Forgone t ∨
      a = .tick ∧ ∃ rest, s.queue = .resume t :: rest := by
  obtain ⟨⟨slots, hTask⟩, hAlone⟩ := h
  have hKnown : s.tasks.get? t ≠ none := by simp [hTask]
  by_cases hMine : s.number? a = some t
  · rcases concern_cases hMine with rfl | ⟨rfl, hTurn | ⟨_, w, _, _, hIn, hNumber⟩⟩
    · have hWoken : (s.act env (.cancelTask t)).1.tasks.get? t =
          some ⟨.preload slots, .woken .cancelled⟩ := by
        simp [State.act, cancelTask, hTask]
      exact Or.inr (Or.inl (.settled hWoken rfl (by simp [Phase.pantries?])))
    · exact Or.inr (Or.inr ⟨rfl, hTurn⟩)
    · exact absurd hNumber (hAlone w hIn)
  · obtain ⟨hSame, hWaits⟩ := act_others env hMoves.roster hKnown hMine
    exact Or.inl ⟨⟨slots, hSame.trans hTask⟩, fun w hw hNumber =>
      hAlone w (hWaits w hw hNumber) hNumber⟩

/-- A preload that has given its pantries had its turn. -/
theorem Unbegun.actAll (hMoves : Moves env True (seeded config) s) (h : s.Unbegun t)
    (more : List Action) {ps : List Pantry}
    (hGives : (actAll env more s).1.taskResult? t = some (.pantries ps)) :
    ∃ before after rest, more = before ++ .tick :: after ∧
      (actAll env before s).1.queue = .resume t :: rest ∧
      (actAll env more s).1.Underway config (actAll env before s).1.cache.locations.keys t := by
  induction more generalizing s with
  | nil =>
    obtain ⟨slots, hTask⟩ := h.ready
    have hNothing : s.taskResult? t = none := by simp [taskResult?, hTask]
    exact absurd (hNothing.symm.trans hGives) (by simp)
  | cons a more ih =>
    have hNext : Moves env True (seeded config) (s.act env a).1 :=
      hMoves.trans (act_moves a (fun _ => trivial) s)
    rcases h.act hMoves a with hStill | hForgone | ⟨rfl, rest, hQueue⟩
    · obtain ⟨before, after, rest, rfl, hTurn, hUnderway⟩ := ih hNext hStill hGives
      exact ⟨a :: before, after, rest, rfl, hTurn, hUnderway⟩
    · exact ((hForgone.actAll hNext more).of_result hGives).elim
    · exact ⟨[], more, rest, rfl, hQueue, (h.turn hMoves hQueue).actAll hNext more⟩

/-- A preload that is started has not begun. -/
theorem unbegun_start (hRunning : env.running = true) (hRoster : s.Roster)
    (slots : List (Option Pantry)) :
    (s.act env (.start (.preload slots))).1.Unbegun s.tickets := by
  have hWaiting : (s.startTask env (.preload slots)).1.waiting = s.waiting :=
    waiting_of_aside (aside_startTask _)
  refine ⟨⟨slots, ?_⟩, fun w hw hNumber => ?_⟩
  · simp [State.act, startTask, hRunning]
  have hIn : w ∈ s.waiting := hWaiting ▸ hw
  -- whoever waits, waits under a number that was taken
  have hFree : s.tasks.get? s.tickets = none := hRoster.used (Nat.le_refl _)
  have hTask : w.task? ≠ some s.tickets := fun hTask => by
    have hKind := hRoster.fits w hIn _ hTask
    simp [takesImports?, hFree] at hKind
  have hCallback : w.callback? ≠ some s.tickets := fun hCallback =>
    Nat.lt_irrefl _ (hRoster.apart w hIn _ hCallback).1
  cases w with
  | importing specifier citation session receiver =>
    cases receiver with
    | callback u script => exact hCallback hNumber
    | task u => exact hTask hNumber
  | unbound specifier citation u => exact hTask hNumber
  | resolver u => exact hTask hNumber
  | collector u slot => exact hTask hNumber
  | observer u => exact absurd hNumber (by simp [Waiter.number?])
  | prefetcher => exact absurd hNumber (by simp [Waiter.number?])

/-- **A preload gives the location seeds that were not resolved at its turn**, and no others. In
every run from every state that a cache with its seeds can come to: a preload that ends with pantries
had its turn in the run. What it gives are, in the order of the seeds, the pantries of those names
known by location that were not resolved then; each is the one that is at hand, or a discovery whose
promise was cancelled and a newer one brought these two. So it gives one for every location seed
exactly if none of them was resolved when its turn came. -/
theorem preload_gives_unresolved (h : Moves env True (seeded config) s)
    (hRunning : env.running = true) (slots : List (Option Pantry)) (more : List Action)
    {ps : List Pantry}
    (hGives : (State.actAll env (.start (.preload slots) :: more) s).1.taskResult? s.tickets =
      some (.pantries ps)) :
    let s' := (State.actAll env (.start (.preload slots) :: more) s).1
    ∃ before after, more = before ++ .tick :: after ∧
      let turn := (State.actAll env (.start (.preload slots) :: before) s).1
      turn.queue.head? = some (.resume s.tickets) ∧
      List.Forall₂ (fun name P => ∃ Q, s'.cache.get? name = some Q ∧
          (P = Q ∨ s'.cache.Overwritten name P Q))
        ((config.locations.filter fun entry => (turn.cache.get? entry.1).isNone).map Prod.fst) ps ∧
      (ps.length = config.locations.length ↔
        ∀ entry ∈ config.locations, turn.cache.get? entry.1 = none) := by
  intro s'
  have hStarted : Moves env True (seeded config) (s.act env (.start (.preload slots))).1 :=
    h.trans (act_moves _ (fun _ => trivial) s)
  obtain ⟨before, after, rest, hMore, hTurn, hUnderway⟩ :=
    (unbegun_start hRunning h.roster slots).actAll hStarted more hGives
  have hRun : Moves env True (seeded config) s' :=
    hStarted.trans (actAll_moves more (fun _ _ _ => trivial) _)
  refine ⟨before, after, hMore, ?_⟩
  intro turn
  have hTurnMoves : Moves env True (seeded config) turn :=
    hStarted.trans (actAll_moves before (fun _ _ _ => trivial) _)
  -- the search paths are of no concern here
  have hRouted : turn.fleet.Routed { config with searchPaths := env.searchPaths } :=
    Moves.routed hTurnMoves rfl
  have hNames : turn.cache.locations.keys =
      (config.locations.filter fun entry => (turn.cache.get? entry.1).isNone).map Prod.fst :=
    congrArg (List.map Prod.fst) hRouted.locations
  have hGiven := hUnderway.standing.of_result hGives
  change List.Forall₂ _ turn.cache.locations.keys ps at hGiven
  rw [hNames] at hGiven
  refine ⟨congrArg List.head? hTurn, hGiven.imp fun name P hKnown => ?_, ?_⟩
  · exact hRun.newest_of_version (hRun.known_kept_iff.mp hKnown)
  · rw [← hGiven.length_eq, List.length_map, List.length_filter_eq_length_iff]
    simp

/-- The one pantry that is known by location has been loaded when the importer was created. -/
def prefetched : State :=
  (State.actAll Setup.manual [.tick,
    .release 0 ⟨[], .pantry ⟨none, some (.ofString "/p"), .empty⟩⟩, .tick, .tick]
    (create Setup.manual mapped)).1

/-- So a preload gives nothing, though there is a location seed. -/
theorem preload_gives_unresolved_prefetched :
    let preloaded := (State.actAll Setup.manual [.start (.preload []), .tick] prefetched).1
    Reachable Setup.manual mapped prefetched ∧ Setup.manual.running = true ∧
      mapped.locations = [("p", .ofString "/p")] ∧
      preloaded.taskResult? prefetched.tickets = some (.pantries []) ∧
      ∃ before after, [.tick] = before ++ .tick :: after ∧
        ((State.actAll Setup.manual (.start (.preload []) :: before) prefetched).1.cache.get?
          "p").isSome := by
  intro preloaded
  have hReach : Reachable Setup.manual mapped prefetched := .actAll _ .create
  have hSeeds : mapped.locations = [("p", .ofString "/p")] := rfl
  have hEnds : preloaded.taskResult? prefetched.tickets = some (.pantries []) := rfl
  obtain ⟨before, after, hMore, _, _, hAll⟩ :=
    preload_gives_unresolved hReach.moves rfl [] [.tick] hEnds
  refine ⟨hReach, rfl, hSeeds, hEnds, before, after, hMore, ?_⟩
  -- it was resolved at the turn, because it is not given
  rw [Option.isSome_iff_ne_none]
  intro hNone
  rw [hSeeds] at hAll
  exact absurd (hAll.mpr (by simpa using hNone)) (by simp)

end State

end Larder
