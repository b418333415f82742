import Larder.Proofs.Importer.Line
import Larder.Proofs.Importer.Losses
import Larder.Proofs.Importer.Seeds

/-!
# Larder — at once or later

An ingredient of a pantry that is at hand is answered at once, and one of a pantry that has to be
looked for is answered later. A compilation must not see a difference: it hears the same outcomes in
the same order, and is given the same paths.

The outcomes that a compilation hears for a list of ingredients are a fold over that list
(`Pantry.serve`), whose state is what the compilation has been given and has heard so far. As long
as the pantry is looked for, what it has heard and what it will hear for the imports in line make up
that fold (`Owing`): an import that is deferred is appended to the list and to the line, and the one
at the head of the line is served when it is told.

## Results

* `Move.notify_cases`, `Move.reported`: deferred imports are told what a discovery came to.
* `Owing.act`, `Owing.run`: what a compilation has heard and is owed make up the fold.
* `same_at_once_or_later`: it hears the same for a pantry that is known and for one that is found.
-/

namespace Larder

-- ---------------------------------------------------------------------------
-- Vocabulary
-- ---------------------------------------------------------------------------

/-- What is asked for by an import of an ingredient: its specifier, and the ingredient. -/
abbrev Order : Type := String × String

/-- What an import asks for, if it cites an ingredient. -/
def Import.order? (cwd : Path) (what : Import) : Option Order :=
  match classify cwd what.specifier what.file with
  | .ingredient citation => some (what.specifier.text, citation.ingredientName)
  | _ => none

/-- Whether an import of a compilation cites an ingredient of some pantry. -/
def Import.Cites (cwd : Path) (session : SessionId) (name : String) (what : Import) : Prop :=
  what.session = session ∧ ∃ citation : Citation,
    classify cwd what.specifier what.file = .ingredient citation ∧ citation.pantryName = name

/-- What a deferred import asks for. -/
def Waiter.order? : Waiter → Option Order
  | .importing specifier citation _ _ => some (specifier, citation.ingredientName)
  | _ => none

/-- Serves an ingredient of a pantry to a compilation: what it has been given, and the outcomes that
it has heard. -/
def Pantry.serve (cwd : Path) (p : Pantry) (sofar : Emission × List Outcome) (order : Order) :
    Emission × List Outcome :=
  match p.entryPointFor cwd order.2 Pantry.styleKind with
  | .error fault => (sofar.1, sofar.2 ++ [.failure order.1 fault])
  | .ok path =>
    let r := sofar.1.answer path (.file path.toString)
    (r.1, sofar.2 ++ [r.2])

/-- Serves a list of ingredients to a compilation that has just begun. -/
def Pantry.serveAll (cwd : Path) (p : Pantry) (orders : List Order) : Emission × List Outcome :=
  orders.foldl (p.serve cwd) (Emission.empty, [])

/-- Whether a script does not import. -/
def Script.isIdle : Script → Bool
  | .importing .. => false
  | _ => true

/-- Whether an action neither starts nor cancels anything, and no callback of it imports again. -/
def Action.isPlain : Action → Bool
  | .importing _ script => script.isIdle
  | .request _ => true
  | .prefetch => true
  | .release .. => true
  | .tick => true
  | _ => false

/-- What an action imports. -/
def Action.import? : Action → Option Import
  | .importing what _ => some what
  | _ => none

/-- Whether a run imports only as long as some pantry is not at hand. -/
def State.ImportsBefore (env : Setup) (name : String) : List Action → State → Prop
  | [], _ => True
  | a :: rest, s => (a.import? ≠ none → s.cache.get? name = none) ∧
      ImportsBefore env name rest (s.act env a).1

/-- What a compilation is answered with. -/
def Reception.forSession (session : SessionId) (r : Reception) : Option Outcome :=
  if r.session = session then some r.outcome else none

theorem Action.cancels_of_isPlain {a : Action} (h : a.isPlain = true) : a.cancels = false := by
  cases a <;> simp_all [Action.isPlain, Action.cancels]

/-- Everything that is asked for is answered. -/
theorem Pantry.length_serve (cwd : Path) (p : Pantry) (orders : List Order)
    (sofar : Emission × List Outcome) :
    (orders.foldl (p.serve cwd) sofar).2.length = sofar.2.length + orders.length := by
  induction orders generalizing sofar with
  | nil => rfl
  | cons order rest ih =>
    have hOne : (p.serve cwd sofar order).2.length = sofar.2.length + 1 := by
      unfold serve
      split <;> simp
    rw [List.foldl_cons, ih, hOne, List.length_cons]
    omega

namespace State

variable {env : Setup} {config : Config} {s s' : State} {name : String}
  {V : String → Pantry → Prop} {x : Settlement} {w : Waiter} {P : Pantry} {session : SessionId}

-- ---------------------------------------------------------------------------
-- What deferred imports are told
-- ---------------------------------------------------------------------------

/-- Whether deferred imports that are about to be told are told what a discovery came to. -/
def Reported (s : State) (name : String) : Prop :=
  ∀ x w, .notify x w ∈ s.queue → w.cites name = true → s.cache.CameTo name x

theorem notify_pop (hJob : .notify x w ∈ s.pop.queue) : .notify x w ∈ s.queue :=
  List.mem_of_mem_tail hJob

theorem notify_of_aside (h : Aside s s') (hJob : .notify x w ∈ s'.queue) :
    .notify x w ∈ s.queue := by
  obtain ⟨_, _, ⟨ts, hQueue⟩, _⟩ := h
  simpa [hQueue] using hJob

theorem notify_request {asked : String} (hJob : .notify x w ∈ (s.request env asked).1.queue) :
    .notify x w ∈ s.queue := by
  rcases request_cases env s asked with ⟨p, _, h⟩ | ⟨i, _, _, h⟩ | ⟨_, _, h⟩ <;> rw [h] at hJob
  · exact hJob
  · exact hJob
  · simpa using hJob

/-- An import that is deferred is not told at once. -/
theorem notify_defer (hSound : s.fleet.Sound) {session : SessionId} {specifier : String}
    {citation : Citation} {receiver : Receiver}
    (hNone : s.cache.get? citation.pantryName = none)
    (hJob : .notify x w ∈ (s.defer env session specifier citation receiver).queue) :
    .notify x w ∈ s.queue := by
  obtain ⟨i, ws, hShared, hOpen⟩ := request_open env
    (s := s.note (.deferred receiver.ticket specifier citation.pantryName)) hSound hNone
  unfold defer at hJob
  simp only [hShared, attach, hOpen] at hJob
  exact notify_request (s := s.note _) hJob

/-- At the end of a discovery those are told who have waited for it. -/
theorem queue_landWith {i : FlightId} {f : Flight} (hFlight : s.cache.flights[i]? = some f)
    (asked : String) (landing : Landing) : (s.landWith i asked landing).queue = s.queue ++
      f.waiting.map fun w => .notify (.ofResult (conclude asked landing.returned)) w := by
  have hWaiters : ((s.cache.setStage i (.landed landing.returned)).conclude asked i
      (conclude asked landing.returned)).waiters i = f.waiting := by
    have hLanded : ((s.cache.setStage i (.landed landing.returned)).conclude asked i
        (conclude asked landing.returned)).flights[i]? =
          some { f with stage := .landed landing.returned } := by
      rw [flights_conclude, Cache.setStage, Cache.getElem?_modifyFlight, hFlight]
      simp
    rw [waiters_eq hLanded]
    rfl
  rw [← hWaiters]
  rfl

theorem cache_landWith (s : State) (i : FlightId) (asked : String) (landing : Landing) :
    (s.landWith i asked landing).cache = s.cache.land i asked landing.returned :=
  congrArg Fleet.cache (fleet_landWith i asked landing)

/-- Whether the discovery that someone waits for ends between two states, so that they are told what
it came to. -/
def EndsFor (s s' : State) (x : Settlement) (w : Waiter) : Prop :=
  ∃ i f returned, s.cache.flights[i]? = some f ∧ w ∈ f.waiting ∧
    x = .ofResult (conclude f.call.name returned) ∧ s'.cache = s.cache.land i f.call.name returned

theorem endsFor_landWith {i : FlightId} {f : Flight} (hFlight : s.cache.flights[i]? = some f)
    {landing : Landing} (hJob : .notify x w ∈ (s.landWith i f.call.name landing).queue) :
    .notify x w ∈ s.queue ∨ EndsFor s (s.landWith i f.call.name landing) x w := by
  rw [queue_landWith hFlight, List.mem_append, List.mem_map] at hJob
  rcases hJob with hOld | ⟨w', hWaits, hJob⟩
  · exact Or.inl hOld
  · obtain ⟨rfl, rfl⟩ := Job.notify.inj hJob
    exact Or.inr ⟨i, f, landing.returned, hFlight, hWaits, rfl, cache_landWith s i _ landing⟩

/-- A promise that is cancelled tells those who wait that it is. -/
theorem notify_settle {i : FlightId} {y : Settlement}
    (hJob : .notify x w ∈ (s.settle i y).queue) : .notify x w ∈ s.queue ∨ x = y := by
  rw [settle, queue_enqueue, queue_withCache, List.mem_append, List.mem_map] at hJob
  rcases hJob with hOld | ⟨_, _, hJob⟩
  · exact Or.inl hOld
  · exact Or.inr (Job.notify.inj hJob).1.symm

/-- A deferred import is told when its promise is cancelled, or when the discovery that it waits for
ends. -/
theorem Move.notify_cases (hMove : Move env cancels s s') (hSound : s.fleet.Sound)
    (hJob : .notify x w ∈ s'.queue) (hCites : w.cites name = true) :
    .notify x w ∈ s.queue ∨ (cancels ∧ x = .cancelled) ∨ EndsFor s s' x w := by
  cases hMove with
  | remark => exact Or.inl hJob
  | number => exact Or.inl hJob
  | give => exact Or.inl hJob
  | request => exact Or.inl (notify_request hJob)
  | @attach asked handle other hOffer hAdmit =>
    have hOther : w ≠ other := by
      rintro rfl
      cases w <;> simp_all [Admits, Waiter.cites, Waiter.cited?]
    refine Or.inl ?_
    rcases attach_cases s handle other with
      ⟨_, hAttach⟩ | ⟨_, _, _, _, hAttach⟩ | ⟨_, _, _, hAttach⟩ <;> rw [hAttach] at hJob
    · simpa [hOther] using hJob
    · exact hJob
    · exact hJob
  | defer hNone => exact Or.inl (notify_defer hSound hNone hJob)
  | cancel hCancels =>
    rcases notify_settle hJob with hOld | hCancelled
    · exact Or.inl hOld
    · exact Or.inr (Or.inl ⟨hCancels, hCancelled⟩)
  | launch => exact Or.inl (notify_pop hJob)
  | landNow hFlight => exact (endsFor_landWith hFlight hJob).imp_right Or.inr
  | comeBack => exact Or.inl (by simpa using hJob)
  | land _ hFlight =>
    rcases endsFor_landWith (s := s.pop) hFlight hJob with hOld | hEnds
    · exact Or.inl (notify_pop hOld)
    · exact Or.inr (Or.inr hEnds)
  | deliver =>
    rw [queue_note, queue_complete] at hJob
    exact Or.inl (notify_pop hJob)
  | hand =>
    have hBefore := notify_of_aside (aside_handOver _ _) hJob
    rw [queue_complete] at hBefore
    exact Or.inl (notify_pop hBefore)
  | tell _ hOther => exact Or.inl (notify_pop (notify_of_aside (aside_notify hOther _) hJob))
  | startTask => exact Or.inl (notify_of_aside (aside_startTask _) hJob)
  | cancelTask => exact Or.inl (notify_of_aside (aside_cancelTask _) hJob)
  | deferTask hQueue _ _ _ hNone =>
    have hSound' : s.pop.fleet.Sound := sound_pop hSound hQueue fun _ => rfl
    exact Or.inl (notify_pop (notify_defer hSound' hNone hJob))
  | park => exact Or.inl (notify_pop hJob)
  | finish => exact Or.inl (notify_pop hJob)
  | skip => exact Or.inl (notify_pop hJob)

/-- The end of a discovery reports what it came to. -/
theorem EndsFor.cameTo (h : EndsFor s s' x w) (hPosted : s.Posted V)
    (hCites : w.cites name = true) : s'.cache.CameTo name x := by
  obtain ⟨i, f, returned, hFlight, hWaits, rfl, hCache⟩ := h
  have hName : f.call.name = name := hPosted.call_name hFlight hWaits hCites
  have hServes : (s.cache.land i name returned).Serves name i
      (if i = i then f.ended returned else f) :=
    Cache.serves_land ⟨hFlight, hName⟩ ⟨hFlight, hName⟩
  rw [if_pos rfl] at hServes
  subst hName
  exact ⟨i, _, returned, hCache ▸ hServes, Flight.result?_ended f _, rfl⟩

/-- **Deferred imports are told what a discovery came to**, if no promise is cancelled. -/
theorem Move.reported (hMove : Move env False s s') (hSound : s.fleet.Sound) (hPosted : s.Posted V)
    (h : s.Reported name) : s'.Reported name := by
  intro x w hJob hCites
  rcases hMove.notify_cases hSound hJob hCites with hOld | ⟨hCancels, _⟩ | hEnds
  · exact cameTo_of_moves hSound (.single hMove) (h x w hOld hCites)
  · exact hCancels.elim
  · exact hEnds.cameTo hPosted hCites

theorem Moves.reported (h : Moves env False (seeded config) s) (name : String) :
    s.Reported name := by
  induction h with
  | refl => exact fun x w hJob => absurd hJob (by simp [seeded])
  | tail hMoves hMove ih => exact hMove.reported (Moves.sound hMoves) (Moves.posted hMoves) ih

-- ---------------------------------------------------------------------------
-- What is known beforehand
-- ---------------------------------------------------------------------------

theorem get?_prefetchAll (env : Setup) (names : List String) (s : State) (name : String) :
    (prefetchAll env names s).cache.get? name = s.cache.get? name := by
  induction names generalizing s with
  | nil => rfl
  | cons asked rest ih => rw [prefetchAll, ih, get?_attach, get?_request]

theorem get?_create (env : Setup) (config : Config) (name : String) :
    (create env config).cache.get? name = (Cache.ofSeeds config.pantries).get? name := by
  simp only [create]
  split
  · exact get?_prefetchAll env _ _ name
  · rfl

-- ---------------------------------------------------------------------------
-- What a compilation hears for a list of ingredients
-- ---------------------------------------------------------------------------

/-- The outcomes that a compilation hears in a run, in the order in which it hears them. -/
def answersTo (env : Setup) (session : SessionId) (actions : List Action) (s : State) :
    List Outcome :=
  (allReceptions env actions s).filterMap (Reception.forSession session)

theorem length_orders {imports : List Import}
    (hCites : ∀ what ∈ imports, what.Cites env.cwd session name) :
    (imports.filterMap (Import.order? env.cwd)).length = imports.length := by
  induction imports with
  | nil => rfl
  | cons what rest ih =>
    obtain ⟨_, citation, hClass, _⟩ := hCites what List.mem_cons_self
    have hOrder : what.order? env.cwd = some (what.specifier.text, citation.ingredientName) := by
      simp only [Import.order?, hClass]
    rw [List.filterMap_cons_some hOrder, List.length_cons, List.length_cons,
      ih fun w hw => hCites w (List.mem_cons_of_mem what hw)]

/-- A compilation is answered for a citation as it is served. -/
theorem serve_resolveIn (env : Setup) (s : State) (session : SessionId) (specifier : String)
    (P : Pantry) (ingredient : String) (heard : List Outcome) :
    P.serve env.cwd (s.emission session, heard) (specifier, ingredient) =
      ((s.resolveIn env session specifier P ingredient).1.emission session,
        heard ++ [(s.resolveIn env session specifier P ingredient).2]) := by
  rcases resolveIn_cases env s session specifier P ingredient with
    ⟨path, hPath, _, h⟩ | ⟨fault, hFault, h⟩
  · rw [h, emission_giveOnce, if_pos rfl]
    simp only [Pantry.serve, hPath]
    rfl
  · rw [h]
    simp only [Pantry.serve, hFault]

/-- An answer changes neither what is known of the pantries nor the queue. -/
theorem resolveIn_keeps (env : Setup) (s : State) (session : SessionId) (specifier : String)
    (P : Pantry) (ingredient : String) :
    (s.resolveIn env session specifier P ingredient).1.cache = s.cache ∧
      (s.resolveIn env session specifier P ingredient).1.queue = s.queue := by
  rcases resolveIn_cases env s session specifier P ingredient with ⟨_, _, _, h⟩ | ⟨_, _, h⟩
  · rw [h]
    exact ⟨rfl, rfl⟩
  · rw [h]
    exact ⟨rfl, rfl⟩

/-- An ingredient of a pantry at hand is served at once. -/
theorem importing_at_hand {what : Import} (hCites : what.Cites env.cwd session name)
    (hHand : s.cache.get? name = some P) (script : Script) (heard : List Outcome) :
    let s' := (s.act env (.importing what script)).1
    let answers := s.receptions env (.importing what script)
    s'.cache = s.cache ∧ s'.queue = s.queue ∧
      (what.order? env.cwd).toList.foldl (P.serve env.cwd) (s.emission session, heard) =
        (s'.emission session, heard ++ answers.filterMap (Reception.forSession session)) := by
  obtain ⟨rfl, citation, hClass, rfl⟩ := hCites
  intro s' answers
  have hServe := serve_resolveIn env s what.session what.specifier.text P citation.ingredientName
    heard
  obtain ⟨hCache, hQueue⟩ := resolveIn_keeps env s what.session what.specifier.text P
    citation.ingredientName
  obtain ⟨r, hAnswer⟩ : ∃ r, s.resolveIn env what.session what.specifier.text P
    citation.ingredientName = r := ⟨_, rfl⟩
  rw [hAnswer] at hServe hCache hQueue
  have hResolve : s.resolve env what (.callback s.tickets script) = (r.1, .answered r.2) := by
    simp only [resolve, hClass, hHand, hAnswer]
  have hOrder : what.order? env.cwd = some (what.specifier.text, citation.ingredientName) := by
    simp only [Import.order?, hClass]
  have hHeard : answers.filterMap (Reception.forSession what.session) = [r.2] := by
    simp [answers, receptions, hResolve, Reply.receptions, Reception.forSession]
  -- the host may take a number for an answer that it cannot tell from a deferral
  have hState : s' = r.1 ∨ s' = r.1.takeTicket := by
    have hEither := importing_eq env s what script
    rwa [hResolve] at hEither
  have hEmission : s'.emission what.session = r.1.emission what.session := by
    rcases hState with h | h <;> rw [h]
    rfl
  have hKeeps : s'.cache = r.1.cache ∧ s'.queue = r.1.queue := by
    rcases hState with h | h <;> rw [h]
    · exact ⟨rfl, rfl⟩
    · exact ⟨rfl, rfl⟩
  refine ⟨hKeeps.1.trans hCache, hKeeps.2.trans hQueue, ?_⟩
  rw [hOrder, hHeard, hEmission]
  exact hServe

/-- So are many. -/
theorem served_at_once {imports : List Import}
    (hCites : ∀ what ∈ imports, what.Cites env.cwd session name)
    (hHand : s.cache.get? name = some P) (heard : List Outcome) :
    (imports.filterMap (Import.order? env.cwd)).foldl (P.serve env.cwd)
        (s.emission session, heard) =
      ((actAll env (imports.map (.importing · .stop)) s).1.emission session,
        heard ++ answersTo env session (imports.map (.importing · .stop)) s) := by
  induction imports generalizing s heard with
  | nil => simp [answersTo, allReceptions, actAll]
  | cons what rest ih =>
    obtain ⟨hCache, _, hServed⟩ :=
      importing_at_hand (hCites what List.mem_cons_self) hHand .stop heard
    have hRest := ih (fun w hw => hCites w (List.mem_cons_of_mem _ hw))
      (s := (s.act env (.importing what .stop)).1) (by rw [hCache, hHand])
      (heard ++ (s.receptions env (.importing what .stop)).filterMap (Reception.forSession session))
    have hSplit : (what :: rest).filterMap (Import.order? env.cwd) =
        (what.order? env.cwd).toList ++ rest.filterMap (Import.order? env.cwd) := by
      rw [List.filterMap_cons]
      cases what.order? env.cwd <;> rfl
    rw [hSplit, List.foldl_append, hServed, hRest, List.map_cons, List.append_assoc]
    simp only [answersTo, allReceptions, List.filterMap_append]
    rfl

-- ---------------------------------------------------------------------------
-- What a compilation has heard and is owed
-- ---------------------------------------------------------------------------

/-- Whether what a compilation has heard, and what it will hear for the imports in line for a pantry
that comes, is what it asked for served one after another. It alone waits, and its callbacks do
not import again. -/
structure Owing (cwd : Path) (P : Pantry) (name : String) (session : SessionId) (asked : List Order)
    (heard : List Outcome) (s : State) : Prop where
  taskless : ∀ t, s.takesImports? t = none
  lined : ∀ other, ∀ w ∈ s.line other, other = name ∧ ∃ specifier citation t script,
    w = .importing specifier citation session (.callback t script) ∧ script.isIdle = true
  books : ((s.line name).filterMap Waiter.order?).foldl (P.serve cwd) (s.emission session, heard) =
    P.serveAll cwd asked

variable {asked : List Order} {heard : List Outcome} {cwd : Path}

theorem Owing.keep (h : Owing cwd P name session asked heard s)
    (hKinds : ∀ t, s'.takesImports? t = s.takesImports? t)
    (hLine : ∀ other, s'.line other = s.line other) (hGiven : s'.given = s.given) :
    Owing cwd P name session asked heard s' where
  taskless := fun t => (hKinds t).trans (h.taskless t)
  lined := fun other => hLine other ▸ h.lined other
  books := by rw [hLine, emission_of_given hGiven, h.books]

/-- One more import of the pantry is deferred. -/
theorem Owing.join (h : Owing cwd P name session asked heard s) {specifier : String}
    {citation : Citation} {t : Ticket} {script : Script} (hName : citation.pantryName = name)
    (hIdle : script.isIdle = true) (hKinds : ∀ t, s'.takesImports? t = s.takesImports? t)
    (hLine : ∀ other, s'.line other = s.line other ++
      [.importing specifier citation session (.callback t script)].filter (Waiter.cites other))
    (hGiven : s'.given = s.given) :
    Owing cwd P name session (asked ++ [(specifier, citation.ingredientName)]) heard s' where
  taskless := fun t => (hKinds t).trans (h.taskless t)
  lined := by
    intro other w hw
    rw [hLine, List.mem_append, List.mem_filter, List.mem_singleton] at hw
    rcases hw with hOld | ⟨rfl, hCites⟩
    · exact h.lined other w hOld
    · have hOther : citation.pantryName = other := by
        simpa [Waiter.cites, Waiter.cited?] using hCites
      exact ⟨hOther.symm.trans hName, specifier, citation, t, script, rfl, hIdle⟩
  books := by
    have hCites : Waiter.cites name (.importing specifier citation session (.callback t script)) =
        true := by simp [Waiter.cites, Waiter.cited?, hName]
    have hLast : (s'.line name).filterMap Waiter.order? =
        (s.line name).filterMap Waiter.order? ++ [(specifier, citation.ingredientName)] := by
      rw [hLine, List.filter_cons_of_pos hCites, List.filterMap_append]
      rfl
    rw [hLast, List.foldl_append, emission_of_given hGiven, h.books, Pantry.serveAll,
      Pantry.serveAll, List.foldl_append]

/-- The import at the head of the line is told of the pantry. -/
theorem Owing.leave (h : Owing env.cwd P name session asked heard s) {specifier : String}
    {citation : Citation} {t : Ticket} {script : Script} (hName : citation.pantryName = name)
    (hKinds : ∀ t, s'.takesImports? t = s.takesImports? t)
    (hLine : ∀ other, s.line other =
      [.importing specifier citation session (.callback t script)].filter (Waiter.cites other) ++
        s'.line other)
    (hGiven : s'.given =
      (s.pop.resolveIn env session specifier P citation.ingredientName).1.given) :
    Owing env.cwd P name session asked
      (heard ++ [(s.pop.resolveIn env session specifier P citation.ingredientName).2]) s' where
  taskless := fun t => (hKinds t).trans (h.taskless t)
  lined := fun other w hw => h.lined other w (by
    rw [hLine]
    exact List.mem_append_right _ hw)
  books := by
    have hCites : Waiter.cites name (.importing specifier citation session (.callback t script)) =
        true := by simp [Waiter.cites, Waiter.cited?, hName]
    have hFirst : (s.line name).filterMap Waiter.order? =
        (specifier, citation.ingredientName) :: (s'.line name).filterMap Waiter.order? := by
      rw [hLine, List.filter_cons_of_pos hCites, List.filterMap_append]
      rfl
    have hServed := serve_resolveIn env s.pop session specifier P citation.ingredientName heard
    have hBooks := h.books
    rw [hFirst, List.foldl_cons, show s.emission session = s.pop.emission session from rfl,
      hServed] at hBooks
    rw [emission_of_given hGiven, hBooks]

theorem line_prefetchAll (env : Setup) (names : List String) (s : State) (other : String) :
    (prefetchAll env names s).line other = s.line other := by
  induction names generalizing s with
  | nil => rfl
  | cons name rest ih =>
    rw [prefetchAll, ih, line_attach_other _ rfl, line_request]

theorem line_launch (hGathered : s.cache.Gathered name) (i : FlightId) :
    (s.launch env i).line name = s.line name := by
  unfold launch
  split
  · rfl
  · rename_i f _
    have hCalled : ((s.withCache (s.cache.setStage i .flying)).note (.called f.call)).line name =
        s.line name := line_setStage (s := s) i .flying
    simp only
    split
    · exact hCalled
    · exact (line_landWith (gathered_setStage hGathered i .flying) _ _ _).trans hCalled

theorem line_land (hGathered : s.cache.Gathered name) (i : FlightId) :
    (s.land i).line name = s.line name := by
  unfold land
  split
  · exact line_landWith hGathered _ _ _
  · rfl

theorem act_importing_deferred (hRunning : env.running = true) {what : Import} {citation : Citation}
    (hClass : classify env.cwd what.specifier what.file = .ingredient citation)
    (hNone : s.cache.get? citation.pantryName = none) (script : Script) :
    s.receptions env (.importing what script) = [] ∧
      (s.act env (.importing what script)).1 = (s.defer env what.session what.specifier.text
        citation (.callback s.tickets script)).takeTicket := by
  have hResolve : s.resolve env what (.callback s.tickets script) =
      (s.defer env what.session what.specifier.text citation (.callback s.tickets script),
        .deferred s.tickets) := by
    simp only [resolve, hClass, hNone, hRunning, if_true, Receiver.ticket]
  constructor
  · simp [receptions, hResolve, Reply.receptions]
  · simp only [State.act, State.importing, hResolve]

/-- An import of a pantry that is looked for is deferred. -/
theorem Owing.importing (h : Owing env.cwd P name session asked heard s)
    (hMoves : Moves env cancels (seeded config) s) (hRunning : env.running = true) {what : Import}
    {script : Script} (hCites : what.Cites env.cwd session name) (hIdle : script.isIdle = true)
    (hNone : s.cache.get? name = none) :
    s.receptions env (.importing what script) = [] ∧
      Owing env.cwd P name session (asked ++ (what.order? env.cwd).toList) heard
        (s.act env (.importing what script)).1 := by
  obtain ⟨rfl, citation, hClass, rfl⟩ := hCites
  obtain ⟨hNothing, hState⟩ := act_importing_deferred hRunning hClass hNone script
  have hOrder : what.order? env.cwd = some (what.specifier.text, citation.ingredientName) := by
    simp only [Import.order?, hClass]
  have hLine : ∀ other, (s.act env (.importing what script)).1.line other = s.line other ++
      [.importing what.specifier.text citation what.session (.callback s.tickets script)].filter
        (Waiter.cites other) := fun other => by
    rw [hState]
    exact line_defer (Moves.sound hMoves) (Moves.posted hMoves) what.session what.specifier.text
      (.callback s.tickets script) hNone other
  have hGiven : (s.act env (.importing what script)).1.given = s.given := by
    rw [hState]
    exact given_defer _ _ _ _
  refine ⟨hNothing, ?_⟩
  rw [hOrder]
  exact h.join rfl hIdle (act_onBehalf (fun _ => by simp) s).kinds hLine hGiven

theorem runScript_idle {script : Script} (h : script.isIdle = true) (t : Ticket) (s : State) :
    runScript env t script s = s ∧ scriptReceptions env t script s = [] := by
  cases script with
  | stop => exact ⟨rfl, rfl⟩
  | fail => exact ⟨rfl, rfl⟩
  | importing => simp [Script.isIdle] at h

/-- The import at the head of the line is told of the pantry. -/
theorem Owing.told (h : Owing env.cwd P name session asked heard s) {rest : List Job}
    (hQueue : s.queue = .notify x w :: rest) (hImport : w.isImport = true)
    (hKept : ∀ x w, .notify x w ∈ s.queue → w.cites name = true → x = .kept P) :
    Owing env.cwd P name session asked
      (heard ++
        (s.pop.jobReceptions env (.notify x w)).filterMap (Reception.forSession session))
      (s.pop.perform env (.notify x w)) := by
  obtain ⟨other, hCites⟩ : ∃ other, w.cites other = true := by
    cases w with
    | importing specifier citation who receiver =>
      exact ⟨citation.pantryName, by simp [Waiter.cites, Waiter.cited?]⟩
    | _ => simp [Waiter.isImport] at hImport
  have hInLine : w ∈ s.line other := by
    rw [line_pop hQueue]
    exact List.mem_append_left _ (List.mem_filter.mpr ⟨List.mem_singleton_self w, hCites⟩)
  obtain ⟨rfl, specifier, citation, t, script, rfl, hIdle⟩ := h.lined other w hInLine
  have hName : citation.pantryName = other := by simpa [Waiter.cites, Waiter.cited?] using hCites
  have hFirst : .notify x (.importing specifier citation session (.callback t script)) ∈ s.queue :=
    hQueue ▸ List.mem_cons_self
  obtain rfl := hKept x _ hFirst hCites
  have hState : s.pop.perform env
      (.notify (.kept P) (.importing specifier citation session (.callback t script))) =
        (s.pop.resolveIn env session specifier P citation.ingredientName).1.note (.delivered t
          (s.pop.resolveIn env session specifier P citation.ingredientName).2) :=
    (runScript_idle hIdle t _).1
  have hHeard : (s.pop.jobReceptions env
      (.notify (.kept P) (.importing specifier citation session (.callback t script)))).filterMap
        (Reception.forSession session) =
      [(s.pop.resolveIn env session specifier P citation.ingredientName).2] := by
    simp [jobReceptions, complete, (runScript_idle hIdle t _).2, Reception.forSession]
  have hKinds : ∀ t', (s.pop.perform env (.notify (.kept P)
      (.importing specifier citation session (.callback t script)))).takesImports? t' =
        s.takesImports? t' :=
    (onBehalf_notify s.pop (.kept P)
      (.importing specifier citation session (.callback t script))).kinds
  have hLine : ∀ name, s.line name =
      [.importing specifier citation session (.callback t script)].filter (Waiter.cites name) ++
        (s.pop.perform env (.notify (.kept P)
          (.importing specifier citation session (.callback t script)))).line name := by
    intro name
    have hKeeps := line_complete env s.pop session specifier citation (.kept P) name
    rw [line_pop hQueue, hState]
    exact congrArg (_ ++ ·) hKeeps.symm
  rw [hHeard]
  exact h.leave hName hKinds hLine (hState ▸ given_note rfl)

/-- When a job is run, the import at the head of the line may be told, or nobody is. -/
theorem Owing.tick (h : Owing env.cwd P name session asked heard s)
    (hMoves : Moves env cancels (seeded config) s)
    (hKept : ∀ x w, .notify x w ∈ s.queue → w.cites name = true → x = .kept P) :
    Owing env.cwd P name session asked
      (heard ++ (s.receptions env .tick).filterMap (Reception.forSession session))
      (s.act env .tick).1 := by
  have hKinds : ∀ t, (s.act env .tick).1.takesImports? t = s.takesImports? t :=
    (act_onBehalf (fun _ => by simp) s).kinds
  have hGathered : ∀ other, s.cache.Gathered other :=
    gathered_of_sound (Moves.sound hMoves) (Moves.posted hMoves)
  cases hQueue : s.queue with
  | nil =>
    have hSame : (s.act env .tick).1 = s := tick_nil hQueue
    have hNothing : s.receptions env .tick = [] := by simp only [receptions, hQueue]
    rw [hSame, hNothing]
    simpa using h
  | cons job rest =>
    have hTick : (s.act env .tick).1 = s.pop.perform env job := by
      simp [State.act, State.tick, pop, hQueue]
    have hHeard : s.receptions env .tick = s.pop.jobReceptions env job := by
      simp only [receptions, hQueue]
    have hPop : ∀ other, s.line other = job.citing other ++ s.pop.line other :=
      fun other => line_pop hQueue
    have hSilent : s.pop.jobReceptions env job = [] →
        (∀ other, (s.pop.perform env job).line other = s.line other) →
        (s.pop.perform env job).given = s.given →
        Owing env.cwd P name session asked
          (heard ++ (s.receptions env .tick).filterMap (Reception.forSession session))
          (s.act env .tick).1 := by
      intro hNothing hLine hGiven
      rw [hHeard, hNothing, List.filterMap_nil, List.append_nil]
      exact h.keep hKinds (fun other => hTick ▸ hLine other) (hTick ▸ hGiven)
    cases job with
    | launch i =>
      exact hSilent rfl (fun other => (line_launch (s := s.pop) (hGathered other) i).trans
        (hPop other).symm) (given_launch s.pop i)
    | land i =>
      exact hSilent rfl (fun other => (line_land (s := s.pop) (hGathered other) i).trans
        (hPop other).symm) (given_land s.pop i)
    | resume t =>
      -- there is no such task
      have hNone : s.pop.tasks.get? t = none := by
        simpa [takesImports?] using h.taskless t
      have hSame : s.pop.perform env (.resume t) = s.pop := by
        simp only [perform, resume, hNone]
      refine hSilent (by simp only [jobReceptions, hNone]) (fun other => ?_) ?_
      · rw [hSame]
        exact (hPop other).symm
      · rw [hSame]
        rfl
    | notify x w =>
      by_cases hImport : w.isImport = true
      · rw [hHeard, hTick]
        exact h.told hQueue hImport hKept
      · have hOther : w.isImport = false := by simpa using hImport
        have hAside : Aside s.pop (s.pop.perform env (.notify x w)) := aside_notify hOther x
        refine hSilent ?_ (fun other => ?_) (given_of_aside (s := s.pop) hAside)
        · cases w <;> first | rfl | exact absurd rfl hImport
        · have hCites : w.cites other = false := by
            cases w <;> first | rfl | exact absurd rfl hImport
          rw [line_of_aside hAside, hPop]
          simp [Job.citing, Job.waiting, hCites]

/-- **What a compilation has heard and is owed** makes up what it asked for, served in order,
whatever happens while the pantry is looked for. -/
theorem Owing.act (h : Owing env.cwd P name session asked heard s)
    (hMoves : Moves env cancels (seeded config) s) (hRunning : env.running = true) {a : Action}
    (hPlain : a.isPlain = true)
    (hImport : ∀ what, a.import? = some what →
      what.Cites env.cwd session name ∧ s.cache.get? name = none)
    (hKept : ∀ x w, .notify x w ∈ s.queue → w.cites name = true → x = .kept P) :
    Owing env.cwd P name session (asked ++ (a.import?.bind (Import.order? env.cwd)).toList)
      (heard ++ (s.receptions env a).filterMap (Reception.forSession session))
      (s.act env a).1 := by
  have hKeep : (∀ work, a ≠ .start work) →
      (∀ other, (s.act env a).1.line other = s.line other) → (s.act env a).1.given = s.given →
      Owing env.cwd P name session (asked ++ []) (heard ++ []) (s.act env a).1 := by
    intro hOld hLine hGiven
    rw [List.append_nil, List.append_nil]
    exact h.keep (act_onBehalf hOld s).kinds hLine hGiven
  cases a with
  | importing what script =>
    obtain ⟨hCites, hNone⟩ := hImport what rfl
    obtain ⟨hNothing, hJoined⟩ := h.importing hMoves hRunning hCites hPlain hNone
    rw [hNothing, List.filterMap_nil, List.append_nil]
    exact hJoined
  | request asked' =>
    have hState : (s.act env (.request asked')).1 = (s.takeTicket.request env asked').1.attach
        (s.takeTicket.request env asked').2 (.observer s.tickets) := by
      simp only [State.act, requesting, hRunning, if_true]
    refine hKeep (fun _ => by simp) (fun other => ?_) ?_
    · rw [hState, line_attach_other _ rfl, line_request]
      rfl
    · rw [hState]
      exact given_request_attach env s.takeTicket asked' _
  | prefetch =>
    have hState : (s.act env .prefetch).1 = prefetchAll env s.cache.locations.keys s := by
      simp only [State.act, prefetch, hRunning, if_true]
      split
      · rename_i hNothing
        rw [hNothing]
        rfl
      · rfl
    refine hKeep (fun _ => by simp) (fun other => ?_) ?_
    · rw [hState, line_prefetchAll]
    · rw [hState, given_prefetchAll]
  | release i landing =>
    refine hKeep (fun _ => by simp) (fun other => ?_) ?_
    · simp only [State.act, State.release]
      split
      · exact (line_enqueue rfl).trans (line_setStage i _)
      · rfl
    · simp only [State.act, State.release]
      split <;> rfl
  | tick =>
    have hTold := h.tick hMoves hKept
    rw [← List.append_nil asked] at hTold
    exact hTold
  | start work => simp [Action.isPlain] at hPlain
  | cancelRequest other => simp [Action.isPlain] at hPlain
  | cancelPromise other => simp [Action.isPlain] at hPlain
  | cancelTask t => simp [Action.isPlain] at hPlain

-- ---------------------------------------------------------------------------
-- Runs
-- ---------------------------------------------------------------------------

theorem owing_create (env : Setup) (config : Config) (cwd : Path) (P : Pantry) (name : String)
    (session : SessionId) : Owing cwd P name session [] [] (create env config) := by
  have hLine : ∀ other, (create env config).line other = [] := by
    intro other
    rw [← line_seeded config other]
    simp only [create]
    split
    · exact line_prefetchAll env _ _ other
    · rfl
  refine ⟨(onBehalf_create env config).kinds, fun other w hw => ?_, ?_⟩
  · simp [hLine] at hw
  · rw [hLine, emission_of_given (given_create env config)]
    rfl

/-- So it is in every run that imports while the pantry is looked for and finds it. -/
theorem Owing.run (h : Owing env.cwd (P.named name) name session asked heard s)
    (hMoves : Moves env False (seeded config) s) (hRunning : env.running = true)
    {actions : List Action} (hPlain : ∀ a ∈ actions, a.isPlain = true)
    (hCites : ∀ what ∈ actions.filterMap Action.import?, what.Cites env.cwd session name)
    (hBefore : ImportsBefore env name actions s)
    (hReturns : ∀ i f returned, (actAll env actions s).1.cache.Serves name i f →
      f.result? = some returned → returned = .pantry P) :
    Owing env.cwd (P.named name) name session
      (asked ++ (actions.filterMap Action.import?).filterMap (Import.order? env.cwd))
      (heard ++ answersTo env session actions s) (actAll env actions s).1 := by
  induction actions generalizing s asked heard with
  | nil => simpa [answersTo, allReceptions, actAll] using h
  | cons a rest ih =>
    obtain ⟨hNone, hLater⟩ := hBefore
    have hPlainRest : ∀ b ∈ rest, b.isPlain = true :=
      fun b hb => hPlain b (List.mem_cons_of_mem a hb)
    have hUncancelled : ∀ b ∈ a :: rest, b.cancels = true → False := by
      intro b hb hCancels
      simp [Action.cancels_of_isPlain (hPlain b hb)] at hCancels
    have hStep : Moves env False (seeded config) (s.act env a).1 :=
      hMoves.trans (act_moves a (hUncancelled a List.mem_cons_self) s)
    -- whoever is told now is told what a discovery returned that has ended by then
    have hKept : ∀ x w, .notify x w ∈ s.queue → w.cites name = true →
        x = .kept (P.named name) := by
      intro x w hJob hCites
      have hLater : Moves env False s (actAll env (a :: rest) s).1 :=
        actAll_moves (a :: rest) hUncancelled s
      obtain ⟨i, f, returned, hServes, hResult, rfl⟩ := cameTo_of_moves (Moves.sound hMoves) hLater
        (Moves.reported hMoves name x w hJob hCites)
      rw [hReturns i f returned hServes hResult]
      rfl
    have hFirst := h.act hMoves hRunning (hPlain a List.mem_cons_self) (fun what hWhat =>
      ⟨hCites what (List.mem_filterMap.mpr ⟨a, List.mem_cons_self, hWhat⟩),
        hNone (by simp [hWhat])⟩) hKept
    have hRest := ih hFirst hStep hPlainRest (fun what hWhat => hCites what (by
      rw [List.filterMap_cons]
      split
      · exact hWhat
      · exact List.mem_cons_of_mem _ hWhat)) hLater hReturns
    have hOrders : ((a :: rest).filterMap Action.import?).filterMap (Import.order? env.cwd) =
        (a.import?.bind (Import.order? env.cwd)).toList ++
          (rest.filterMap Action.import?).filterMap (Import.order? env.cwd) := by
      rw [List.filterMap_filterMap, List.filterMap_cons, List.filterMap_filterMap]
      cases a.import?.bind (Import.order? env.cwd) <;> rfl
    have hHeard : answersTo env session (a :: rest) s =
        (s.receptions env a).filterMap (Reception.forSession session) ++
          answersTo env session rest (s.act env a).1 := by
      simp only [answersTo, allReceptions, List.filterMap_append]
    rw [hOrders, hHeard, ← List.append_assoc, ← List.append_assoc]
    exact hRest

/-- When the queue is empty and the pantry is at hand, nobody is in line for it. -/
theorem line_of_found (h : Moves env False (seeded config) s) (hDrained : s.queue = [])
    (hFound : s.cache.get? name ≠ none) : s.line name = [] := by
  have hNobody : s.cache.flights.flatMap (Flight.citing name) = [] := by
    rw [List.flatMap_eq_nil_iff]
    intro f hf
    by_contra hSome
    obtain ⟨i, hFlight⟩ := List.mem_iff_getElem?.mp hf
    have hSlot := slot_of_citing (Moves.sound h) (Moves.posted h) hFlight hSome
    -- a name that is both pending and at hand was outrun by a cancelled discovery
    obtain ⟨j, _, g, _, hServes, _, _, _, hCancelled, _⟩ := (Moves.sound h).coherent.outrun_iff.mp
      ⟨hFound, Cache.isPending_iff.mpr ⟨i, hSlot⟩⟩
    simp [Moves.uncancelled h j g hServes.1] at hCancelled
  rw [line, hDrained, hNobody]
  rfl

/-- What is found for a name that was not known is what its discoveries return. -/
theorem get?_of_returns (h : Moves env cancels (seeded config) s)
    (hUnknown : (Cache.ofSeeds config.pantries).get? name = none)
    (hReturns : ∀ i f returned, s.cache.Serves name i f → f.result? = some returned →
      returned = .pantry P)
    (hFound : s.cache.get? name ≠ none) : s.cache.get? name = some (P.named name) := by
  obtain ⟨Q, hGet⟩ := Option.ne_none_iff_exists'.mp hFound
  have hVersion : Q ∈ s.versions config name := Moves.version_of_uses h (.atHand hGet)
  rcases (Moves.mem_versions h).mp hVersion with ⟨i, f, hServes, hBrings⟩ | hSeed
  · unfold Flight.brings at hBrings
    split at hBrings
    · rename_i p hResult
      obtain rfl := Returned.pantry.inj (hReturns i f _ hServes hResult)
      rw [hGet, ← Option.some.inj hBrings, hServes.2]
    · exact absurd hBrings (by simp)
  · simp [hUnknown] at hSeed

/-- **At once or later, a compilation hears the same.** An importer that knows a pantry answers a
list of ingredients of it at once. Another one has to look for it: the compilation imports a part of
the list while the pantry is not at hand, and the rest when it was found and everybody was told.
Whatever else happens in between, all are answered in both cases, with the same outcomes in the same
order, those that were deferred first; and the compilation is given the same paths. -/
theorem same_at_once_or_later {env' : Setup} {known : Config} {actions : List Action}
    {more : List Import} (hCwd : env'.cwd = env.cwd) (hRunning : env.running = true)
    (hKnown : known.pantries.get? name = some (.descriptor P))
    (hUnknown : ∀ Q, config.pantries.get? name ≠ some (.descriptor Q))
    (hPlain : ∀ a ∈ actions, a.isPlain = true)
    (hCites : ∀ what ∈ actions.filterMap Action.import? ++ more, what.Cites env.cwd session name)
    (hBefore : ImportsBefore env name actions (create env config))
    (hRun : (actAll env actions (create env config)).1 = s)
    (hReturns : ∀ i f returned, s.cache.Serves name i f → f.result? = some returned →
      returned = .pantry P)
    (hFound : s.cache.get? name ≠ none) (hDrained : s.queue = []) :
    let all := (actions.filterMap Action.import? ++ more).map (Action.importing · .stop)
    let rest := more.map (Action.importing · .stop)
    answersTo env' session all (create env' known) =
        answersTo env session actions (create env config) ++ answersTo env session rest s ∧
      (answersTo env session actions (create env config)).length =
        (actions.filterMap Action.import?).length ∧
      (answersTo env session rest s).length = more.length ∧
      (actAll env' all (create env' known)).1.emission session =
        (actAll env rest s).1.emission session := by
  intro all rest
  have hMoves : Moves env False (seeded config) s := by
    rw [← hRun]
    refine (create_moves env config).trans (actAll_moves actions (fun a ha hCancels => ?_) _)
    simp [Action.cancels_of_isPlain (hPlain a ha)] at hCancels
  have hCitesFirst : ∀ what ∈ actions.filterMap Action.import?, what.Cites env.cwd session name :=
    fun what hWhat => hCites what (List.mem_append_left _ hWhat)
  have hCitesMore : ∀ what ∈ more, what.Cites env.cwd session name :=
    fun what hWhat => hCites what (List.mem_append_right _ hWhat)
  -- what was deferred, and what is answered at once then
  have hOwing := (owing_create env config env.cwd (P.named name) name session).run
    (create_moves env config) hRunning hPlain hCitesFirst hBefore (by rwa [hRun])
  have hFirst := hOwing.books
  rw [hRun, line_of_found hMoves hDrained hFound, List.filterMap_nil, List.foldl_nil,
    List.nil_append, List.nil_append, Pantry.serveAll] at hFirst
  have hHand : s.cache.get? name = some (P.named name) := by
    refine get?_of_returns hMoves ?_ hReturns hFound
    rw [get?_ofSeeds]
    split
    · rename_i Q hSeed
      exact absurd hSeed (hUnknown Q)
    · rfl
  have hSecond := served_at_once hCitesMore hHand
    (answersTo env session actions (create env config))
  -- the same list for the importer that knows the pantry
  have hKnownAll : ∀ what ∈ actions.filterMap Action.import? ++ more,
      what.Cites env'.cwd session name := hCwd ▸ hCites
  have hHandKnown : (create env' known).cache.get? name = some (P.named name) := by
    rw [get?_create, get?_ofSeeds, hKnown]
  have hAll := served_at_once hKnownAll hHandKnown []
  rw [hCwd, List.filterMap_append, List.foldl_append,
    emission_of_given (given_create env' known)] at hAll
  obtain ⟨hEmission, hHeard⟩ := Prod.mk.inj
    (hSecond.symm.trans ((congrArg (List.foldl _ · _) hFirst).trans hAll))
  have hLength := Pantry.length_serve env.cwd (P.named name)
    ((actions.filterMap Action.import?).filterMap (Import.order? env.cwd)) (Emission.empty, [])
  have hLength' := Pantry.length_serve env.cwd (P.named name)
    (more.filterMap (Import.order? env.cwd))
    (s.emission session, answersTo env session actions (create env config))
  rw [← hFirst, length_orders hCitesFirst] at hLength
  rw [hSecond, length_orders hCitesMore, List.length_append] at hLength'
  refine ⟨hHeard.symm, ?_, ?_, hEmission.symm⟩
  · simpa using hLength
  · exact Nat.add_left_cancel hLength'

/-- An import of an ingredient of a pantry. -/
def citing (specifier : String) : Import := ⟨.named "main", .str specifier, .str "/main.scss"⟩

/-- A pantry with one ingredient. -/
def stocked : Pantry := ⟨none, some (.ofString "/p"), .ofList [("i",
  ⟨none, .ofString "/p/i", .ofList [("sass", "index.scss")]⟩)]⟩

/-- One ingredient is imported twice before the pantry is found, and one that is missing in
between. -/
def lookingFor : List Action :=
  [.importing (citing "p/i") .stop, .importing (citing "p/x") .fail, .tick,
    .importing (citing "p/i") .stop, .release 0 ⟨[], .pantry stocked⟩, .tick, .tick, .tick, .tick]

/-- The importer with the pantry found. -/
def found : State := (actAll Setup.manual lookingFor (create Setup.manual Config.bare)).1

/-- The file is given once and the missing ingredient fails each time, whether the pantry is known
or found. -/
theorem same_at_once_or_later_lookingFor :
    let known : Config := { Config.bare with pantries := .ofList [("p", .descriptor stocked)] }
    let rest : List Action := [citing "p/x", citing "p/i"].map (Action.importing · .stop)
    let all : List Action := [citing "p/i", citing "p/x", citing "p/i", citing "p/x",
      citing "p/i"].map (Action.importing · .stop)
    answersTo Setup.manual (.named "main") lookingFor (create Setup.manual Config.bare) =
        [.file "/p/i/index.scss", .failure "p/x" (.noIngredient "p" "x"), .suppressed] ∧
      answersTo Setup.manual (.named "main") all (create Setup.manual known) =
        [.file "/p/i/index.scss", .failure "p/x" (.noIngredient "p" "x"), .suppressed,
          .failure "p/x" (.noIngredient "p" "x"), .suppressed] ∧
      (actAll Setup.manual all (create Setup.manual known)).1.emission (.named "main") =
        (actAll Setup.manual rest found).1.emission (.named "main") := by
  intro known rest all
  have hReturns : ∀ i f returned, found.cache.Serves "p" i f → f.result? = some returned →
      returned = .pantry stocked := by
    intro i f returned hServes hResult
    have hIn : i < 1 := Cache.index_lt hServes
    obtain rfl : i = 0 := Nat.lt_one_iff.mp hIn
    have hOnly : found.cache.flights[0]? = some ⟨⟨"p", .search []⟩, .landed (.pantry stocked),
      .settled (.kept (stocked.named "p"))⟩ := rfl
    obtain rfl := Option.some.inj (hOnly.symm.trans hServes.1)
    exact (Option.some.inj hResult).symm
  have hCites : ∀ what ∈ lookingFor.filterMap Action.import? ++ [citing "p/x", citing "p/i"],
      what.Cites Setup.manual.cwd (.named "main") "p" := by
    have hOne : (citing "p/i").Cites Setup.manual.cwd (.named "main") "p" := ⟨rfl, _, rfl, rfl⟩
    have hMissing : (citing "p/x").Cites Setup.manual.cwd (.named "main") "p" :=
      ⟨rfl, _, rfl, rfl⟩
    show ∀ what ∈ [citing "p/i", citing "p/x", citing "p/i", citing "p/x", citing "p/i"], _
    simp only [List.forall_mem_cons]
    exact ⟨hOne, hMissing, hOne, hMissing, hOne, by simp⟩
  have hBefore : ImportsBefore Setup.manual "p" lookingFor (create Setup.manual Config.bare) :=
    ⟨fun _ => rfl, fun _ => rfl, fun _ => rfl, fun _ => rfl, nofun, nofun, nofun, nofun, nofun,
      trivial⟩
  have hSame : answersTo Setup.manual (.named "main") all (create Setup.manual known) =
      answersTo Setup.manual (.named "main") lookingFor (create Setup.manual Config.bare) ++
        answersTo Setup.manual (.named "main") rest found ∧ _ ∧ _ ∧
      (actAll Setup.manual all (create Setup.manual known)).1.emission (.named "main") =
        (actAll Setup.manual rest found).1.emission (.named "main") :=
    same_at_once_or_later rfl rfl rfl (fun _ => by simp [Config.bare]) (by decide) hCites hBefore
      rfl hReturns (fun hNone => by cases hNone) rfl
  obtain ⟨hHeard, _, _, hEmission⟩ := hSame
  exact ⟨rfl, hHeard, hEmission⟩

end State

end Larder
