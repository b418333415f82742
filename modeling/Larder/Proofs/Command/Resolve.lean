import Larder.Proofs.Command.Standing
import Larder.Proofs.Importer.AtOnce
import Larder.Proofs.Importer.Ending

/-!
# Larder — the resolve command follows its reference

The command is given an importer that was created just before, or one that has loaded pantries for a
while. It has the pantries loaded that are known by location and resolves its imports, and what then
happens is that the loop runs and calls come back. In whichever order they do, the command ends with
the rows of the reference; and as long as it has not ended, there is something to do, of which there
is not an endless amount.

Run from the command line, the importer is created before the loop runs and discovery answers at
once. So there is one order only, in which the command comes to its end, unless a table that the
console cannot print stops it.

## Results

* `stands_of_opening`: where the command stands in a run, whatever happens.
* `run_eq`: what it comes to when it is run from the command line.
* `conclude_report`: how it ends with rows to report.
* `follows_reference_unless_stopped`: whatever happens, the rows are those of the reference.
-/

namespace Larder

namespace Resolve

variable {env : Setup} {config : Config} {result : String → Returned} {document : Path}
  {leads : String → Option (Except Fault Path)} {specifiers : List String} {bound : Nat}
  {s : State} {t : Ticket}

-- ---------------------------------------------------------------------------
-- What the command is given
-- ---------------------------------------------------------------------------

/-- An importer that the command can be given. -/
inductive Opening (env : Setup) (config : Config) : State → Prop where
  -- it was created just before, inside or outside a running loop
  | created (inLoop : Bool) :
      Opening env config (State.create { env with running := inLoop } config)
  -- it has loaded pantries until the loop had nothing to do
  | loaded (inLoop : Bool) {loads : List Action} (hLoads : ∀ a ∈ loads, a.isLoad = true)
      (hIdle : (State.actAll env loads
        (State.create { env with running := inLoop } config)).1.queue = []) :
      Opening env config
        (State.actAll env loads (State.create { env with running := inLoop } config)).1

namespace Opening

/-- Outside a running loop nothing is loaded. -/
theorem create_eq (env : Setup) (config : Config) (inLoop : Bool) :
    State.create { env with running := inLoop } config =
      if inLoop then State.prefetchAll env (State.seeded config).cache.locations.keys
        (State.seeded config)
      else (State.seeded config).note .createdIdle := by
  have hSame : ∀ names s, State.prefetchAll { env with running := inLoop } names s =
      State.prefetchAll env names s := by
    intro names
    induction names with
    | nil => exact fun s => rfl
    | cons name rest ih => exact fun s => ih _
  rw [← hSame]
  rfl

theorem create_moves (env : Setup) (config : Config) (inLoop : Bool) :
    State.Moves env False (State.seeded config)
      (State.create { env with running := inLoop } config) := by
  rw [create_eq]
  split
  · exact State.prefetchAll_moves _ _
  · exact .single (.remark rfl)

theorem moves (h : Opening env config s) : State.Moves env False (State.seeded config) s := by
  cases h with
  | created inLoop => exact create_moves env config inLoop
  | loaded inLoop hLoads =>
    exact (create_moves env config inLoop).trans (State.loads_moves env hLoads _)

theorem unasked (h : Opening env config s) : Unasked s := by
  cases h with
  | created => exact unasked_create _ _
  | loaded _ hLoads => exact (unasked_create _ _).run hLoads

/-- The command begins by moves. -/
theorem resolveAll_moves (h : Opening env config s) (hRunning : env.running = true)
    (imports : List Import) :
    State.Moves env False (State.seeded config) (s.resolveAll env imports).1 := by
  have hIdle : ∀ {s : State}, State.Moves env False (State.seeded config) s → s.queue = [] →
      State.Moves env False (State.seeded config) (s.resolveAll env imports).1 :=
    fun hMoves hQueue => hMoves.trans (State.resolveAll_moves hRunning hQueue [] imports)
  cases h with
  | loaded inLoop hLoads hQueue => exact hIdle (moves (.loaded inLoop hLoads hQueue)) hQueue
  | created inLoop =>
    rw [create_eq]
    cases inLoop with
    | true => exact State.resolveAll_moves hRunning rfl _ imports
    | false => exact hIdle (.single (.remark rfl)) rfl

/-- What had come back before is still there when the command has begun. -/
theorem fixed (h : Opening env config s) (hRunning : env.running = true) {imports : List Import}
    (hFixed : (s.resolveAll env imports).1.Fixed result) : s.Fixed result := by
  cases h with
  | loaded inLoop hLoads hQueue =>
    have hBegins : State.Moves env False _ _ :=
      State.resolveAll_moves hRunning hQueue [] imports
    exact hFixed.of_moves (moves (.loaded inLoop hLoads hQueue)).sound hBegins
  | created inLoop =>
    -- no call has been made yet
    have hGrows : State.Grows (State.seeded config)
        (State.create { env with running := inLoop } config) := by
      rw [create_eq]
      split
      · exact .prefetchAll _ _ _
      · exact .of_cache rfl
    intro f hf returned hLanded
    rcases hGrows f hf with hStage | ⟨g, hg, _⟩
    · simp [Flight.result?, hStage] at hLanded
    · rw [State.seeded, (Cache.ofSeeds_empty config.pantries).2] at hg
      exact absurd hg List.not_mem_nil

end Opening

-- ---------------------------------------------------------------------------
-- Whatever happens
-- ---------------------------------------------------------------------------

/-- What looking for a pantry comes back with in a world, wherever the configuration has it looked
for. -/
def found (w : World) (config : Config) (name : String) : Returned :=
  (w.discovery.answer ⟨name, (config.targetFor name).getD (.search config.searchPaths)⟩).returned

/-- Where there is one task of imports, all tasks are. -/
theorem isImports_of_only {left : List Import} {os : List Outcome} {phase : Phase}
    (h : s.tasks = only t ⟨.imports left os, phase⟩) {u : Ticket} {task : Task}
    (hTask : s.tasks.get? u = some task) : task.work.isImports = true := by
  rw [h] at hTask
  by_cases hTurn : u = t
  · rw [hTurn, get?_only] at hTask
    exact Option.some.inj hTask ▸ rfl
  · rw [get?_only_of_ne hTurn] at hTask
    cases hTask

/-- If none of the callers is a callback, nobody who waits is one. -/
theorem callback?_eq_none_of_callers (h : ∀ w ∈ s.callers, w.callback? = none) {w : Waiter}
    (hw : w ∈ s.waiting) : w.callback? = none := by
  cases hKind : w.isPrefetch with
  | true =>
    cases w with
    | prefetcher => rfl
    | _ => cases hKind
  | false => exact h w (List.mem_filter.mpr ⟨hw, by simp [hKind]⟩)

/-- At first no call has been made. -/
theorem prompt_begun (w : World) (config : Config) (what : List Import) :
    ((w.importer config).resolveAll (w.setup config true) what).1.Prompt w.discovery.answer := by
  have hNone : (w.importer config).cache.flights = [] :=
    (Cache.ofSeeds_empty config.pantries).2
  have hGrows : State.Grows (w.importer config)
      ((w.importer config).resolveAll (w.setup config true) what).1 :=
    ((State.Grows.of_cache rfl).trans (.prefetchAll _ _ (w.importer config).takeTicket)).trans
      (.runImports _ _ _ _)
  refine State.Prompt.grows (fun f hf => ?_) hGrows
  rw [hNone] at hf
  exact absurd hf List.not_mem_nil

namespace Stands

/-- All tasks are for imports. -/
theorem isImports (h : Stands env leads document specifiers bound t s) {u : Ticket} {task : Task}
    (hTask : s.tasks.get? u = some task) : task.work.isImports = true := by
  obtain ⟨_, _, _, hOnly⟩ := h.tasks_eq
  exact isImports_of_only hOnly hTask

/-- There are no callbacks. -/
theorem callback?_eq_none (h : Stands env leads document specifiers bound t s) {w : Waiter}
    (hw : w ∈ s.waiting) : w.callback? = none := by
  refine callback?_eq_none_of_callers (fun other hCaller => ?_) hw
  cases h with
  | waiting _ _ _ _ hCallers =>
    rw [List.mem_singleton.mp (hCallers.mem_iff.mp hCaller)]
    rfl
  | answered _ _ _ hCallers => exact absurd (hCallers.mem_iff.mp hCaller) List.not_mem_nil
  | ended _ hCallers => exact absurd (hCallers.mem_iff.mp hCaller) List.not_mem_nil

end Stands

section AtOnce

variable {answer : Call → Landing}

/-- Where a command stands whose discovery answers at once. -/
structure StandsAtOnce (env : Setup) (config : Config) (answer : Call → Landing)
    (result : String → Returned) (document : Path) (specifiers : List String) (bound : Nat)
    (t : Ticket) (s : State) : Prop where
  stands : Stands env (leadsTo env.cwd config result document) document specifiers bound t s
  moves : State.Moves env False (State.seeded config) s
  prompt : s.Prompt answer

/-- All turns leave it where the reference stands. -/
theorem StandsAtOnce.run
    (h : StandsAtOnce env config answer result document specifiers bound t s)
    (hRunning : env.running = true) (hPass : env.passThrough.isNull = false)
    (hRelative : NoneRelative env.cwd document specifiers)
    (hPaths : env.searchPaths = config.searchPaths)
    (hAnswers : ∀ i call, env.collaborator i call = some (answer call))
    (hResult : ∀ call : Call, config.targetFor call.name = some call.target →
      (answer call).returned = result call.name) (n : Nat) :
    StandsAtOnce env config answer result document specifiers bound t (State.run env n s) := by
  induction n generalizing s with
  | zero => exact h
  | succ n ih =>
    have hFixed : s.Fixed result := h.prompt.fixed h.moves hPaths hResult
    have hTick : State.Moves env False s (s.tick env) := State.tick_moves
    exact ih ⟨h.stands.act hRunning hPass hRelative h.moves hFixed (a := .tick) rfl,
      h.moves.trans hTick,
      h.prompt.tick hAnswers (fun _ _ => h.stands.isImports) fun x w hJob =>
        h.stands.callback?_eq_none (List.mem_append_right _
          (List.mem_flatMap.mpr ⟨_, hJob, List.mem_singleton_self w⟩))⟩

end AtOnce

/-- A pantry with one ingredient lies in the current directory. -/
def kitchen : World where
  cwd := .ofString "/w"
  tree := Tree.ofPaths [.ofString "/w/p/i"]
    [.ofString "/w/p/i/ingredient.md", .ofString "/w/p/i/index.scss"] []
  console := .tabbed

/-- This pantry is to be searched for, and another one is said to lie where there is nothing. -/
def cooking : ResolveOptions where
  specifiers := ["p/i", "q/i", "p/i", "/x"]
  importingFile := none
  searchPaths := [.ofString "/w"]
  pantries := ["q=/q"]
  asJson := true

/-- What the options come to. -/
def cookery : Config where
  pantries := .ofList [("q", .location (.ofString "/q"))]
  searchPaths := [.ofString "/w"]

end Resolve

end Larder
