import Larder.Proofs.Importer.Loading

/-!
# Larder — discovery that answers at once

Some collaborators answer a call before they give back control. Then no call is under way between
two turns: a discovery has yet to be called, or it has ended with the answer to its call. Imports
and prefetches at most start discoveries; a job that makes a call ends it; and there are no calls to
come back.

So when no job is left, nothing is under way. And where the calls go is settled by the
configuration, so that what a discovery of a name comes back with depends on the name alone.

## Results

* `Prompt.tick`: no turn leaves a call under way.
* `Prompt.quiet`: when no job is left, nothing is under way.
* `Prompt.fixed`: what came back for a name is what is answered for it.
-/

namespace Larder

namespace State

variable {env : Setup} {cancels : Prop} {config : Config} {s s' s'' : State} {t : Ticket}
  {answer : Call → Landing}

/-- Whether discoveries were at most started between two states. -/
def Grows (s s' : State) : Prop :=
  ∀ f' ∈ s'.cache.flights, f'.stage = .scheduled ∨
    ∃ f ∈ s.cache.flights, f.call = f'.call ∧ f.stage = f'.stage

/-- Whether every discovery is yet to be called, or has ended with the answer to its call. -/
def Prompt (answer : Call → Landing) (s : State) : Prop :=
  ∀ f ∈ s.cache.flights, f.stage = .scheduled ∨ f.stage = .landed (answer f.call).returned

-- ---------------------------------------------------------------------------
-- Imports and prefetches start discoveries
-- ---------------------------------------------------------------------------

namespace Grows

theorem of_cache (h : s'.cache = s.cache) : Grows s s' :=
  fun f' hf' => Or.inr ⟨f', h ▸ hf', rfl, rfl⟩

theorem trans (h : Grows s s') (h' : Grows s' s'') : Grows s s'' := by
  intro f'' hf''
  rcases h' f'' hf'' with hNew | ⟨f', hf', hCall, hStage⟩
  · exact Or.inl hNew
  · rw [← hCall, ← hStage]
    exact h f' hf'

theorem request (env : Setup) (s : State) (name : String) : Grows s (s.request env name).1 := by
  rcases request_cases env s name with ⟨_, _, h⟩ | ⟨_, _, _, h⟩ | ⟨_, _, h⟩ <;> rw [h]
  · exact of_cache rfl
  · exact of_cache rfl
  · intro f' hf'
    rcases List.mem_append.mp hf' with hOld | hNew
    · exact Or.inr ⟨f', hOld, rfl, rfl⟩
    · rw [List.mem_singleton.mp hNew]
      exact Or.inl rfl

theorem attach (s : State) (handle : Handle) (w : Waiter) : Grows s (s.attach handle w) := by
  rcases attach_cases s handle w with ⟨_, h⟩ | ⟨i, ws, _, _, h⟩ | ⟨_, _, _, h⟩ <;> rw [h]
  · exact of_cache rfl
  · intro f' hf'
    obtain ⟨j, hj⟩ := List.mem_iff_getElem?.mp hf'
    rw [cache_withCache, Cache.setPromise, Cache.getElem?_modifyFlight,
      Option.map_eq_some_iff] at hj
    obtain ⟨f, hGet, rfl⟩ := hj
    refine Or.inr ⟨f, List.mem_of_getElem? hGet, ?_⟩
    split <;> exact ⟨rfl, rfl⟩
  · exact of_cache rfl

theorem prefetchAll (env : Setup) (names : List String) (s : State) :
    Grows s (prefetchAll env names s) := by
  induction names generalizing s with
  | nil => exact of_cache rfl
  | cons name rest ih => exact ((request env s name).trans (attach _ _ _)).trans (ih _)

theorem resolve (env : Setup) (s : State) (what : Import) (receiver : Receiver) :
    Grows s (s.resolve env what receiver).1 := by
  rcases resolve_cases env s what receiver with
    ⟨_, _, _, h⟩ | ⟨_, h⟩ | ⟨citation, _, _, h⟩ | ⟨_, _, _, h⟩ <;> rw [h]
  · exact of_cache rfl
  · exact of_cache rfl
  · exact (of_cache rfl).trans
      ((request env (s.note (.deferred receiver.ticket what.specifier.text citation.pantryName))
        citation.pantryName).trans (attach _ _ _))
  · exact of_cache rfl

theorem runImports (env : Setup) (imports : List Import) (outcomes : List Outcome) (s : State) :
    Grows s (runImports env t imports outcomes s) := by
  induction imports generalizing outcomes s with
  | nil => exact of_cache rfl
  | cons what rest ih =>
    have hFirst := resolve env s what (.task t)
    rw [State.runImports]
    split
    · split
      · exact hFirst.trans (of_cache rfl)
      · exact hFirst.trans (ih _ _)
    · exact hFirst.trans (ih _ _)
    · exact hFirst.trans (of_cache rfl)
    · exact hFirst.trans (of_cache rfl)

end Grows

-- ---------------------------------------------------------------------------
-- No call is under way between two turns
-- ---------------------------------------------------------------------------

namespace Prompt

theorem grows (h : Prompt answer s) (hGrows : Grows s s') : Prompt answer s' := by
  intro f' hf'
  rcases hGrows f' hf' with hNew | ⟨f, hf, hCall, hStage⟩
  · exact Or.inl hNew
  · rw [← hCall, ← hStage]
    exact h f hf

/-- A call that is made ends its discovery. -/
theorem launch (h : Prompt answer s)
    (hAnswers : ∀ i call, env.collaborator i call = some (answer call)) (i : FlightId) :
    Prompt answer (s.launch env i) := by
  unfold State.launch
  split
  · exact h
  · rename_i f hFlight
    rw [hAnswers]
    intro f' hf'
    obtain ⟨j, hj⟩ := List.mem_iff_getElem?.mp hf'
    rw [cache_landWith, Cache.getElem?_land, cache_note, cache_withCache, Cache.setStage,
      Cache.getElem?_modifyFlight, Option.map_map, Option.map_eq_some_iff] at hj
    obtain ⟨g, hGet, rfl⟩ := hj
    dsimp only [Function.comp_apply]
    split
    · rename_i hThis
      subst hThis
      obtain rfl := Option.some.inj (hFlight.symm.trans hGet)
      right
      rw [Flight.stage_settledWith, Flight.call_settledWith]
    · exact h g (List.mem_of_getElem? hGet)

/-- **No turn leaves a call under way** where all tasks are for imports and there are no
callbacks. -/
theorem tick (h : Prompt answer s)
    (hAnswers : ∀ i call, env.collaborator i call = some (answer call))
    (hTasks : ∀ u task, s.tasks.get? u = some task → task.work.isImports = true)
    (hCallbacks : ∀ x w, .notify x w ∈ s.queue → w.callback? = none) :
    Prompt answer (s.tick env) := by
  unfold State.tick
  split
  · exact h
  · rename_i job rest hQueue
    rw [show ({ s with queue := rest } : State) = s.pop by simp [pop, hQueue]]
    have hPop : Prompt answer s.pop := h
    cases job with
    | launch i => exact hPop.launch hAnswers i
    | land i =>
      -- no call has come back from outside
      show Prompt answer (s.pop.land i)
      unfold State.land
      split
      · rename_i call landing promise hFlight
        rcases hPop _ (List.mem_of_getElem? hFlight) with hStage | hStage <;> cases hStage
      · exact hPop
    | notify x w =>
      have hNone := hCallbacks x w (hQueue ▸ List.mem_cons_self)
      refine hPop.grows (.of_cache ?_)
      cases w with
      | importing specifier citation session receiver =>
        cases receiver with
        | callback u script => cases hNone
        | task u =>
          have hComplete : (s.pop.complete env session specifier citation x).1.cache =
              s.pop.cache := congrArg Fleet.cache (fleet_complete _ _ _ _)
          exact (aside_handOver _ _).cache.trans hComplete
      | _ => exact (aside_notify rfl x).cache
    | resume u =>
      show Prompt answer (s.pop.resume env u)
      unfold State.resume
      split
      · rename_i work hTask
        have hImports := hTasks u _ hTask
        cases work with
        | imports rest outcomes => exact hPop.grows (.runImports env _ _ _)
        | _ => cases hImports
      · rename_i work wake hTask
        have hImports := hTasks u _ hTask
        cases work with
        | imports rest outcomes =>
          cases wake with
          | outcome outcome => exact hPop.grows (.runImports env _ _ _)
          | _ => exact hPop.grows (.of_cache rfl)
        | _ => cases hImports
      · exact hPop

/-- When no job is left, nothing is under way. -/
theorem quiet (h : Prompt answer s) (hMoves : Moves env cancels (seeded config) s)
    (hDrained : s.queue = []) : s.Quiet := by
  refine ⟨hDrained, fun f hf => ?_⟩
  cases hLive : f.live with
  | false => rfl
  | true =>
    have hFlying := hMoves.flying_of_drained hDrained hf (Option.isNone_iff_eq_none.mp hLive)
    rcases h f hf with hStage | hStage <;> cases hFlying.symm.trans hStage

/-- What came back for a name is what is answered where the configuration has it looked for. -/
theorem fixed (h : Prompt answer s) (hMoves : Moves env cancels (seeded config) s)
    (hPaths : env.searchPaths = config.searchPaths) {result : String → Returned}
    (hResult : ∀ call : Call, config.targetFor call.name = some call.target →
      (answer call).returned = result call.name) : s.Fixed result := by
  intro f hf returned hLanded
  rw [← hResult f.call ((hMoves.routed hPaths).calls f hf)]
  rcases h f hf with hStage | hStage <;> simp [Flight.result?, hStage] at hLanded
  exact hLanded.symm

end Prompt

end State

end Larder
