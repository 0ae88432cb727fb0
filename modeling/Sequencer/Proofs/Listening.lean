import Sequencer.Proofs.Moments

/-!
# What a listener can tell from what it hears

A listener hears whole runs, and of the run in flight as much as there has been of it. From that alone it
can follow the engine.
-/

namespace Sequencer

variable {σ ν : Type}

/-- What a listener can tell of an engine. -/
structure Seen where
  state : EngineState := .idle
  active : Option Nat := none
  previousActive : Option Nat := none
  runCount : Nat := 0
deriving DecidableEq

def Seen.hear (s : Seen) : Heard → Seen
  | .started => { s with state := .executing, active := none, runCount := s.runCount + 1 }
  | .executing index _ => { s with previousActive := s.active, active := some index }
  | .ended => { s with state := .idle, active := none }

def replay (events : List Heard) : Seen := events.foldl Seen.hear {}

def Engine.seen (e : Engine σ ν) : Seen where
  state := e.state
  active := e.active
  previousActive := e.previousActive
  runCount := e.runCount

/-- Runs that have ended, one after the other. -/
inductive WholeRuns : List Heard → Prop where
  | none : WholeRuns []
  | run {before steps : List Heard} : WholeRuns before → (∀ step ∈ steps, step.isExecuting = true) →
      WholeRuns (before ++ .started :: steps ++ [.ended])

/-- Runs that have ended, and one that has come to its first command at least. -/
def RunInFlight (events : List Heard) : Prop :=
  ∃ before steps, WholeRuns before ∧ steps ≠ [] ∧ (∀ step ∈ steps, step.isExecuting = true) ∧
    events = before ++ .started :: steps

theorem replay_append (events : List Heard) (event : Heard) :
    replay (events ++ [event]) = (replay events).hear event := by
  rw [replay, replay, List.foldl_append]
  rfl

theorem WholeRuns.replay_state {events : List Heard} (h : WholeRuns events) :
    (replay events).state = .idle := by
  cases h with
  | none => rfl
  | run => rw [replay_append]; rfl

theorem Seen.state_foldl_hear {steps : List Heard} (hs : ∀ step ∈ steps, step.isExecuting = true)
    {seen : Seen} (executing : seen.state = .executing) :
    (steps.foldl Seen.hear seen).state = .executing := by
  induction steps generalizing seen with
  | nil => exact executing
  | cons step steps ih =>
    refine ih (fun other hm => hs other (.tail step hm)) ?_
    cases step with
    | executing => exact executing
    | started | ended => simp [Heard.isExecuting] at hs

theorem RunInFlight.replay_state {events : List Heard} (h : RunInFlight events) :
    (replay events).state = .executing := by
  obtain ⟨before, steps, -, -, hs, rfl⟩ := h
  rw [replay, List.foldl_append, List.foldl_cons]
  exact Seen.state_foldl_hear hs rfl

/-- The listener has heard what is to be heard of an engine that it sees so. -/
structure Told (seen : Seen) (events : List Heard) : Prop where
  idle : seen.state = .idle → WholeRuns events
  executing : seen.state = .executing → ∃ before steps, WholeRuns before ∧
    (∀ step ∈ steps, step.isExecuting = true) ∧ (seen.active.isSome = true → steps ≠ []) ∧
    events = before ++ .started :: steps
  replayed : replay events = seen

namespace Told

variable {seen : Seen} {events : List Heard}

theorem fresh : Told {} [] := ⟨fun _ => .none, by simp, rfl⟩

theorem replayed_append (h : Told seen events) (event : Heard) :
    replay (events ++ [event]) = seen.hear event := by
  rw [replay_append, h.replayed]

theorem started (h : Told seen events) (idle : seen.state = .idle) :
    Told (seen.hear .started) (events ++ [.started]) where
  idle hs := by simp [Seen.hear] at hs
  executing _ := ⟨events, [], h.idle idle, by simp, by simp [Seen.hear], rfl⟩
  replayed := h.replayed_append _

theorem step (h : Told seen events) (executing : seen.state = .executing) (index total : Nat) :
    Told (seen.hear (.executing index total)) (events ++ [.executing index total]) where
  idle hs := by simp [Seen.hear, executing] at hs
  executing _ := by
    obtain ⟨before, steps, hb, hs, -, rfl⟩ := h.executing executing
    refine ⟨before, steps ++ [.executing index total], hb, ?_, by simp, by simp⟩
    intro step hm
    rcases List.mem_append.mp hm with hm | hm
    · exact hs step hm
    · rw [List.mem_singleton.mp hm]; rfl
  replayed := h.replayed_append _

theorem ended (h : Told seen events) (executing : seen.state = .executing) :
    Told (seen.hear .ended) (events ++ [.ended]) where
  idle _ := by
    obtain ⟨before, steps, hb, hs, -, rfl⟩ := h.executing executing
    exact .run hb hs
  executing hs := by simp [Seen.hear] at hs
  replayed := h.replayed_append _

end Told

end Sequencer
