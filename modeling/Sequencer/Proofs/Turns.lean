import Sequencer.Engine.Machine
import Sequencer.Proofs.Moments
import Sequencer.Proofs.Sequence.Going

/-!
# What becomes of runs

The turns of a history tell the story of each run. It may not have begun, or be in flight, or be over in one
of three ways. Like moments, turns are kept with the latest first.
-/

namespace Sequencer

variable {σ ν : Type} {id : EngineId} {run : Nat} {turn : Turn ν} {turns : List (Turn ν)}
  {callback : HostProgram ν Unit} {onComplete : Option (HostProgram ν Unit)}

/-! ## One turn -/

/-- What a callback is to find: its engine is idle, the listener has heard so, and every handle is dead. -/
structure Finding.AtEnd (found : Finding ν) (id : EngineId) : Prop where
  idle : found.state = .idle
  told : found.listener ≠ none → (heard id found.moments).getLast? = some .ended
  disarmed : ∀ handle : Handle, handle.engine = id → found.board.isArmed handle = false

namespace Turn

def engine : Turn ν → EngineId
  | .began id .. | .jumped id .. | .aborted id _ | .completed id .. => id

/-- Whether the turn begins the run or has to do with its end. -/
def isStage (id : EngineId) (run : Nat) : Turn ν → Bool
  | .began engine number _ | .aborted engine number | .completed engine number .. =>
    engine = id ∧ number = run
  | .jumped engine number _ _ next => engine = id ∧ number = run ∧ next = none

/-- The position at which the engine goes on. -/
def goal? (id : EngineId) : Turn ν → Option Nat
  | .jumped engine _ _ _ next => if engine = id then next else none
  | _ => none

/-- The engine and the number of the run whose callback fires. -/
def completion? : Turn ν → Option (EngineId × Nat)
  | .completed id run .. => some (id, run)
  | _ => none

structure Right (turn : Turn ν) : Prop where
  goes : ∀ id run target outline next, turn = .jumped id run target outline next →
    GoesOn outline target next
  finds : ∀ id run callback found, turn = .completed id run callback found → found.AtEnd id

theorem isStage_aborted {number : Nat} :
    (aborted id run : Turn ν).isStage id number = true ↔ number = run := by
  rw [isStage, decide_eq_true_iff]
  exact ⟨fun h => h.2.symm, fun h => ⟨rfl, h.symm⟩⟩

theorem isStage_completed {number : Nat} {found : Finding ν} :
    (completed id run callback found).isStage id number = true ↔ number = run := by
  rw [isStage, decide_eq_true_iff]
  exact ⟨fun h => h.2.symm, fun h => ⟨rfl, h.symm⟩⟩

theorem isStage_jumped {number target : Nat} {outline : List (Bool × Kind)} :
    (jumped id run target outline none : Turn ν).isStage id number = true ↔ number = run := by
  rw [isStage, decide_eq_true_iff]
  exact ⟨fun h => h.2.1.symm, fun h => ⟨rfl, h.symm, rfl⟩⟩

theorem isStage_of_ne (h : turn.engine ≠ id) : turn.isStage id run = false := by
  cases turn <;> exact decide_eq_false fun stage => h stage.1

theorem isStage_of_completion? (h : turn.completion? = some (id, run)) : turn.isStage id run = true := by
  cases turn with
  | completed => exact decide_eq_true (Prod.mk.inj (Option.some.inj h))
  | _ => simp [completion?] at h

end Turn

/-! ## The story of one run -/

/-- The turns that begin a run or have to do with its end. -/
def story (id : EngineId) (run : Nat) (turns : List (Turn ν)) : List (Turn ν) :=
  turns.filter (Turn.isStage id run)

/-- The story of a run that is over. Only the last of its jumps is part of it. -/
inductive Ended (id : EngineId) (run : Nat) : List (Turn ν) → Prop where
  | aborted (onComplete : Option (HostProgram ν Unit)) :
    Ended id run [.aborted id run, .began id run onComplete]
  | exhausted (target : Nat) (outline : List (Bool × Kind)) :
    Ended id run [.jumped id run target outline none, .began id run none]
  | completed (callback : HostProgram ν Unit) (target : Nat) (outline : List (Bool × Kind))
    (found : Finding ν) : Ended id run [.completed id run callback found,
      .jumped id run target outline none, .began id run (some callback)]

inductive Story (id : EngineId) (run : Nat) : List (Turn ν) → Prop where
  | unbegun : Story id run []
  | inFlight (onComplete : Option (HostProgram ν Unit)) : Story id run [.began id run onComplete]
  | ended {stages : List (Turn ν)} : Ended id run stages → Story id run stages

theorem mem_story (h : turn.isStage id run = true) : turn ∈ story id run turns ↔ turn ∈ turns := by
  rw [story, List.mem_filter]
  exact and_iff_left h

theorem story_append_of_not_isStage {new : List (Turn ν)}
    (h : ∀ turn ∈ new, turn.isStage id run = false) :
    story id run (new ++ turns) = story id run turns := by
  have nothing : new.filter (Turn.isStage id run) = [] :=
    List.filter_eq_nil_iff.mpr fun turn hm => by simp [h turn hm]
  rw [story, List.filter_append, nothing]
  rfl

/-- The runs whose callbacks have fired, the latest first. -/
def completed (turns : List (Turn ν)) : List (EngineId × Nat) := turns.filterMap Turn.completion?

@[simp]
theorem completed_nil : completed ([] : List (Turn ν)) = [] := rfl

@[simp]
theorem completed_cons : completed (turn :: turns) = turn.completion?.toList ++ completed turns := by
  rw [completed, completed, List.filterMap_cons]
  cases turn.completion? <;> rfl

theorem count_completed_story :
    (completed (story id run turns)).count (id, run) = (completed turns).count (id, run) := by
  rw [completed, completed, List.count_filterMap, List.count_filterMap, story, List.countP_filter]
  refine List.countP_congr fun turn _ => ?_
  rw [Bool.and_eq_true, beq_iff_eq]
  exact and_iff_left_of_imp Turn.isStage_of_completion?

section Reading

variable (h : Story id run (story id run turns))

include h

theorem Story.count_completed_le : (completed turns).count (id, run) ≤ 1 := by
  rw [← count_completed_story]
  generalize story id run turns = stages at h
  cases h with
  | ended how => cases how <;> simp [Turn.completion?]
  | _ => simp [Turn.completion?]

/-- A callback fires exactly if its run comes to the end of the sequence. -/
theorem Story.completed_iff : (∃ found, .completed id run callback found ∈ turns) ↔
    .began id run (some callback) ∈ turns ∧ ∃ target outline, .jumped id run target outline none ∈ turns := by
  have completed : ∀ found, Turn.completed id run callback found ∈ story id run turns ↔
      .completed id run callback found ∈ turns := fun _ => mem_story (by simp [Turn.isStage])
  have began : .began id run (some callback) ∈ story id run turns ↔ .began id run (some callback) ∈ turns :=
    mem_story (by simp [Turn.isStage])
  have jumped : ∀ target outline, Turn.jumped id run target outline none ∈ story id run turns ↔
      .jumped id run target outline none ∈ turns := fun _ _ => mem_story (by simp [Turn.isStage])
  simp only [← completed, ← began, ← jumped]
  generalize story id run turns = stages at h
  cases h with
  | ended how => cases how <;> simp
  | _ => simp

theorem Story.aborted (aborted : .aborted id run ∈ turns) : (id, run) ∉ completed turns ∧
    ∀ target outline, .jumped id run target outline none ∉ turns := by
  have jumped : ∀ target outline, Turn.jumped id run target outline none ∈ story id run turns ↔
      .jumped id run target outline none ∈ turns := fun _ _ => mem_story (by simp [Turn.isStage])
  have stage : (Turn.aborted id run : Turn ν).isStage id run = true := by simp [Turn.isStage]
  rw [← List.count_eq_zero, ← count_completed_story]
  rw [← mem_story stage] at aborted
  simp only [← jumped]
  generalize story id run turns = stages at h aborted
  cases h with
  | ended how => cases how <;> simp_all [Turn.completion?]
  | _ => simp at aborted

end Reading

/-! ## The runs of one engine -/

/--
What the turns say of an engine that has begun `runCount` runs. There is a `current` one if the last of them
is in flight.
-/
structure Chronicle (id : EngineId) (runCount : Nat) (current : Option (Option (HostProgram ν Unit)))
    (turns : List (Turn ν)) : Prop where
  unbegun : ∀ run, run = 0 ∨ runCount < run → story id run turns = []
  begun : ∀ onComplete, current = some onComplete →
    story id runCount turns = [.began id runCount onComplete]
  ended : ∀ run, 0 < run → run ≤ runCount → (run = runCount → current = none) →
    Ended id run (story id run turns)

namespace Chronicle

variable {runCount : Nat} {current : Option (Option (HostProgram ν Unit))}

theorem empty (h : ∀ turn ∈ turns, turn.engine ≠ id) : Chronicle id 0 none turns where
  unbegun run _ := List.filter_eq_nil_iff.mpr fun turn hm => by simp [turn.isStage_of_ne (h turn hm)]
  begun _ h := by simp at h
  ended run pos le := by omega

theorem story (h : Chronicle id runCount current turns) (run : Nat) :
    Story id run (Sequencer.story id run turns) := by
  by_cases unbegun : run = 0 ∨ runCount < run
  · rw [h.unbegun run unbegun]
    exact .unbegun
  · by_cases past : run = runCount → current = none
    · exact .ended (h.ended run (by omega) (by omega) past)
    · obtain ⟨rfl, running⟩ := Classical.not_imp.mp past
      obtain ⟨onComplete, hc⟩ := Option.ne_none_iff_exists'.mp running
      rw [h.begun onComplete hc]
      exact .inFlight onComplete

theorem skip (h : Chronicle id runCount current turns) (new : List (Turn ν))
    (other : ∀ turn ∈ new, ∀ run, turn.isStage id run = false) :
    Chronicle id runCount current (new ++ turns) := by
  have same : ∀ run, Sequencer.story id run (new ++ turns) = Sequencer.story id run turns :=
    fun run => story_append_of_not_isStage fun turn hm => other turn hm run
  refine ⟨fun run hr => ?_, fun onComplete hc => ?_, fun run pos le past => ?_⟩
  · rw [same]
    exact h.unbegun run hr
  · rw [same]
    exact h.begun onComplete hc
  · rw [same]
    exact h.ended run pos le past

theorem begin (h : Chronicle id runCount none turns) (onComplete : Option (HostProgram ν Unit)) :
    Chronicle id (runCount + 1) (some onComplete) (.began id (runCount + 1) onComplete :: turns) := by
  have own : (Turn.began id (runCount + 1) onComplete).isStage id (runCount + 1) = true := by
    simp [Turn.isStage]
  have other : ∀ run, run ≠ runCount + 1 →
      (Turn.began id (runCount + 1) onComplete).isStage id run = false :=
    fun run ne => decide_eq_false fun stage => ne stage.2.symm
  have same : ∀ run, run ≠ runCount + 1 →
      Sequencer.story id run (.began id (runCount + 1) onComplete :: turns) =
        Sequencer.story id run turns :=
    fun run ne => List.filter_cons_of_neg (by simp [other run ne])
  refine ⟨fun run hr => ?_, fun _ hc => ?_, fun run pos le past => ?_⟩
  · rw [same run (by omega)]
    exact h.unbegun run (by omega)
  · rw [Sequencer.story, List.filter_cons_of_pos own, Option.some.inj hc]
    exact congrArg _ (h.unbegun _ (.inr (Nat.lt_succ_self runCount)))
  · have ne : run ≠ runCount + 1 := fun heq => by simp at past; exact past heq
    rw [same run ne]
    exact h.ended run pos (by omega) fun _ => rfl

theorem finish {stages : List (Turn ν)} (h : Chronicle id runCount (some onComplete) turns)
    (own : ∀ turn ∈ stages, ∀ run, turn.isStage id run = true ↔ run = runCount)
    (ends : Ended id runCount (stages ++ [.began id runCount onComplete])) :
    Chronicle id runCount none (stages ++ turns) := by
  have other : ∀ run, run ≠ runCount →
      Sequencer.story id run (stages ++ turns) = Sequencer.story id run turns :=
    fun run ne => story_append_of_not_isStage fun turn hm =>
      Bool.eq_false_iff.mpr fun stage => ne ((own turn hm run).mp stage)
  have last : Sequencer.story id runCount (stages ++ turns) =
      stages ++ [.began id runCount onComplete] := by
    rw [Sequencer.story, List.filter_append, List.filter_eq_self.mpr
      fun turn hm => (own turn hm runCount).mpr rfl]
    exact congrArg (stages ++ ·) (h.begun onComplete rfl)
  -- A run is in flight, so one has begun.
  have pos : runCount ≠ 0 := by
    rintro rfl
    have none_begun := h.begun onComplete rfl
    rw [h.unbegun 0 (.inl rfl)] at none_begun
    simp at none_begun
  refine ⟨fun run hr => ?_, by simp, fun run hpos le _ => ?_⟩
  · rw [other run (by omega)]
    exact h.unbegun run hr
  · by_cases same : run = runCount
    · rw [same, last]
      exact ends
    · rw [other run same]
      exact h.ended run hpos le fun heq => absurd heq same

end Chronicle

/-! ## Where an engine went -/

/-- The positions at which an engine went on, the latest first. -/
def goals (id : EngineId) (turns : List (Turn ν)) : List Nat := turns.filterMap (Turn.goal? id)

theorem goals_cons : goals id (turn :: turns) = (turn.goal? id).toList ++ goals id turns := by
  rw [goals, goals, List.filterMap_cons]
  cases turn.goal? id <;> rfl

end Sequencer
