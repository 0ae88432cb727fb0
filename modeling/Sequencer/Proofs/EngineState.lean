import Sequencer.Proofs.Handles

/-!
# The state of an engine between operations

Idle engines have nothing left of a run. Executing engines have one active command, right caches, and either
a jump to take, or a signal to wait for, or a fault to resolve.
-/

namespace Sequencer

variable {σ ν : Type} {ids : List EngineId} {s : Studio σ ν} {number : Nat} {e : Engine σ ν}

/-- Nothing is left of a run. -/
structure Cleared (e : Engine σ ν) (r : Register) : Prop where
  active : e.active = none
  unmarked : ∀ entry ∈ e.sequence.entries, entry.executing = false
  sane : e.isFaulted = false
  callback : e.run.bind (·.onComplete) = none
  disarmed : r.armed = none

/-- The run is at the entry, and goes on, waits, or is faulted. -/
structure Suspended (e : Engine σ ν) (r : Register) (index : Nat) (entry : Entry σ) : Prop where
  active : e.active = some index
  bound : index < e.sequence.len
  found : e.sequence.entry? index = some entry
  action : entry.command.kind = .action
  marked : ∀ p (other : Entry σ), e.sequence.entries[p]? = some other → (other.executing = true ↔ p = index)
  fresh : e.sequence.needsRefresh = false
  placed : ∀ p (other : Entry σ), e.sequence.entries[p]? = some other → other.position = p ∧ other.owner = some e.id
  faulted : e.isFaulted = true → r.armed = none
  sane : e.isFaulted = false →
    (r.armed.isSome = true ∧ r.pending = none) ∨ (r.armed = none ∧ r.pending.isSome = true)

theorem Engine.AtRest.cleared {b : Switchboard} {moments : List (Moment ν)} (h : e.AtRest b moments)
    (idle : e.run = none) : Cleared e (b.register e.id) := by
  have inactive : e.active = none := by rw [Engine.active, idle]; rfl
  have marked := h.core.marked
  rw [inactive] at marked
  refine ⟨inactive, Sequence.Sound.not_executing ⟨h.core.coherent, marked⟩, ?_, ?_, (h.settled.idle idle).2⟩
  · rw [Engine.isFaulted, idle]; rfl
  · rw [idle]; rfl

theorem Engine.AtRest.suspended {b : Switchboard} {moments : List (Moment ν)} (h : e.AtRest b moments)
    (executing : e.isExecuting = true) : ∃ index entry, Suspended e (b.register e.id) index entry := by
  have core := h.core
  obtain ⟨index, active⟩ := Option.isSome_iff_exists.mp (h.settled.active executing)
  obtain ⟨form, hform, kind⟩ := core.acting index active
  rw [Sequence.forms, List.getElem?_map] at hform
  obtain ⟨entry, found, rfl⟩ := Option.map_eq_some_iff.mp hform
  have fresh := core.fresh executing
  have indices : e.sequence.indicesStale = false := by
    rw [Sequence.needsRefresh, Bool.or_eq_false_iff] at fresh
    exact fresh.1
  refine ⟨index, entry, active, ?_, by rw [core.coherent.entry?_eq, found], kind, fun p other hp => ?_,
    fresh, fun p other hp => ?_, fun faulted => ?_, fun sane => ?_⟩
  · rw [core.coherent.len_eq]
    exact (List.getElem?_eq_some_iff.mp found).1
  · rw [core.marked p other hp, active, Option.some_inj, eq_comm]
  · rw [← core.owner]
    exact core.coherent.placed indices hp
  · rcases h.settled with idle | waiting | dead
    · exact idle.2
    · simp [waiting.2.1] at faulted
    · exact dead.2.2.1
  · rcases (h.settled.waiting executing sane).2.2 with ⟨armed, pending⟩ | ⟨armed, pending, -⟩
    · exact .inl ⟨by rw [armed]; rfl, pending⟩
    · exact .inr ⟨armed, pending⟩

/-- Whatever a host has done, each engine is in one of these two states. -/
theorem engine_invariant [Behaviour σ ν] (h : Reachable ids s) (he : s.engine? number = some e) :
    (e.state = .idle → Cleared e (s.shared.board.register e.id)) ∧
    (e.state = .executing →
      ∃ index entry, Suspended e (s.shared.board.register e.id) index entry) := by
  have rest := h.sound.rest number e he
  have executing_iff : e.state = .executing ↔ e.isExecuting = true := by
    rw [Engine.state]
    split <;> simp_all
  constructor
  · intro idle
    refine rest.cleared (Machine.run_of_not_executing (m := ⟨e, s.shared⟩) fun executing => ?_)
    rw [executing_iff.mpr executing] at idle
    simp at idle
  · intro executing
    exact rest.suspended (executing_iff.mp executing)

theorem engine_invariant_keeper : ∃ e, keeperWaiting.engine? 0 = some e ∧ e.state = .executing ∧
    ∃ index entry, Suspended e (keeperWaiting.shared.board.register e.id) index entry := by
  have he : keeperWaiting.engine? 0 = some _ := rfl
  exact ⟨_, he, rfl, (engine_invariant reachable_keeperWaiting he).2 rfl⟩

end Sequencer
