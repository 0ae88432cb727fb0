import Sequencer.Proofs.Engine.Tracing
import Sequencer.Proofs.Leakage
import Sequencer.Proofs.Sequence.Kinship

/-!
# What hooks see

Whatever a host does with an engine, each hook that is called on the way sees the sequence as it is without its
holes.
-/

namespace Sequencer

variable {σ ν : Type}

/-! ## Operations that come back -/

def DriveEnd.isBack : DriveEnd → Bool
  | .outcome _ | .failed _ | .noInterval => true
  | .outOfFuel => false

def Answer.isBack : Answer σ → Bool
  | .replied reply => reply.isBack
  | .driven ended => ended.isBack
  | .edited _ | .fired _ => true

namespace Machine

variable [Behaviour σ ν] {m : Machine σ ν}

omit [Behaviour σ ν] in
theorem AtRest.fire (h : m.AtRest) (handle : String) (target : Option Nat) :
    Machine.AtRest { m with shared := (m.shared.fire handle target).2 } := by
  have steady : Steady fun b moments => m.engine.AtRest b moments ∧ History b moments :=
    fun _ _ _ _ _ hr armed safe => ⟨safe.1.land hr armed, safe.2.land⟩
  have stands := h.stands
  obtain ⟨rest, history⟩ := steady.answer (.fire handle target)
    ⟨⟨stands.core, stands.hears, h.settled⟩, stands.history⟩
  exact ⟨⟨rest.core, rest.hears, history⟩, rest.settled⟩

theorem AtRest.driveOn (h : m.AtRest) (fuel : Nat) (maxTicks : Option Nat) (rounds ticks : Nat)
    (back : (m.driveOn fuel maxTicks rounds ticks).1.isBack = true) :
    (m.driveOn fuel maxTicks rounds ticks).2.AtRest := by
  induction rounds generalizing m ticks with
  | zero => simp [Machine.driveOn, DriveEnd.isBack] at back
  | succ rounds ih =>
    have ticked := h.tick fuel
    rw [Machine.driveOn] at back ⊢
    split
    · exact h.report _
    split
    · exact h.report _
    split
    · exact h.report _
    rw [if_neg ‹_›, if_neg ‹_›, if_neg ‹_›] at back
    generalize m.tick fuel = ended at back ticked
    obtain ⟨verdict, m⟩ := ended
    cases verdict with
    | settled => exact ih ticked (ticks + 1) back
    | failed => exact ticked
    | outOfFuel => simp [DriveEnd.isBack] at back

theorem AtRest.operate (h : m.AtRest) {operation : Operation σ ν}
    (back : (m.operate operation).1.isBack = true) : (m.operate operation).2.AtRest := by
  cases operation with
  | call fuel call =>
    have left := h.call fuel call
    rw [call_eq_reply] at left
    exact left.rest back
  | drive fuel rounds interval maxTicks =>
    show (m.runUntilIdle fuel rounds interval maxTicks).2.AtRest
    replace back : (m.runUntilIdle fuel rounds interval maxTicks).1.isBack = true := back
    rw [runUntilIdle] at back ⊢
    split
    · exact h
    · next interval => exact h.driveOn fuel maxTicks rounds 0 (by rwa [if_neg interval] at back)
  | edit edit => exact h.edit edit
  | fire handle target => exact h.fire handle target

/-! ## Sights -/

/-- Between the one and the other, the hooks that work on a run see these sights. -/
def Sees (m left : Machine σ ν) (sights : Nat → View) : Prop :=
  ∀ hook index ticket board earlier, hook ≠ .stop → m.shared.moments <:+ earlier →
    .called m.engine.id hook index ticket board :: earlier <:+ left.shared.moments →
    ∃ (there : Machine σ ν) (command : Command σ) (result : HookResult σ ν),
      there.Invokes hook index ticket command result ∧
      there.shared.moments = .called m.engine.id hook index ticket board :: earlier ∧
      there.view index = sights index

/-- Whatever is next done with the engine, the hooks see these sights. -/
def Shows (m : Machine σ ν) (sights : Nat → View) : Prop := ∀ operation, m.Sees (m.operate operation).2 sights

theorem Invokes.view_eq {hook : Hook} {index : Nat} {ticket : Ticket} {command : Command σ}
    {result : HookResult σ ν} (h : m.Invokes hook index ticket command result) :
    m.view index = m.engine.sequence.sight index := by
  have executing := isExecuting_of_active (e := m.engine) (by rw [h.active]; rfl)
  exact h.stands.core.coherent.view_eq (h.stands.core.fresh executing) index

section Sees

variable {between left : Machine σ ν} {sights : Nat → View}

theorem Sees.of_selfUntried (untried : m.SelfUntried left) : m.Sees left sights := by
  intro hook index ticket board earlier working since called
  exact absurd called (untried.uncalled working since)

theorem Sees.trans (h : m.Sees between sights) (h' : between.Sees left sights)
    (id : between.engine.id = m.engine.id) (more : between.shared.moments <:+ left.shared.moments) :
    m.Sees left sights := by
  intro hook index ticket board earlier working since called
  rcases List.suffix_or_suffix_of_suffix called more with before | after
  · exact h hook index ticket board earlier working since before
  · rcases List.suffix_cons_iff.mp after with same | after
    · exact h hook index ticket board earlier working since (same ▸ List.suffix_refl _)
    · rw [← id] at called ⊢
      exact h' hook index ticket board earlier working after called

end Sees

theorem AtRest.sees_reply (h : m.AtRest) (fuel : Nat) (call : Call σ ν) :
    m.Sees (m.reply fuel call).2 m.engine.sequence.sight := by
  intro hook index ticket board earlier working since called
  obtain ⟨_, _, there, command, result, -, met, moments, -⟩ := h.meets fuel working since called
  have same := (met.kept.forms h.stands.core.coherent).2
  exact ⟨there, command, result, met.invokes, moments,
    met.invokes.view_eq.trans (congrFun (Sequence.sight_congr same) index)⟩

theorem AtRest.sees_driveOn (h : m.AtRest) (fuel : Nat) (maxTicks : Option Nat) (rounds ticks : Nat) :
    m.Sees (m.driveOn fuel maxTicks rounds ticks).2 m.engine.sequence.sight := by
  induction rounds generalizing m ticks with
  | zero => exact .of_selfUntried (.refl m)
  | succ rounds ih =>
    have still : ∀ notice, m.SelfUntried (m.report notice) := fun _ => ⟨rfl, .refl ..⟩
    have ticked := h.tick fuel
    have seen : m.Sees (m.tick fuel).2 m.engine.sequence.sight := h.sees_reply fuel .tick
    have kept : Kept m (m.tick fuel).2 := ((Moves.refl m).tick fuel).kept
    rw [Machine.driveOn]
    split
    · exact .of_selfUntried (still _)
    split
    · exact .of_selfUntried (still _)
    split
    · exact .of_selfUntried (still _)
    generalize m.tick fuel = ended at ticked seen kept
    obtain ⟨verdict, between⟩ := ended
    cases verdict with
    | settled =>
      -- The rest of the ticks see the same, for the forms of the commands are kept.
      have rest : between.AtRest := ticked
      obtain ⟨new, later, -⟩ := ((Moves.refl between).driveOn fuel maxTicks rounds (ticks + 1)).past
        rest.stands.core.coherent
      have sees := ih rest (ticks + 1)
      rw [Sequence.sight_congr (kept.forms h.stands.core.coherent).2] at sees
      exact seen.trans sees kept.id ⟨new, later.symm⟩
    | failed | outOfFuel => exact seen

theorem AtRest.shows (h : m.AtRest) : m.Shows m.engine.sequence.sight := by
  intro operation
  cases operation with
  | call fuel call => exact h.sees_reply fuel call
  | drive fuel rounds interval maxTicks =>
    show m.Sees (m.runUntilIdle fuel rounds interval maxTicks).2 _
    rw [runUntilIdle]
    split
    · exact .of_selfUntried (.refl m)
    · exact h.sees_driveOn fuel maxTicks rounds 0
  | edit edit =>
    obtain ⟨shared, id, -⟩ := m.kept_edit edit
    exact .of_selfUntried ⟨id, shared ▸ .refl ..⟩
  | fire handle target =>
    have steady : Steady fun _ moments => Untried m.engine.id m.shared.moments moments :=
      fun _ _ _ _ _ _ _ untried => untried.cons rfl
    exact .of_selfUntried ⟨rfl, steady.answer (.fire handle target) (.refl m.engine.id m.shared.moments)⟩

end Machine

end Sequencer
