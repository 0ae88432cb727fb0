import Sequencer.Proofs.Engine.Passing
import Sequencer.Proofs.Engine.Tracing
import Sequencer.Proofs.Runs

/-!
# The next jump of a run

A loop that has a jump to take takes that one first, and a hook that passes leaves its loop such a jump. So the
run goes on where the hook says, or comes to its end there.
-/

namespace Sequencer

variable {σ ν : Type}

/-- Behind the turns `before`, the next one is a jump of the run to `target`. -/
def FirstJump (id : EngineId) (run target : Nat) (before after : List (Turn ν)) : Prop :=
  ∃ outline next, .jumped id run target outline next :: before <:+ after

theorem Machine.turns_finish (m : Machine σ ν) : m.shared.turns <:+ m.finish.shared.turns := by
  have keeps := m.keepsTurns_enterIdle
  cases hc : m.engine.run.bind (·.onComplete) with
  | none =>
    rw [finish, hc]
    exact ⟨[], keeps.shared.turns.symm⟩
  | some callback =>
    rw [(keepsTurns_finish hc).shared.turns]
    exact ⟨[m.completion callback], congrArg (_ :: ·) keeps.shared.turns.symm⟩

theorem Machine.turns_executeHook [Behaviour σ ν] (m : Machine σ ν) (index : Nat) (entry : Entry σ) :
    (m.executeHook index entry).2.2.shared.turns = m.shared.turns := by
  obtain ⟨before, ticket, keeps, called⟩ := m.keepsTurns_calling index entry.command.name
  have hooked := (KeepsTurns.refl (m.calling index entry.command.name)).runHook index m.register.arm.lastTicket
    (Behaviour.execute entry.command.state (m.view index))
  refine hooked.shared.turns.trans ?_
  rw [called]
  exact keeps.shared.turns

theorem Machine.takeJump_of_pending {m : Machine σ ν} {jump : Jump} (pending : m.register.pending = some jump) :
    ∃ m', m.takeJump = (some jump, m') ∧ m.KeepsTurns m' ∧ m'.engine.sequence.len = m.engine.sequence.len ∧
      (m'.turn (m'.jump jump.target)).shared.turns = .jumped m.engine.id m.engine.runCount jump.target
        m'.engine.sequence.outline (m'.engine.sequence.nextRunnable jump.target) :: m.shared.turns := by
  obtain ⟨m', taken⟩ : ∃ m', m.takeJump = (some jump, m') := by
    rw [Machine.takeJump, pending]
    exact ⟨_, rfl⟩
  have keeps : m.KeepsTurns m' := by
    have keeps := (Machine.KeepsTurns.refl m).takeJump
    rwa [taken] at keeps
  refine ⟨m', taken, keeps, ?_, ?_⟩
  · rw [Machine.takeJump, pending] at taken
    obtain rfl := (Prod.mk.inj taken).2
    split
    · rfl
    · exact Sequence.len_update
  · show m'.jump jump.target :: m'.shared.turns = _
    rw [Machine.jump, keeps.id, keeps.runCount, keeps.shared.turns]

namespace Point

variable [Behaviour σ ν] {m : Machine σ ν} {p : Point σ ν} {fuel : Nat}

theorem Ready.strides (h : p.Ready) (fuel : Nat) : Strides p.machine (p.play fuel).2 := by
  cases p with
  | loop m => exact (Strides.refl m).drive fuel h
  | hooked index ticket result =>
    obtain ⟨result, request, m⟩ := result
    obtain ⟨stands, waiting, -, rfl⟩ := h
    exact ((Strides.refl m).settle index m.register.lastTicket).proceed
      (stands.settle waiting index result request)
      (Nat.le_of_eq (Machine.runCount_settle index m.register.lastTicket (result, request, m)).symm)
      (fun run m => (Moves.refl m).drive fuel run) (fun run m hm => hm.drive fuel)
      fun run m hm strides => strides.drive fuel hm

theorem Ready.turns (h : p.Ready) (fuel : Nat) :
    p.machine.shared.turns <:+ (p.play fuel).2.shared.turns := by
  obtain ⟨-, new, turns, -⟩ := Strides.adds (h.strides fuel)
  exact ⟨new, turns.symm⟩

theorem play_exhausted {m m' : Machine σ ν} {jump : Jump} (executing : m.engine.isExecuting = true)
    (taken : m.takeJump = (some jump, m')) (counted : m'.engine.runCount = m.engine.runCount)
    (nothing : m'.engine.sequence.nextRunnable jump.target = none) (fuel : Nat) :
    (loop m).play (fuel + 1) = (.settled, (m'.turn (m'.jump jump.target)).finish) := by
  rw [play, Machine.drive, if_pos (by simp [executing]), taken]
  dsimp only
  rw [nothing]
  simp only [Machine.jump, nothing, counted]

theorem Ready.firstJump (h : (loop m).Ready) (executing : m.engine.isExecuting = true) {jump : Jump}
    (pending : m.register.pending = some jump) (fuel : Nat) :
    FirstJump m.engine.id m.engine.runCount jump.target m.shared.turns
      ((loop m).play (fuel + 1)).2.shared.turns := by
  obtain ⟨m', taken, keeps, -, jumped⟩ := Machine.takeJump_of_pending pending
  let turned := m'.turn (m'.jump jump.target)
  suffices later : turned.shared.turns <:+ ((loop m).play (fuel + 1)).2.shared.turns by
    rw [jumped] at later
    exact ⟨_, _, later⟩
  cases next : m'.engine.sequence.nextRunnable jump.target with
  | none =>
    rw [play_exhausted executing taken keeps.runCount next]
    exact turned.turns_finish
  | some index =>
    obtain ⟨entry, goes⟩ := h.exists_goes executing taken next
    obtain ⟨hooked, plays⟩ := h.goes fuel goes
    have called := hooked.turns fuel
    rw [plays]
    rwa [Point.machine, turned.turns_executeHook index entry] at called

end Point

/-! ## The end of a run -/

/-- Behind the turns `before`, the next one is a jump of the run to `target`, and the run ends with it. -/
def LastJump (id : EngineId) (run target : Nat) (before after : List (Turn ν)) : Prop :=
  ∃ outline, .jumped id run target outline none :: before <:+ after

theorem Machine.run_finish (m : Machine σ ν) : m.finish.engine.run = none := by
  rw [finish]
  split
  · exact congrArg Engine.run m.engine_enterIdle
  · exact congrArg Engine.run m.engine_enterIdle

theorem Point.lastJump [Behaviour σ ν] {m : Machine σ ν} (executing : m.engine.isExecuting = true) {target : Nat}
    (pending : m.register.pending = some (.to target)) (beyond : m.engine.sequence.len ≤ target) (fuel : Nat) :
    let ended := (loop m).play (fuel + 1)
    ended.1 = .settled ∧ ended.2.engine.run = none ∧
      LastJump m.engine.id m.engine.runCount target m.shared.turns ended.2.shared.turns := by
  obtain ⟨m', taken, keeps, len, jumped⟩ := Machine.takeJump_of_pending pending
  have nothing : m'.engine.sequence.nextRunnable target = none := by
    rw [Sequence.nextRunnable, len, Nat.sub_eq_zero_of_le beyond]
    rfl
  rw [Jump.target, nothing] at jumped
  have later := (m'.turn (m'.jump target)).turns_finish
  rw [jumped] at later
  dsimp only
  rw [play_exhausted executing taken keeps.runCount nothing]
  exact ⟨rfl, Machine.run_finish _, _, later⟩

/-! ## Where a hook leaves its run -/

theorem Machine.Invokes.passes [Behaviour σ ν] {m : Machine σ ν} {index target : Nat} {ticket : Ticket}
    {command : Command σ} {result : HookResult σ ν} {notes : List ν}
    (h : m.Invokes .execute index ticket command result) (ready : (Point.hooked index ticket result).Ready)
    (passes : Passes (some target) (Behaviour.execute command.state (m.view index)) notes) :
    ∃ left : Machine σ ν, m.KeepsTurns left ∧ left.engine.isExecuting = true ∧
      left.register.pending = some (.to target) ∧ (Point.loop left).Ready ∧
      left.engine.sequence.len = m.engine.sequence.len ∧
      ∀ fuel, (Point.hooked index ticket result).play fuel = (Point.loop left).play fuel := by
  obtain ⟨program, hp, rfl⟩ := h.returns
  obtain rfl : Behaviour.execute command.state (m.view index) = program := Option.some.inj hp
  obtain ⟨state, shared, ran, register, -⟩ := passes.run
    { shared := m.shared, handle := ⟨m.engine.id, ticket, index⟩ } h.stands.core.registered h.armed
  let left : Machine σ ν := { m.setSequence (m.engine.sequence.setState index state) with shared }
  have returns : m.runHook index ticket (Behaviour.execute command.state (m.view index)) =
      (.ok (), none, left) := by
    rw [runHook, ran]
  have keeps : m.KeepsTurns left := by
    have keeps := (KeepsTurns.refl m).runHook index ticket (Behaviour.execute command.state (m.view index))
    rwa [returns] at keeps
  have settled : Machine.settle index ticket
      (m.runHook index ticket (Behaviour.execute command.state (m.view index))) = (.settled, left) := by
    rw [returns]
    rfl
  exact ⟨left, keeps, isExecuting_of_active (e := m.engine) (by rw [h.active]; rfl),
    congrArg Register.pending register, ready.settles settled, Sequence.len_update,
    fun fuel => Point.play_settled settled⟩

end Sequencer
