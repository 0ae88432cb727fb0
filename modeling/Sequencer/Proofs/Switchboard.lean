import Sequencer.Engine.Basic

/-!
# What a signal does

A signal lands if and only if its handle is armed. Then it disarms the handle and leaves a jump behind, and
otherwise it changes nothing.
-/

namespace Sequencer

variable {ν : Type}

namespace Switchboard

variable {b : Switchboard} {id other : EngineId} {r : Register}

theorem get?_setRegister : (b.setRegister id r).registers.get? other =
    if other = id then some r else b.registers.get? other :=
  Table.get?_put b.registers id other r

@[simp]
theorem register_setRegister_self : (b.setRegister id r).register id = r := by
  rw [register, get?_setRegister, if_pos rfl, Option.getD_some]

theorem register_setRegister_of_ne (h : other ≠ id) :
    (b.setRegister id r).register other = b.register other := by
  rw [register, register, get?_setRegister, if_neg h]

theorem setRegister_setRegister {r' : Register} : (b.setRegister id r).setRegister id r' = b.setRegister id r' := by
  rw [setRegister, setRegister, setRegister, Table.put_put]

theorem register_of_get? (h : b.registers.get? id = some r) : b.register id = r := by
  rw [register, h, Option.getD_some]

theorem isArmed_iff {handle : Handle} : b.isArmed handle = true ↔
    ∃ r, b.registers.get? handle.engine = some r ∧ r.armed = some handle.ticket := by
  rw [isArmed]
  cases b.registers.get? handle.engine <;> simp

end Switchboard

namespace Shared

theorem signal_cases (s : Shared ν) (handle : Handle) (target : Nat) :
    (s.board.isArmed handle = false ∧ s.signal handle target = (false, s)) ∨
    (s.board.isArmed handle = true ∧ ∃ r, s.board.registers.get? handle.engine = some r ∧
      r.armed = some handle.ticket ∧
      s.signal handle target = (true,
        { s with board := s.board.setRegister handle.engine (r.force (.to target)) }.mark
          (.landed handle))) := by
  unfold signal Switchboard.signal Switchboard.isArmed
  cases hr : s.board.registers.get? handle.engine with
  | none => exact .inl ⟨rfl, rfl⟩
  | some r =>
    by_cases armed : r.armed = some handle.ticket
    · refine .inr ⟨by simpa using armed, r, rfl, armed, ?_⟩
      simp [Register.signal, armed]
    · refine .inl ⟨by simpa using armed, ?_⟩
      have same : s.board.setRegister handle.engine r = s.board := by
        rw [Switchboard.setRegister, Table.put_get? hr]
      simp [Register.signal, armed, same]

theorem signal_fst (s : Shared ν) (handle : Handle) (target : Nat) :
    (s.signal handle target).1 = s.board.isArmed handle := by
  rcases s.signal_cases handle target with ⟨armed, hs⟩ | ⟨armed, _, _, _, hs⟩ <;> rw [hs, armed]

theorem signal_refused {s : Shared ν} {handle : Handle} {target : Nat}
    (h : s.board.isArmed handle = false) : (s.signal handle target).2 = s := by
  rcases s.signal_cases handle target with ⟨_, hs⟩ | ⟨armed, _⟩
  · rw [hs]
  · simp [h] at armed

/-- Whatever code of the host asks, it only signals or notes something down. -/
theorem answer_cases (s : Shared ν) (question : HostQuestion ν) :
    (s.answer question).2 = s ∨ (∃ handle target, (s.answer question).2 = (s.signal handle target).2) ∨
      ∃ value, (s.answer question).2 = s.record (.noted value) := by
  cases question with
  | fire name target =>
    rw [answer, fire]
    split
    · exact .inl rfl
    · exact .inr (.inl ⟨_, _, rfl⟩)
  | armed name => exact .inl rfl
  | note value => exact .inr (.inr ⟨value, rfl⟩)

end Shared

end Sequencer
