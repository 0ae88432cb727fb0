import Sequencer.Proofs.Engine.Unbroken
import Sequencer.Proofs.Faults
import Sequencer.Proofs.Handles

/-!
# Nothing breaks off

A host can give positions, slots and targets as it likes, and can leave caches stale or refresh one of them only. As
long as no list outgrows a word, no index is behind the end of its list, no position overflows, and no hook is called
without a command.
-/

namespace Sequencer

variable {σ ν : Type}

/-! ## Sequences -/

/-- No edit and no lookup breaks off, whatever it is given. -/
structure Sequence.Unbroken (s : Sequence σ) : Prop where
  edits : ∀ edit : Edit σ, edit.strictApply s = .ok (edit.apply s)
  blocks : ∀ position, s.strictBlockEnd position = .ok (s.blockEnd? position)
  behindBlocks : ∀ position last, s.blockEnd? position = some last → Strict.next last = .ok (last + 1)
  skips : ∀ target, s.strictNextRunnable target = .ok (s.nextRunnable target)

theorem Sequence.Sturdy.unbroken {s : Sequence σ} (h : s.Sturdy) (coherent : s.Coherent) : s.Unbroken where
  edits := h.strictApply_eq coherent
  blocks := h.strictBlockEnd_eq
  behindBlocks _ _ ends := Strict.next_eq (Nat.lt_of_lt_of_le (Blocks.lt_length_of_end? ends) h.fits.indents)
  skips := h.fits.strictNextRunnable_eq

namespace Studio

variable {ids : List EngineId} {s : Studio σ ν} {number : Nat} {e : Engine σ ν}

def Fits (s : Studio σ ν) : Prop := ∀ number e, s.engine? number = some e → e.sequence.Fits

/-- Nothing that a host can do next breaks off. -/
structure Unbroken [Behaviour σ ν] (s : Studio σ ν) : Prop where
  sequences : ∀ number e, s.engine? number = some e → e.sequence.Unbroken
  calls : ∀ number e, s.engine? number = some e → ∀ fuel call,
    Machine.strictReply ⟨e, s.shared⟩ fuel call = .ok (Machine.reply ⟨e, s.shared⟩ fuel call)
  fires : ∀ name target, s.shared.strictFire name target = .ok (s.shared.fire name target)
  /-- Whoever keeps a handle, it was issued for a position that has another one behind it. -/
  resumes : ∀ handle, Issued s.shared.moments handle → ∀ target,
    handle.strictTarget target = .ok (target.getD (handle.index + 1))

/-! ## What is kept from act to act -/

structure Sturdy (s : Studio σ ν) : Prop where
  resumable : Resumable s.shared.board s.shared.moments
  level : ∀ number e, s.engine? number = some e → e.sequence.layout.blocks.Level

theorem Sturdy.machine (h : s.Sturdy) (fits : s.Fits) (he : s.engine? number = some e) :
    Machine.Sturdy ⟨e, s.shared⟩ :=
  ⟨h.resumable, fits number e he, h.level number e he⟩

theorem sturdy_start : ({} : Studio σ ν).Sturdy where
  resumable := ⟨fun _ _ held => by simp [Table.get?, Table.find?] at held, fun _ ⟨_, called⟩ => by simp at called⟩
  level _ _ h := by simp [engine?] at h

theorem Sturdy.add (h : s.Sturdy) (id : EngineId) (name : String) (sequence : Sequence σ)
    (listener : Option Listener) (diagnostics : Bool) :
    (s.add (.create id name sequence listener diagnostics)).Sturdy := by
  refine ⟨⟨h.resumable.held, h.resumable.issued⟩, fun n found hn => ?_⟩
  rcases engine?_add_some hn with ⟨-, rfl⟩ | hn
  · exact Sequence.level_refreshIndentation _
  · exact h.level n found hn

theorem Sturdy.set (h : s.Sturdy) (he : s.engine? number = some e) {m : Machine σ ν}
    (resumable : Resumable m.shared.board m.shared.moments) (level : m.engine.sequence.layout.blocks.Level) :
    Sturdy { s with engines := s.engines.set number (some m.engine), shared := m.shared } := by
  refine ⟨resumable, fun n found hn => ?_⟩
  rcases engine?_set_some he hn with ⟨-, rfl⟩ | ⟨-, hn⟩
  · exact level
  · exact h.level n found hn

theorem Sturdy.drop (h : s.Sturdy) (number : Nat) : (s.drop number).Sturdy := by
  rw [Studio.drop]
  split
  · exact h
  · next e he => exact ⟨⟨h.resumable.held, h.resumable.issued⟩, fun n found hn =>
      h.level n found (engine?_set_none s.shared he hn).2⟩

theorem Sturdy.fire (h : s.Sturdy) (name : String) (target : Option Nat) : (s.fire name target).2.Sturdy :=
  ⟨steady_resumable.answer (.fire name target) h.resumable, h.level⟩

variable [Behaviour σ ν]

theorem Sturdy.edit (h : s.Sturdy) (number : Nat) (edit : Edit σ) : (s.edit number edit).2.Sturdy := by
  have edited : (s.withMachine number fun m => m.edit edit).2.Sturdy := by
    rw [withMachine]
    cases he : s.engine? number with
    | none => exact h
    | some e =>
      refine h.set he ?_ ?_
      · rw [(Machine.kept_edit ⟨e, s.shared⟩ edit).1]
        exact h.resumable
      · rw [Machine.edit]
        split
        · exact h.level number e he
        · next sequence editable =>
          obtain rfl : e.sequence = sequence := by
            rw [Machine.editable] at editable
            split at editable
            · cases editable
            · exact Except.ok.inj editable
          exact Sequence.level_edit (h.level number e he) edit
  rw [Studio.edit]
  split
  · next heq =>
    rw [heq] at edited
    exact ⟨edited.resumable, edited.level⟩
  · exact edited

theorem Sturdy.call (h : s.Sturdy) (sound : s.Sound ids) (fits : s.Fits) (fuel number : Nat) (call : Call σ ν) :
    (s.act fuel (.call number call)).2.Sturdy := by
  rw [Studio.act, withMachine]
  cases he : s.engine? number with
  | none => exact h
  | some e =>
    obtain ⟨-, left⟩ := (sound.machine he).strictReply_eq (h.machine fits he) fuel call
    simp only [Machine.call_eq_reply]
    exact h.set he left.resumable left.sequence.level

theorem Sturdy.act (h : s.Sturdy) (sound : s.Sound ids) (fits : s.Fits) (fuel : Nat) (act : HostAct σ ν) :
    (s.act fuel act).2.Sturdy := by
  cases act with
  | call number call => exact h.call sound fits fuel number call
  | edit number edit => exact h.edit number edit
  | drop number => exact h.drop number
  | fire name target => exact h.fire name target

end Studio

section Course

variable [Behaviour σ ν] {done : List (Deed σ ν)} {ids : List EngineId} {s : Studio σ ν}

theorem Course.sturdy (h : Course done ids s) (fits : ∀ deed ∈ done, deed.before.Fits) : s.Sturdy := by
  induction h with
  | start => exact Studio.sturdy_start
  | add id name listener diagnostics _ _ _ ih => exact (ih fits).add id name _ listener diagnostics
  | act fuel act course _ ih =>
    rw [List.forall_mem_cons] at fits
    exact (ih fits.2).act course.reachable.sound fits.1 fuel act

theorem Studio.Sturdy.unbroken (h : s.Sturdy) (sound : s.Sound ids) (fits : s.Fits) : s.Unbroken where
  sequences number e he :=
    Sequence.Sturdy.unbroken ⟨fits number e he, h.level number e he⟩ (sound.machine he).stands.core.coherent
  calls _ _ he fuel call := ((sound.machine he).strictReply_eq (h.machine fits he) fuel call).1
  fires := Shared.strictFire_eq h.resumable
  resumes handle issued := Handle.strictTarget_eq (h.resumable.issued handle issued)

end Course

/--
No sequence that has been built, and nothing that a host can get to, is in a state in which an operation would index
behind the end of a list, go beyond the highest index, or call a hook for a command that is not there.
-/
theorem nothing_breaks_off [Behaviour σ ν] :
    (∀ s : Sequence σ, s.Built → s.Fits → s.Unbroken) ∧
    ∀ (done : List (Deed σ ν)) (ids : List EngineId) (s : Studio σ ν), Course done ids s →
      (∀ deed ∈ done, deed.before.Fits) → s.Fits → s.Unbroken :=
  ⟨fun _ built fits => Sequence.Sturdy.unbroken ⟨fits, built.level⟩ built.sound.coherent,
    fun _ _ _ course earlier fits => (course.sturdy earlier).unbroken course.reachable.sound fits⟩

/-! ## A stale block, and a run that waits -/

/-- The opening of a block has been removed, and the indents that are cached are those from before. -/
def Sequence.headless : Sequence Cue :=
  ((Edit.remove 0).apply (Sequence.ofCommands [Cue.makeIf (.fixed false), Cue.makeEnd])).2.refreshIndices

theorem Studio.fits_of_single {s : Studio σ ν} {e : Engine σ ν} (single : s.engines = [some e])
    (fits : e.sequence.Fits) : s.Fits := by
  intro number found hf
  rw [engine?, single] at hf
  cases number with
  | zero =>
    obtain rfl : e = found := Option.some.inj hf
    exact fits
  | succ => simp at hf

theorem nothing_breaks_off_keeper :
    Sequence.headless.len = 1 ∧ Sequence.headless.strictBlockEnd 0 = .ok (some 1) ∧
    Sequence.headless.strictNextRunnable maxIndex = .ok none ∧
    (∃ s, (Edit.remove maxIndex).strictApply Sequence.headless = .ok (.removed none, s)) ∧
    keeperWaiting.shared.strictFire "kept" none = .ok (keeperWaiting.shared.fire "kept" none) ∧
    ∃ e m, keeperWaiting.engine? 0 = some e ∧
      Machine.strictReply ⟨e, keeperWaiting.shared⟩ 10 (.redirect 1) = .ok (.redirected (.value ()), m) := by
  have built : Sequence.headless.Built := ((Sequence.Built.ofCommands _).edit (.remove 0)).edit .refreshIndices
  have started : Course [] [keeperId] keeperStart :=
    .add keeperId "engine" (some .recorder) true .start (by simp) (.edit (.push keeper) .empty)
  have waiting : Course [⟨keeperStart, 10, .call 0 (.execute 0 none)⟩] [keeperId] keeperWaiting :=
    .act 10 (.call 0 (.execute 0 none)) started rfl
  have fits : keeperStart.Fits := Studio.fits_of_single rfl ⟨by decide, by decide, by decide⟩
  have unbroken := (nothing_breaks_off (σ := Cue) (ν := Note)).1 Sequence.headless built
    ⟨by decide, by decide, by decide⟩
  have calm := nothing_breaks_off.2 _ _ _ waiting (by simpa using fits)
    (Studio.fits_of_single rfl ⟨by decide, by decide, by decide⟩)
  exact ⟨rfl, unbroken.blocks 0, unbroken.skips maxIndex, ⟨_, unbroken.edits (.remove maxIndex)⟩,
    calm.fires "kept" none, _, _, rfl, calm.calls 0 _ rfl 10 (.redirect 1)⟩

end Sequencer
