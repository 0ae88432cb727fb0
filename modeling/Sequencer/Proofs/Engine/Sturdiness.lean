import Sequencer.Proofs.Engine.Points
import Sequencer.Proofs.Engine.Strict

/-!
# Sturdy engines

As long as no list outgrows a word, the strict operations of an engine never break off, and do what the ordinary ones
do. Every handle is then issued for a position that has another one behind it.
-/

namespace Sequencer

variable {σ ν : Type}

/-! ## Handles -/

/-- There is a position behind that of each handle, whether it is held or was issued once. -/
structure Resumable (b : Switchboard) (moments : List (Moment ν)) : Prop where
  held : ∀ name handle, b.handles.get? name = some handle → handle.index < maxIndex
  issued : ∀ handle, Issued moments handle → handle.index < maxIndex

theorem Handle.strictTarget_eq {handle : Handle} (small : handle.index < maxIndex) (target : Option Nat) :
    handle.strictTarget target = .ok (target.getD (handle.index + 1)) := by
  cases target with
  | none => exact Strict.next_eq small
  | some target => rfl

namespace Resumable

variable {b : Switchboard} {moments : List (Moment ν)} {moment : Moment ν} {handle : Handle}

theorem note (h : Resumable b moments) (small : ∀ engine index ticket board,
    moment = .called engine .execute index ticket board → index < maxIndex) : Resumable b (moment :: moments) := by
  refine ⟨h.held, fun handle issued => ?_⟩
  obtain ⟨board, called⟩ := issued
  rcases List.mem_cons.mp called with here | earlier
  · exact small _ _ _ _ here.symm
  · exact h.issued handle ⟨board, earlier⟩

theorem hold (h : Resumable b moments) (name : String) (small : handle.index < maxIndex) :
    Resumable (b.hold name handle) moments := by
  refine ⟨fun other held hh => ?_, h.issued⟩
  simp only [Switchboard.hold, Table.get?_put] at hh
  split at hh
  · rwa [← Option.some.inj hh]
  · exact h.held other held hh

end Resumable

theorem steady_resumable : Steady (Resumable (ν := ν)) := fun _ _ _ _ _ _ _ h =>
  have noted := h.note (by rintro _ _ _ _ ⟨⟩)
  ⟨h.held, noted.issued⟩

/-! ## Code of the host -/

theorem Program.strictRun_eq {Q : Type} {A : Q → Type} {α S : Type} {strict : (q : Q) → S → Strict (A q × S)}
    {answer : (q : Q) → S → A q × S} {P : S → Prop} (same : ∀ q s, P s → strict q s = .ok (answer q s))
    (step : ∀ q s, P s → P (answer q s).2) (program : Program A α) (s : S) (h : P s) :
    program.strictRun strict s = .ok (program.run answer s) := by
  induction program generalizing s with
  | done value => rfl
  | ask question next ih =>
    rw [strictRun, same question s h, Strict.bind_ok]
    exact ih _ _ (step question s h)

namespace Shared

variable {s : Shared ν}

theorem strictFire_eq (h : Resumable s.board s.moments) (name : String) (target : Option Nat) :
    s.strictFire name target = .ok (s.fire name target) := by
  rw [strictFire, fire]
  cases held : s.board.handles.get? name with
  | none => rfl
  | some handle =>
    dsimp only
    rw [Handle.strictTarget_eq (h.held name handle held)]
    rfl

theorem strictAnswer_eq (h : Resumable s.board s.moments) (question : HostQuestion ν) :
    strictAnswer question s = .ok (s.answer question) := by
  cases question with
  | fire name target => exact strictFire_eq h name target
  | armed | note => rfl

theorem strictPerform_eq {α : Type} (h : Resumable s.board s.moments) (program : HostProgram ν α) :
    s.strictPerform program = .ok (s.perform program) :=
  Program.strictRun_eq (P := fun s => Resumable s.board s.moments) (fun q _ h => strictAnswer_eq h q)
    (fun q _ h => steady_resumable.answer q h) program s h

end Shared

namespace Machine

/-- A hook that works for such a position, and on such handles. -/
structure HookFrame.Sturdy (f : HookFrame ν) : Prop where
  resumable : Resumable f.shared.board f.shared.moments
  small : f.handle.index < maxIndex

theorem HookFrame.Sturdy.strictAnswer_eq {f : HookFrame ν} (h : f.Sturdy) (question : HookQuestion ν) :
    HookFrame.strictAnswer question f = .ok (f.answer question) := by
  cases question with
  | host question =>
    rw [HookFrame.strictAnswer, Shared.strictAnswer_eq h.resumable question]
    rfl
  | signal | hasSignalled | hold | request | report => rfl

theorem HookFrame.Sturdy.answer {f : HookFrame ν} (h : f.Sturdy) (question : HookQuestion ν) :
    (f.answer question).2.Sturdy := by
  cases question with
  | host question => exact ⟨steady_resumable.answer question h.resumable, h.small⟩
  | signal target => exact ⟨steady_resumable.signal h.resumable f.handle target, h.small⟩
  | hold name => exact ⟨h.resumable.hold name h.small, h.small⟩
  | hasSignalled | request | report => exact ⟨h.resumable, h.small⟩

/-! ## Steps of a run -/

structure Sturdy (m : Machine σ ν) : Prop where
  resumable : Resumable m.shared.board m.shared.moments
  sequence : m.engine.sequence.Sturdy

variable {m : Machine σ ν} {index : Nat}

theorem Sturdy.strictPlaces (h : m.Sturdy) (small : index < maxIndex) :
    ∃ places, (m.view index).strictPlaces = .ok places := by
  have ends := Blocks.strictEnd_eq h.sequence.level h.sequence.fits.indents index
  rw [View.strictPlaces, show Strict.next (m.view index).index = .ok (index + 1) from Strict.next_eq small,
    Strict.bind_ok, show (m.view index).blocks.strictEnd (m.view index).index = _ from ends, Strict.bind_ok]
  cases found : m.engine.sequence.layout.blocks.end? index with
  | none => exact ⟨_, rfl⟩
  | some last =>
    have inside := Blocks.lt_length_of_end? found
    have counted := h.sequence.fits.indents
    dsimp only
    rw [Strict.next_eq (by omega)]
    exact ⟨_, rfl⟩

theorem Sturdy.strictTarget_eq {entry : Entry σ} {view : View} (h : m.Sturdy)
    (target : m.hookTarget? index = some (entry, view)) :
    m.strictTarget index = .ok (entry, view) ∧ index < maxIndex := by
  obtain ⟨slot, known, there⟩ := Option.bind_eq_some_iff.mp target
  obtain ⟨held, _, there⟩ := Option.bind_eq_some_iff.mp there
  obtain ⟨_, _, there⟩ := Option.bind_eq_some_iff.mp there
  obtain rfl : m.view index = view := (Prod.mk.inj (Option.some.inj there)).2
  have inside : index < m.engine.sequence.layout.positions.length := (List.getElem?_eq_some_iff.mp known).1
  have counted := h.sequence.fits.positions
  have small : index < maxIndex := by omega
  obtain ⟨places, found⟩ := h.strictPlaces small
  rw [strictTarget, target]
  dsimp only
  rw [found]
  exact ⟨rfl, small⟩

theorem exists_hookTarget (coherent : m.engine.sequence.Coherent) (fresh : m.engine.sequence.needsRefresh = false)
    (runs : ∃ form, m.engine.sequence.forms[index]? = some form ∧ form.kind = .action) :
    ∃ entry view, m.hookTarget? index = some (entry, view) := by
  obtain ⟨form, hf, -⟩ := runs
  rw [Sequence.forms, List.getElem?_map] at hf
  obtain ⟨entry, found, -⟩ := Option.map_eq_some_iff.mp hf
  rw [hookTarget?_eq coherent (Bool.or_eq_false_iff.mp fresh).1, found]
  exact ⟨entry, m.view index, rfl⟩

namespace Sturdy

theorem setSequence {s : Sequence σ} (h : m.Sturdy) (hs : s.Sturdy) : (m.setSequence s).Sturdy := ⟨h.resumable, hs⟩

theorem setState (h : m.Sturdy) (index : Nat) (state : σ) :
    (m.setSequence (m.engine.sequence.setState index state)).Sturdy :=
  h.setSequence (h.sequence.update index _)

theorem setExecuting (h : m.Sturdy) (index : Nat) (executing : Bool) : (m.setExecuting index executing).Sturdy :=
  h.setSequence (h.sequence.update index _)

theorem tell (h : m.Sturdy) (event : Event ν) (notice : Notice) : (m.tell event notice).Sturdy := by
  refine ⟨?_, ?_⟩
  · rw [board_tell, moments_tell]
    split
    · exact h.resumable
    · exact h.resumable.note (by rintro _ _ _ _ ⟨⟩)
  · rw [engine_tell]
    exact h.sequence

theorem setRegister (h : m.Sturdy) (r : Register) : (m.setRegister r).Sturdy :=
  ⟨⟨h.resumable.held, h.resumable.issued⟩, h.sequence⟩

theorem announce (h : m.Sturdy) (hook : Hook) (small : hook = .execute → index < maxIndex) (ticket : Ticket) :
    (m.announce hook index ticket).Sturdy := by
  have noted : Resumable m.shared.board (.called m.engine.id hook index ticket m.shared.board :: m.shared.moments) :=
    h.resumable.note (by rintro _ _ _ _ ⟨⟩; exact small rfl)
  exact ⟨noted, h.sequence⟩

theorem perform {α : Type} (h : m.Sturdy) (program : HostProgram ν α) :
    { m with shared := (m.shared.perform program).2 }.Sturdy :=
  ⟨steady_resumable.perform h.resumable program, h.sequence⟩

/-! ### Ending a run -/

theorem enterIdle (h : m.Sturdy) : m.enterIdle.Sturdy :=
  tell (m := (m.setRun none).report _) ⟨h.resumable, h.sequence⟩ _ _

theorem fireCallback (h : m.Sturdy) (callback : HostProgram ν Unit) :
    m.strictFireCallback callback = .ok (m.fireCallback callback) ∧ (m.fireCallback callback).Sturdy := by
  refine ⟨?_, perform (m := (m.record _).turn _) ⟨h.resumable, h.sequence⟩ callback⟩
  rw [strictFireCallback, Shared.strictPerform_eq]
  · rfl
  · exact h.resumable

theorem finish (h : m.Sturdy) : m.strictFinish = .ok m.finish ∧ m.finish.Sturdy := by
  rw [strictFinish, Machine.finish]
  cases m.engine.run.bind (·.onComplete) with
  | none => exact ⟨rfl, h.enterIdle⟩
  | some callback => exact h.enterIdle.fireCallback callback

theorem abort (h : m.Sturdy) :
    ((m.setRegister (m.register.force .abort)).turn (.aborted m.engine.id m.engine.runCount)).enterIdle.Sturdy :=
  have aborted := h.setRegister (m.register.force .abort)
  enterIdle ⟨aborted.resumable, aborted.sequence⟩

section Stop

variable [Behaviour σ ν]

theorem callStopHook (h : m.Sturdy) (index : Nat) :
    m.strictCallStopHook index = .ok (m.callStopHook index) ∧ (m.callStopHook index).Sturdy := by
  rw [strictCallStopHook, Machine.callStopHook]
  cases m.engine.sequence.entry? index with
  | none => exact ⟨rfl, h⟩
  | some entry =>
    dsimp only
    rw [Shared.strictPerform_eq h.resumable]
    exact ⟨rfl, (h.perform (Behaviour.onStop entry.command.state)).setState index _⟩

theorem interrupt (h : m.Sturdy) (index : Nat) :
    m.strictInterrupt index = .ok (m.interrupt index) ∧ (m.interrupt index).Sturdy := by
  rw [strictInterrupt, Machine.interrupt]
  by_cases there : (m.engine.sequence.entry? index).isSome = true
  · rw [if_pos there, if_pos there]
    exact (h.announce .stop (by rintro ⟨⟩) _).callStopHook index
  · rw [if_neg there, if_neg there]
    exact ⟨rfl, h⟩

theorem stop (h : m.Sturdy) : m.strictStop = .ok m.stop ∧ m.stop.Sturdy := by
  rw [strictStop, Machine.stop]
  cases m.engine.run with
  | none => exact ⟨rfl, h⟩
  | some run =>
    dsimp only
    cases run.active with
    | none => exact ⟨rfl, h.abort⟩
    | some index =>
      obtain ⟨same, left⟩ := (h.setExecuting index false).interrupt index
      rw [strictLeave, same]
      exact ⟨rfl, left.abort⟩

end Stop

/-! ### Starting a run -/

theorem strictFreshen_eq (h : m.Sturdy) : m.strictFreshen =
    .ok (if m.engine.sequence.needsRefresh then m.setSequence m.engine.sequence.refresh else m) := by
  rw [strictFreshen, h.sequence.strictRefresh_eq]
  split <;> rfl

theorem beginRun (h : m.Sturdy) (start : Nat) (onComplete : Option (HostProgram ν Unit)) :
    m.strictBeginRun start onComplete = .ok (m.beginRun start onComplete) ∧ (m.beginRun start onComplete).Sturdy := by
  refine ⟨?_, setRegister (tell (m := (m.begun onComplete).report _) ⟨h.resumable, ?_⟩ _ _) _⟩
  · rw [strictBeginRun, h.strictFreshen_eq, Strict.bind_ok]
    by_cases stale : m.engine.sequence.needsRefresh = true
    · rw [if_pos stale, Machine.beginRun, Machine.beginRun, if_pos stale]
      rfl
    · rw [if_neg stale]
  · show (if m.engine.sequence.needsRefresh then m.engine.sequence.refresh else m.engine.sequence).Sturdy
    split
    · exact h.sequence.refresh
    · exact h.sequence

/-! ### Calling a hook -/

theorem runHook (h : m.Sturdy) (small : index < maxIndex) (ticket : Ticket)
    (program : HookProgram ν (σ × Except CommandError Unit)) :
    m.strictRunHook index ticket program = .ok (m.runHook index ticket program) ∧
      (m.runHook index ticket program).2.2.Sturdy := by
  have frame : HookFrame.Sturdy { shared := m.shared, handle := ⟨m.engine.id, ticket, index⟩ } :=
    ⟨h.resumable, small⟩
  have after := Program.run_preserves (P := HookFrame.Sturdy) (fun q _ hf => hf.answer q) program _ frame
  refine ⟨?_, setState (m := ⟨m.engine, _⟩) ⟨after.resumable, h.sequence⟩ index _⟩
  rw [strictRunHook, Program.strictRun_eq (P := HookFrame.Sturdy) (fun q _ hf => hf.strictAnswer_eq q)
    (fun q _ hf => hf.answer q) program _ frame]
  rfl

theorem commandFailed (h : m.Sturdy) (index : Nat) (ticket : Ticket) (source : CommandError) :
    (m.commandFailed index ticket source).2.Sturdy := by
  have failed : Resumable m.shared.board (.failed m.engine.id ticket :: m.shared.moments) :=
    h.resumable.note (by rintro _ _ _ _ ⟨⟩)
  rw [Machine.commandFailed]
  dsimp only
  split <;> exact ⟨⟨failed.held, failed.issued⟩, h.sequence⟩

variable [Behaviour σ ν]

theorem obey (h : m.Sturdy) (index : Nat) (request : Option Request) :
    m.strictObey index request = .ok (m.obey index request) ∧ (m.obey index request).2.Sturdy := by
  match request with
  | none => exact ⟨rfl, h⟩
  | some .stop =>
    obtain ⟨same, stopped⟩ := stop (m := m.report (.stopRequested m.engine.name index)) ⟨h.resumable, h.sequence⟩
    rw [strictObey, same]
    exact ⟨rfl, stopped⟩
  | some (.restart start) =>
    obtain ⟨same, stopped⟩ := stop (m := m.report (.restartRequested m.engine.name index start))
      ⟨h.resumable, h.sequence⟩
    rw [strictObey, same]
    exact ⟨rfl, stopped⟩

theorem settle {result : HookResult σ ν} (h : result.2.2.Sturdy) (index : Nat) (ticket : Ticket) :
    strictSettle index ticket result = .ok (Machine.settle index ticket result) ∧
      (Machine.settle index ticket result).2.Sturdy := by
  obtain ⟨result, request, m⟩ := result
  cases result with
  | error source => exact ⟨rfl, commandFailed h index ticket source⟩
  | ok => exact obey h index request

theorem callExecute {entry : Entry σ} {view : View} (h : m.Sturdy)
    (target : m.hookTarget? index = some (entry, view)) (ticket : Ticket) :
    m.strictCallExecute index ticket = .ok (m.callExecute index ticket) ∧ (m.callExecute index ticket).2.Sturdy := by
  obtain ⟨found, small⟩ := h.strictTarget_eq target
  have announced := announce (m := m.report (.hookStarted m.engine.name index entry.command.name))
    ⟨h.resumable, h.sequence⟩ .execute (fun _ => small) ticket
  obtain ⟨same, left⟩ := announced.runHook small ticket (Behaviour.execute entry.command.state view)
  rw [strictCallExecute, found, Strict.bind_ok, callExecute_eq target]
  dsimp only
  rw [same]
  exact settle left index ticket

theorem callTick {entry : Entry σ} {view : View} (h : m.Sturdy)
    (target : m.hookTarget? index = some (entry, view)) (ticket : Ticket) :
    m.strictCallTick index ticket = .ok (m.callTick index ticket) ∧ (m.callTick index ticket).2.Sturdy := by
  obtain ⟨found, small⟩ := h.strictTarget_eq target
  obtain ⟨same, left⟩ := (h.announce .tick (fun _ => small) ticket).runHook small ticket
    (Behaviour.onTick entry.command.state view)
  rw [strictCallTick, found, Strict.bind_ok, Machine.callTick, target]
  dsimp only
  rw [same]
  exact settle left index ticket

omit [Behaviour σ ν] in
theorem takeJump (h : m.Sturdy) : m.takeJump.2.Sturdy := by
  have cleared := h.setRegister m.register.clearPending
  rw [Machine.takeJump]
  split
  · exact h
  · dsimp only
    split
    · exact cleared
    · exact cleared.setExecuting _ false

end Sturdy

section Activation

variable [Behaviour σ ν]

theorem Stands.strictActivate_eq (h : m.Stands none) (sturdy : m.Sturdy) (executing : m.engine.isExecuting = true)
    (runs : ∃ form, m.engine.sequence.forms[index]? = some form ∧ form.kind = .action) :
    m.strictActivate index = .ok (m.activate index) ∧ (m.activate index).2.Sturdy := by
  have mild := Sequence.mild_setExecuting (σ := σ) true
  have entered : (m.enter index).Sturdy := ⟨sturdy.resumable, sturdy.sequence.update index _⟩
  have there : ∃ entry view, (m.enter index).hookTarget? index = some (entry, view) := by
    refine exists_hookTarget (h.core.coherent.update mild index)
      (Sequence.needsRefresh_update.trans (h.core.fresh executing)) ?_
    rw [show (m.enter index).engine.sequence.forms = m.engine.sequence.forms from
      Sequence.forms_update h.core.coherent mild]
    exact runs
  obtain ⟨entry, view, target⟩ := there
  rw [strictActivate, Machine.activate]
  cases (m.enter index).engine.sequence.get? index with
  | none => exact (entered.setRegister _).callExecute target _
  | some command =>
    let told := (m.enter index).tell
      (.commandExecuting m.engine.ref command.name index m.engine.sequence.len)
      (.commandExecuting m.engine.name command.name index m.engine.sequence.len)
    have same : (told.setRegister told.register.arm).hookTarget? index = (m.enter index).hookTarget? index := by
      rw [hookTarget?, hookTarget?, Machine.setRegister, engine_tell]
    exact ((entered.tell _ _).setRegister _).callExecute (same.trans target) _

end Activation

end Machine

end Sequencer
