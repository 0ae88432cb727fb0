import Mathlib.Logic.Relation
import Sequencer.Engine.Operations
import Sequencer.Proofs.Turns

/-!
# Moves

Whatever an engine does, it does in small moves of a few kinds. What every move leaves alone, every
operation leaves alone: the forms of the commands, the past, and the other engines.
-/

namespace Sequencer

variable {σ ν : Type}

/-- A change of a sequence that keeps its owner, and the forms of its commands. -/
structure Sequence.Adjusts (s s' : Sequence σ) : Prop where
  owner : s'.owner = s.owner
  forms : s.Coherent → s'.Coherent ∧ s'.forms = s.forms

/-- What an engine does to its register: it arms the next ticket, or it arms none. -/
inductive Register.Step (r : Register) : Register → Prop where
  | arm : Step r r.arm
  | force (jump : Jump) : Step r (r.force jump)
  | disarm : Step r r.disarm
  | clearPending : Step r r.clearPending

inductive Move : Machine σ ν → Machine σ ν → Prop where
  | run (m : Machine σ ν) (run : Option (Run ν)) : Move m (m.setRun run)
  | count (m : Machine σ ν) (previousActive : Option Nat) {runCount : Nat} :
    m.engine.runCount ≤ runCount → Move m { m with engine := { m.engine with previousActive, runCount } }
  | sequence (m : Machine σ ν) {s : Sequence σ} : m.engine.sequence.Adjusts s → Move m (m.setSequence s)
  | register (m : Machine σ ν) {r : Register} : m.register.Step r → Move m (m.setRegister r)
  | record (m : Machine σ ν) {event : Event ν} : (∀ id, event.heard? id = none) →
    (∀ id, event.engine? = some id → id = m.engine.id) → Move m (m.record event)
  | report (m : Machine σ ν) (notice : Notice) : Move m (m.report notice)
  | hold (m : Machine σ ν) (name : String) {handle : Handle} : handle.engine = m.engine.id →
    Move m { m with shared := { m.shared with board := m.shared.board.hold name handle } }
  | signal (m : Machine σ ν) (handle : Handle) (target : Nat) :
    Move m { m with shared := (m.shared.signal handle target).2 }
  | mark (m : Machine σ ν) {moment : Moment ν} : moment.engine? = some m.engine.id →
    moment.isTold = false → (∀ id ticket, moment.isLanding id ticket = false) → Move m (m.mark moment)
  | turn (m : Machine σ ν) {turn : Turn ν} : turn.engine = m.engine.id → Move m (m.turn turn)
  /-- What the listener is told of a command is right. -/
  | tell (m : Machine σ ν) {event : Event ν} (notice : Notice) : event.engine? = some m.engine.id →
    (∀ ref name index total, event = .commandExecuting ref name index total → ref = m.engine.ref ∧
      total = m.engine.sequence.len ∧
      ∃ command, m.engine.sequence.get? index = some command ∧ command.name = name) →
    Move m (m.tell event notice)

def Moves : Machine σ ν → Machine σ ν → Prop := Relation.ReflTransGen Move

/-! ## Telling the listener -/

namespace Machine

variable (m : Machine σ ν) (event : Event ν) (notice : Notice)

theorem engine_tell :
    (m.tell event notice).engine = m.engine := by
  rw [tell]
  split <;> rfl

theorem board_tell :
    (m.tell event notice).shared.board = m.shared.board := by
  rw [tell]
  split <;> rfl

theorem moments_tell :
    (m.tell event notice).shared.moments =
      if m.engine.listener = none then m.shared.moments else .told event :: m.shared.moments := by
  rw [tell]
  split <;> simp_all [mark, record, report, Shared.mark, Shared.record, Shared.report]

theorem register_tell :
    (m.tell event notice).register = m.register := by
  rw [register, board_tell, engine_tell, register]

end Machine

namespace Moves

variable {o m : Machine σ ν}

theorem refl (m : Machine σ ν) : Moves m m := Relation.ReflTransGen.refl

theorem next {m' : Machine σ ν} (h : Moves o m) (move : Move m m') : Moves o m' :=
  Relation.ReflTransGen.tail h move

/-! ## Sequences -/

theorem setSequence {s : Sequence σ} (h : Moves o m) (hs : m.engine.sequence.Adjusts s) :
    Moves o (m.setSequence s) :=
  h.next (.sequence m hs)

theorem update {change : Entry σ → Entry σ} (h : Moves o m) (mild : Mild change) (p : Nat) :
    Moves o (m.setSequence (m.engine.sequence.update p change)) :=
  h.setSequence ⟨Sequence.owner_update,
    fun hc => ⟨hc.update mild p, Sequence.forms_update hc mild⟩⟩

theorem setExecuting (h : Moves o m) (index : Nat) (executing : Bool) :
    Moves o (m.setExecuting index executing) :=
  h.update (Sequence.mild_setExecuting executing) index

theorem refresh (h : Moves o m) : Moves o (m.setSequence m.engine.sequence.refresh) :=
  h.setSequence ⟨rfl, fun hc => ⟨hc.refresh, Sequence.forms_refresh⟩⟩

/-! ## Programs -/

theorem signal {s : Shared ν} (h : Moves o { m with shared := s }) (handle : Handle) (target : Nat) :
    Moves o { m with shared := (s.signal handle target).2 } :=
  h.next (.signal { m with shared := s } handle target)

theorem answer {s : Shared ν} (question : HostQuestion ν) (h : Moves o { m with shared := s }) :
    Moves o { m with shared := (s.answer question).2 } := by
  rcases s.answer_cases question with same | ⟨handle, target, same⟩ | ⟨value, same⟩ <;> rw [same]
  · exact h
  · exact h.signal handle target
  · exact h.next (.record { m with shared := s } (fun _ => rfl) (by rintro _ ⟨⟩))

theorem perform {α : Type} (h : Moves o m) (program : HostProgram ν α) :
    Moves o { m with shared := (m.shared.perform program).2 } :=
  Program.run_preserves (P := fun s => Moves o { m with shared := s }) (fun q _ hs => hs.answer q)
    program m.shared h

theorem hook {α : Type} (h : Moves o m) (program : HookProgram ν α) (handle : Handle)
    (own : handle.engine = m.engine.id) : Moves o { m with shared :=
      (program.run Machine.HookFrame.answer { shared := m.shared, handle }).2.shared } := by
  refine (Program.run_preserves (P := fun f : Machine.HookFrame ν =>
    f.handle.engine = m.engine.id ∧ Moves o { m with shared := f.shared }) (fun question f hf => ?_) program _
    ⟨own, h⟩).2
  obtain ⟨own, hf⟩ := hf
  refine ⟨by cases question <;> exact own, ?_⟩
  cases question with
  | host question => exact hf.answer question
  | signal target => exact hf.signal _ _
  | hold name => exact hf.next (.hold { m with shared := f.shared } name own)
  | report notice => exact hf.next (.report { m with shared := f.shared } notice)
  | hasSignalled => exact hf
  | request request => exact hf

/-! ## Hook calls -/

theorem announce (h : Moves o m) (hook : Hook) (index : Nat) (ticket : Ticket) :
    Moves o (m.announce hook index ticket) :=
  (h.next (.record m (fun _ => rfl) (by rintro _ ⟨⟩; rfl))).next (.mark (m.record _) rfl rfl fun _ _ => rfl)

/-! ## Ending a run -/

theorem enterIdle (h : Moves o m) : Moves o m.enterIdle :=
  ((h.next (.run m none)).next (.report _ _)).next (.tell _ _ rfl (by rintro _ _ _ _ ⟨⟩))

theorem finish (h : Moves o m) : Moves o m.finish := by
  rw [Machine.finish]
  split
  · exact h.enterIdle
  · have recorded := h.enterIdle.next
      (@Move.record _ _ m.enterIdle (.callbackFired m.enterIdle.engine.id m.enterIdle.engine.runCount)
        (fun _ => rfl) (by rintro _ ⟨⟩; rfl))
    exact (recorded.next (.turn _ rfl)).perform _

section Hooks

variable [Behaviour σ ν]

theorem callStopHook (h : Moves o m) (index : Nat) : Moves o (m.callStopHook index) := by
  rw [Machine.callStopHook]
  split
  · exact h
  · exact (h.perform _).update (Sequence.mild_setState _) index

theorem interrupt (h : Moves o m) (index : Nat) : Moves o (m.interrupt index) := by
  rw [Machine.interrupt]
  split
  · exact (h.announce .stop index _).callStopHook index
  · exact h

theorem stop (h : Moves o m) : Moves o m.stop := by
  rw [Machine.stop]
  split
  · exact h
  · dsimp only
    split
    · exact ((h.next (.register m (.force _))).next (.turn _ rfl)).enterIdle
    · next index _ =>
      have interrupted := (h.setExecuting index false).interrupt index
      exact ((interrupted.next (.register _ (.force _))).next (.turn _ rfl)).enterIdle

end Hooks

/-! ## Starting a run -/

theorem beginRun (h : Moves o m) (start : Nat) (onComplete : Option (HostProgram ν Unit)) :
    Moves o (m.beginRun start onComplete) := by
  have fresh : Moves o (m.setSequence
      (if m.engine.sequence.needsRefresh then m.engine.sequence.refresh else m.engine.sequence)) := by
    split
    · exact h.refresh
    · exact h
  have counted := (fresh.next (.run _ (some { onComplete }))).next
    (.count _ m.engine.previousActive (Nat.le_add_right _ 1))
  have begun := counted.next (@Move.turn _ _ _ (.began m.engine.id (m.engine.runCount + 1) onComplete) rfl)
  exact ((begun.next (.report _ _)).next (.tell _ _ rfl (by rintro _ _ _ _ ⟨⟩))).next
    (.register _ (.force _))

/-! ## Calling a hook -/

theorem commandFailed (h : Moves o m) (index : Nat) (ticket : Ticket) (source : CommandError) :
    Moves o (m.commandFailed index ticket source).2 := by
  have failed := ((h.next (.run m (m.engine.run.map fun run => { run with faulted := true }))).next
    (.register _ .disarm)).next (@Move.mark _ _ _ (.failed m.engine.id ticket) rfl rfl fun _ _ => rfl)
  simp only [Machine.commandFailed]
  split
  · exact failed.next (.report _ _)
  · exact failed

theorem runHook (h : Moves o m) (index : Nat) (ticket : Ticket)
    (program : HookProgram ν (σ × Except CommandError Unit)) :
    Moves o (m.runHook index ticket program).2.2 :=
  (h.hook program ⟨m.engine.id, ticket, index⟩ rfl).update (Sequence.mild_setState _) index

theorem takeJump (h : Moves o m) : Moves o m.takeJump.2 := by
  rw [Machine.takeJump]
  split
  · exact h
  · dsimp only
    split
    · exact h.next (.register m .clearPending)
    · exact (h.next (.register m .clearPending)).setExecuting _ false

variable [Behaviour σ ν]

theorem obey (h : Moves o m) (index : Nat) (request : Option Request) :
    Moves o (m.obey index request).2 := by
  rw [Machine.obey.eq_def]
  split
  · exact h
  · exact (h.next (.report m _)).stop
  · exact (h.next (.report m _)).stop

theorem settle {result : Except CommandError Unit × Option Request × Machine σ ν}
    (h : Moves o result.2.2) (index : Nat) (ticket : Ticket) :
    Moves o (Machine.settle index ticket result).2 := by
  rw [Machine.settle.eq_def]
  split
  · exact h.commandFailed index ticket _
  · exact h.obey index _

theorem callExecute (h : Moves o m) (index : Nat) (ticket : Ticket) :
    Moves o (m.callExecute index ticket).2 := by
  rw [Machine.callExecute]
  split
  · exact h
  · exact (((h.next (.report m _)).announce .execute index ticket).runHook index ticket _).settle _ _

theorem callTick (h : Moves o m) (index : Nat) (ticket : Ticket) :
    Moves o (m.callTick index ticket).2 := by
  rw [Machine.callTick]
  split
  · exact h
  · exact ((h.announce .tick index ticket).runHook index ticket _).settle _ _

/-! ## Activating a command -/

omit [Behaviour σ ν] in
theorem enter (h : Moves o m) (index : Nat) : Moves o (m.enter index) := by
  have active := (h.next (.run m (m.engine.run.map fun run => { run with active := some index }))).next
    (.count _ m.engine.active (Nat.le_refl m.engine.runCount))
  exact active.setExecuting index true

theorem activate (h : Moves o m) (index : Nat) : Moves o (m.activate index).2 := by
  have entered := h.enter index
  have total : (m.enter index).engine.sequence.len = m.engine.sequence.len := Sequence.len_update
  rw [Machine.activate]
  refine callExecute (next ?_ (.register _ .arm)) index _
  split
  · exact entered
  · next command hc =>
    refine entered.next (.tell _ _ rfl ?_)
    rintro _ _ _ _ ⟨⟩
    exact ⟨rfl, total.symm, command, hc, rfl⟩

/-! ## The run loop -/

omit [Behaviour σ ν] in
theorem proceed {loop : Nat → Machine σ ν → Verdict × Machine σ ν}
    (hl : ∀ run m, Moves o m → Moves o (loop run m).2) (run : Nat) {ended : Machine.HookEnd × Machine σ ν}
    (h : Moves o ended.2) : Moves o (Machine.proceed loop run ended).2 := by
  obtain ⟨ended, m'⟩ := ended
  cases ended with
  | settled => exact hl run m' h
  | failed error => exact h
  | restart start =>
    have nested := hl (m'.beginRun start none).engine.runCount _ (h.beginRun start none)
    rw [Machine.proceed]
    split
    · next m'' heq =>
      rw [heq] at nested
      exact hl run m'' nested
    · exact nested

theorem drive (fuel run : Nat) (h : Moves o m) : Moves o (Machine.drive fuel run m).2 := by
  induction fuel generalizing run m with
  | zero => exact h
  | succ fuel ih =>
    rw [Machine.drive]
    split
    · have taken := h.takeJump
      split
      · next heq => rwa [heq] at taken
      · next jump m' heq =>
        rw [heq] at taken
        have turned := taken.next (@Move.turn _ _ m' (.jumped m'.engine.id run jump.target
          m'.engine.sequence.outline (m'.engine.sequence.nextRunnable jump.target)) rfl)
        dsimp only
        split
        · exact turned.finish
        · exact proceed (fun run _ hm => ih run hm) run (turned.activate _)
    · exact h

theorem startRun (h : Moves o m) (fuel start : Nat) (onComplete : Option (HostProgram ν Unit)) :
    Moves o (m.startRun fuel start onComplete).2 :=
  (h.beginRun start onComplete).drive fuel _

/-! ## What a host can do -/

theorem execute (h : Moves o m) (fuel start : Nat) (onComplete : Option (HostProgram ν Unit)) :
    Moves o (m.execute fuel start onComplete).2 := by
  rw [Machine.execute]
  split
  · exact h.next (.report m _)
  · exact h.startRun fuel start onComplete

theorem executeLabel (h : Moves o m) (fuel : Nat) (key : String)
    (onComplete : Option (HostProgram ν Unit)) : Moves o (m.executeLabel fuel key onComplete).2 := by
  have refreshed : Moves o m.refreshIfIdle := by
    rw [Machine.refreshIfIdle]
    split
    · exact h.refresh
    · exact h
  rw [Machine.executeLabel]
  split
  · exact refreshed.next (.report _ _)
  · exact refreshed.execute fuel _ onComplete

theorem tick (h : Moves o m) (fuel : Nat) : Moves o (m.tick fuel).2 := by
  rw [Machine.tick]
  split
  · split
    · exact proceed (fun run _ hm => hm.drive fuel run) _ (h.callTick _ _)
    · exact h.drive fuel _
  · exact h

theorem jumpTo (h : Moves o m) (run : Run ν) (index : Nat) : Moves o (m.jumpTo run index) := by
  rw [Machine.jumpTo]
  split
  · exact ((h.interrupt _).next (.run _ _)).next (.register _ (.force _))
  · exact (h.next (.run _ _)).next (.register _ (.force _))

theorem redirect (h : Moves o m) (fuel index : Nat) : Moves o (m.redirect fuel index).2 := by
  rw [Machine.redirect]
  split
  · exact h
  · dsimp only
    split
    · exact h
    · exact (h.jumpTo _ index).drive fuel _

theorem redirectToLabel (h : Moves o m) (fuel : Nat) (key : String) :
    Moves o (m.redirectToLabel fuel key).2 := by
  rw [Machine.redirectToLabel]
  split
  · exact h.next (.report m _)
  · next target _ =>
    have redirected := h.redirect fuel target
    split <;> next heq => rwa [heq] at redirected

omit [Behaviour σ ν] in
theorem setEnabled (h : Moves o m) (index : Nat) (enabled : Bool) :
    Moves o (m.setEnabled index enabled).2 := by
  rw [Machine.setEnabled]
  split
  · next sequence heq =>
    obtain rfl : _ = sequence := congrArg Prod.snd heq
    exact h.update (Sequence.mild_setEnabled enabled) index
  · exact h

end Moves

end Sequencer
