import Sequencer.Proofs.Engine.Calls

/-!
# Strides

An engine goes from one turn of its run to the next. Between turns, whatever hooks, code of the host and signals
do, no run begins, jumps or ends, and no command is activated.
-/

namespace Sequencer

variable {σ ν : Type}

/-! ## Between turns -/

/-- No turn has been taken, no command has been activated, and no callback has fired. -/
structure Shared.KeepsTurns (s s' : Shared ν) : Prop where
  turns : s'.turns = s.turns
  calls : ∀ id, calls id s'.moments = calls id s.moments
  firings : firings s'.events = firings s.events

namespace Shared.KeepsTurns

variable {o s : Shared ν}

theorem refl (s : Shared ν) : s.KeepsTurns s := ⟨rfl, fun _ => rfl, rfl⟩

theorem mark (h : o.KeepsTurns s) {moment : Moment ν} (hm : ∀ id, moment.call? id = none) :
    o.KeepsTurns (s.mark moment) := by
  refine ⟨h.turns, fun id => ?_, h.firings⟩
  rw [Sequencer.calls, Shared.mark, List.filterMap_cons_none (hm id)]
  exact h.calls id

theorem record (h : o.KeepsTurns s) {event : Event ν} (he : event.firing? = none) : o.KeepsTurns (s.record event) := by
  refine ⟨h.turns, h.calls, ?_⟩
  rw [Sequencer.firings, Shared.record, List.filterMap_cons_none he]
  exact h.firings

theorem signal (h : o.KeepsTurns s) (handle : Handle) (target : Nat) :
    o.KeepsTurns (s.signal handle target).2 := by
  rcases s.signal_cases handle target with ⟨_, heq⟩ | ⟨_, r, _, _, heq⟩
  · rw [heq]
    exact h
  · rw [heq]
    have moved : o.KeepsTurns { s with board := s.board.setRegister handle.engine (r.force (.to target)) } :=
      ⟨h.turns, h.calls, h.firings⟩
    exact moved.mark fun _ => rfl

theorem answer (h : o.KeepsTurns s) (question : HostQuestion ν) : o.KeepsTurns (s.answer question).2 := by
  rcases s.answer_cases question with same | ⟨handle, target, same⟩ | ⟨value, same⟩ <;> rw [same]
  · exact h
  · exact h.signal handle target
  · exact h.record rfl

theorem perform {α : Type} (h : o.KeepsTurns s) (program : HostProgram ν α) :
    o.KeepsTurns (s.perform program).2 :=
  Program.run_preserves (P := fun s => o.KeepsTurns s) (fun question _ hs => hs.answer question) program s h

theorem hook {α : Type} (h : o.KeepsTurns s) (program : HookProgram ν α) (handle : Handle) :
    o.KeepsTurns (program.run Machine.HookFrame.answer { shared := s, handle }).2.shared := by
  refine Program.run_preserves (P := fun f : Machine.HookFrame ν => o.KeepsTurns f.shared)
    (fun question f hf => ?_) program _ h
  cases question with
  | host question => exact hf.answer question
  | signal target => exact hf.signal _ _
  | hold name => exact ⟨hf.turns, hf.calls, hf.firings⟩
  | report notice => exact ⟨hf.turns, hf.calls, hf.firings⟩
  | hasSignalled => exact hf
  | request request => exact hf

end Shared.KeepsTurns

namespace Machine

/-- The engine is in the same run, if in any, and no turn has been taken. -/
structure KeepsTurns (m m' : Machine σ ν) : Prop where
  id : m'.engine.id = m.engine.id
  runCount : m'.engine.runCount = m.engine.runCount
  onComplete : m'.engine.run.map (·.onComplete) = m.engine.run.map (·.onComplete)
  shared : m.shared.KeepsTurns m'.shared

namespace KeepsTurns

variable {o m : Machine σ ν}

theorem refl (m : Machine σ ν) : m.KeepsTurns m := ⟨rfl, rfl, rfl, .refl m.shared⟩

theorem setSequence (h : o.KeepsTurns m) (s : Sequence σ) : o.KeepsTurns (m.setSequence s) :=
  ⟨h.id, h.runCount, h.onComplete, h.shared⟩

theorem setRegister (h : o.KeepsTurns m) (r : Register) : o.KeepsTurns (m.setRegister r) :=
  ⟨h.id, h.runCount, h.onComplete, h.shared.turns, h.shared.calls, h.shared.firings⟩

theorem report (h : o.KeepsTurns m) (notice : Notice) : o.KeepsTurns (m.report notice) :=
  ⟨h.id, h.runCount, h.onComplete, h.shared.turns, h.shared.calls, h.shared.firings⟩

theorem record (h : o.KeepsTurns m) {event : Event ν} (he : event.firing? = none) : o.KeepsTurns (m.record event) :=
  ⟨h.id, h.runCount, h.onComplete, h.shared.record he⟩

theorem mark (h : o.KeepsTurns m) {moment : Moment ν} (hm : ∀ id, moment.call? id = none) :
    o.KeepsTurns (m.mark moment) :=
  ⟨h.id, h.runCount, h.onComplete, h.shared.mark hm⟩

theorem setFaulted (h : o.KeepsTurns m) (faulted : Bool) :
    o.KeepsTurns (m.setRun (m.engine.run.map fun run => { run with faulted })) := by
  refine ⟨h.id, h.runCount, ?_, h.shared⟩
  rw [← h.onComplete, Machine.setRun, Option.map_map]
  rfl

theorem tell (h : o.KeepsTurns m) {event : Event ν} (he : event.firing? = none) (notice : Notice) :
    o.KeepsTurns (m.tell event notice) := by
  rw [Machine.tell]
  split
  · exact h
  · exact (h.mark fun _ => rfl).record he
  · exact (h.mark fun _ => rfl).report notice

theorem announce (h : o.KeepsTurns m) {hook : Hook} (hh : hook ≠ .execute) (index : Nat) (ticket : Ticket) :
    o.KeepsTurns (m.announce hook index ticket) := by
  refine (h.record rfl).mark fun id => ?_
  cases hook with
  | execute => exact absurd rfl hh
  | tick | stop => rfl

theorem perform {α : Type} (h : o.KeepsTurns m) (program : HostProgram ν α) :
    o.KeepsTurns { m with shared := (m.shared.perform program).2 } :=
  ⟨h.id, h.runCount, h.onComplete, h.shared.perform program⟩

theorem runHook (h : o.KeepsTurns m) (index : Nat) (ticket : Ticket)
    (program : HookProgram ν (σ × Except CommandError Unit)) :
    o.KeepsTurns (m.runHook index ticket program).2.2 :=
  ⟨h.id, h.runCount, h.onComplete, h.shared.hook program _⟩

theorem commandFailed (h : o.KeepsTurns m) (index : Nat) (ticket : Ticket) (source : CommandError) :
    o.KeepsTurns (m.commandFailed index ticket source).2 := by
  have failed := ((h.setFaulted true).setRegister m.register.disarm).mark
    (show ∀ id, (Moment.failed m.engine.id ticket : Moment ν).call? id = none from fun _ => rfl)
  rw [Machine.commandFailed]
  dsimp only
  split
  · exact failed.report _
  · exact failed

theorem takeJump (h : o.KeepsTurns m) : o.KeepsTurns m.takeJump.2 := by
  rw [Machine.takeJump]
  split
  · exact h
  · dsimp only
    split
    · exact h.setRegister _
    · exact (h.setRegister _).setSequence _

theorem enter (h : o.KeepsTurns m) (index : Nat) : o.KeepsTurns (m.enter index) := by
  refine ⟨h.id, h.runCount, ?_, h.shared⟩
  rw [← h.onComplete]
  show (m.engine.run.map _).map _ = _
  rw [Option.map_map]
  rfl

theorem edit (m : Machine σ ν) (edit : Edit σ) : m.KeepsTurns (m.edit edit).2 := by
  rw [Machine.edit]
  split
  · exact .refl m
  · exact (KeepsTurns.refl m).setSequence _

variable [Behaviour σ ν]

theorem callStopHook (h : o.KeepsTurns m) (index : Nat) : o.KeepsTurns (m.callStopHook index) := by
  rw [Machine.callStopHook]
  split
  · exact h
  · exact (h.perform _).setSequence _

theorem interrupt (h : o.KeepsTurns m) (index : Nat) : o.KeepsTurns (m.interrupt index) := by
  rw [Machine.interrupt]
  split
  · exact (h.announce (by simp) index _).callStopHook index
  · exact h

theorem jumpTo (h : o.KeepsTurns m) (run : Run ν) (index : Nat) : o.KeepsTurns (m.jumpTo run index) := by
  rw [Machine.jumpTo]
  split
  · exact ((h.interrupt _).setFaulted false).setRegister _
  · exact (h.setFaulted false).setRegister _

end KeepsTurns

/-! ## From turn to turn -/

/-- The next run has been counted, and nobody has been told of it. -/
def begun (m : Machine σ ν) (onComplete : Option (HostProgram ν Unit)) : Machine σ ν :=
  Machine.turn { m with engine := { m.engine with
    sequence := if m.engine.sequence.needsRefresh then m.engine.sequence.refresh else m.engine.sequence
    run := some { onComplete }, runCount := m.engine.runCount + 1 } }
      (.began m.engine.id (m.engine.runCount + 1) onComplete)

theorem keepsTurns_beginRun (m : Machine σ ν) (start : Nat) (onComplete : Option (HostProgram ν Unit)) :
    (m.begun onComplete).KeepsTurns (m.beginRun start onComplete) :=
  (((KeepsTurns.refl (m.begun onComplete)).report _).tell rfl _).setRegister _

theorem keepsTurns_enterIdle (m : Machine σ ν) : (m.setRun none).KeepsTurns m.enterIdle :=
  ((KeepsTurns.refl _).report _).tell rfl _

theorem engine_enterIdle (m : Machine σ ν) : m.enterIdle.engine = { m.engine with run := none } :=
  engine_tell ..

/-- The turn that a callback is which fires right after its run. -/
def completion (m : Machine σ ν) (callback : HostProgram ν Unit) : Turn ν :=
  .completed m.enterIdle.engine.id m.enterIdle.engine.runCount callback
    ⟨m.enterIdle.engine.state, m.enterIdle.engine.listener, m.enterIdle.shared.board,
      m.enterIdle.shared.moments⟩

/-- The run is over, and its callback is about to fire. -/
def completing (m : Machine σ ν) (callback : HostProgram ν Unit) : Machine σ ν :=
  (m.enterIdle.record (.callbackFired m.enterIdle.engine.id m.enterIdle.engine.runCount)).turn
    (m.completion callback)

theorem keepsTurns_finish {m : Machine σ ν} {callback : HostProgram ν Unit}
    (h : m.engine.run.bind (·.onComplete) = some callback) : (m.completing callback).KeepsTurns m.finish := by
  rw [finish, h]
  exact (KeepsTurns.refl (m.completing callback)).perform callback

theorem keepsTurns_calling (m : Machine σ ν) (index : Nat) (name : String) :
    ∃ before ticket, m.KeepsTurns before ∧ m.calling index name = before.announce .execute index ticket :=
  ⟨_, _, ((((KeepsTurns.refl m).enter index).tell rfl _).setRegister _).report _, rfl⟩

theorem calls_calling (m : Machine σ ν) (index : Nat) (name : String) (id : EngineId) :
    calls id (m.calling index name).shared.moments =
      (if m.engine.id = id then some index else none).toList ++ calls id m.shared.moments := by
  obtain ⟨before, ticket, keeps, called⟩ := m.keepsTurns_calling index name
  have moments : (before.announce .execute index ticket).shared.moments =
      .called before.engine.id .execute index ticket before.shared.board :: before.shared.moments := rfl
  rw [called, moments, calls_cons, Moment.call?, keeps.id, keeps.shared.calls]

/-- The turn that a jump of the run in flight is. -/
def jump (m : Machine σ ν) (target : Nat) : Turn ν :=
  .jumped m.engine.id m.engine.runCount target m.engine.sequence.outline
    (m.engine.sequence.nextRunnable target)

end Machine

inductive Stride : Machine σ ν → Machine σ ν → Prop where
  | keep {m m' : Machine σ ν} : m.KeepsTurns m' → Stride m m'
  | begin (m : Machine σ ν) (start : Nat) (onComplete : Option (HostProgram ν Unit)) :
    m.engine.run = none → Stride m (m.beginRun start onComplete)
  | abort (m : Machine σ ν) : m.engine.isExecuting = true →
    Stride m (m.turn (.aborted m.engine.id m.engine.runCount)).enterIdle
  | activate (m : Machine σ ν) (target index : Nat) (name : String) : m.Stands none →
    m.engine.isExecuting = true → m.engine.sequence.nextRunnable target = some index →
    Stride m ((m.turn (m.jump target)).calling index name)
  | finish (m : Machine σ ν) (target : Nat) : m.Stands none → m.engine.isExecuting = true →
    m.register.armed = none → m.engine.sequence.nextRunnable target = none →
    Stride m (m.turn (m.jump target)).finish

def Strides : Machine σ ν → Machine σ ν → Prop := Relation.ReflTransGen Stride

namespace Strides

variable {o m : Machine σ ν}

theorem refl (m : Machine σ ν) : Strides m m := Relation.ReflTransGen.refl

theorem next {m' : Machine σ ν} (h : Strides o m) (stride : Stride m m') : Strides o m' :=
  Relation.ReflTransGen.tail h stride

theorem keep {m' : Machine σ ν} (h : Strides o m) (keeps : m.KeepsTurns m') : Strides o m' :=
  h.next (.keep keeps)

variable [Behaviour σ ν]

theorem stop (h : Strides o m) : Strides o m.stop := by
  rw [Machine.stop]
  split
  · exact h
  · next run hr =>
    have executing : m.engine.isExecuting = true := by rw [Engine.isExecuting, hr]; rfl
    dsimp only
    split
    · exact (h.keep ((Machine.KeepsTurns.refl m).setRegister _)).next (.abort _ executing)
    · next index _ =>
      have interrupted : m.KeepsTurns ((m.setExecuting index false).interrupt index) :=
        ((Machine.KeepsTurns.refl m).setSequence _).interrupt index
      refine (h.keep (interrupted.setRegister _)).next (.abort _ ?_)
      show ((m.setExecuting index false).interrupt index).engine.run.isSome = true
      rw [Machine.run_interrupt]
      exact executing

theorem obey (h : Strides o m) (index : Nat) (request : Option Request) :
    Strides o (m.obey index request).2 := by
  rw [Machine.obey.eq_def]
  split
  · exact h
  · exact (h.keep ((Machine.KeepsTurns.refl m).report _)).stop
  · exact (h.keep ((Machine.KeepsTurns.refl m).report _)).stop

theorem settle {result : Except CommandError Unit × Option Request × Machine σ ν}
    (h : Strides o result.2.2) (index : Nat) (ticket : Ticket) :
    Strides o (Machine.settle index ticket result).2 := by
  rw [Machine.settle.eq_def]
  split
  · exact h.keep ((Machine.KeepsTurns.refl _).commandFailed index ticket _)
  · exact h.obey index _

theorem callTick (h : Strides o m) (index : Nat) (ticket : Ticket) :
    Strides o (m.callTick index ticket).2 := by
  rw [Machine.callTick]
  split
  · exact h
  · have announced := (Machine.KeepsTurns.refl m).announce (show Hook.tick ≠ .execute by simp) index ticket
    exact settle (h.keep (announced.runHook index ticket _)) index ticket

theorem activate {target index : Nat} (h : Strides o m) (stands : m.Stands none)
    (executing : m.engine.isExecuting = true) (hn : m.engine.sequence.nextRunnable target = some index) :
    Strides o ((m.turn (m.jump target)).activate index).2 := by
  have turned : (m.turn (m.jump target)).Stands none := stands.turn _
  obtain ⟨entry, -, activated⟩ :=
    turned.activate_eq executing (stands.core.coherent.action_of_nextRunnable hn)
  rw [activated]
  have called := h.next (.activate m target index entry.command.name stands executing hn)
  exact (called.keep ((Machine.KeepsTurns.refl _).runHook index _ _)).settle index _

/-! ## The run loop -/

section Proceed

variable {loop : Nat → Machine σ ν → Verdict × Machine σ ν} {run : Nat}

omit [Behaviour σ ν] in
theorem proceed {ended : Machine.HookEnd × Machine σ ν} (h : Strides o ended.2)
    (resumes : Machine.Resumes ended) (later : run ≤ ended.2.engine.runCount)
    (moves : ∀ run m, Moves m (loop run m).2)
    (ends : ∀ run m, Machine.Enters run m → Machine.Ends (loop run m))
    (loops : ∀ run m, Machine.Enters run m → Strides o m → Strides o (loop run m).2) :
    Strides o (Machine.proceed loop run ended).2 := by
  obtain ⟨ended, m⟩ := ended
  cases ended with
  | settled => exact loops run m (resumes.1.enters resumes.2 run) h
  | failed error => exact h
  | restart start =>
    let begun := m.beginRun start none
    have enters : Machine.Enters begun.engine.runCount begun :=
      resumes.1.enters_beginRun resumes.2 start none
    have nested := loops _ _ enters (h.next (.begin m start none resumes.2))
    have rest := ends _ _ enters
    have counted := (moves begun.engine.runCount begun).kept.runCount
    rw [Machine.proceed]
    split
    · next m' heq =>
      have begun_later : run < begun.engine.runCount := by
        rw [Machine.runCount_beginRun]
        exact Nat.lt_succ_of_le later
      rw [heq] at nested rest counted
      refine loops run m' (.inr ⟨fun same => ?_, rest⟩) nested
      dsimp only at counted
      omega
    · exact nested

end Proceed

theorem drive {run : Nat} (fuel : Nat) (enters : Machine.Enters run m) (h : Strides o m) :
    Strides o (Machine.drive fuel run m).2 := by
  -- On the fuel; a loop whose run has been superseded makes no strides.
  induction fuel generalizing run m with
  | zero => exact h
  | succ fuel ih =>
    rw [Machine.drive]
    split
    · next same =>
      rw [Bool.and_eq_true, beq_iff_eq] at same
      obtain ⟨-, -, ready⟩ | ⟨other, -⟩ := enters
      · have keeps := (Machine.KeepsTurns.refl m).takeJump
        split
        · next m' taken =>
          rw [taken] at keeps
          exact h.keep keeps
        · next jump m' taken =>
          rw [taken] at keeps
          obtain ⟨stands, between⟩ := ready.takeJump_some taken
          have current : m'.engine.runCount = run := keeps.runCount.trans same.2
          have turned : m'.turn (.jumped m'.engine.id run jump.target m'.engine.sequence.outline
              (m'.engine.sequence.nextRunnable jump.target)) = m'.turn (m'.jump jump.target) := by
            rw [Machine.jump, current]
          dsimp only
          rw [turned]
          split
          · next hn => exact (h.keep keeps).next (.finish m' _ stands between.1 between.2.2.1 hn)
          · next index hn =>
            have runs := stands.core.coherent.action_of_nextRunnable hn
            have activated := ((Moves.refl (m'.turn (m'.jump jump.target))).activate index).kept.runCount
            refine proceed ((h.keep keeps).activate stands between.1 hn)
              ((stands.turn (m'.jump jump.target)).activate between runs) ?_
              (fun run m => (Moves.refl m).drive fuel run) (fun run m hm => hm.drive fuel)
              fun run m hm strides => ih hm strides
            exact current ▸ activated
      · exact absurd same other
    · exact h

theorem startRun (h : Strides o m) (rest : m.AtRest) (idle : m.engine.run = none) (fuel start : Nat)
    (onComplete : Option (HostProgram ν Unit)) : Strides o (m.startRun fuel start onComplete).2 :=
  (h.next (.begin m start onComplete idle)).drive fuel (rest.enters_beginRun idle start onComplete)

/-! ## What a host can do -/

theorem execute (h : Strides o m) (rest : m.AtRest) (fuel start : Nat)
    (onComplete : Option (HostProgram ν Unit)) : Strides o (m.execute fuel start onComplete).2 := by
  rw [Machine.execute]
  split
  · exact h.keep ((Machine.KeepsTurns.refl m).report _)
  · next idle => exact h.startRun rest (Machine.run_of_not_executing idle) fuel start onComplete

theorem executeLabel (h : Strides o m) (rest : m.AtRest) (fuel : Nat) (key : String)
    (onComplete : Option (HostProgram ν Unit)) : Strides o (m.executeLabel fuel key onComplete).2 := by
  have refreshed : Strides o m.refreshIfIdle := by
    rw [Machine.refreshIfIdle]
    split
    · exact h.keep ((Machine.KeepsTurns.refl m).setSequence _)
    · exact h
  rw [Machine.executeLabel]
  split
  · exact refreshed.keep ((Machine.KeepsTurns.refl _).report _)
  · exact refreshed.execute rest.refreshIfIdle fuel _ onComplete

theorem tick (h : Strides o m) (rest : m.AtRest) (fuel : Nat) : Strides o (m.tick fuel).2 := by
  rw [Machine.tick]
  split
  · next running =>
    rw [Bool.and_eq_true, Bool.not_eq_true'] at running
    obtain ⟨executing, sane⟩ := running
    split
    · next index ticket _ active armed =>
      obtain rfl : ticket = m.register.lastTicket := (rest.stands.core.ledger.armed ticket armed).1
      have waiting := rest.settled.waiting executing sane
      have counted := ((Moves.refl m).callTick index m.register.lastTicket).kept.runCount
      exact proceed (h.callTick index _) (rest.stands.callTick waiting active) counted
        (fun run m => (Moves.refl m).drive fuel run) (fun run m hm => hm.drive fuel)
        fun run m hm strides => strides.drive fuel hm
    · exact h.drive fuel (rest.enters sane _)
  · exact h

theorem jumpTo (h : Strides o m) (run : Run ν) (index : Nat) : Strides o (m.jumpTo run index) :=
  h.keep ((Machine.KeepsTurns.refl m).jumpTo run index)

theorem redirect (h : Strides o m) (rest : m.AtRest) (fuel index : Nat) :
    Strides o (m.redirect fuel index).2 := by
  rw [Machine.redirect]
  split
  · exact h
  · next run hr =>
    dsimp only
    split
    · exact h
    · obtain ⟨ready, executing⟩ := rest.jumpTo hr index
      exact (h.jumpTo run index).drive fuel (.inl ⟨executing, rfl, ready⟩)

theorem redirectToLabel (h : Strides o m) (rest : m.AtRest) (fuel : Nat) (key : String) :
    Strides o (m.redirectToLabel fuel key).2 := by
  rw [Machine.redirectToLabel]
  split
  · exact h.keep ((Machine.KeepsTurns.refl m).report _)
  · next target _ =>
    have redirected := h.redirect rest fuel target
    split <;> next heq => rwa [heq] at redirected

omit [Behaviour σ ν] in
theorem setEnabled (h : Strides o m) (index : Nat) (enabled : Bool) :
    Strides o (m.setEnabled index enabled).2 := by
  rw [Machine.setEnabled]
  split
  · exact h.keep ((Machine.KeepsTurns.refl m).setSequence _)
  · exact h

theorem call (h : Strides o m) (rest : m.AtRest) (fuel : Nat) (call : Call σ ν) :
    Strides o (m.call fuel call).2 := by
  cases call with
  | execute start onComplete => exact h.execute rest fuel start onComplete
  | executeLabel key onComplete => exact h.executeLabel rest fuel key onComplete
  | tick => exact h.tick rest fuel
  | stop => exact h.stop
  | redirect index => exact h.redirect rest fuel index
  | redirectToLabel key => exact h.redirectToLabel rest fuel key
  | setEnabled index enabled => exact h.setEnabled index enabled
  | release index state =>
    rw [Machine.call]
    split
    · exact h
    · exact h.keep ((Machine.KeepsTurns.refl m).setSequence _)

end Strides

end Sequencer
