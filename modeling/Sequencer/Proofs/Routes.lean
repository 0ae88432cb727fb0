import Sequencer.Proofs.Engine.Abreast
import Sequencer.Proofs.Engine.HostCode
import Sequencer.Proofs.Engine.Polling
import Sequencer.Proofs.Recovery

/-!
# Ways to complete a command

A command that waits can be completed by a shot of its handle and a tick, by its own tick hook, or by a redirect.
Whichever it is, the loop goes on from the same place, and so the same comes of it.
-/

namespace Sequencer

variable {σ ν : Type}

namespace Machine

/-- The handle has been fired. -/
def shot (m : Machine σ ν) (handle : Handle) (target : Nat) : Machine σ ν :=
  { m with shared := (m.shared.signal handle target).2 }

variable [Behaviour σ ν]

/-- What the stop hook of a command comes back with, and what it leaves behind. -/
def stopHook (m : Machine σ ν) (index : Nat) (ticket : Ticket) (command : Command σ) : σ × Shared ν :=
  (m.announce .stop index ticket).shared.perform (Behaviour.onStop command.state)

/--
Whichever way the command at `index` is completed, the run goes on at `target` in the same way. Apart from the call
of its tick hook or stop hook, the same happens, and it ends in the same state.
-/
structure RoutesAgree (m : Machine σ ν) (index : Nat) (ticket : Ticket) (command : Command σ) (fuel target : Nat) :
    Prop where
  lands : (m.shared.signal ⟨m.engine.id, ticket, index⟩ target).1 = true
  /-- The host has the handle under any name. To resume is to go on behind the command. -/
  named : ∀ name, m.shared.board.handles.get? name = some ⟨m.engine.id, ticket, index⟩ →
    m.shared.fire name (some target) = (some true, (m.shot ⟨m.engine.id, ticket, index⟩ target).shared) ∧
    m.shared.fire name none = m.shared.fire name (some (index + 1))
  /-- The tick hook does nothing else. -/
  polled : Behaviour.onTick command.state (m.view index) = (do
      let _ ← HookProgram.signal target
      return (command.state, .ok ())) →
    Agree (Abreast m.shared (m.announce .tick index ticket).shared)
      ((m.shot ⟨m.engine.id, ticket, index⟩ target).tick fuel) (m.tick fuel)
  /-- The stop hook leaves the state of the command as it is, and fires no handles of other engines. -/
  redirected : target ≤ m.engine.sequence.len →
    (m.stopHook index ticket command).1 = command.state →
    (∀ handle, .landed handle ∈ since m.shared.moments (m.stopHook index ticket command).2.moments →
      handle.engine = m.engine.id) →
    Grows (fun event => ∃ value, event = .noted value) (.hookCalled m.engine.id .stop index :: m.shared.events)
      (m.stopHook index ticket command).2.events ∧
    (m.redirect fuel target).1 = ((m.shot ⟨m.engine.id, ticket, index⟩ target).tick fuel).1.outcome () ∧
    Abreast m.shared (m.stopHook index ticket command).2
      ((m.shot ⟨m.engine.id, ticket, index⟩ target).tick fuel).2 (m.redirect fuel target).2

/-! ## The routes -/

section Awaits

variable {m : Machine σ ν} {run index target fuel : Nat} {ticket : Ticket} {entry : Entry σ}

omit [Behaviour σ ν] in
theorem AtRest.awaits_of_armed (rest : m.AtRest) (armed : Armed m.engine ticket m.shared.moments) :
    ticket = m.register.lastTicket ∧ ∃ index, m.Awaits m.engine.runCount index := by
  obtain ⟨executing, sane, latest, unsignalled⟩ := armed
  obtain rfl : m.register.lastTicket = ticket :=
    Option.some.inj ((rest.engine.head_activations executing).symm.trans latest)
  refine ⟨rfl, ?_⟩
  rcases (rest.settled.waiting executing sane).2.2 with ⟨-, pending⟩ | ⟨-, -, landed⟩
  · exact rest.awaits executing sane pending
  · exact absurd (unsignalled.symm.trans landed) Nat.zero_ne_one

omit [Behaviour σ ν] in
theorem Awaits.signal (h : m.Awaits run index) (target : Nat) :
    m.shared.signal ⟨m.engine.id, m.register.lastTicket, index⟩ target =
      (true, { m.shared with
        board := m.shared.board.setRegister m.engine.id (m.register.force (.to target)) }.mark
          (.landed ⟨m.engine.id, m.register.lastTicket, index⟩)) := by
  have registered := h.stands.core.registered
  rcases m.shared.signal_cases ⟨m.engine.id, m.register.lastTicket, index⟩ target with
    ⟨disarmed, -⟩ | ⟨-, r, hr, -, landed⟩
  · rw [Switchboard.isArmed, registered] at disarmed
    exact absurd h.armed (of_decide_eq_false disarmed)
  · rw [landed]
    obtain rfl : m.register = r := Switchboard.register_of_get? hr
    rfl

theorem Awaits.tick_shot (h : m.Awaits run index) (target fuel : Nat) :
    let shot := m.shot ⟨m.engine.id, m.register.lastTicket, index⟩ target
    shot.tick fuel = drive fuel m.engine.runCount shot := by
  have pending : (m.shot ⟨m.engine.id, m.register.lastTicket, index⟩ target).register.pending = some (.to target) := by
    rw [shot, h.signal]
    exact congrArg Register.pending Switchboard.register_setRegister_self
  dsimp only
  rw [tick, if_pos (by simp [shot, h.executing, h.sane]), pending]
  rfl

theorem Awaits.tick_signals (h : m.Awaits run index) (found : m.engine.sequence.entry? index = some entry)
    (signals : Behaviour.onTick entry.command.state (m.view index) = (do
      let _ ← HookProgram.signal target
      return (entry.command.state, .ok ()))) (fuel : Nat) :
    m.tick fuel = drive fuel m.engine.runCount
      ((m.announce .tick index m.register.lastTicket).shot ⟨m.engine.id, m.register.lastTicket, index⟩ target) := by
  let called := m.announce .tick index m.register.lastTicket
  let signalled := called.shot ⟨m.engine.id, m.register.lastTicket, index⟩ target
  have returned : m.tickHook index m.register.lastTicket entry = (.ok (), none, signalled) := by
    have ran : Program.run HookFrame.answer (do
          let _ ← HookProgram.signal target
          return (entry.command.state, .ok ())) ⟨called.shared, ⟨m.engine.id, m.register.lastTicket, index⟩, none⟩ =
        ((entry.command.state, (.ok () : Except CommandError Unit)),
          ⟨signalled.shared, ⟨m.engine.id, m.register.lastTicket, index⟩, none⟩) := rfl
    rw [tickHook, signals, runHook]
    dsimp only
    rw [show (m.announce .tick index m.register.lastTicket).engine = m.engine from rfl, ran]
    dsimp only
    rw [Sequence.setState_self found]
    rfl
  have settled : Machine.settle index m.register.lastTicket (m.tickHook index m.register.lastTicket entry) =
      (.settled, signalled) := by
    rw [returned]
    rfl
  rw [(h.atRest.ticking h.executing h.sane fuel).2, h.ticking_eq found, Point.play_settled settled]
  rfl

theorem Awaits.jumpTo_eq (h : m.Awaits run index) (found : m.engine.sequence.entry? index = some entry)
    {inFlight : Run ν} (hr : m.engine.run = some inFlight)
    (still : (m.stopHook index m.register.lastTicket entry.command).1 = entry.command.state) (target : Nat) :
    let halted : Machine σ ν := ⟨m.engine, (m.stopHook index m.register.lastTicket entry.command).2⟩
    m.jumpTo inFlight target = halted.setRegister (halted.register.force (.to target)) := by
  have active : inFlight.active = some index := by rw [← h.active, Engine.active, hr]; rfl
  have sane : m.engine.run.map (fun run => { run with faulted := false }) = m.engine.run := by
    have unfaulted := h.sane
    rw [Engine.isFaulted, hr] at unfaulted
    rw [hr]
    exact congrArg (fun faulted => some { inFlight with faulted }) unfaulted.symm
  -- The stop hook leaves its command as it is, and so it changes only what is shared.
  have interrupted : m.interrupt index = ⟨m.engine, (m.stopHook index m.register.lastTicket entry.command).2⟩ := by
    have performed : (m.announce .stop index m.register.lastTicket).shared.perform
        (Behaviour.onStop entry.command.state) =
          (entry.command.state, (m.stopHook index m.register.lastTicket entry.command).2) :=
      Prod.ext still rfl
    rw [interrupt, if_pos (by rw [found]; rfl), callStopHook,
      show (m.announce .stop index m.register.lastTicket).engine = m.engine from rfl, found]
    dsimp only
    rw [performed]
    dsimp only
    rw [Sequence.setState_self found]
    rfl
  rw [jumpTo, h.pending, active]
  dsimp only
  rw [interrupted]
  dsimp only [setRun]
  rw [sane]

omit [Behaviour σ ν] in
theorem abreast_polled (m : Machine σ ν) (index : Nat) (ticket : Ticket) (handle : Handle) (target : Nat) :
    Abreast m.shared (m.announce .tick index ticket).shared (m.shot handle target)
      ((m.announce .tick index ticket).shot handle target) := by
  have called : Abreast m.shared (m.announce .tick index ticket).shared m (m.announce .tick index ticket) :=
    .start rfl rfl
  exact (called.signal handle target).2

theorem Awaits.abreast_jumpTo (h : m.Awaits run index) (found : m.engine.sequence.entry? index = some entry)
    {inFlight : Run ν} (hr : m.engine.run = some inFlight)
    (still : (m.stopHook index m.register.lastTicket entry.command).1 = entry.command.state)
    (own : ∀ handle, .landed handle ∈
      since m.shared.moments (m.stopHook index m.register.lastTicket entry.command).2.moments →
        handle.engine = m.engine.id) (target : Nat) :
    Abreast m.shared (m.stopHook index m.register.lastTicket entry.command).2
      (m.shot ⟨m.engine.id, m.register.lastTicket, index⟩ target) (m.jumpTo inFlight target) := by
  let called := m.announce .stop index m.register.lastTicket
  obtain ⟨new, moments, -⟩ := (Shared.Ran.perform called.shared (Behaviour.onStop entry.command.state)).moments
  have later : since m.shared.moments (m.stopHook index m.register.lastTicket entry.command).2.moments =
      new ++ [.called m.engine.id .stop index m.register.lastTicket m.shared.board] := by
    rw [stopHook, moments, ← since_append (new ++ [_]) m.shared.moments, List.append_assoc]
    rfl
  have landed : ∀ handle, .landed handle ∈ since called.shared.moments
      (called.shared.perform (Behaviour.onStop entry.command.state)).2.moments → handle.engine = m.engine.id := by
    intro handle hm
    rw [moments, since_append] at hm
    exact own handle (later ▸ List.mem_append_left _ hm)
  -- Whatever the stop hook signals to this engine, the forced jump replaces.
  have forced := Shared.force_perform (Behaviour.onStop entry.command.state) (.to target) landed
  rw [h.jumpTo_eq found hr still, shot, h.signal]
  exact ⟨rfl, forced.symm, .refl .., .refl .., .refl ..⟩

/-- Whichever route is taken, the loop is entered abreast. -/
theorem Awaits.routesAgree (h : m.Awaits run index) (found : m.engine.sequence.entry? index = some entry)
    (fuel target : Nat) : m.RoutesAgree index m.register.lastTicket entry.command fuel target := by
  refine ⟨by rw [h.signal], fun name held => ?_, fun signals => ?_, fun inside still own => ?_⟩
  · rw [Shared.fire, Shared.fire, Shared.fire, held]
    refine ⟨Prod.ext ?_ rfl, rfl⟩
    exact congrArg (some ·.1) (h.signal target)
  · rw [h.tick_shot, h.tick_signals found signals]
    exact (inStep_abreast _ _).drive fuel _ (m.abreast_polled index _ _ target) fun _ _ => trivial
  · obtain ⟨inFlight, hr⟩ := Option.isSome_iff_exists.mp h.executing
    have played := (inStep_abreast _ _).drive fuel m.engine.runCount
      (h.abreast_jumpTo found hr still own target) fun _ _ => trivial
    have counted : (m.jumpTo inFlight target).engine.runCount = m.engine.runCount :=
      ((KeepsTurns.refl m).jumpTo inFlight target).runCount
    rw [← h.tick_shot, ← counted] at played
    refine ⟨(Shared.Ran.perform _ _).events, ?_, ?_⟩
    · rw [redirect_eq hr inside]
      exact congrArg (Verdict.outcome ()) played.1.symm
    · rw [redirect_eq hr inside]
      exact played.2

end Awaits

end Machine

variable [Behaviour σ ν] {ids : List EngineId} {s : Studio σ ν} {number : Nat} {e : Engine σ ν} {ticket : Ticket}

/--
While an engine waits for its active command to signal, it does not matter which way the command is completed: by a
shot of its handle and a tick, by a tick hook that signals, or by a redirect.
-/
theorem completion_routes_agree (h : Reachable ids s) (he : s.engine? number = some e)
    (armed : Armed e ticket s.shared.moments) :
    ∃ index command, e.active = some index ∧ e.sequence.get? index = some command ∧
      ∀ fuel target, Machine.RoutesAgree ⟨e, s.shared⟩ index ticket command fuel target := by
  have rest := h.sound.machine he
  obtain ⟨latest, index, awaits⟩ := rest.awaits_of_armed armed
  obtain ⟨entry, found⟩ := rest.stands.entry? awaits.active
  refine ⟨index, entry.command, awaits.active, ?_, fun fuel target => ?_⟩
  · rw [Sequence.get?, found]
    rfl
  · rw [latest]
    exact awaits.routesAgree found fuel target

/-! ## A run that goes back -/

/-- A command that waits for a tick, and then sends the run where it points. -/
structure Pointer where
  target : Nat
deriving DecidableEq

instance : Behaviour Pointer Unit where
  execute pointer _ := return (pointer, .ok ())
  onTick pointer _ := do
    let _ ← HookProgram.signal pointer.target
    return (pointer, .ok ())
  onStop pointer := return pointer

def pointer (target : Nat) : Command Pointer := { name := "pointer", state := ⟨target⟩ }

def pointerId : EngineId := ⟨8⟩

def pointersStart : Studio Pointer Unit :=
  let sequence := ((Edit.push (pointer 1)).apply ((Edit.push (pointer 0)).apply {}).2).2
  Studio.add {} (.create pointerId "engine" sequence (some .recorder) true)

/-- The run waits at the second of two pointers, and can go back to the first. -/
def pointersWaiting : Studio Pointer Unit := (pointersStart.act 10 (.call 0 (.execute 1 none))).2

theorem reachable_pointersWaiting : Reachable [pointerId] pointersWaiting :=
  .act 10 (.call 0 (.execute 1 none))
    (.add pointerId "engine" (some .recorder) true .start (by simp) (.edit (.push _) (.edit (.push _) .empty))) rfl

theorem completion_routes_agree_pointer : ∃ e, pointersWaiting.engine? 0 = some e ∧
    e.active = some 1 ∧ Armed e 1 pointersWaiting.shared.moments ∧
    let m : Machine Pointer Unit := ⟨e, pointersWaiting.shared⟩
    let shot := m.shot ⟨pointerId, 1, 1⟩ 1
    Agree (Machine.Abreast m.shared (m.announce .tick 1 1).shared) (shot.tick 10) (m.tick 10) ∧
    (m.redirect 10 1).1 = (shot.tick 10).1.outcome () ∧
    Machine.Abreast m.shared (m.stopHook 1 1 (pointer 1)).2 (shot.tick 10).2 (m.redirect 10 1).2 := by
  obtain ⟨index, command, active, found, agree⟩ :=
    @completion_routes_agree Pointer Unit _ _ pointersWaiting 0 _ 1 reachable_pointersWaiting rfl ⟨rfl, rfl, rfl, rfl⟩
  obtain rfl : 1 = index := Option.some.inj active
  obtain rfl : pointer 1 = command := Option.some.inj found
  obtain ⟨-, -, polled, redirected⟩ := agree 10 1
  obtain ⟨-, same, abreast⟩ := redirected (by decide) rfl fun handle hm => nomatch List.mem_singleton.mp hm
  exact ⟨_, rfl, rfl, ⟨rfl, rfl, rfl, rfl⟩, polled rfl, same, abreast⟩

end Sequencer
