import Sequencer.Proofs.Engine.Failing
import Sequencer.Proofs.Engine.HostCode
import Sequencer.Proofs.Engine.Polling
import Sequencer.Proofs.Handles

/-!
# What a tick polls

A tick calls the tick hook of the command that is active when it begins, before anything else happens, and no other
tick hook. Commands that become active on the way are not polled before the next tick.
-/

namespace Sequencer

variable {σ ν : Type}

/-! ## Without a poll -/

/-- Whether a tick hook is called. -/
def Event.isPoll : Event ν → Bool
  | .hookCalled _ hook _ => hook = .tick
  | _ => false

def Moment.isPoll : Moment ν → Bool
  | .called _ hook .. => hook = .tick
  | _ => false

namespace Machine

/-- From the one to the other, no tick hook of any engine has been called. -/
structure Unpolled (o m : Machine σ ν) : Prop where
  events : Grows (fun event => event.isPoll = false) o.shared.events m.shared.events
  moments : Grows (fun moment => moment.isPoll = false) o.shared.moments m.shared.moments

namespace Unpolled

variable {o m m' : Machine σ ν}

theorem refl (m : Machine σ ν) : m.Unpolled m := ⟨.refl .., .refl ..⟩

theorem allUntried (h : o.Unpolled m) (untried : m.AllUntried m') : o.Unpolled m' := by
  refine ⟨h.events.trans (untried.events.mono fun event idle => ?_),
    h.moments.trans (untried.moments.mono fun moment idle => ?_)⟩
  · cases event with
    | hookCalled engine hook => cases hook <;> first | rfl | cases idle
    | _ => rfl
  · cases moment with
    | called engine hook => cases hook <;> first | rfl | cases idle
    | _ => rfl

theorem calling (h : o.Unpolled m) (index : Nat) (name : String) : o.Unpolled (m.calling index name) := by
  obtain ⟨before, ticket, untried, called⟩ := (AllUntried.refl m).calling index name
  have ahead := h.allUntried untried
  rw [called]
  exact ⟨ahead.events.cons rfl, ahead.moments.cons rfl⟩

theorem commandFailed (h : o.Unpolled m) (index : Nat) (ticket : Ticket) (source : CommandError) :
    o.Unpolled (m.commandFailed index ticket source).2 := by
  obtain ⟨notices, failed⟩ := m.commandFailed_eq index ticket source
  rw [failed]
  exact ⟨h.events, h.moments.cons rfl⟩

end Unpolled

theorem carries_unpolled [Behaviour σ ν] (o : Machine σ ν) :
    Point.Carries (fun p => o.Unpolled p.machine) fun ended => o.Unpolled ended.2 where
  tired _ _ h := h
  rests _ _ h _ := h
  ends _ _ _ _ h _ taken _ := h.allUntried (allUntried_taken taken).finish
  goes _ _ _ index entry _ h goes :=
    ((h.allUntried (allUntried_taken goes.taken)).calling index entry.command.name).allUntried
      ((AllUntried.refl _).runHook index _ _)
  settles _ _ _ _ _ h settled := h.allUntried (allUntried_settled settled)
  fails index ticket source _ _ _ h := h.commandFailed index ticket source
  restarts index _ start m _ h := h.allUntried ((AllUntried.refl m).restarted index start)

/-- A tick hook has been called, and nothing has come of it but the state of its command and notes of the host. -/
structure Unaffected (m left : Machine σ ν) (index : Nat) : Prop where
  engine : ∃ state, left.engine = { m.engine with sequence := m.engine.sequence.setState index state }
  register : left.register = m.register
  events : Grows (fun event => ∃ value, event = .noted value)
    (.hookCalled m.engine.id .tick index :: m.shared.events) left.shared.events
  told : tidings left.shared.moments = tidings m.shared.moments
  turns : left.shared.turns = m.shared.turns

section Ticking

variable [Behaviour σ ν] {m left : Machine σ ν} {run index : Nat} {entry : Entry σ}

theorem Awaits.unaffected (h : m.Awaits run index)
    (returned : m.tickHook index m.register.lastTicket entry = (.ok (), none, left))
    (unsignalled : landings m.engine.id m.register.lastTicket left.shared.moments = 0) :
    m.Unaffected left index ∧ ∀ fuel,
      (Point.hooked index m.register.lastTicket (m.tickHook index m.register.lastTicket entry)).play (fuel + 1) =
        (.settled, left) := by
  have left_eq : left = (m.tickHook index m.register.lastTicket entry).2.2 := by rw [returned]
  have ran : (m.announce .tick index m.register.lastTicket).shared.Ran left.shared := by
    rw [left_eq]
    exact .hook (m.announce .tick index m.register.lastTicket).shared _ _
  have engine : ∃ state, left.engine = { m.engine with sequence := m.engine.sequence.setState index state } := by
    rw [left_eq]
    exact ⟨_, rfl⟩
  have id : left.engine.id = m.engine.id := by
    obtain ⟨state, engine⟩ := engine
    rw [engine]
  have ready : (Point.hooked index m.register.lastTicket (m.tickHook index m.register.lastTicket entry)).Ready :=
    Point.ready_tickHook h.stands h.waiting h.active
  rw [returned] at ready
  obtain ⟨-, ⟨active, -, live⟩, -, latest⟩ := ready
  rcases live with ⟨waiting, nothing⟩ | ⟨-, -, landed⟩
  · -- Nobody has signalled, so the register is as it was.
    have register : left.register = m.register :=
      calc left.register = ⟨left.register.lastTicket, left.register.armed, left.register.pending⟩ := rfl
        _ = ⟨m.register.lastTicket, m.register.armed, m.register.pending⟩ := by
          rw [waiting, nothing, latest, h.armed, h.pending]
        _ = m.register := rfl
    have settled : Machine.settle index m.register.lastTicket (m.tickHook index m.register.lastTicket entry) =
        (.settled, left) := by
      rw [returned]
      rfl
    refine ⟨⟨engine, register, ran.events, ran.tidings, ran.turns⟩, fun fuel => ?_⟩
    rw [Point.play_settled settled, Point.play_waits (isExecuting_of_active active) nothing]
  · -- Then a signal would have landed.
    rw [latest, id, unsignalled] at landed
    exact absurd landed Nat.zero_ne_one

end Ticking

end Machine

/-! ## Ticks -/

variable [Behaviour σ ν] {ids : List EngineId} {s : Studio σ ν} {number : Nat} {e : Engine σ ν}

/--
A tick polls the command that is active when it begins, if the run waits for it: its tick hook is called first. It
calls no other tick hook, whatever becomes active on the way. If the hook succeeds without a signal and without a
request, the engine stays as it is.
-/
theorem tick_locality (h : Reachable ids s) (he : s.engine? number = some e) (fuel : Nat) :
    let m : Machine σ ν := ⟨e, s.shared⟩
    (e.state = .executing ∧ e.isFaulted = false ∧ m.register.pending = none →
      ∃ index entry, e.active = some index ∧ e.sequence.entry? index = some entry ∧
        (m.announce .tick index m.register.lastTicket).Unpolled (m.tick fuel).2 ∧
        ∀ left, m.tickHook index m.register.lastTicket entry = (.ok (), none, left) →
          landings e.id m.register.lastTicket left.shared.moments = 0 →
          m.Unaffected left index ∧ m.tick (fuel + 1) = (.settled, left)) ∧
    (¬ (e.state = .executing ∧ e.isFaulted = false ∧ m.register.pending = none) →
      m.Unpolled (m.tick fuel).2) := by
  intro m
  have rest : m.AtRest := h.sound.machine he
  refine ⟨fun ⟨state, sane, pending⟩ => ?_, fun other => ?_⟩
  · have executing : e.isExecuting = true := Engine.state_executing.mp state
    obtain ⟨index, awaits⟩ := rest.awaits executing sane pending
    obtain ⟨entry, found⟩ := rest.stands.entry? awaits.active
    have ticks := fun fuel => rest.ticking executing sane fuel
    rw [awaits.ticking_eq found] at ticks
    refine ⟨index, entry, awaits.active, found, ?_, fun left returned unsignalled => ?_⟩
    · -- Its own hook comes first; from there on the call polls nothing.
      have polled := (Machine.AllUntried.refl (m.announce .tick index m.register.lastTicket)).runHook index
        m.register.lastTicket (Behaviour.onTick entry.command.state (m.view index))
      rw [(ticks fuel).2]
      exact (Machine.carries_unpolled _).play (ticks fuel).1 ((Machine.Unpolled.refl _).allUntried polled)
    · obtain ⟨unaffected, plays⟩ := awaits.unaffected returned unsignalled
      exact ⟨unaffected, (ticks (fuel + 1)).2.trans (plays fuel)⟩
  · by_cases running : e.isExecuting = true ∧ e.isFaulted = false
    · obtain ⟨executing, sane⟩ := running
      obtain ⟨ready, ticks⟩ := rest.ticking executing sane fuel
      -- A jump is pending already, and the tick only resumes the run.
      have begins : m.ticking = .loop m := by
        rw [Machine.ticking]
        split
        · next pending _ _ => exact absurd ⟨Engine.state_executing.mpr executing, sane, pending⟩ other
        · rfl
      rw [begins] at ready ticks
      rw [ticks]
      exact (Machine.carries_unpolled m).play ready (.refl m)
    · have asleep : m.tick fuel = (.settled, m) := by
        rw [Machine.tick, if_neg (by simpa using running)]
      rw [asleep]
      exact .refl m

/-- The keeper does nothing when it is polled, and so the tick comes to nothing. -/
theorem tick_locality_keeper : ∃ e left, keeperWaiting.engine? 0 = some e ∧
    let m : Machine Cue Note := ⟨e, keeperWaiting.shared⟩
    (m.announce .tick 0 1).Unpolled (m.tick 9).2 ∧ m.tick 10 = (.settled, left) ∧ m.Unaffected left 0 := by
  obtain ⟨index, entry, active, found, polled, unaffected⟩ :=
    (@tick_locality Cue Note _ _ keeperWaiting 0 _ reachable_keeperWaiting rfl 9).1 ⟨rfl, rfl, rfl⟩
  obtain rfl : 0 = index := Option.some.inj active
  obtain rfl : _ = entry := Option.some.inj found
  obtain ⟨unaffected, ticked⟩ := unaffected _ rfl rfl
  exact ⟨_, _, rfl, polled, ticked, unaffected⟩

end Sequencer
