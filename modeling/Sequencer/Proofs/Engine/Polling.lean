import Sequencer.Proofs.Engine.Passing

/-!
# Commands that wait

A hook that returns without a signal leaves its engine suspended. From then on each tick polls the command, until
a hook of it signals and the loop goes on.
-/

namespace Sequencer

variable {σ ν : Type}

namespace Machine

variable [Behaviour σ ν] {m : Machine σ ν} {run p : Nat} {c : Command σ}
  {program : HookProgram ν (σ × Except CommandError Unit)}

theorem Awaits.pauses {state : σ} (h : m.Awaits run p)
    (found : m.engine.sequence.script[p]? = some (c, true)) (still : program = .done (state, .ok ())) :
    ∃ m', (∀ fuel, (m.hooked p program).play (fuel + 1) = (.settled, m')) ∧ m'.Awaits run p ∧
      m.Sets m' p c program := by
  subst still
  let m' := (m.runHook p m.register.lastTicket (.done (state, .ok ()))).2.2
  have settled : Machine.settle p m.register.lastTicket
      (m.runHook p m.register.lastTicket (.done (state, .ok ()))) = (.settled, m') := rfl
  have stands := (h.stands.runHook h.waiting h.active (.done (state, .ok ()))).1
  have awaits : m'.Awaits run p := ⟨stands, h.current, h.active, h.sane, h.armed, h.pending⟩
  refine ⟨m', fun fuel => ?_, awaits, h.sets found⟩
  rw [hooked, Point.play_settled settled, Point.play_waits awaits.executing awaits.pending]

omit [Behaviour σ ν] in
theorem AtRest.awaits (rest : m.AtRest) (executing : m.engine.isExecuting = true)
    (sane : m.engine.isFaulted = false) (pending : m.register.pending = none) :
    ∃ index, m.Awaits m.engine.runCount index := by
  obtain ⟨index, active⟩ := Option.isSome_iff_exists.mp (rest.settled.active executing)
  rcases (rest.settled.waiting executing sane).2.2 with ⟨armed, -⟩ | ⟨-, signalled, -⟩
  · exact ⟨index, rest.stands, rfl, active, sane, armed, pending⟩
  · simp [pending] at signalled

theorem Awaits.ticking_eq (h : m.Awaits run p) {entry : Entry σ} (found : m.engine.sequence.entry? p = some entry) :
    m.ticking = .hooked p m.register.lastTicket (m.tickHook p m.register.lastTicket entry) := by
  rw [h.stands.core.coherent.entry?_eq] at found
  rw [ticking, h.pending, h.active, h.armed]
  dsimp only
  rw [found]

theorem Awaits.polls (h : m.Awaits run p) (found : m.engine.sequence.script[p]? = some (c, true)) :
    ∃ called : Machine σ ν, called.Awaits run p ∧ called.engine.sequence.script = m.engine.sequence.script ∧
      ∀ fuel, m.tick fuel = (called.hooked p (Behaviour.onTick c.state (m.view p))).play fuel := by
  obtain ⟨entry, here, rfl, -⟩ := Sequence.entry_of_script found
  have announced := h.stands.announceTick p m.register.lastTicket
  refine ⟨m.announce .tick p m.register.lastTicket,
    ⟨announced, h.current, h.active, h.sane, h.armed, h.pending⟩, rfl, fun fuel => ?_⟩
  rw [← h.stands.core.coherent.entry?_eq] at here
  rw [(h.atRest.ticking h.executing h.sane fuel).2, h.ticking_eq here, tickHook]
  rfl

theorem Poised.ends (h : m.Poised run p) (nothing : m.engine.sequence.nextRunnable p = none) :
    ∃ m', (∀ fuel, drive (fuel + 1) run m = (.settled, m')) ∧ m'.engine.run = none := by
  obtain ⟨last, ended, -⟩ := h.runsOut nothing
  have gone : last.enterIdle.engine.run = none := congrArg Engine.run last.engine_enterIdle
  refine ⟨last.finish, ended, ?_⟩
  rw [Machine.finish]
  split
  · exact gone
  · exact gone

end Machine

end Sequencer
