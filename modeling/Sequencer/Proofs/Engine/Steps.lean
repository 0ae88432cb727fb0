import Sequencer.Proofs.Engine.Invariant

/-!
# The steps of a run

Each step of a run keeps the core, and takes the engine from one phase to the next.
-/

namespace Sequencer

variable {σ ν : Type}

/-- At every point of an operation: `mark` is the position of the entry that is marked as executing. -/
structure Machine.Stands (m : Machine σ ν) (mark : Option Nat) : Prop where
  core : m.engine.Core mark m.shared.board m.shared.moments
  hears : m.engine.Hears m.shared.moments
  history : History m.shared.board m.shared.moments

structure Machine.AtRest (m : Machine σ ν) : Prop where
  stands : m.Stands m.engine.active
  settled : Settled m.engine m.register m.shared.moments

namespace Machine

variable {m : Machine σ ν} {mark : Option Nat} {index : Nat}

/-! ## Small changes -/

theorem AtRest.engine (h : m.AtRest) : m.engine.AtRest m.shared.board m.shared.moments :=
  ⟨h.stands.core, h.stands.hears, h.settled⟩

theorem AtRest.of_idle (h : m.Stands none) (idle : Idle m.engine m.register) : m.AtRest where
  stands := by
    have inactive : m.engine.active = none := by rw [Engine.active, idle.1]; rfl
    rwa [inactive]
  settled := .inl idle

@[simp]
theorem register_setRegister (m : Machine σ ν) (r : Register) : (m.setRegister r).register = r :=
  Switchboard.register_setRegister_self

@[simp]
theorem register_turn (m : Machine σ ν) (turn : Turn ν) : (m.turn turn).register = m.register := rfl

theorem Stands.setRegister (h : m.Stands mark) {r : Register}
    (ledger : Ledger m.engine.id r m.shared.moments) (last : r.lastTicket = m.register.lastTicket) :
    (m.setRegister r).Stands mark := by
  have set : (m.setRegister r).shared.board.register m.engine.id = r := register_setRegister m r
  refine ⟨⟨?_, ?_, h.core.coherent, h.core.owner, h.core.fresh, h.core.marked, h.core.acting, ?_⟩,
    h.hears, h.history.lawful, h.history.issued⟩
  · rw [show (m.setRegister r).engine = m.engine from rfl, set]
    exact Switchboard.get?_setRegister.trans (if_pos rfl)
  · rw [show (m.setRegister r).engine = m.engine from rfl, set]
    exact ledger
  · rw [show (m.setRegister r).engine = m.engine from rfl, set, last]
    exact h.core.latest

theorem Stands.turn (h : m.Stands mark) (turn : Turn ν) : (m.turn turn).Stands mark :=
  ⟨h.core, h.hears, h.history⟩

theorem Stands.force (h : m.Stands mark) (jump : Jump) : (m.setRegister (m.register.force jump)).Stands mark :=
  h.setRegister (h.core.ledger.disarmed rfl rfl) rfl

theorem Stands.setSequence {s : Sequence σ} {mark' : Option Nat} (h : m.Stands mark) (hc : s.Coherent)
    (owner : s.owner = m.engine.sequence.owner)
    (fresh : m.engine.isExecuting = true → s.needsRefresh = false)
    (forms : s.forms = m.engine.sequence.forms) (marked : s.Marked mark') :
    (m.setSequence s).Stands mark' :=
  ⟨⟨h.core.registered, h.core.ledger, hc, owner.trans h.core.owner, fresh, marked,
    by rw [show (m.setSequence s).engine.sequence = s from rfl, forms]; exact h.core.acting,
    h.core.latest⟩, h.hears, h.history⟩

theorem Stands.update {change : Entry σ → Entry σ} {mark' : Option Nat} (h : m.Stands mark)
    (mild : Mild change) (p : Nat) (marked : (m.engine.sequence.update p change).Marked mark') :
    (m.setSequence (m.engine.sequence.update p change)).Stands mark' :=
  h.setSequence (h.core.coherent.update mild p) Sequence.owner_update
    (fun he => Sequence.needsRefresh_update.trans (h.core.fresh he))
    (Sequence.forms_update h.core.coherent mild) marked

theorem Stands.setState (h : m.Stands mark) (p : Nat) (state : σ) :
    (m.setSequence (m.engine.sequence.setState p state)).Stands mark :=
  h.update (Sequence.mild_setState state) p (h.core.marked.update h.core.coherent fun _ => rfl)

theorem Stands.unmark (h : m.Stands (some index)) : (m.setExecuting index false).Stands none :=
  h.update (Sequence.mild_setExecuting false) index (h.core.marked.clear h.core.coherent)

theorem Stands.entry? (h : m.Stands mark) (active : m.engine.active = some index) :
    ∃ entry, m.engine.sequence.entry? index = some entry := by
  obtain ⟨form, hf, -⟩ := h.core.acting index active
  rw [h.core.coherent.entry?_eq]
  rw [Sequence.forms, List.getElem?_map] at hf
  exact (Option.map_eq_some_iff.mp hf).imp fun _ => And.left

/-! ## Telling -/

theorem Stands.tell {event : Event ν} {news : Heard}
    (core : m.engine.Core mark m.shared.board m.shared.moments)
    (history : History m.shared.board m.shared.moments)
    (teller : (Moment.told event).isTeller = false)
    (hnews : (Moment.told event).heard? m.engine.id = some news)
    (hears : m.engine.listener ≠ none →
      Told m.engine.seen (heard m.engine.id m.shared.moments ++ [news]))
    (notice : Notice) : (m.tell event notice).Stands mark := by
  have lawful : Lawful (.told event :: m.shared.moments) :=
    history.lawful.cons teller (by rintro _ _ _ _ ⟨⟩)
  have issued : ∀ name handle, m.shared.board.handles.get? name = some handle →
      Issued (.told event :: m.shared.moments) handle :=
    fun name handle hh => (history.issued name handle hh).cons
  by_cases silent : m.engine.listener = none
  · have same : m.tell event notice = m := by rw [Machine.tell, silent]
    rw [same]
    exact ⟨core, fun hl => absurd silent hl, history⟩
  · have moments : (m.tell event notice).shared.moments = .told event :: m.shared.moments := by
      rw [moments_tell, if_neg silent]
    refine ⟨?_, ?_, ?_⟩
    · rw [engine_tell, board_tell, moments]
      exact core.note (Moment.keepsTickets_told event)
    · rw [engine_tell, moments]
      intro hl
      rw [heard_cons, hnews]
      exact hears hl
    · rw [board_tell, moments]
      exact ⟨lawful, issued⟩

/-! ## Programs -/

theorem steady_stands {e : Engine σ ν} : Steady fun b moments => (e.Core mark b moments ∧
    e.Hears moments ∧ History b moments) ∧ Settled e (b.register e.id) moments := by
  rintro b moments handle r jump hr ha ⟨⟨core, hears, history⟩, settled⟩
  exact ⟨⟨core.land hr ha, hears.note rfl, history.land⟩, settled.land core.ledger hr ha⟩

theorem Stands.perform {α : Type} (h : m.Stands mark)
    (settled : Settled m.engine m.register m.shared.moments) (program : HostProgram ν α) :
    { m with shared := (m.shared.perform program).2 }.Stands mark ∧
      Settled m.engine { m with shared := (m.shared.perform program).2 }.register
        (m.shared.perform program).2.moments := by
  obtain ⟨⟨core, hears, history⟩, settled⟩ :=
    steady_stands.perform ⟨⟨h.core, h.hears, h.history⟩, settled⟩ program
  exact ⟨⟨core, hears, history⟩, settled⟩

/-! ## Ending a run -/

theorem Stands.enterIdle (h : m.Stands none) (executing : m.engine.isExecuting = true)
    (disarmed : m.register.armed = none) :
    m.enterIdle.Stands none ∧ Idle m.enterIdle.engine m.enterIdle.register := by
  have state : m.engine.seen.state = .executing := if_pos executing
  have news : (Moment.told (.runEnded m.engine.ref) : Moment ν).heard? m.engine.id = some .ended :=
    if_pos rfl
  constructor
  · refine Stands.tell (m := (m.setRun none).report _)
      ⟨h.core.registered, h.core.ledger, h.core.coherent, h.core.owner, by rintro ⟨⟩, h.core.marked,
        by rintro _ ⟨⟩, by rintro _ ⟨⟩⟩ h.history rfl news
      (fun hl => ?_) _
    exact (h.hears hl).ended state
  · rw [Machine.enterIdle, engine_tell, register_tell]
    exact ⟨rfl, disarmed⟩

theorem Stands.finish (h : m.Stands none) (executing : m.engine.isExecuting = true)
    (disarmed : m.register.armed = none) : m.finish.AtRest := by
  obtain ⟨ended, idle⟩ := h.enterIdle executing disarmed
  rw [Machine.finish]
  split
  · exact .of_idle ended idle
  · next callback _ =>
    let recorded := m.enterIdle.record (.callbackFired m.enterIdle.engine.id m.enterIdle.engine.runCount)
    let turned := recorded.turn (.completed recorded.engine.id recorded.engine.runCount callback
      ⟨recorded.engine.state, recorded.engine.listener, recorded.shared.board, recorded.shared.moments⟩)
    have stands : turned.Stands none := ⟨ended.core, ended.hears, ended.history⟩
    obtain ⟨fired, settled⟩ := stands.perform (.inl idle) callback
    exact .of_idle fired (settled.idle idle.1)

variable [Behaviour σ ν]

theorem run_callStopHook (m : Machine σ ν) (index : Nat) :
    (m.callStopHook index).engine.run = m.engine.run := by
  rw [callStopHook]
  split <;> rfl

theorem run_interrupt (m : Machine σ ν) (index : Nat) : (m.interrupt index).engine.run = m.engine.run := by
  rw [interrupt]
  split
  · exact run_callStopHook _ index
  · rfl

theorem run_stop (m : Machine σ ν) : m.stop.engine.run = none := by
  rw [Machine.stop]
  split
  · assumption
  · rw [enterIdle, engine_tell]
    rfl

theorem Stands.interrupt (h : m.Stands mark)
    (settled : Settled m.engine m.register m.shared.moments) (active : m.engine.active = some index) :
    (m.interrupt index).Stands mark := by
  obtain ⟨entry, hentry⟩ := h.entry? active
  obtain ⟨_, called⟩ := h.core.latest index active
  have executing : m.engine.isExecuting = true := isExecuting_of_active (by rw [active]; rfl)
  have finds : StopFinds m.engine.id m.register.lastTicket m.shared.board m.shared.moments := by
    refine ⟨h.core.ledger.head_activations (mem_activations called), fun handle he => ?_⟩
    rw [Switchboard.isArmed, he, h.core.registered, decide_eq_true_iff]
    rw [h.core.ledger.armed_iff (settled.resolved executing)]
    exact and_congr_right fun latest => by rw [latest, register]
  have keeps : (Moment.called m.engine.id .stop index m.register.lastTicket m.shared.board :
      Moment ν).KeepsTickets m.engine.id := Moment.keepsTickets_called (by simp)
  have announced : (m.announce .stop index m.register.lastTicket).Stands mark :=
    ⟨h.core.note keeps, h.hears.note rfl,
      h.history.lawful.cons rfl (by rintro _ _ _ _ ⟨⟩; exact finds),
      fun name handle hh => (h.history.issued name handle hh).cons⟩
  rw [Machine.interrupt, if_pos (by rw [hentry]; rfl), callStopHook]
  split
  · exact announced
  · exact (announced.perform (settled.note keeps) _).1.setState index _

theorem AtRest.stop (h : m.AtRest) : m.stop.AtRest ∧ m.stop.engine.run = none := by
  rw [Machine.stop]
  split
  · next idle => exact ⟨h, idle⟩
  · next run hrun =>
    have executing : m.engine.isExecuting = true := by rw [Engine.isExecuting, hrun]; rfl
    obtain ⟨index, active⟩ := Option.isSome_iff_exists.mp (h.settled.active executing)
    have hactive : run.active = some index := by rw [← active, Engine.active, hrun]; rfl
    have stands := h.stands
    rw [active] at stands
    have interrupted : ((m.setExecuting index false).interrupt index).Stands none :=
      stands.unmark.interrupt h.settled active
    have still : ((m.setExecuting index false).interrupt index).engine.isExecuting = true := by
      rw [Engine.isExecuting, run_interrupt]
      exact executing
    obtain ⟨ended, idle⟩ := ((interrupted.force .abort).turn (.aborted _ _)).enterIdle still
      (by rw [register_turn, register_setRegister]; rfl)
    simp only [hactive]
    exact ⟨.of_idle ended idle, idle.1⟩

end Machine

end Sequencer
