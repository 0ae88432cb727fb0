import Sequencer.Proofs.Engine.HostCode
import Sequencer.Proofs.Engine.Points

/-!
# The hooks of a call

A call into an engine goes from point to point, and each hook that it calls on the way is such a point. Between
them no hook is tried: whatever is told and signalled, and even if a stop hook is called, no hook that works on a
run is called or fails.
-/

namespace Sequencer

variable {σ ν : Type}

/-! ## Trying no hook -/

/-- Whether an execute or tick hook of the engine is called, or fails. -/
def Moment.isTry (id : EngineId) : Moment ν → Bool
  | .called engine hook .. => engine = id ∧ hook ≠ .stop
  | .failed engine _ => engine = id
  | .told _ | .landed _ => false

/-- Since `before` no hook has been tried. -/
def Untried (id : EngineId) (before moments : List (Moment ν)) : Prop :=
  ∃ new, moments = new ++ before ∧ ∀ moment ∈ new, moment.isTry id = false

section Untried

variable {id : EngineId} {before moments : List (Moment ν)}

theorem Untried.refl (id : EngineId) (moments : List (Moment ν)) : Untried id moments moments := ⟨[], rfl, by simp⟩

theorem Untried.cons {moment : Moment ν} (h : Untried id before moments) (hm : moment.isTry id = false) :
    Untried id before (moment :: moments) := by
  obtain ⟨new, rfl, untried⟩ := h
  exact ⟨moment :: new, rfl, List.forall_mem_cons.mpr ⟨hm, untried⟩⟩

end Untried

/-- Whether a hook is called that works on a run. -/
def Event.tries : Event ν → Bool
  | .hookCalled _ hook _ => hook ≠ .stop
  | _ => false

/-- Whether a hook is called that works on a run, or has failed. -/
def Moment.tries : Moment ν → Bool
  | .called _ hook .. => hook ≠ .stop
  | .failed .. => true
  | .told _ | .landed _ => false

namespace Machine

/-- From the one to the other no hook of the engine has been tried. -/
structure SelfUntried (o m : Machine σ ν) : Prop where
  id : m.engine.id = o.engine.id
  moments : Untried o.engine.id o.shared.moments m.shared.moments

theorem SelfUntried.refl (m : Machine σ ν) : m.SelfUntried m := ⟨rfl, .refl ..⟩

theorem SelfUntried.of_keepsRunAndPast {m m' : Machine σ ν} (same : m.KeepsRunAndPast m') : m.SelfUntried m' :=
  ⟨same.id, same.moments ▸ .refl ..⟩

/-- From the one to the other no hook of any engine has been tried, but stop hooks may have been called. -/
structure AllUntried (o m : Machine σ ν) : Prop where
  id : m.engine.id = o.engine.id
  events : Grows (fun event => event.tries = false) o.shared.events m.shared.events
  moments : Grows (fun moment => moment.tries = false) o.shared.moments m.shared.moments

namespace AllUntried

variable {o m m' : Machine σ ν}

theorem refl (m : Machine σ ν) : m.AllUntried m := ⟨rfl, .refl .., .refl ..⟩

theorem selfUntried (h : o.AllUntried m) : o.SelfUntried m := by
  obtain ⟨new, moments, idle⟩ := h.moments
  refine ⟨h.id, new, moments, fun moment hm => ?_⟩
  have rests := idle moment hm
  cases moment with
  | called => simp_all [Moment.tries, Moment.isTry]
  | failed => cases rests
  | told | landed => rfl

theorem congr (h : o.AllUntried m) (m' : Machine σ ν) (id : m'.engine.id = m.engine.id)
    (events : m'.shared.events = m.shared.events) (moments : m'.shared.moments = m.shared.moments) : o.AllUntried m' :=
  ⟨id.trans h.id, events ▸ h.events, moments ▸ h.moments⟩

theorem record (h : o.AllUntried m) {event : Event ν} (idle : event.tries = false) : o.AllUntried (m.record event) :=
  ⟨h.id, h.events.cons idle, h.moments⟩

theorem mark (h : o.AllUntried m) {moment : Moment ν} (idle : moment.tries = false) : o.AllUntried (m.mark moment) :=
  ⟨h.id, h.events, h.moments.cons idle⟩

theorem ran (h : o.AllUntried m) (ran : m.shared.Ran m'.shared) (id : m'.engine.id = m.engine.id) :
    o.AllUntried m' := by
  refine ⟨id.trans h.id, h.events.trans (ran.events.mono ?_), h.moments.trans (ran.moments.mono ?_)⟩
  · rintro _ ⟨value, rfl⟩
    rfl
  · rintro _ ⟨handle, rfl⟩
    rfl

theorem runHook (h : o.AllUntried m) (index : Nat) (ticket : Ticket)
    (program : HookProgram ν (σ × Except CommandError Unit)) : o.AllUntried (m.runHook index ticket program).2.2 :=
  h.ran (.hook m.shared _ program) rfl

theorem tell (h : o.AllUntried m) {event : Event ν} (idle : event.tries = false) (notice : Notice) :
    o.AllUntried (m.tell event notice) := by
  have told : o.AllUntried (m.mark (.told event)) := h.mark rfl
  rw [Machine.tell]
  split
  · exact h
  · exact told.record idle
  · exact told.congr _ rfl rfl rfl

theorem takeJump (h : o.AllUntried m) : o.AllUntried m.takeJump.2 := by
  rw [Machine.takeJump]
  split
  · exact h
  · dsimp only
    split <;> exact h.congr _ rfl rfl rfl

theorem enterIdle (h : o.AllUntried m) : o.AllUntried m.enterIdle :=
  (h.congr ((m.setRun none).report _) rfl rfl rfl).tell rfl _

theorem finish (h : o.AllUntried m) : o.AllUntried m.finish := by
  rw [Machine.finish]
  split
  · exact h.enterIdle
  · next callback _ =>
    have fired : o.AllUntried (m.completing callback) :=
      ⟨h.enterIdle.id, h.enterIdle.events.cons rfl, h.enterIdle.moments⟩
    exact fired.ran (.perform _ callback) rfl

theorem beginRun (h : o.AllUntried m) (start : Nat) (onComplete : Option (HostProgram ν Unit)) :
    o.AllUntried (m.beginRun start onComplete) :=
  ((h.congr ((m.begun onComplete).report (.runStarted m.engine.name (m.engine.runCount + 1) start))
    rfl rfl rfl).tell rfl _).congr _ rfl rfl rfl

theorem refreshIfIdle (h : o.AllUntried m) : o.AllUntried m.refreshIfIdle := by
  rw [Machine.refreshIfIdle]
  split
  · exact h.congr _ rfl rfl rfl
  · exact h

theorem calling (h : o.AllUntried m) (index : Nat) (name : String) :
    ∃ before ticket, o.AllUntried before ∧ m.calling index name = before.announce .execute index ticket := by
  refine ⟨_, _, ?_, rfl⟩
  exact ((h.congr (m.enter index) rfl rfl rfl).tell rfl _).congr _ rfl rfl rfl

variable [Behaviour σ ν]

theorem interrupt (h : o.AllUntried m) (index : Nat) : o.AllUntried (m.interrupt index) := by
  rw [Machine.interrupt]
  split
  · have called : o.AllUntried (m.announce .stop index m.register.lastTicket) := (h.record rfl).mark rfl
    rw [callStopHook]
    split
    · exact called
    · exact called.ran (.perform _ _) rfl
  · exact h

theorem stop (h : o.AllUntried m) : o.AllUntried m.stop := by
  rw [Machine.stop]
  split
  · exact h
  · dsimp only
    split
    · exact enterIdle (h.congr _ rfl rfl rfl)
    · next index _ =>
      have interrupted := (h.congr (m.setExecuting index false) rfl rfl rfl).interrupt index
      exact enterIdle (interrupted.congr _ rfl rfl rfl)

theorem restarted (h : o.AllUntried m) (index start : Nat) : o.AllUntried (m.restarted index start) :=
  ((h.congr (m.report _) rfl rfl rfl).stop).beginRun start none

theorem jumpTo (h : o.AllUntried m) (run : Run ν) (index : Nat) : o.AllUntried (m.jumpTo run index) := by
  rw [Machine.jumpTo]
  split
  · exact (h.interrupt _).congr _ rfl rfl rfl
  · exact h.congr _ rfl rfl rfl

end AllUntried

variable {m m' : Machine σ ν}

theorem allUntried_taken {jump : Jump} (taken : m.takeJump = (some jump, m')) :
    m.AllUntried (m'.turn (m'.jump jump.target)) := by
  have untried := (AllUntried.refl m).takeJump
  rw [taken] at untried
  exact untried.congr _ rfl rfl rfl

variable [Behaviour σ ν]

theorem allUntried_settled {index : Nat} {ticket : Ticket} {result : HookResult σ ν}
    (settled : Machine.settle index ticket result = (.settled, m)) : result.2.2.AllUntried m := by
  obtain ⟨result, request, left⟩ := result
  cases result with
  | error source => simp [Machine.settle] at settled
  | ok =>
    cases request with
    | none =>
      obtain rfl : left = m := congrArg Prod.snd settled
      exact .refl left
    | some asked =>
      cases asked with
      | stop =>
        obtain rfl : _ = m := congrArg Prod.snd settled
        exact ((AllUntried.refl left).congr (left.report _) rfl rfl rfl).stop
      | restart start => simp [Machine.settle, Machine.obey] at settled

theorem selfUntried_reply {call : Call σ ν} (unopened : m.opening call = none) (fuel : Nat) :
    m.SelfUntried (m.reply fuel call).2 := by
  by_cases stops : call = .stop
  · rw [stops]
    exact (AllUntried.refl m).stop.selfUntried
  · exact .of_keepsRunAndPast (keepsRunAndPast_reply unopened stops fuel)

end Machine

/-! ## Calling a hook -/

/-- What a hook does that works on a run. A stop hook sees nothing of the sequence. -/
def Hook.program? [Behaviour σ ν] (state : σ) (view : View) :
    Hook → Option (HookProgram ν (σ × Except CommandError Unit))
  | .execute => some (Behaviour.execute state view)
  | .tick => some (Behaviour.onTick state view)
  | .stop => none

namespace Machine

variable [Behaviour σ ν] {m : Machine σ ν} {index : Nat} {ticket : Ticket} {entry : Entry σ}

/-- Right now the hook of the command is called, and this is what it comes back with. -/
structure Invokes (m : Machine σ ν) (hook : Hook) (index : Nat) (ticket : Ticket) (command : Command σ)
    (result : HookResult σ ν) : Prop where
  stands : m.Stands (some index)
  active : m.engine.active = some index
  sane : m.engine.isFaulted = false
  armed : m.register.armed = some ticket
  found : m.engine.sequence.get? index = some command
  called : ∃ board earlier, m.shared.moments = .called m.engine.id hook index ticket board :: earlier
  returns : ∃ program, hook.program? command.state (m.view index) = some program ∧
    result = m.runHook index ticket program

omit [Behaviour σ ν] in
theorem view_calling (m : Machine σ ν) (index : Nat) (name : String) :
    (m.calling index name).view index = m.view index := by
  rw [view, view, engine_calling,
    show (m.enter index).engine.sequence = m.engine.sequence.setExecuting index true from rfl,
    Sequence.setExecuting, Sequence.len_update, Sequence.layout_update]

theorem invokes_executeHook (stands : m.Stands none) (between : Between m.engine m.register)
    (found : m.engine.sequence.entries[index]? = some entry) (action : entry.command.kind = .action) :
    (m.calling index entry.command.name).Invokes .execute index m.register.arm.lastTicket entry.command
      (m.executeHook index entry) := by
  have runs : ∃ form, m.engine.sequence.forms[index]? = some form ∧ form.kind = .action :=
    ⟨entry.command.form, by rw [Sequence.forms, List.getElem?_map, found]; rfl, action⟩
  have engine := engine_calling m index entry.command.name
  have called := stands.calling between.1 runs entry.command.name
  obtain ⟨board, moments⟩ := moments_calling m index entry.command.name
  refine ⟨called, by rw [engine, active_enter between.1], ?_, by rw [register_calling]; rfl, ?_,
    ⟨board, _, by rw [moments, engine]; rfl⟩, ⟨_, rfl, by rw [view_calling]; rfl⟩⟩
  · rw [engine, isFaulted_enter]
    exact between.2.1
  · rw [called.core.coherent.get?_eq, engine,
      show (m.enter index).engine.sequence = m.engine.sequence.setExecuting index true from rfl,
      Sequence.setExecuting, stands.core.coherent.entries_update, List.getElem?_modify, found]
    simp

theorem invokes_tickHook (rest : m.AtRest) (sane : m.engine.isFaulted = false)
    (active : m.engine.active = some index) (armed : m.register.armed = some ticket)
    (found : m.engine.sequence.entries[index]? = some entry) :
    (m.announce .tick index ticket).Invokes .tick index ticket entry.command (m.tickHook index ticket entry) := by
  have stands := rest.stands
  rw [active] at stands
  refine ⟨stands.announceTick index ticket, active, sane, armed, ?_, ⟨_, _, rfl⟩, ⟨_, rfl, rfl⟩⟩
  show m.engine.sequence.get? index = some entry.command
  rw [stands.core.coherent.get?_eq, found]
  rfl

end Machine

/-! ## From point to point -/

namespace Point

variable [Behaviour σ ν] {m : Machine σ ν} {p q : Point σ ν} {index : Nat} {ticket : Ticket}
  {result : HookResult σ ν}

/-- One step of a call. -/
inductive Leads : Point σ ν → Point σ ν → Prop where
  | goes {m m' : Machine σ ν} {jump : Jump} {index : Nat} {entry : Entry σ} : Goes m m' jump index entry →
    Leads (.loop m) (.hooked index m'.register.arm.lastTicket
      ((m'.turn (m'.jump jump.target)).executeHook index entry))
  | settles {index : Nat} {ticket : Ticket} {result : HookResult σ ν} {m : Machine σ ν} :
    Machine.settle index ticket result = (.settled, m) → Leads (.hooked index ticket result) (.loop m)
  | restarts {index start : Nat} {ticket : Ticket} {m : Machine σ ν} :
    Leads (.hooked index ticket (.ok (), some (.restart start), m)) (.loop (m.restarted index start))

/-- A call that is at one point gets to another, given enough fuel. -/
def Reaches : Point σ ν → Point σ ν → Prop := Relation.ReflTransGen Leads

theorem Leads.plays (h : Leads p q) (ready : p.Ready) :
    q.Ready ∧ ∃ cost, ∀ fuel, p.play (fuel + cost) = q.play fuel := by
  cases h with
  | goes goes => exact ⟨(ready.goes 0 goes).1, 1, fun fuel => (ready.goes fuel goes).2⟩
  | settles settled => exact ⟨ready.settles settled, 0, fun _ => play_settled settled⟩
  | restarts => exact ⟨ready.restarts, 0, fun fuel => play_restart fuel ..⟩

theorem Reaches.plays (h : Reaches p q) (ready : p.Ready) :
    q.Ready ∧ ∃ cost, ∀ fuel, p.play (fuel + cost) = q.play fuel := by
  induction h with
  | refl => exact ⟨ready, 0, fun _ => rfl⟩
  | tail _ step ih =>
    obtain ⟨there, cost, plays⟩ := ih
    obtain ⟨next, more, plays'⟩ := step.plays there
    refine ⟨next, more + cost, fun fuel => ?_⟩
    rw [← Nat.add_assoc, plays, plays']

/-- Where the engine is at the point. -/
def machine : Point σ ν → Machine σ ν
  | .loop m => m
  | .hooked _ _ (_, _, m) => m

theorem Ready.invokes {m' : Machine σ ν} {jump : Jump} {entry : Entry σ} (ready : (loop m).Ready)
    (goes : Goes m m' jump index entry) :
    ((m'.turn (m'.jump jump.target)).calling index entry.command.name).Invokes .execute index
      m'.register.arm.lastTicket entry.command ((m'.turn (m'.jump jump.target)).executeHook index entry) := by
  obtain ⟨executing, taken, next, found⟩ := goes
  obtain ⟨stands, between⟩ := ready.takes executing taken
  obtain ⟨form, hf, action⟩ := stands.core.coherent.action_of_nextRunnable next
  rw [Sequence.forms, List.getElem?_map, found] at hf
  obtain rfl : entry.command.form = form := Option.some.inj hf
  exact Machine.invokes_executeHook (stands.turn _) between found action

end Point

end Sequencer
