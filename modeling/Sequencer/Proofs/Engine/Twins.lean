import Sequencer.Proofs.Engine.Replies
import Sequencer.Proofs.Sequence.Likeness
import Sequencer.Proofs.Switchboard

/-!
# Twins

Two engines are twins if they differ in nothing but their past. What was counted before counts from each
engine's origin, and what twins do next is the same.
-/

namespace Sequencer

variable {σ ν : Type}

/-- Related states that give the same value. -/
def Agree {α S S' : Type} (R : S → S' → Prop) (x : α × S) (y : α × S') : Prop := x.1 = y.1 ∧ R x.2 y.2

/-- What every answer relates, a whole run relates. -/
theorem Program.run_agree {Q : Type} {A : Q → Type} {α S S' : Type} {answer : (q : Q) → S → A q × S}
    {answer' : (q : Q) → S' → A q × S'} {R : S → S' → Prop}
    (step : ∀ q s s', R s s' → Agree R (answer q s) (answer' q s')) (program : Program A α) {s : S} {s' : S'}
    (h : R s s') : Agree R (program.run answer s) (program.run answer' s') := by
  induction program generalizing s s' with
  | done value => exact ⟨rfl, h⟩
  | ask question next ih =>
    have agree := step question s s' h
    rw [Program.run, Program.run]
    generalize answer question s = answered at agree
    generalize answer' question s' = answered' at agree
    obtain ⟨reply, s⟩ := answered
    obtain ⟨reply', s'⟩ := answered'
    obtain ⟨rfl, related⟩ := agree
    exact ih _ related

/-! ## Origins -/

/-- Where an engine stood: who it is, what it had counted, and what had been recorded and told. -/
structure Origin (ν : Type) where
  id : EngineId
  ticket : Ticket
  run : Nat
  events : List (Event ν)
  told : List (Event ν)

def Moment.told? : Moment ν → Option (Event ν)
  | .told event => some event
  | _ => none

/-- What listeners have been told, the latest first. -/
def tidings (moments : List (Moment ν)) : List (Event ν) := moments.filterMap Moment.told?

theorem tidings_cons {moment : Moment ν} {moments : List (Moment ν)} (untold : moment.told? = none) :
    tidings (moment :: moments) = tidings moments :=
  List.filterMap_cons_none untold

def Machine.origin (m : Machine σ ν) : Origin ν where
  id := m.engine.id
  ticket := m.register.lastTicket
  run := m.engine.runCount
  events := m.shared.events
  told := tidings m.shared.moments

namespace Event

/-- Whether a command is activated. -/
def isActivation : Event ν → Bool
  | .hookCalled _ .execute _ => true
  | _ => false

/-- The event as it is for the engine at the other origin, which has counted other runs. -/
def moved (o o' : Origin ν) : Event ν → Event ν
  | .runStarted ref => .runStarted { ref with id := o'.id }
  | .runEnded ref => .runEnded { ref with id := o'.id }
  | .commandExecuting ref command index total => .commandExecuting { ref with id := o'.id } command index total
  | .hookCalled _ hook index => .hookCalled o'.id hook index
  | .callbackFired _ run => .callbackFired o'.id (run - o.run + o'.run)
  | .noted value => .noted value

end Event

/-- What has been added since the origins is the same. While it is `quiet`, no command has been activated. -/
def SameNews (o o' : Origin ν) (quiet : Prop) (old old' events events' : List (Event ν)) : Prop :=
  ∃ new, events = new ++ old ∧ events' = new.map (Event.moved o o') ++ old' ∧
    (quiet → ∀ event ∈ new, event.isActivation = false)

/-- Counted from the origins, the tickets are the same, and neither had been issued by then. -/
def SameTicket (o o' : Origin ν) (ticket ticket' : Ticket) : Prop :=
  ∃ count, 0 < count ∧ ticket = o.ticket + count ∧ ticket' = o'.ticket + count

/-- Counted from the origins, the runs are the same. -/
def SameRun (o o' : Origin ν) (run run' : Nat) : Prop := ∃ count, run = o.run + count ∧ run' = o'.run + count

structure SameHandle (o o' : Origin ν) (handle handle' : Handle) : Prop where
  own : handle.engine = o.id
  own' : handle'.engine = o'.id
  ticket : SameTicket o o' handle.ticket handle'.ticket
  index : handle.index = handle'.index

/--
What is held under one name: handles of the same activation, handles from before the origins, or a handle of
another engine that is as far in both.
-/
inductive SameHeld (o o' : Origin ν) (b b' : Switchboard) : Handle → Handle → Prop where
  | issued {handle handle' : Handle} : SameHandle o o' handle handle' → SameHeld o o' b b' handle handle'
  | expired {handle handle' : Handle} : handle.engine = o.id → handle'.engine = o'.id →
    handle.ticket ≤ o.ticket → handle'.ticket ≤ o'.ticket → SameHeld o o' b b' handle handle'
  | foreign {handle : Handle} : handle.engine ≠ o.id → handle.engine ≠ o'.id →
    b.registers.get? handle.engine = b'.registers.get? handle.engine → SameHeld o o' b b' handle handle

structure SameRegister (o o' : Origin ν) (r r' : Register) : Prop where
  last : ∃ count, r.lastTicket = o.ticket + count ∧ r'.lastTicket = o'.ticket + count
  armed : Option.Rel (SameTicket o o') r.armed r'.armed

section Counting

variable {o o' : Origin ν} {ticket ticket' other other' : Ticket} {r r' : Register} {quiet : Prop}
  {old old' events events' : List (Event ν)}

theorem SameTicket.eq_iff (h : SameTicket o o' ticket ticket') (h' : SameTicket o o' other other') :
    ticket = other ↔ ticket' = other' := by
  obtain ⟨count, -, rfl, rfl⟩ := h
  obtain ⟨count', -, rfl, rfl⟩ := h'
  rw [Nat.add_left_cancel_iff, Nat.add_left_cancel_iff]

theorem SameRun.eq_iff {run run' other other' : Nat} (h : SameRun o o' run run') (h' : SameRun o o' other other') :
    run = other ↔ run' = other' := by
  obtain ⟨count, rfl, rfl⟩ := h
  obtain ⟨count', rfl, rfl⟩ := h'
  omega

theorem SameRun.next {run run' : Nat} (h : SameRun o o' run run') : SameRun o o' (run + 1) (run' + 1) := by
  obtain ⟨count, rfl, rfl⟩ := h
  exact ⟨count + 1, rfl, rfl⟩

theorem SameRun.moved {run run' : Nat} (h : SameRun o o' run run') : run - o.run + o'.run = run' := by
  obtain ⟨count, rfl, rfl⟩ := h
  omega

theorem SameRegister.armed_iff (h : SameRegister o o' r r') (same : SameTicket o o' ticket ticket') :
    r.armed = some ticket ↔ r'.armed = some ticket' := by
  obtain ⟨-, armed⟩ := h
  generalize r.armed = armed at armed
  generalize r'.armed = armed' at armed
  cases armed with
  | none => simp
  | some h => rw [Option.some_inj, Option.some_inj]; exact h.eq_iff same

theorem SameRegister.late (h : SameRegister o o' r r') : (∀ ticket, r.armed = some ticket → o.ticket < ticket) ∧
    ∀ ticket, r'.armed = some ticket → o'.ticket < ticket := by
  obtain ⟨-, armed⟩ := h
  generalize r.armed = armed at armed
  generalize r'.armed = armed' at armed
  cases armed with
  | none => simp
  | some h =>
    obtain ⟨count, pos, rfl, rfl⟩ := h
    constructor
    all_goals
      rintro _ ⟨⟩
      exact Nat.lt_add_of_pos_right pos

theorem SameHeld.of_registers {b b' c c' : Switchboard} {held held' : Option Handle}
    (h : Option.Rel (SameHeld o o' b b') held held')
    (registers : ∀ engine, engine ≠ o.id → engine ≠ o'.id →
      b.registers.get? engine = b'.registers.get? engine → c.registers.get? engine = c'.registers.get? engine) :
    Option.Rel (SameHeld o o' c c') held held' := by
  cases h with
  | none => exact .none
  | some h =>
    refine .some ?_
    cases h with
    | issued same => exact .issued same
    | expired own own' old old' => exact .expired own own' old old'
    | foreign other other' same => exact .foreign other other' (registers _ other other' same)

theorem SameRegister.force (h : SameRegister o o' r r') (jump jump' : Jump) :
    SameRegister o o' (r.force jump) (r'.force jump') :=
  ⟨h.last, .none⟩

theorem SameRegister.disarm (h : SameRegister o o' r r') : SameRegister o o' r.disarm r'.disarm := ⟨h.last, .none⟩

theorem SameRegister.clearPending (h : SameRegister o o' r r') :
    SameRegister o o' r.clearPending r'.clearPending :=
  ⟨h.last, h.armed⟩

theorem SameRegister.arm (h : SameRegister o o' r r') :
    SameRegister o o' r.arm r'.arm ∧ SameTicket o o' r.arm.lastTicket r'.arm.lastTicket := by
  obtain ⟨⟨count, last, last'⟩, -⟩ := h
  have next : SameTicket o o' r.arm.lastTicket r'.arm.lastTicket :=
    ⟨count + 1, Nat.succ_pos count, congrArg (· + 1) last, congrArg (· + 1) last'⟩
  exact ⟨⟨⟨count + 1, congrArg (· + 1) last, congrArg (· + 1) last'⟩, .some next⟩, next⟩

theorem SameNews.refl (o o' : Origin ν) (quiet : Prop) (old old' : List (Event ν)) :
    SameNews o o' quiet old old' old old' :=
  ⟨[], rfl, rfl, by simp⟩

theorem SameNews.add (h : SameNews o o' quiet old old' events events') {event event' : Event ν}
    (moved : event.moved o o' = event') (inactive : quiet → event.isActivation = false) :
    SameNews o o' quiet old old' (event :: events) (event' :: events') := by
  obtain ⟨new, rfl, rfl, still⟩ := h
  refine ⟨event :: new, rfl, by rw [← moved]; rfl, fun hq => ?_⟩
  exact List.forall_mem_cons.mpr ⟨inactive hq, still hq⟩

theorem SameNews.mono {quiet' : Prop} (h : SameNews o o' quiet old old' events events') (fewer : quiet' → quiet) :
    SameNews o o' quiet' old old' events events' :=
  h.imp fun _ => And.imp_right (And.imp_right fun still hq => still (fewer hq))

end Counting

/-! ## What twins share with others -/

/--
The shared states of twins. A pending jump is left over where no run is in flight, and matters only while the
engine is `busy`.
-/
structure SameShared (o o' : Origin ν) (busy quiet : Prop) (s s' : Shared ν) : Prop where
  registered : s.board.registers.get? o.id = some (s.board.register o.id)
  registered' : s'.board.registers.get? o'.id = some (s'.board.register o'.id)
  register : SameRegister o o' (s.board.register o.id) (s'.board.register o'.id)
  pending : busy → (s.board.register o.id).pending = (s'.board.register o'.id).pending
  handles : ∀ name, Option.Rel (SameHeld o o' s.board s'.board) (s.board.handles.get? name)
    (s'.board.handles.get? name)
  events : SameNews o o' quiet o.events o'.events s.events s'.events
  told : SameNews o o' False o.told o'.told (tidings s.moments) (tidings s'.moments)

namespace SameShared

variable {o o' : Origin ν} {busy quiet : Prop} {s s' : Shared ν} {handle handle' : Handle}

theorem mono {busy' quiet' : Prop} (h : SameShared o o' busy quiet s s') (idle : busy' → busy)
    (fewer : quiet' → quiet) : SameShared o o' busy' quiet' s s' :=
  { h with pending := fun hb => h.pending (idle hb), events := h.events.mono fewer }

theorem report (h : SameShared o o' busy quiet s s') (notice notice' : Notice) :
    SameShared o o' busy quiet (s.report notice) (s'.report notice') :=
  ⟨h.registered, h.registered', h.register, h.pending, h.handles, h.events, h.told⟩

theorem turn (h : SameShared o o' busy quiet s s') (turn turn' : Turn ν) :
    SameShared o o' busy quiet (s.turn turn) (s'.turn turn') :=
  ⟨h.registered, h.registered', h.register, h.pending, h.handles, h.events, h.told⟩

theorem record (h : SameShared o o' busy quiet s s') {event event' : Event ν} (moved : event.moved o o' = event')
    (inactive : quiet → event.isActivation = false) :
    SameShared o o' busy quiet (s.record event) (s'.record event') :=
  ⟨h.registered, h.registered', h.register, h.pending, h.handles, h.events.add moved inactive, h.told⟩

theorem mark (h : SameShared o o' busy quiet s s') (moment moment' : Moment ν) (untold : moment.told? = none)
    (untold' : moment'.told? = none) : SameShared o o' busy quiet (s.mark moment) (s'.mark moment') := by
  refine ⟨h.registered, h.registered', h.register, h.pending, h.handles, h.events, ?_⟩
  rw [Shared.mark, Shared.mark, tidings_cons untold, tidings_cons untold']
  exact h.told

theorem tell (h : SameShared o o' busy quiet s s') {event event' : Event ν} (moved : event.moved o o' = event') :
    SameShared o o' busy quiet (s.mark (.told event)) (s'.mark (.told event')) :=
  ⟨h.registered, h.registered', h.register, h.pending, h.handles, h.events, h.told.add moved False.elim⟩

theorem setRegister {busy' : Prop} {r r' : Register} (h : SameShared o o' busy quiet s s')
    (same : SameRegister o o' r r') (pending : busy' → r.pending = r'.pending) :
    SameShared o o' busy' quiet { s with board := s.board.setRegister o.id r }
      { s' with board := s'.board.setRegister o'.id r' } := by
  refine ⟨?_, ?_, ?_, ?_, fun name => SameHeld.of_registers (h.handles name) ?_, h.events, h.told⟩
  · rw [Switchboard.get?_setRegister, if_pos rfl, Switchboard.register_setRegister_self]
  · rw [Switchboard.get?_setRegister, if_pos rfl, Switchboard.register_setRegister_self]
  · rw [Switchboard.register_setRegister_self, Switchboard.register_setRegister_self]
    exact same
  · rw [Switchboard.register_setRegister_self, Switchboard.register_setRegister_self]
    exact pending
  · intro engine other other' same
    rw [Switchboard.get?_setRegister, Switchboard.get?_setRegister, if_neg other, if_neg other', same]

theorem setOther {id : EngineId} {r : Register} (h : SameShared o o' busy quiet s s') (other : id ≠ o.id)
    (other' : id ≠ o'.id) :
    SameShared o o' busy quiet { s with board := s.board.setRegister id r }
      { s' with board := s'.board.setRegister id r } := by
  have own : (s.board.setRegister id r).register o.id = s.board.register o.id :=
    Switchboard.register_setRegister_of_ne other.symm
  have own' : (s'.board.setRegister id r).register o'.id = s'.board.register o'.id :=
    Switchboard.register_setRegister_of_ne other'.symm
  refine ⟨?_, ?_, ?_, ?_, fun name => SameHeld.of_registers (h.handles name) ?_, h.events, h.told⟩
  · rw [Switchboard.get?_setRegister, if_neg other.symm, own, h.registered]
  · rw [Switchboard.get?_setRegister, if_neg other'.symm, own', h.registered']
  · rw [own, own']
    exact h.register
  · rw [own, own']
    exact h.pending
  · intro engine _ _ same
    rw [Switchboard.get?_setRegister, Switchboard.get?_setRegister, same]

theorem hold (h : SameShared o o' busy quiet s s') (same : SameHandle o o' handle handle') (name : String) :
    SameShared o o' busy quiet { s with board := s.board.hold name handle }
      { s' with board := s'.board.hold name handle' } := by
  refine ⟨h.registered, h.registered', h.register, h.pending, fun other => ?_, h.events, h.told⟩
  show Option.Rel _ ((s.board.handles.put name handle).get? other) ((s'.board.handles.put name handle').get? other)
  rw [Table.get?_put, Table.get?_put]
  split
  · exact .some (.issued same)
  · exact SameHeld.of_registers (h.handles other) fun _ _ _ same => same

/-! ## Handles -/

theorem disarmed (h : SameShared o o' busy quiet s s') :
    (∀ handle, handle.engine = o.id → handle.ticket ≤ o.ticket → s.board.isArmed handle = false) ∧
    ∀ handle, handle.engine = o'.id → handle.ticket ≤ o'.ticket → s'.board.isArmed handle = false := by
  constructor
  · intro handle own old
    rw [Switchboard.isArmed, own, h.registered]
    exact decide_eq_false fun armed => absurd (h.register.late.1 _ armed) (Nat.not_lt.mpr old)
  · intro handle own old
    rw [Switchboard.isArmed, own, h.registered']
    exact decide_eq_false fun armed => absurd (h.register.late.2 _ armed) (Nat.not_lt.mpr old)

theorem isArmed (h : SameShared o o' busy quiet s s') (held : SameHeld o o' s.board s'.board handle handle') :
    s.board.isArmed handle = s'.board.isArmed handle' := by
  cases held with
  | issued same =>
    rw [Switchboard.isArmed, Switchboard.isArmed, same.own, same.own', h.registered, h.registered']
    exact decide_eq_decide.mpr (h.register.armed_iff same.ticket)
  | expired own own' old old' =>
    rw [h.disarmed.1 _ own old, h.disarmed.2 _ own' old']
  | foreign _ _ same => rw [Switchboard.isArmed, Switchboard.isArmed, same]

theorem signal (h : SameShared o o' busy quiet s s') (held : SameHeld o o' s.board s'.board handle handle')
    {target target' : Nat} (there : s.board.isArmed handle = true → target = target') :
    Agree (SameShared o o' busy quiet) (s.signal handle target) (s'.signal handle' target') := by
  have armed := h.isArmed held
  rcases s.signal_cases handle target with ⟨disarmed, hs⟩ | ⟨armed_here, r, hr, -, hs⟩
  · -- Neither handle is armed.
    rw [disarmed] at armed
    rcases s'.signal_cases handle' target' with ⟨-, hs'⟩ | ⟨armed_there, -⟩
    · rw [hs, hs']
      exact ⟨rfl, h⟩
    · exact absurd (armed.trans armed_there) Bool.false_ne_true
  · -- Both signals land, and so they go to the same place.
    obtain rfl := there armed_here
    rw [armed_here] at armed
    rcases s'.signal_cases handle' target with ⟨disarmed, -⟩ | ⟨-, r', hr', -, hs'⟩
    · exact absurd (disarmed.symm.trans armed.symm) Bool.false_ne_true
    rw [hs, hs']
    cases held with
    | issued same =>
      rw [same.own] at hr
      rw [same.own'] at hr'
      have registers := h.register
      rw [Switchboard.register_of_get? hr, Switchboard.register_of_get? hr'] at registers
      rw [same.own, same.own']
      exact ⟨rfl, (h.setRegister (registers.force _ _) fun _ => rfl).mark _ _ rfl rfl⟩
    | expired own _ old _ => exact absurd ((h.disarmed.1 _ own old).symm.trans armed_here) Bool.false_ne_true
    | foreign other other' same =>
      obtain rfl : r = r' := Option.some.inj (hr.symm.trans (same.trans hr'))
      exact ⟨rfl, (h.setOther other other').mark _ _ rfl rfl⟩

theorem fire (h : SameShared o o' busy quiet s s') (name : String) (target : Option Nat) :
    Agree (SameShared o o' busy quiet) (s.fire name target) (s'.fire name target) := by
  have held := h.handles name
  rw [Shared.fire, Shared.fire]
  generalize s.board.handles.get? name = handle at held
  generalize s'.board.handles.get? name = handle' at held
  cases held with
  | none => exact ⟨rfl, h⟩
  | @some handle handle' held =>
    have there : s.board.isArmed handle = true →
        target.getD (handle.index + 1) = target.getD (handle'.index + 1) := by
      intro armed
      cases held with
      | issued same => rw [same.index]
      | expired own _ old _ =>
        exact absurd ((h.disarmed.1 _ own old).symm.trans armed) Bool.false_ne_true
      | foreign => rfl
    exact (h.signal held there).imp_left (congrArg some)

theorem armed? (h : SameShared o o' busy quiet s s') (name : String) :
    s.board.armed? name = s'.board.armed? name := by
  have held := h.handles name
  rw [Switchboard.armed?, Switchboard.armed?]
  generalize s.board.handles.get? name = handle at held
  generalize s'.board.handles.get? name = handle' at held
  cases held with
  | none => rfl
  | some held => exact congrArg some (h.isArmed held)

/-! ## Programs -/

theorem answer (question : HostQuestion ν) (h : SameShared o o' busy quiet s s') :
    Agree (SameShared o o' busy quiet) (s.answer question) (s'.answer question) := by
  cases question with
  | fire name target => exact h.fire name target
  | armed name => exact ⟨h.armed? name, h⟩
  | note value => exact ⟨rfl, h.record rfl fun _ => rfl⟩

theorem perform {α : Type} (h : SameShared o o' busy quiet s s') (program : HostProgram ν α) :
    Agree (SameShared o o' busy quiet) (s.perform program) (s'.perform program) :=
  Program.run_agree (fun question _ _ => answer question) program h

end SameShared

open Machine in
/-- Frames of the same hook of twins. -/
structure SameFrame (o o' : Origin ν) (quiet : Prop) (f f' : HookFrame ν) : Prop where
  shared : SameShared o o' True quiet f.shared f'.shared
  handle : SameHandle o o' f.handle f'.handle
  request : f.request = f'.request

open Machine in
theorem SameFrame.answer {o o' : Origin ν} {quiet : Prop} (question : HookQuestion ν) (f f' : HookFrame ν)
    (h : SameFrame o o' quiet f f') :
    Agree (SameFrame o o' quiet) (HookFrame.answer question f) (HookFrame.answer question f') := by
  cases question with
  | host question =>
    obtain ⟨same, shared⟩ := h.shared.answer question
    exact ⟨same, shared, h.handle, h.request⟩
  | signal target =>
    obtain ⟨same, shared⟩ := h.shared.signal (.issued h.handle) fun _ => rfl
    exact ⟨same, shared, h.handle, h.request⟩
  | hasSignalled =>
    refine ⟨?_, h⟩
    show (f.shared.board.register f.handle.engine).pending.isSome =
      (f'.shared.board.register f'.handle.engine).pending.isSome
    rw [h.handle.own, h.handle.own', h.shared.pending trivial]
  | hold name => exact ⟨rfl, h.shared.hold h.handle name, h.handle, h.request⟩
  | request request => exact ⟨rfl, h.shared, h.handle, rfl⟩
  | report notice => exact ⟨rfl, h.shared.report notice notice, h.handle, h.request⟩

end Sequencer
