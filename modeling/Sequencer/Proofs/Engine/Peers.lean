import Sequencer.Proofs.Engine.InStep

/-!
# Peers

An engine among others, and the same engine elsewhere. Where all that it looks up is its own, it does the same in
both places.
-/

namespace Sequencer

variable {σ ν : Type}

/-- What has been put in front is the same. -/
def SameSince {α : Type} (old old' all all' : List α) : Prop := ∃ new, all = new ++ old ∧ all' = new ++ old'

section

variable {α : Type} {old old' all all' : List α}

theorem SameSince.refl (old old' : List α) : SameSince old old' old old' := ⟨[], rfl, rfl⟩

theorem SameSince.cons (h : SameSince old old' all all') (a : α) : SameSince old old' (a :: all) (a :: all') := by
  obtain ⟨new, rfl, rfl⟩ := h
  exact ⟨a :: new, rfl, rfl⟩

theorem SameSince.since (h : SameSince old old' all all') : since old all = since old' all' := by
  obtain ⟨new, rfl, rfl⟩ := h
  rw [since_append, since_append]

theorem SameSince.mark {told told' : List (Event ν)} {moments moments' : List (Moment ν)} {moment moment' : Moment ν}
    (h : SameSince told told' (tidings moments) (tidings moments')) (same : moment.told? = moment'.told?) :
    SameSince told told' (tidings (moment :: moments)) (tidings (moment' :: moments')) := by
  cases heard : moment.told? with
  | none =>
    rw [tidings_cons heard, tidings_cons (same.symm.trans heard)]
    exact h
  | some event =>
    have more : tidings (moment :: moments) = event :: tidings moments := List.filterMap_cons_some heard
    have more' : tidings (moment' :: moments') = event :: tidings moments' :=
      List.filterMap_cons_some (same.symm.trans heard)
    rw [more, more']
    exact h.cons event

end

/-! ## What peers share with others -/

/--
The engine has the same register in both places, and a name stands for the same, unless it stands for the handle of
another engine in the first. Since it came to `o` and `o'`, it has done the same.
-/
structure Shared.Peer (id : EngineId) (o o' s s' : Shared ν) : Prop where
  register : s.board.registers.get? id = s'.board.registers.get? id
  names : ∀ name, s.board.handles.get? name = s'.board.handles.get? name ∨
    ∃ handle, s.board.handles.get? name = some handle ∧ handle.engine ≠ id
  events : SameSince o.events o'.events s.events s'.events
  told : SameSince (tidings o.moments) (tidings o'.moments) (tidings s.moments) (tidings s'.moments)
  notices : SameSince o.notices o'.notices s.notices s'.notices

/-- A lookup that finds a handle of the engine itself. -/
def Lookup.Own (id : EngineId) (l : Lookup) : Prop := l.handle.engine = id

instance Lookup.decidableOwn (id : EngineId) (l : Lookup) : Decidable (l.Own id) :=
  inferInstanceAs (Decidable (l.handle.engine = id))

namespace Shared.Peer

variable {id : EngineId} {o o' s s' : Shared ν} {handle : Handle}

theorem rebase (h : Peer id o o' s s') : Peer id s s' s s' := ⟨h.register, h.names, .refl .., .refl .., .refl ..⟩

theorem report (h : Peer id o o' s s') (notice : Notice) : Peer id o o' (s.report notice) (s'.report notice) :=
  ⟨h.register, h.names, h.events, h.told, h.notices.cons notice⟩

theorem record (h : Peer id o o' s s') (event : Event ν) : Peer id o o' (s.record event) (s'.record event) :=
  ⟨h.register, h.names, h.events.cons event, h.told, h.notices⟩

theorem turn (h : Peer id o o' s s') (turn turn' : Turn ν) : Peer id o o' (s.turn turn) (s'.turn turn') :=
  ⟨h.register, h.names, h.events, h.told, h.notices⟩

theorem mark (h : Peer id o o' s s') {moment moment' : Moment ν} (same : moment.told? = moment'.told?) :
    Peer id o o' (s.mark moment) (s'.mark moment') :=
  ⟨h.register, h.names, h.events, h.told.mark same, h.notices⟩

theorem setRegister (h : Peer id o o' s s') (r : Register) :
    Peer id o o' { s with board := s.board.setRegister id r } { s' with board := s'.board.setRegister id r } := by
  refine ⟨?_, h.names, h.events, h.told, h.notices⟩
  rw [Switchboard.get?_setRegister, Switchboard.get?_setRegister, if_pos rfl, if_pos rfl]

theorem hold (h : Peer id o o' s s') (name : String) (handle : Handle) :
    Peer id o o' { s with board := s.board.hold name handle } { s' with board := s'.board.hold name handle } := by
  refine ⟨h.register, fun other => ?_, h.events, h.told, h.notices⟩
  show (s.board.handles.put name handle).get? other = (s'.board.handles.put name handle).get? other ∨
    ∃ held, (s.board.handles.put name handle).get? other = some held ∧ held.engine ≠ id
  rw [Table.get?_put, Table.get?_put]
  split
  · exact .inl rfl
  · exact h.names other

theorem isArmed (h : Peer id o o' s s') (own : handle.engine = id) :
    s.board.isArmed handle = s'.board.isArmed handle := by
  rw [Switchboard.isArmed, Switchboard.isArmed, own, h.register]

theorem signal (h : Peer id o o' s s') (own : handle.engine = id) (target : Nat) :
    Agree (Peer id o o') (s.signal handle target) (s'.signal handle target) := by
  have armed := h.isArmed own
  rcases s.signal_cases handle target with ⟨here, hs⟩ | ⟨here, r, hr, -, hs⟩
  all_goals rcases s'.signal_cases handle target with ⟨there, hs'⟩ | ⟨there, r', hr', -, hs'⟩
  · rw [hs, hs']
    exact ⟨rfl, h⟩
  · exact absurd (here.symm.trans (armed.trans there)) Bool.false_ne_true
  · exact absurd (there.symm.trans (armed.symm.trans here)) Bool.false_ne_true
  · rw [own] at hr hr'
    obtain rfl : r = r' := Option.some.inj (hr.symm.trans (h.register.trans hr'))
    rw [hs, hs', own]
    exact ⟨rfl, (h.setRegister _).mark rfl⟩

theorem held (h : Peer id o o' s s') {name : String} {fires : Bool} (own : ∀ l ∈ s.lookUp name fires, l.Own id) :
    s.board.handles.get? name = s'.board.handles.get? name := by
  rcases h.names name with same | ⟨handle, held, other⟩
  · exact same
  · refine absurd (own ⟨handle, fires⟩ ?_) other
    rw [lookUp, held]
    exact List.mem_singleton_self _

theorem fire (h : Peer id o o' s s') {name : String} (own : ∀ l ∈ s.lookUp name true, l.Own id)
    (target : Option Nat) : Agree (Peer id o o') (s.fire name target) (s'.fire name target) := by
  rw [Shared.fire, Shared.fire, ← h.held own]
  cases held : s.board.handles.get? name with
  | none => exact ⟨rfl, h⟩
  | some handle =>
    rw [lookUp, held] at own
    exact (h.signal (own ⟨handle, true⟩ (List.mem_singleton_self _)) _).imp_left (congrArg some)

theorem armed? (h : Peer id o o' s s') {name : String} (own : ∀ l ∈ s.lookUp name false, l.Own id) :
    s.board.armed? name = s'.board.armed? name := by
  rw [Switchboard.armed?, Switchboard.armed?, ← h.held own]
  cases held : s.board.handles.get? name with
  | none => rfl
  | some handle =>
    rw [lookUp, held] at own
    exact congrArg some (h.isArmed (own ⟨handle, false⟩ (List.mem_singleton_self _)))

theorem answer (h : Peer id o o' s s') (question : HostQuestion ν)
    (own : ∀ l ∈ Shared.asked question s, l.Own id) :
    Agree (Peer id o o') (s.answer question) (s'.answer question) := by
  cases question with
  | fire name target => exact h.fire own target
  | armed name => exact ⟨h.armed? own, h⟩
  | note value => exact ⟨rfl, h.record (.noted value)⟩

end Shared.Peer

namespace Machine

/-- The same engine in two places, and what it has come to there since `o` and `o'`. -/
structure Peer (id : EngineId) (o o' : Shared ν) (m m' : Machine σ ν) : Prop where
  engine : m.engine = m'.engine
  own : m.engine.id = id
  shared : Shared.Peer id o o' m.shared m'.shared

/-- Peers stay in step as long as all that is looked up is their own. -/
theorem inStep_peer (id : EngineId) (o o' : Shared ν) :
    InStep (Lookup.Own id) (Peer id o o' : Machine σ ν → Machine σ ν → Prop) where
  engine h := h.engine
  register := by
    intro m m' h
    rw [Machine.register, Machine.register, ← h.engine, h.own, Switchboard.register, Switchboard.register,
      h.shared.register]
  setEngine h _ same := ⟨rfl, same.trans h.own, h.shared⟩
  setRegister := by
    intro m m' h r
    refine ⟨h.engine, h.own, ?_⟩
    rw [Machine.setRegister, Machine.setRegister, ← h.engine, h.own]
    exact h.shared.setRegister r
  record h event := ⟨h.engine, h.own, h.shared.record event⟩
  report h notice := ⟨h.engine, h.own, h.shared.report notice⟩
  turn h turn turn' := ⟨h.engine, h.own, h.shared.turn turn turn'⟩
  mark h _ _ same _ := ⟨h.engine, h.own, h.shared.mark same⟩
  hold h name handle _ := ⟨h.engine, h.own, h.shared.hold name handle⟩
  signal h _ own target :=
    (h.shared.signal (own.trans h.own) target).imp_right fun shared => ⟨h.engine, h.own, shared⟩
  answer h question such :=
    (h.shared.answer question such).imp_right fun shared => ⟨h.engine, h.own, shared⟩

end Machine

end Sequencer
