import Sequencer.Proofs.Engine.InStep

/-!
# Bystanders

Whatever an engine does, the others only stand by. All that can happen to one of them is that a signal for it
lands, which shows in its register and among the moments, and that takes a shot of one of its handles.
-/

namespace Sequencer

variable {σ ν : Type}

/-! ## Lists that grow at the front -/

/-- What has been put in front of the old is such. -/
def Grows {α : Type} (P : α → Prop) (old all : List α) : Prop := ∃ new, all = new ++ old ∧ ∀ a ∈ new, P a

namespace Grows

variable {α : Type} {P : α → Prop} {a : α} {old all all' : List α}

theorem refl (P : α → Prop) (old : List α) : Grows P old old := ⟨[], rfl, by simp⟩

theorem cons (h : Grows P old all) (ha : P a) : Grows P old (a :: all) := by
  obtain ⟨new, rfl, such⟩ := h
  exact ⟨a :: new, rfl, List.forall_mem_cons.mpr ⟨ha, such⟩⟩

theorem trans (h : Grows P old all) (h' : Grows P all all') : Grows P old all' := by
  obtain ⟨new, rfl, such⟩ := h
  obtain ⟨new', rfl, such'⟩ := h'
  exact ⟨new' ++ new, (List.append_assoc ..).symm, List.forall_mem_append.mpr ⟨such', such⟩⟩

theorem mono {Q : α → Prop} (h : Grows P old all) (weaker : ∀ a, P a → Q a) : Grows Q old all := by
  obtain ⟨new, rfl, such⟩ := h
  exact ⟨new, rfl, fun a ha => weaker a (such a ha)⟩

theorem since (h : Grows P old all) : ∀ a ∈ since old all, P a := by
  obtain ⟨new, rfl, such⟩ := h
  rwa [since_append]

end Grows

/-! ## What is left of an engine that stands by -/

/-- A signal has landed, where one could land. -/
inductive Register.Signalled (r : Register) : Register → Prop where
  | intro {ticket : Ticket} (target : Nat) : r.armed = some ticket → Signalled r (r.force (.to target))

/-- From the one to the other, nothing has happened to the engine but that a signal may have landed. -/
structure Shared.Spares (id : EngineId) (s s' : Shared ν) : Prop where
  events : Grows (fun event => event.engine? ≠ some id) s.events s'.events
  turns : Grows (fun turn => turn.engine ≠ id) s.turns s'.turns
  moments : Grows (fun moment => moment.engine? = some id → ∃ handle, moment = .landed handle) s.moments s'.moments
  register : s'.board.registers.get? id = s.board.registers.get? id ∨
    (∃ handle, .landed handle ∈ since s.moments s'.moments ∧ handle.engine = id) ∧
      ∃ r r', s.board.registers.get? id = some r ∧ r.Signalled r' ∧ s'.board.registers.get? id = some r'
  /-- Names may be taken for the handles of other engines. -/
  names : ∀ name, s'.board.handles.get? name = s.board.handles.get? name ∨
    ∃ handle, s'.board.handles.get? name = some handle ∧ handle.engine ≠ id

namespace Shared.Spares

variable {id : EngineId} {s s' s'' : Shared ν}

theorem refl (id : EngineId) (s : Shared ν) : s.Spares id s :=
  ⟨.refl .., .refl .., .refl .., .inl rfl, fun _ => .inl rfl⟩

theorem trans (h : s.Spares id s') (h' : s'.Spares id s'') : s.Spares id s'' := by
  refine ⟨h.events.trans h'.events, h.turns.trans h'.turns, h.moments.trans h'.moments, ?_, fun name => ?_⟩
  · obtain ⟨new, moments, -⟩ := h.moments
    obtain ⟨new', moments', -⟩ := h'.moments
    have all : since s.moments s''.moments = new' ++ new := by
      rw [moments', moments, ← List.append_assoc, since_append]
    have first : since s.moments s'.moments = new := by rw [moments, since_append]
    have second : since s'.moments s''.moments = new' := by rw [moments', since_append]
    have register := h.register
    have register' := h'.register
    rw [first] at register
    rw [second] at register'
    rw [all]
    rcases register with same | ⟨⟨handle, landed, own⟩, r, r', before, signalled, after⟩
    · rcases register' with same' | ⟨⟨handle, landed, own⟩, r, r', before, signalled, after⟩
      · exact .inl (same'.trans same)
      · exact .inr ⟨⟨handle, List.mem_append_left _ landed, own⟩, r, r', same.symm.trans before, signalled, after⟩
    · refine .inr ⟨⟨handle, List.mem_append_right _ landed, own⟩, r, r', before, signalled, ?_⟩
      rcases register' with same' | ⟨-, r, -, again, ⟨_, armed⟩, -⟩
      · exact same'.trans after
      · -- A second signal finds no ticket armed.
        obtain rfl : r' = r := Option.some.inj (after.symm.trans again)
        obtain ⟨target, -⟩ := signalled
        cases armed
  · rcases h'.names name with same' | foreign
    · rw [same']
      exact h.names name
    · exact .inr foreign

theorem signal (id : EngineId) (s : Shared ν) (handle : Handle) (target : Nat) :
    s.Spares id (s.signal handle target).2 := by
  rcases s.signal_cases handle target with ⟨-, hs⟩ | ⟨-, r, hr, armed, hs⟩
  · rw [hs]
    exact .refl id s
  · rw [hs]
    refine ⟨.refl .., .refl .., (Grows.refl ..).cons fun _ => ⟨handle, rfl⟩, ?_, fun _ => .inl rfl⟩
    show (s.board.setRegister handle.engine _).registers.get? id = _ ∨ _ ∧ ∃ r r', _ ∧ _ ∧
      (s.board.setRegister handle.engine _).registers.get? id = some r'
    rw [Switchboard.get?_setRegister]
    by_cases own : handle.engine = id
    · subst own
      rw [if_pos rfl]
      refine .inr ⟨⟨handle, ?_, rfl⟩, r, _, hr, ⟨target, armed⟩, rfl⟩
      exact (since_append [.landed handle] s.moments).symm ▸ List.mem_singleton_self _
    · rw [if_neg (Ne.symm own)]
      exact .inl rfl

theorem answer (id : EngineId) (s : Shared ν) (question : HostQuestion ν) : s.Spares id (s.answer question).2 := by
  rcases s.answer_cases question with same | ⟨handle, target, same⟩ | ⟨value, same⟩ <;> rw [same]
  · exact .refl id s
  · exact .signal id s handle target
  · exact ⟨(Grows.refl ..).cons (by simp [Event.engine?]), .refl .., .refl .., .inl rfl, fun _ => .inl rfl⟩

end Shared.Spares

section

variable {id : EngineId} {o m : Machine σ ν}

theorem Move.spares (move : Move o m) (other : o.engine.id ≠ id) : o.shared.Spares id m.shared := by
  cases move with
  | register step =>
    refine ⟨.refl .., .refl .., .refl .., .inl ?_, fun _ => .inl rfl⟩
    exact Switchboard.get?_setRegister.trans (if_neg (Ne.symm other))
  | record _ own =>
    have others := fun heq => other (own id heq).symm
    exact ⟨(Grows.refl ..).cons others, .refl .., .refl .., .inl rfl, fun _ => .inl rfl⟩
  | turn own => exact ⟨.refl .., (Grows.refl ..).cons (own ▸ other), .refl .., .inl rfl, fun _ => .inl rfl⟩
  | mark own =>
    exact ⟨.refl .., .refl .., (Grows.refl ..).cons fun heq => absurd (Option.some.inj (own.symm.trans heq)) other,
      .inl rfl, fun _ => .inl rfl⟩
  | @hold name handle own =>
    refine ⟨.refl .., .refl .., .refl .., .inl rfl, fun name' => ?_⟩
    show (o.shared.board.handles.put name handle).get? name' = _ ∨ ∃ held,
      (o.shared.board.handles.put name handle).get? name' = some held ∧ _
    rw [Table.get?_put]
    split
    · exact .inr ⟨handle, rfl, own ▸ other⟩
    · exact .inl rfl
  | signal handle target => exact .signal id o.shared handle target
  | @tell event notice own =>
    have others : event.engine? ≠ some id := fun heq => other (Option.some.inj (own.symm.trans heq))
    have unheard : (Moment.told event).engine? = some id → ∃ handle, Moment.told event = .landed handle :=
      fun heq => absurd heq others
    rw [Machine.tell]
    split
    · exact .refl id o.shared
    · exact ⟨(Grows.refl ..).cons others, .refl .., (Grows.refl ..).cons unheard, .inl rfl, fun _ => .inl rfl⟩
    · exact ⟨.refl .., .refl .., (Grows.refl ..).cons unheard, .inl rfl, fun _ => .inl rfl⟩
  | run | count | sequence => exact .refl id o.shared
  | report notice => exact ⟨.refl .., .refl .., .refl .., .inl rfl, fun _ => .inl rfl⟩

theorem Moves.spares (h : Moves o m) (other : o.engine.id ≠ id) : o.shared.Spares id m.shared := by
  induction h with
  | refl => exact .refl id o.shared
  | tail h move ih => exact ih.trans (move.spares ((Moves.kept h).id.trans_ne other))

variable [Behaviour σ ν]

theorem Machine.moves_operate (m : Machine σ ν) (operation : Operation σ ν) :
    Moves m (m.operate operation).2 ∨
      (m.operate operation).2.shared = m.shared ∧ (m.operate operation).2.engine.id = m.engine.id := by
  cases operation with
  | call fuel call =>
    have called := (Moves.refl m).call fuel call
    rw [call_eq_reply] at called
    exact .inl called
  | drive fuel rounds interval maxTicks => exact .inl ((Moves.refl m).runUntilIdle fuel rounds interval maxTicks)
  | edit edit =>
    obtain ⟨shared, id, -⟩ := m.kept_edit edit
    exact .inr ⟨shared, id⟩
  | fire handle target => exact .inl ((Moves.refl m).answer (.fire handle target))

theorem Machine.id_operate (m : Machine σ ν) (operation : Operation σ ν) :
    (m.operate operation).2.engine.id = m.engine.id := by
  rcases m.moves_operate operation with moves | ⟨-, id⟩
  · exact moves.kept.id
  · exact id

theorem Machine.spares_operate {m : Machine σ ν} (operation : Operation σ ν) (other : m.engine.id ≠ id) :
    m.shared.Spares id (m.operate operation).2.shared := by
  rcases m.moves_operate operation with moves | ⟨same, -⟩
  · exact moves.spares other
  · rw [same]
    exact .refl id m.shared

end

/-! ## Shots -/

/-- A handle of the engine is fired. -/
def Lookup.Shoots (id : EngineId) (l : Lookup) : Prop := l.fires = true ∧ l.handle.engine = id

instance Lookup.decidableShoots (id : EngineId) (l : Lookup) : Decidable (l.Shoots id) :=
  inferInstanceAs (Decidable (l.fires = true ∧ l.handle.engine = id))

/-- Since `o`, no signal for the engine has landed. What is compared has the same switchboard. -/
structure Shared.Unshot (id : EngineId) (o s s' : Shared ν) : Prop where
  board : s.board = s'.board
  unshot : Grows (fun moment => moment.lands id = false) o.moments s.moments

namespace Shared.Unshot

variable {id : EngineId} {o s s' : Shared ν} {handle : Handle}

theorem refl (id : EngineId) (s : Shared ν) : Unshot id s s s := ⟨rfl, .refl ..⟩

theorem signal (h : Unshot id o s s') (other : handle.engine ≠ id) (target : Nat) :
    Agree (Unshot id o) (s.signal handle target) (s'.signal handle target) := by
  rw [Shared.signal, Shared.signal, ← h.board]
  obtain ⟨landed, board⟩ := s.board.signal handle target
  cases landed with
  | false => exact ⟨rfl, rfl, h.unshot⟩
  | true => exact ⟨rfl, rfl, h.unshot.cons (decide_eq_false other)⟩

theorem answer (h : Unshot id o s s') (question : HostQuestion ν)
    (unshot : ∀ l ∈ Shared.asked question s, ¬ l.Shoots id) :
    Agree (Unshot id o) (s.answer question) (s'.answer question) := by
  cases question with
  | fire name target =>
    rw [Shared.answer, Shared.answer, Shared.fire, Shared.fire, ← h.board]
    cases held : s.board.handles.get? name with
    | none => exact ⟨rfl, h⟩
    | some handle =>
      rw [Shared.asked, lookUp, held] at unshot
      have other : handle.engine ≠ id := fun own => unshot ⟨handle, true⟩ (List.mem_singleton_self _) ⟨rfl, own⟩
      exact (h.signal other _).imp_left (congrArg some)
  | armed name => exact ⟨congrArg (·.armed? name) h.board, h⟩
  | note value => exact ⟨rfl, h.board, h.unshot⟩

end Shared.Unshot

namespace Machine

/-- Another engine is at work, and since `o` no signal for the engine with the id has landed. -/
structure Unshot (id : EngineId) (o : Shared ν) (m m' : Machine σ ν) : Prop where
  engine : m.engine = m'.engine
  other : m.engine.id ≠ id
  shared : Shared.Unshot id o m.shared m'.shared

theorem inStep_unshot (id : EngineId) (o : Shared ν) :
    InStep (fun l => ¬ l.Shoots id) (Unshot id o : Machine σ ν → Machine σ ν → Prop) where
  engine h := h.engine
  register := by
    intro m m' h
    rw [Machine.register, Machine.register, h.engine, h.shared.board]
  setEngine h _ same := ⟨rfl, same.trans_ne h.other, h.shared⟩
  setRegister := by
    intro m m' h r
    refine ⟨h.engine, h.other, ?_, h.shared.unshot⟩
    rw [Machine.setRegister, Machine.setRegister, h.engine, h.shared.board]
  record h _ := ⟨h.engine, h.other, h.shared.board, h.shared.unshot⟩
  report h _ := ⟨h.engine, h.other, h.shared.board, h.shared.unshot⟩
  turn h _ _ := ⟨h.engine, h.other, h.shared.board, h.shared.unshot⟩
  mark h _ _ _ unlanded := ⟨h.engine, h.other, h.shared.board, h.shared.unshot.cons (unlanded id)⟩
  hold h name handle _ :=
    ⟨h.engine, h.other, congrArg (·.hold name handle) h.shared.board, h.shared.unshot⟩
  signal h _ own target :=
    (h.shared.signal (own.trans_ne h.other) target).imp_right fun shared => ⟨h.engine, h.other, shared⟩
  answer h question such :=
    (h.shared.answer question such).imp_right fun shared => ⟨h.engine, h.other, shared⟩

end Machine

end Sequencer
