import Sequencer.Proofs.Engine.Peers

/-!
# Machines abreast

Two machines that look the same go on in the same way, whatever they have been through. How they have got there
does not matter, so the relation only speaks of what has come to pass since then.
-/

namespace Sequencer

variable {σ ν : Type}

namespace Machine

/-- The same engine on the same switchboard, which has recorded, told and reported the same since `o` and `o'`. -/
structure Abreast (o o' : Shared ν) (m m' : Machine σ ν) : Prop where
  engine : m.engine = m'.engine
  board : m.shared.board = m'.shared.board
  events : SameSince o.events o'.events m.shared.events m'.shared.events
  told : SameSince (tidings o.moments) (tidings o'.moments) (tidings m.shared.moments) (tidings m'.shared.moments)
  notices : SameSince o.notices o'.notices m.shared.notices m'.shared.notices

namespace Abreast

variable {o o' : Shared ν} {m m' : Machine σ ν} {handle : Handle}

theorem start (engine : m.engine = m'.engine) (board : m.shared.board = m'.shared.board) :
    Abreast m.shared m'.shared m m' :=
  ⟨engine, board, .refl .., .refl .., .refl ..⟩

theorem setBoard (h : Abreast o o' m m') (change : Switchboard → Switchboard) :
    Abreast o o' { m with shared := { m.shared with board := change m.shared.board } }
      { m' with shared := { m'.shared with board := change m'.shared.board } } :=
  ⟨h.engine, congrArg change h.board, h.events, h.told, h.notices⟩

theorem record (h : Abreast o o' m m') (event : Event ν) : Abreast o o' (m.record event) (m'.record event) :=
  ⟨h.engine, h.board, h.events.cons event, h.told, h.notices⟩

theorem mark (h : Abreast o o' m m') {moment moment' : Moment ν} (same : moment.told? = moment'.told?) :
    Abreast o o' (m.mark moment) (m'.mark moment') :=
  ⟨h.engine, h.board, h.events, h.told.mark same, h.notices⟩

theorem signal (h : Abreast o o' m m') (handle : Handle) (target : Nat) :
    Agree (fun s s' => Abreast o o' { m with shared := s } { m' with shared := s' }) (m.shared.signal handle target)
      (m'.shared.signal handle target) := by
  have signalled := h.setBoard fun board => (board.signal handle target).2
  rw [Shared.signal, Shared.signal]
  dsimp only
  rw [← h.board] at signalled ⊢
  refine ⟨rfl, ?_⟩
  dsimp only
  split
  · have same : (Moment.landed handle : Moment ν).told? = (Moment.landed handle).told? := rfl
    exact signalled.mark same
  · exact signalled

theorem fire (h : Abreast o o' m m') (name : String) (target : Option Nat) :
    Agree (fun s s' => Abreast o o' { m with shared := s } { m' with shared := s' }) (m.shared.fire name target)
      (m'.shared.fire name target) := by
  rw [Shared.fire, Shared.fire, ← h.board]
  cases m.shared.board.handles.get? name with
  | none => exact ⟨rfl, h⟩
  | some handle => exact (h.signal handle _).imp_left (congrArg some)

theorem answer (h : Abreast o o' m m') (question : HostQuestion ν) :
    Agree (fun s s' => Abreast o o' { m with shared := s } { m' with shared := s' }) (m.shared.answer question)
      (m'.shared.answer question) := by
  cases question with
  | fire name target => exact h.fire name target
  | armed name => exact ⟨congrArg (·.armed? name) h.board, h⟩
  | note value => exact ⟨rfl, h.record (.noted value)⟩

end Abreast

theorem inStep_abreast (o o' : Shared ν) :
    InStep (fun _ => True) (Abreast o o' : Machine σ ν → Machine σ ν → Prop) where
  engine h := h.engine
  register h := by rw [Machine.register, Machine.register, h.engine, h.board]
  setEngine h _ _ := ⟨rfl, h.board, h.events, h.told, h.notices⟩
  setRegister := by
    intro m m' h r
    refine ⟨h.engine, ?_, h.events, h.told, h.notices⟩
    show m.shared.board.setRegister m.engine.id r = m'.shared.board.setRegister m'.engine.id r
    rw [h.engine, h.board]
  record h event := h.record event
  report h notice := ⟨h.engine, h.board, h.events, h.told, h.notices.cons notice⟩
  turn h _ _ := ⟨h.engine, h.board, h.events, h.told, h.notices⟩
  mark h _ _ same _ := h.mark same
  hold h name handle _ := h.setBoard (·.hold name handle)
  signal h handle _ target := h.signal handle target
  answer h question _ := h.answer question

end Machine

end Sequencer
