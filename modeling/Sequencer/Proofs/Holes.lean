import Sequencer.Proofs.Sights

/-!
# Holes do not show

Two engines whose commands are the same go on alike, wherever their sequences have holes, whatever is stale in
them, and whenever their hosts add or drop holes or refresh the caches.
-/

namespace Sequencer

variable {σ ν : Type}

/-! ## Operations but for the holes -/

def Operation.isTidying : Operation σ ν → Bool
  | .edit change => change.isTidying
  | .call .. | .drive .. | .fire .. => false

def Operation.isBySlot : Operation σ ν → Bool
  | .edit change => change.isBySlot
  | .call .. | .drive .. | .fire .. => false

/-- The same operations, none of which goes by slot. Edits of the holes and the caches come anywhere in between. -/
inductive SameButTidying : List (Operation σ ν) → List (Operation σ ν) → Prop where
  | nil : SameButTidying [] []
  | left {edit : Edit σ} {operations operations' : List (Operation σ ν)} : edit.isTidying = true →
    SameButTidying operations operations' → SameButTidying (.edit edit :: operations) operations'
  | right {edit : Edit σ} {operations operations' : List (Operation σ ν)} : edit.isTidying = true →
    SameButTidying operations operations' → SameButTidying operations (.edit edit :: operations')
  | both {operation : Operation σ ν} {operations operations' : List (Operation σ ν)} :
    operation.isTidying = false → operation.isBySlot = false →
    SameButTidying operations operations' → SameButTidying (operation :: operations) (operation :: operations')

/-! ## What shows -/

/-- What the host sees of an engine, layout apart, with what has been recorded and told since the origin. -/
structure Look (σ ν : Type) where
  state : EngineState
  active : Option Nat
  previousActive : Option Nat
  faulted : Bool
  runCount : Nat
  total : Nat
  /-- The commands, and whether each is enabled and executing. -/
  commands : List (Command σ × Bool × Bool)
  labels : String → Option Nat
  locations : Nat → Option Location
  /-- Whether each handle that was put away is armed. -/
  armed : String → Option Bool
  /-- What a hook at each position is to see. -/
  sights : Nat → View
  events : List (Event ν)
  told : List (Event ν)

/--
Two looks that differ in the engine, and in the number of runs before, only. If the engines were `apart` in which
command was active before, they agree on it from the first activation on.
-/
structure Look.Agrees (apart : Prop) (o o' : Origin ν) (l l' : Look σ ν) : Prop where
  state : l.state = l'.state
  active : l.active = l'.active
  previousActive : (apart → ∃ event ∈ l.events, event.isActivation = true) →
    l.previousActive = l'.previousActive
  faulted : l.faulted = l'.faulted
  runCount : l.runCount + o'.run = l'.runCount + o.run
  total : l.total = l'.total
  commands : l.commands = l'.commands
  labels : l.labels = l'.labels
  locations : l.locations = l'.locations
  armed : l.armed = l'.armed
  sights : l.sights = l'.sights
  events : l'.events = l.events.map (Event.moved o o')
  told : l'.told = l.told.map (Event.moved o o')

namespace Machine

def look (o : Origin ν) (m : Machine σ ν) : Look σ ν where
  state := m.engine.state
  active := m.engine.active
  previousActive := m.engine.previousActive
  faulted := m.engine.isFaulted
  runCount := m.engine.runCount
  total := m.engine.sequence.len
  commands := m.engine.sequence.entries.map fun e => (e.command, e.enabled, e.executing)
  labels := m.engine.findLabel?
  locations := m.engine.locationOf
  armed := m.shared.board.armed?
  sights := m.engine.sequence.sight
  events := since o.events m.shared.events
  told := since o.told (tidings m.shared.moments)

/-- What the operations answer, apart from those on the holes and the caches. -/
def answers [Behaviour σ ν] (m : Machine σ ν) : List (Operation σ ν) → List (Answer σ)
  | [] => []
  | operation :: rest =>
    let (answer, m) := m.operate operation
    if operation.isTidying then m.answers rest else answer :: m.answers rest

/-! ## Twins with other holes -/

variable {apart : Prop} {o o' : Origin ν} {m m' : Machine σ ν}

theorem Twin.kin (h : m.Twin .kin apart o o' m') :
    m.engine.sequence.Kin (m.engine.isExecuting = true) m'.engine.sequence :=
  h.sequence

theorem Twin.look (h : m.Twin .kin apart o o' m') : Look.Agrees apart o o' (m.look o) (m'.look o') := by
  obtain ⟨events, told, activated⟩ := h.news
  have shown : ∀ s : Sequence σ, s.entries.map (fun e => (e.command, e.enabled, e.executing)) =
      s.plain.map fun e => (e.command, e.enabled, e.executing) := by
    intro s
    rw [Sequence.plain, List.map_map]
    rfl
  refine ⟨h.state, h.active, fun since => ?_, h.isFaulted, h.runCount_add, h.kin.len, ?_,
    funext h.kin.findLabel?, funext h.locationOf, funext h.shared.armed?, Sequence.sight_congr h.kin.forms,
    events, told⟩
  · by_cases start : apart
    · exact activated (since start)
    · exact h.previous start
  · exact (shown _).trans ((congrArg _ h.kin.plain).trans (shown _).symm)

theorem Twin.tidy (h : m.Twin .kin apart o o' m') {edit : Edit σ} (tidying : edit.isTidying = true) :
    (m.edit edit).2.Twin .kin apart o o' m' ∧ m.Twin .kin apart o o' (m'.edit edit).2 := by
  rw [Machine.edit, Machine.edit, Machine.editable, Machine.editable, ← h.isExecuting]
  by_cases busy : m.engine.isExecuting = true
  · rw [if_pos busy, if_pos busy]
    exact ⟨h, h⟩
  · rw [if_neg busy, if_neg busy]
    have left : (edit.apply m.engine.sequence).2.Kin (m.engine.isExecuting = true) m'.engine.sequence :=
      (h.kin.tidy tidying).mono busy
    have right : m.engine.sequence.Kin (m.engine.isExecuting = true) (edit.apply m'.engine.sequence).2 :=
      (h.kin.symm.tidy tidying).symm.mono busy
    exact ⟨h.setSequence left, h.setSequence right⟩

variable [Behaviour σ ν]

theorem Twin.after (h : m.Twin .kin apart o o' m') {operations operations' : List (Operation σ ν)}
    (same : SameButTidying operations operations') :
    m.answers operations = m'.answers operations' ∧
      (m.after operations).Twin .kin apart o o' (m'.after operations') := by
  -- Edits of the holes are steps of one of the twins alone, all others are steps of both.
  induction same generalizing m m' with
  | nil => exact ⟨rfl, h⟩
  | left tidying _ ih =>
    obtain ⟨answers, twin⟩ := ih (h.tidy tidying).1
    exact ⟨(if_pos tidying).trans answers, twin⟩
  | right tidying _ ih =>
    obtain ⟨answers, twin⟩ := ih (h.tidy tidying).2
    exact ⟨answers.trans (if_pos tidying).symm, twin⟩
  | @both operation _ _ visible position _ ih =>
    obtain ⟨answer, twin⟩ := h.operate operation fun edit heq => by
      rw [heq] at visible position
      exact h.kin.edit position visible
    obtain ⟨answers, twin⟩ := ih twin
    refine ⟨?_, twin⟩
    rw [Machine.answers, Machine.answers]
    dsimp only
    rw [if_neg (by simp [visible]), if_neg (by simp [visible]), answer, answers]

theorem AtRest.after (h : m.AtRest) {operations : List (Operation σ ν)}
    (back : ∀ answer ∈ m.answers operations, answer.isBack = true) : (m.after operations).AtRest := by
  induction operations generalizing m with
  | nil => exact h
  | cons operation rest ih =>
    rw [answers] at back
    dsimp only at back
    split at back
    · next tidying =>
      cases operation with
      | edit edit => exact ih (h.edit edit) back
      | call | drive | fire => simp [Operation.isTidying] at tidying
    · rw [List.forall_mem_cons] at back
      exact ih (h.operate back.1) back.2

end Machine

/-! ## Engines that differ in their holes -/

namespace Machine

/--
What is held under one name: handles of the activation that waits, handles of activations that do not, or a handle
of another engine that is as far in both.
-/
inductive Counterparts (m m' : Machine σ ν) : Handle → Handle → Prop where
  | live {handle handle' : Handle} : handle.engine = m.engine.id → handle'.engine = m'.engine.id →
    m.register.armed = some handle.ticket → m'.register.armed = some handle'.ticket →
    handle.index = handle'.index → Counterparts m m' handle handle'
  | dead {handle handle' : Handle} : handle.engine = m.engine.id → handle'.engine = m'.engine.id →
    m.register.armed ≠ some handle.ticket → m'.register.armed ≠ some handle'.ticket →
    Counterparts m m' handle handle'
  | foreign {handle : Handle} : handle.engine ≠ m.engine.id → handle.engine ≠ m'.engine.id →
    m.shared.board.registers.get? handle.engine = m'.shared.board.registers.get? handle.engine →
    Counterparts m m' handle handle

/-- The same commands, and the same run in flight or none. Holes, caches and past may be different. -/
structure Akin (m m' : Machine σ ν) : Prop where
  name : m.engine.name = m'.engine.name
  listener : m.engine.listener = m'.engine.listener
  diagnostics : m.engine.diagnostics = m'.engine.diagnostics
  script : m.engine.sequence.script = m'.engine.sequence.script
  run : m.engine.run = m'.engine.run
  waits : m.engine.isExecuting = true →
    m.register.pending = m'.register.pending ∧ m.register.armed.isSome = m'.register.armed.isSome
  handles : ∀ name, Option.Rel (m.Counterparts m') (m.shared.board.handles.get? name)
    (m'.shared.board.handles.get? name)

/-- The origin from which the activation counts that waits. -/
def vantage (m : Machine σ ν) : Origin ν :=
  { m.origin with ticket := m.register.lastTicket - if m.register.armed.isSome then 1 else 0 }

variable {m m' : Machine σ ν} {handle : Handle} {ticket : Ticket}

theorem AtRest.ticket_of_armed (h : m.AtRest) (armed : m.register.armed = some ticket) :
    ticket = m.register.lastTicket ∧ m.register.lastTicket = m.vantage.ticket + 1 := by
  have executing : m.engine.isExecuting = true := by
    by_contra idle
    have disarmed := (h.settled.idle (run_of_not_executing idle)).2
    rw [disarmed] at armed
    simp at armed
  have issued := List.mem_of_mem_head? (Engine.AtRest.head_activations
    ⟨h.stands.core, h.stands.hears, h.settled⟩ executing)
  rw [h.stands.core.ledger.tickets, List.mem_reverse, List.mem_range'_1] at issued
  refine ⟨(h.stands.core.ledger.armed ticket armed).1, ?_⟩
  rw [vantage, armed]
  exact (Nat.sub_add_cancel issued.1).symm

theorem AtRest.expired (h : m.AtRest) (own : handle.engine = m.engine.id)
    (issued : Issued m.shared.moments handle) (dead : m.register.armed ≠ some handle.ticket) :
    handle.ticket ≤ m.vantage.ticket := by
  obtain ⟨board, called⟩ := issued
  obtain ⟨engine, ticket, index⟩ := handle
  obtain rfl : engine = m.engine.id := own
  have old := mem_activations called
  rw [h.stands.core.ledger.tickets, List.mem_reverse, List.mem_range'_1, Nat.add_comm] at old
  have last : ticket ≤ m.register.lastTicket := Nat.le_of_lt_succ old.2
  show ticket ≤ m.vantage.ticket
  cases armed : m.register.armed with
  | none =>
    rw [vantage, armed]
    exact last
  | some latest =>
    obtain ⟨rfl, next⟩ := h.ticket_of_armed armed
    have other : ticket ≠ m.register.lastTicket := fun heq => dead (by rw [armed, heq])
    have before := Nat.lt_of_le_of_ne last other
    rw [next] at before
    exact Nat.le_of_lt_succ before

theorem AtRest.sameRegister (h : m.AtRest) (h' : m'.AtRest)
    (same : m.register.armed.isSome = m'.register.armed.isSome) :
    SameRegister m.vantage m'.vantage m.register m'.register := by
  cases armed : m.register.armed with
  | none =>
    rw [armed] at same
    have armed' : m'.register.armed = none := Option.not_isSome_iff_eq_none.mp (by simp [← same])
    refine ⟨⟨0, ?_, ?_⟩, by rw [armed, armed']; exact .none⟩
    · rw [vantage, armed]
      rfl
    · rw [vantage, armed']
      rfl
  | some ticket =>
    rw [armed] at same
    obtain ⟨ticket', armed'⟩ := Option.isSome_iff_exists.mp same.symm
    obtain ⟨rfl, next⟩ := h.ticket_of_armed armed
    obtain ⟨rfl, next'⟩ := h'.ticket_of_armed armed'
    refine ⟨⟨1, next, next'⟩, ?_⟩
    rw [armed, armed']
    exact .some ⟨1, Nat.one_pos, next, next'⟩

theorem Counterparts.held {handle' : Handle} (pair : m.Counterparts m' handle handle') (h : m.AtRest)
    (h' : m'.AtRest) (issued : Issued m.shared.moments handle) (issued' : Issued m'.shared.moments handle') :
    SameHeld m.vantage m'.vantage m.shared.board m'.shared.board handle handle' := by
  cases pair with
  | live own own' armed armed' index =>
    obtain ⟨last, next⟩ := h.ticket_of_armed armed
    obtain ⟨last', next'⟩ := h'.ticket_of_armed armed'
    exact .issued ⟨own, own', ⟨1, Nat.one_pos, last.trans next, last'.trans next'⟩, index⟩
  | dead own own' dead dead' =>
    exact .expired own own' (h.expired own issued dead) (h'.expired own' issued' dead')
  | foreign other other' same => exact .foreign other other' same

theorem Akin.twin (akin : m.Akin m') (h : m.AtRest) (h' : m'.AtRest) :
    m.Twin .kin (m.engine.previousActive ≠ m'.engine.previousActive) m.vantage m'.vantage m' := by
  have active : m.engine.active = m'.engine.active := by rw [Engine.active, Engine.active, akin.run]
  have executing : m.engine.isExecuting = m'.engine.isExecuting := by
    rw [Engine.isExecuting, Engine.isExecuting, akin.run]
  have armed : m.register.armed.isSome = m'.register.armed.isSome := by
    by_cases busy : m.engine.isExecuting = true
    · exact (akin.waits busy).2
    · have idle := h.settled.idle (run_of_not_executing busy)
      rw [executing] at busy
      have idle' := h'.settled.idle (run_of_not_executing busy)
      rw [idle.2, idle'.2]
  have marked := h.stands.core.marked
  rw [active] at marked
  have kin : m.engine.sequence.Kin (m.engine.isExecuting = true) m'.engine.sequence :=
    ⟨h.stands.core.coherent, h'.stands.core.coherent,
      Sequence.plain_congr akin.script marked h'.stands.core.marked,
      fun busy => ⟨h.stands.core.fresh busy, h'.stands.core.fresh (executing ▸ busy)⟩⟩
  refine ⟨rfl, rfl, akin.name, akin.listener, akin.diagnostics, kin, akin.run, ⟨0, rfl, rfl⟩,
    fun together => not_not.mp together, ?_⟩
  -- While the engines are idle, jumps that are left over in their registers may differ.
  refine ⟨h.stands.core.registered, h'.stands.core.registered, h.sameRegister h' armed,
    fun busy => (akin.waits busy).1, fun name => ?_, .refl .., .refl ..⟩
  have pairs := akin.handles name
  have issued := h.stands.history.issued name
  have issued' := h'.stands.history.issued name
  generalize m.shared.board.handles.get? name = held at pairs issued
  generalize m'.shared.board.handles.get? name = held' at pairs issued'
  cases pairs with
  | none => exact .none
  | some pair => exact .some (pair.held h h' (issued _ rfl) (issued' _ rfl))

end Machine

/-! ## The main result -/

/--
Holes do not show. Two engines with the same commands, wherever the holes are and whatever is stale, answer
alike and look alike whatever their hosts do with them, and so do the sequences to all hooks that are called.
-/
theorem holes_invisible [Behaviour σ ν] {ids ids' : List EngineId} {s s' : Studio σ ν} {number number' : Nat}
    {e e' : Engine σ ν} (h : Reachable ids s) (h' : Reachable ids' s') (he : s.engine? number = some e)
    (he' : s'.engine? number' = some e') (akin : Machine.Akin ⟨e, s.shared⟩ ⟨e', s'.shared⟩)
    {operations operations' : List (Operation σ ν)} (same : SameButTidying operations operations') :
    let m : Machine σ ν := ⟨e, s.shared⟩
    let m' : Machine σ ν := ⟨e', s'.shared⟩
    let look := (m.after operations).look m.origin
    let look' := (m'.after operations').look m'.origin
    m.answers operations = m'.answers operations' ∧
    Look.Agrees (e.previousActive ≠ e'.previousActive) m.origin m'.origin look look' ∧
    ((∀ answer ∈ m.answers operations, answer.isBack = true) →
      (m.after operations).Shows look.sights ∧ (m'.after operations').Shows look'.sights) := by
  intro m m' look look'
  have rest : m.AtRest := h.sound.machine he
  have rest' : m'.AtRest := h'.sound.machine he'
  obtain ⟨answers, twin⟩ := (akin.twin rest rest').after same
  refine ⟨answers, { twin.look with }, fun back => ⟨(rest.after back).shows, (rest'.after ?_).shows⟩⟩
  rwa [← answers]

/-! ## A keeper behind a hole -/

/-- The run of a keeper that has a hole in front of it. -/
def keeperBehindHole : Studio Cue Note :=
  ((Studio.add {} (.create ⟨9⟩ "engine" ((Edit.push keeper).apply (Edit.pushHole.apply {}).2).2
    (some .recorder) true)).act 10 (.call 0 (.execute 0 none))).2

theorem reachable_keeperBehindHole : Reachable [⟨9⟩] keeperBehindHole :=
  .act 10 (.call 0 (.execute 0 none))
    (.add ⟨9⟩ "engine" (some .recorder) true .start (by simp) (.edit (.push keeper) (.edit .pushHole .empty))) rfl

/-- The keeper is signalled, and then a line is added and spoken. -/
def keeperRound : List (Operation Cue Note) :=
  [.fire "kept" none, .call 10 .tick, .edit (.push (Cue.makeSay "done")), .edit .refresh,
    .call 10 (.execute 1 none)]

/-- The same with other edits of the holes. -/
def keeperRoundBehindHole : List (Operation Cue Note) :=
  [.fire "kept" none, .call 10 .tick, .edit .purgeHoles, .edit .pushHole,
    .edit (.push (Cue.makeSay "done")), .call 10 (.execute 1 none)]

theorem holes_invisible_keeper : ∃ e e', keeperWaiting.engine? 0 = some e ∧
    keeperBehindHole.engine? 0 = some e' ∧ e.sequence.slotCount ≠ e'.sequence.slotCount ∧
    let m : Machine Cue Note := ⟨e, keeperWaiting.shared⟩
    let m' : Machine Cue Note := ⟨e', keeperBehindHole.shared⟩
    m.Akin m' ∧ SameButTidying keeperRound keeperRoundBehindHole ∧
    m.answers keeperRound = m'.answers keeperRoundBehindHole ∧
    Look.Agrees (e.previousActive ≠ e'.previousActive) m.origin m'.origin
      ((m.after keeperRound).look m.origin) ((m'.after keeperRoundBehindHole).look m'.origin) ∧
    (m.after keeperRound).Shows (m.after keeperRound).engine.sequence.sight := by
  obtain ⟨e, he⟩ := Option.isSome_iff_exists.mp (by decide : (keeperWaiting.engine? 0).isSome = true)
  obtain ⟨e', he'⟩ := Option.isSome_iff_exists.mp (by decide : (keeperBehindHole.engine? 0).isSome = true)
  have own : ∀ e ∈ keeperWaiting.engine? 0, e.id = keeperId := by decide
  have own' : ∀ e ∈ keeperBehindHole.engine? 0, e.id = ⟨9⟩ := by decide
  have settings : ∀ e ∈ keeperWaiting.engine? 0, ∀ e' ∈ keeperBehindHole.engine? 0, e.name = e'.name ∧
      e.listener = e'.listener ∧ e.diagnostics = e'.diagnostics ∧ e.sequence.script = e'.sequence.script ∧
      e.sequence.slotCount ≠ e'.sequence.slotCount := by decide +kernel
  have runs : (keeperWaiting.engine? 0).map Engine.run = (keeperBehindHole.engine? 0).map Engine.run := rfl
  have register : keeperWaiting.shared.board.register keeperId = ⟨1, some 1, none⟩ := by decide +kernel
  have register' : keeperBehindHole.shared.board.register ⟨9⟩ = ⟨1, some 1, none⟩ := by decide +kernel
  have kept : keeperWaiting.shared.board.handles = ⟨[("kept", ⟨keeperId, 1, 0⟩)]⟩ := rfl
  have kept' : keeperBehindHole.shared.board.handles = ⟨[("kept", ⟨⟨9⟩, 1, 0⟩)]⟩ := rfl
  obtain ⟨name, listener, diagnostics, script, slots⟩ := settings e he e' he'
  replace own := own e he
  replace own' := own' e' he'
  rw [he, he'] at runs
  rw [← own] at register
  rw [← own'] at register'
  have akin : Machine.Akin ⟨e, keeperWaiting.shared⟩ ⟨e', keeperBehindHole.shared⟩ := by
    refine ⟨name, listener, diagnostics, script, Option.some.inj runs, fun _ => ?_, fun name => ?_⟩
    · rw [Machine.register, Machine.register, register, register']
      exact ⟨rfl, rfl⟩
    · simp only [kept, kept', Table.get?, Table.find?]
      split
      · exact .some (Machine.Counterparts.live own.symm own'.symm (congrArg Register.armed register)
          (congrArg Register.armed register') rfl)
      · exact .none
  have same : SameButTidying keeperRound keeperRoundBehindHole :=
    .both rfl rfl (.both rfl rfl (.right rfl (.right rfl (.both rfl rfl (.left rfl (.both rfl rfl .nil))))))
  have back : ∀ e ∈ keeperWaiting.engine? 0, ∀ answer ∈ Machine.answers ⟨e, keeperWaiting.shared⟩ keeperRound,
      answer.isBack = true := by decide +kernel
  obtain ⟨answers, agrees, shows⟩ :=
    holes_invisible reachable_keeperWaiting reachable_keeperBehindHole he he' akin same
  exact ⟨e, e', he, he', slots, akin, same, answers, agrees, (shows (back e he)).1⟩

end Sequencer
