import Sequencer.Proofs.Engine.TwinSteps
import Sequencer.Proofs.Handles

/-!
# What runs leave behind

Nothing of it matters: two idle engines that look the same go on alike, whatever they have been through, and
the handles of earlier activations are dead for good.
-/

namespace Sequencer

variable {σ ν : Type}

/-! ## Operations -/

/-- What a host can do with an engine, and with the handles that were put away. -/
inductive Operation (σ ν : Type) where
  | call (fuel : Nat) (call : Call σ ν)
  | drive (fuel rounds interval : Nat) (maxTicks : Option Nat)
  | edit (edit : Edit σ)
  | fire (handle : String) (target : Option Nat)

inductive Answer (σ : Type) where
  | replied (reply : CallReply)
  | driven (ended : DriveEnd)
  | edited (result : Except EngineError (EditReply σ))
  | fired (landed : Option Bool)
deriving DecidableEq

/-- What the host sees of an engine after an operation, with what has been recorded and told by then. -/
structure Glimpse (σ ν : Type) where
  answer : Answer σ
  state : EngineState
  active : Option Nat
  previousActive : Option Nat
  faulted : Bool
  runCount : Nat
  /-- The commands, and whether each is enabled and executing. -/
  slots : List (Option (Command σ × Bool × Bool))
  events : List (Event ν)
  told : List (Event ν)
deriving DecidableEq

/-- What stands in front of the old. -/
def since {α : Type} (old all : List α) : List α := all.take (all.length - old.length)

theorem since_append {α : Type} (new old : List α) : since old (new ++ old) = new := by
  rw [since, List.length_append, Nat.add_sub_cancel, List.take_left]

namespace Machine

def glimpse (o : Origin ν) (answer : Answer σ) (m : Machine σ ν) : Glimpse σ ν where
  answer
  state := m.engine.state
  active := m.engine.active
  previousActive := m.engine.previousActive
  faulted := m.engine.isFaulted
  runCount := m.engine.runCount
  slots := m.engine.sequence.slots.map (Option.map fun e => (e.command, e.enabled, e.executing))
  events := since o.events m.shared.events
  told := since o.told (tidings m.shared.moments)

variable [Behaviour σ ν]

def operate (m : Machine σ ν) : Operation σ ν → Answer σ × Machine σ ν
  | .call fuel call => (m.reply fuel call).map .replied id
  | .drive fuel rounds interval maxTicks => (m.runUntilIdle fuel rounds interval maxTicks).map .driven id
  | .edit edit => (m.edit edit).map .edited id
  | .fire handle target => (m.shared.fire handle target).map .fired fun shared => { m with shared }

def after (m : Machine σ ν) (operations : List (Operation σ ν)) : Machine σ ν :=
  operations.foldl (fun m operation => (m.operate operation).2) m

/-- What the host sees after each operation. -/
def glimpses (o : Origin ν) (m : Machine σ ν) : List (Operation σ ν) → List (Glimpse σ ν)
  | [] => []
  | operation :: rest =>
    let (answer, m) := m.operate operation
    m.glimpse o answer :: m.glimpses o rest

/-- What the host sees from now on. -/
def outlook (m : Machine σ ν) (operations : List (Operation σ ν)) : List (Glimpse σ ν) :=
  m.glimpses m.origin operations

omit [Behaviour σ ν] in
/-- Every handle that was put away is thrown away. -/
def forget (m : Machine σ ν) : Machine σ ν :=
  { m with shared := { m.shared with board := { m.shared.board with handles := {} } } }

/--
The operations, and the hooks and callbacks in them, make no use of the handles that were put away before: the
host sees the same if these are thrown away.
-/
def Ignores (m : Machine σ ν) (operations : List (Operation σ ν)) : Prop :=
  m.forget.outlook operations = m.outlook operations

instance [DecidableEq σ] [DecidableEq ν] (m : Machine σ ν) (operations : List (Operation σ ν)) :
    Decidable (m.Ignores operations) :=
  inferInstanceAs (Decidable (_ = _))

end Machine

/-! ## Twins go on alike -/

/-- Two glimpses that differ in the engine, and in the number of runs before, only. -/
structure Glimpse.Agrees (o o' : Origin ν) (g g' : Glimpse σ ν) : Prop where
  answer : g.answer = g'.answer
  state : g.state = g'.state
  active : g.active = g'.active
  /-- From the first activation on. -/
  previousActive : (∃ event ∈ g.events, event.isActivation = true) → g.previousActive = g'.previousActive
  faulted : g.faulted = g'.faulted
  runCount : g.runCount + o'.run = g'.runCount + o.run
  slots : g.slots = g'.slots
  events : g'.events = g.events.map (Event.moved o o')
  told : g'.told = g.told.map (Event.moved o o')

namespace Machine

variable {o o' : Origin ν} {m m' : Machine σ ν}

theorem Twin.news {like : Likeness σ} {apart : Prop} (h : m.Twin like apart o o' m') :
    since o'.events m'.shared.events = (since o.events m.shared.events).map (Event.moved o o') ∧
    since o'.told (tidings m'.shared.moments) =
      (since o.told (tidings m.shared.moments)).map (Event.moved o o') ∧
    ((∃ event ∈ since o.events m.shared.events, event.isActivation = true) →
      m.engine.previousActive = m'.engine.previousActive) := by
  obtain ⟨events, events_eq, events_eq', still⟩ := h.shared.events
  obtain ⟨told, told_eq, told_eq', -⟩ := h.shared.told
  rw [events_eq, events_eq', told_eq, told_eq', since_append, since_append, since_append, since_append]
  refine ⟨rfl, rfl, ?_⟩
  -- As long as the twins differ in what was active before, the news are quiet.
  rintro ⟨event, hm, active⟩
  by_contra differs
  rw [still differs event hm] at active
  exact Bool.false_ne_true active

theorem Twin.state {like : Likeness σ} {apart : Prop} (h : m.Twin like apart o o' m') :
    m.engine.state = m'.engine.state := by
  rw [Engine.state, Engine.state, h.isExecuting]

theorem Twin.runCount_add {like : Likeness σ} {apart : Prop} (h : m.Twin like apart o o' m') :
    m.engine.runCount + o'.run = m'.engine.runCount + o.run := by
  obtain ⟨count, here, there⟩ := h.runCount
  omega

theorem Twin.glimpse (h : m.Twin .alike True o o' m') (answer : Answer σ) :
    Glimpse.Agrees o o' (m.glimpse o answer) (m'.glimpse o' answer) := by
  obtain ⟨events, told, activated⟩ := h.news
  refine ⟨rfl, h.state, h.active, activated, h.isFaulted, h.runCount_add, ?_, events, told⟩
  -- Who owns an entry does not show.
  have shown : ∀ slots : Slots σ, slots.map (Option.map fun e => (e.command, e.enabled, e.executing)) =
      (Slots.anonymous slots).map (Option.map fun e => (e.command, e.enabled, e.executing)) := by
    intro slots
    rw [Slots.anonymous, List.map_map]
    refine congrArg (List.map · slots) (funext fun slot => ?_)
    cases slot <;> rfl
  have alike : m.engine.sequence.Alike m'.engine.sequence := h.sequence
  exact (shown _).trans ((congrArg _ alike.slots).trans (shown _).symm)

variable [Behaviour σ ν]

theorem Twin.operate {like : Likeness σ} {apart : Prop} (h : m.Twin like apart o o' m')
    (operation : Operation σ ν) (edits : ∀ edit, operation = .edit edit →
      (edit.apply m.engine.sequence).1 = (edit.apply m'.engine.sequence).1 ∧
        like.Holds False (edit.apply m.engine.sequence).2 (edit.apply m'.engine.sequence).2) :
    Agree (Twin like apart o o') (m.operate operation) (m'.operate operation) := by
  cases operation with
  | call fuel call => exact (h.reply fuel call).imp_left (congrArg Answer.replied)
  | drive fuel rounds interval maxTicks =>
    exact (h.runUntilIdle fuel rounds interval maxTicks).imp_left (congrArg Answer.driven)
  | edit edit => exact (h.edit (edits edit rfl)).imp_left (congrArg Answer.edited)
  | fire handle target => exact (h.shared.fire handle target).imp (congrArg Answer.fired) h.setShared

theorem Twin.glimpses (h : m.Twin .alike True o o' m') (operations : List (Operation σ ν)) :
    List.Forall₂ (Glimpse.Agrees o o') (m.glimpses o operations) (m'.glimpses o' operations) := by
  induction operations generalizing m m' with
  | nil => exact .nil
  | cons operation rest ih =>
    have alike : m.engine.sequence.Alike m'.engine.sequence := h.sequence
    obtain ⟨same, h⟩ := h.operate operation fun edit _ => alike.edit edit
    rw [Machine.glimpses, Machine.glimpses]
    dsimp only
    rw [← same]
    exact .cons (h.glimpse _) (ih h)

end Machine

/-! ## Engines that look the same -/

/-- Both engines are idle, with fresh caches, and look the same apart from their past. -/
structure Engine.Resembles (e e' : Engine σ ν) : Prop where
  name : e.name = e'.name
  listener : e.listener = e'.listener
  diagnostics : e.diagnostics = e'.diagnostics
  idle : e.isExecuting = false
  idle' : e'.isExecuting = false
  fresh : e.sequence.needsRefresh = false
  fresh' : e'.sequence.needsRefresh = false
  slots : e.sequence.slots.map (Option.map fun entry => (entry.command, entry.enabled)) =
    e'.sequence.slots.map (Option.map fun entry => (entry.command, entry.enabled))

section Resemblance

variable {ids ids' : List EngineId} {s s' : Studio σ ν} {number number' : Nat} {e e' : Engine σ ν}

theorem Sequence.Marked.bare {s : Sequence σ} (marked : s.Marked none) : Slots.bare s.slots =
    (s.slots.map (Option.map fun entry => (entry.command, entry.enabled))).map
      (Option.map fun shown => { command := shown.1, enabled := shown.2 }) := by
  rw [Slots.bare, List.map_map]
  refine List.map_congr_left fun slot hm => ?_
  cases slot with
  | none => rfl
  | some entry =>
    obtain ⟨p, hp⟩ := List.mem_iff_getElem?.mp (List.mem_filterMap.mpr ⟨some entry, hm, rfl⟩ : entry ∈ s.entries)
    have asleep : entry.executing = false := by
      rw [← Bool.not_eq_true, marked p entry hp]
      simp
    simp [Entry.bare, asleep]

theorem Engine.Resembles.twin (h : e.Resembles e') (sound : s.Sound ids) (sound' : s'.Sound ids')
    (he : s.engine? number = some e) (he' : s'.engine? number' = some e') :
    let m : Machine σ ν := ⟨e, s.shared⟩
    let m' : Machine σ ν := ⟨e', s'.shared⟩
    m.forget.Twin .alike True m.origin m'.origin m'.forget := by
  intro m m'
  have rest := sound.rest number e he
  have rest' := sound'.rest number' e' he'
  have idle := rest.settled.idle (Engine.run_of_idle h.idle)
  have idle' := rest'.settled.idle (Engine.run_of_idle h.idle')
  have inactive : e.active = none := by rw [Engine.active, idle.1]; rfl
  have inactive' : e'.active = none := by rw [Engine.active, idle'.1]; rfl
  have marked := rest.core.marked
  have marked' := rest'.core.marked
  rw [inactive] at marked
  rw [inactive'] at marked'
  refine ⟨rfl, rfl, h.name, h.listener, h.diagnostics, ?_, idle.1.trans idle'.1.symm, ⟨0, rfl, rfl⟩,
    fun together => absurd trivial together, ?_⟩
  · exact Sequence.Alike.of_bare rest.core.coherent rest'.core.coherent h.fresh h.fresh'
      (show Slots.bare e.sequence.slots = Slots.bare e'.sequence.slots by rw [marked.bare, marked'.bare, h.slots])
  · -- A jump may be left over from a run that was stopped, but neither engine is busy.
    refine ⟨rest.core.registered, rest'.core.registered, ⟨⟨0, rfl, rfl⟩, ?_⟩, fun busy => ?_, fun name => .none,
      .refl .., .refl ..⟩
    · show Option.Rel _ (s.shared.board.register e.id).armed (s'.shared.board.register e'.id).armed
      rw [idle.2, idle'.2]
      exact .none
    · exact absurd (h.idle.symm.trans busy) Bool.false_ne_true

end Resemblance

/-! ## Handles of earlier activations -/

/-- Since the time of these earlier moments, the tickets up to `limit` have not been armed, and no signal of
theirs has landed. -/
structure Expired (id : EngineId) (limit : Ticket) (earlier : List (Moment ν)) (b : Switchboard)
    (moments : List (Moment ν)) : Prop where
  issued : limit ≤ (b.register id).lastTicket
  armed : ∀ ticket, (b.register id).armed = some ticket → limit < ticket
  landings : ∀ ticket ≤ limit, landings id ticket moments = landings id ticket earlier

section Expiry

variable {id : EngineId} {limit : Ticket} {earlier : List (Moment ν)} {o m : Machine σ ν}

theorem Expired.steady : Steady (Expired (ν := ν) id limit earlier) := by
  intro b moments handle r jump hr armed h
  have register : (b.setRegister handle.engine (r.force jump)).register id = _ := register_land hr
  by_cases own : handle.engine = id
  · rw [if_pos own] at register
    -- Only the ticket that is armed can signal, and that one is later than all that have expired.
    have late : limit < handle.ticket := by
      refine h.armed handle.ticket ?_
      rwa [← own, Switchboard.register_of_get? hr]
    refine ⟨by rw [register]; exact h.issued, by rw [register]; simp [Register.force], fun ticket hle => ?_⟩
    have other : (Moment.landed handle : Moment ν).isLanding id ticket = false :=
      decide_eq_false fun landing => absurd (landing.2 ▸ late) (Nat.not_lt.mpr hle)
    rw [landings_cons, other]
    exact h.landings ticket hle
  · rw [if_neg own] at register
    have other : ∀ ticket, (Moment.landed handle : Moment ν).isLanding id ticket = false :=
      fun _ => decide_eq_false fun landing => own landing.1
    refine ⟨by rw [register]; exact h.issued, by rw [register]; exact h.armed, fun ticket hle => ?_⟩
    rw [landings_cons, other]
    exact h.landings ticket hle

theorem Expired.note {b : Switchboard} {moment : Moment ν} {moments : List (Moment ν)}
    (h : Expired id limit earlier b moments) (silent : ∀ ticket, moment.isLanding id ticket = false) :
    Expired id limit earlier b (moment :: moments) := by
  refine ⟨h.issued, h.armed, fun ticket hle => ?_⟩
  rw [landings_cons, silent]
  exact h.landings ticket hle

theorem Expired.step {b : Switchboard} {moments : List (Moment ν)} {r : Register}
    (h : Expired id limit earlier b moments) (step : (b.register id).Step r) :
    Expired id limit earlier (b.setRegister id r) moments := by
  obtain ⟨issued, armed, landings⟩ := h
  refine ⟨?_, ?_, landings⟩ <;> rw [Switchboard.register_setRegister_self]
  · cases step with
    | arm => exact Nat.le_succ_of_le issued
    | force | disarm | clearPending => exact issued
  · cases step with
    | arm =>
      rintro ticket ⟨⟩
      exact Nat.lt_succ_of_le issued
    | force | disarm => simp [Register.force, Register.disarm]
    | clearPending => exact armed

theorem Moves.expired (h : Moves o m) (ho : Expired o.engine.id limit earlier o.shared.board o.shared.moments) :
    Expired o.engine.id limit earlier m.shared.board m.shared.moments := by
  induction h with
  | refl => exact ho
  | @tail m m' h move ih =>
    have same := (Moves.kept h).id
    -- Besides signals, only what the engine does to its register could bring a ticket back.
    cases move with
    | register step =>
      rw [Machine.register, same] at step
      have stepped := ih.step step
      rwa [← same] at stepped ⊢
    | hold name _ => exact ⟨ih.issued, ih.armed, ih.landings⟩
    | mark _ _ silent => exact ih.note (silent _)
    | @tell event notice =>
      rw [Machine.board_tell, Machine.moments_tell]
      split
      · exact ih
      · exact ih.note fun _ => rfl
    | signal handle target => exact Expired.steady.signal ih handle target
    | _ => exact ih

theorem Moves.driveOn [Behaviour σ ν] (h : Moves o m) (fuel : Nat) (maxTicks : Option Nat) (rounds ticks : Nat) :
    Moves o (Machine.driveOn fuel maxTicks rounds ticks m).2 := by
  induction rounds generalizing m ticks with
  | zero => exact h
  | succ rounds ih =>
    have ticked := h.tick fuel
    rw [Machine.driveOn]
    split
    · exact h.next (.report m _)
    · split
      · exact h.next (.report m _)
      · split
        · exact h.next (.report m _)
        · split <;> next heq =>
            rw [heq] at ticked
            first | exact ih ticked _ | exact ticked

theorem Moves.runUntilIdle [Behaviour σ ν] (h : Moves o m) (fuel rounds interval : Nat) (maxTicks : Option Nat) :
    Moves o (m.runUntilIdle fuel rounds interval maxTicks).2 := by
  rw [Machine.runUntilIdle]
  split
  · exact h
  · exact h.driveOn fuel maxTicks rounds 0

namespace Machine

variable [Behaviour σ ν]

theorem expired_operate (h : Expired m.engine.id limit earlier m.shared.board m.shared.moments)
    (operation : Operation σ ν) :
    let after := (m.operate operation).2
    after.engine.id = m.engine.id ∧
      Expired m.engine.id limit earlier after.shared.board after.shared.moments := by
  have of_moves : ∀ after : Machine σ ν, Moves m after → after.engine.id = m.engine.id ∧
      Expired m.engine.id limit earlier after.shared.board after.shared.moments :=
    fun _ moves => ⟨moves.kept.id, moves.expired h⟩
  cases operation with
  | call fuel call =>
    have called := (Moves.refl m).call fuel call
    rw [call_eq_reply] at called
    exact of_moves _ called
  | drive fuel rounds interval maxTicks =>
    exact of_moves _ ((Moves.refl m).runUntilIdle fuel rounds interval maxTicks)
  | edit edit =>
    obtain ⟨shared, id, -⟩ := m.kept_edit edit
    refine ⟨id, ?_⟩
    show Expired _ _ _ (m.edit edit).2.shared.board (m.edit edit).2.shared.moments
    rwa [shared]
  | fire handle target => exact of_moves _ ((Moves.refl m).answer (.fire handle target))

theorem expired_after (operations : List (Operation σ ν))
    (h : Expired m.engine.id limit earlier m.shared.board m.shared.moments) :
    Expired m.engine.id limit earlier (m.after operations).shared.board (m.after operations).shared.moments := by
  induction operations generalizing m with
  | nil => exact h
  | cons operation rest ih =>
    obtain ⟨id, operated⟩ := expired_operate h operation
    rw [← id] at operated ⊢
    exact ih operated

/-- Whatever the host does with the engine, every signal of the handle is refused, also those of hooks. -/
def Outlives (m : Machine σ ν) (handle : Handle) : Prop :=
  ∀ operations target, let after := (m.after operations).shared
    after.signal handle target = (false, after) ∧
      landings handle.engine handle.ticket after.moments = landings handle.engine handle.ticket m.shared.moments

end Machine

theorem Expired.signal {s : Shared ν} {handle : Handle}
    (h : Expired handle.engine limit earlier s.board s.moments) (old : handle.ticket ≤ limit) (target : Nat) :
    s.signal handle target = (false, s) := by
  rcases s.signal_cases handle target with ⟨-, refused⟩ | ⟨-, r, hr, armed, -⟩
  · exact refused
  · have late := h.armed handle.ticket (by rwa [Switchboard.register_of_get? hr])
    exact absurd late (Nat.not_lt.mpr old)

end Expiry

/-! ## The next run -/

section

variable [Behaviour σ ν] {ids ids' : List EngineId} {s s' : Studio σ ν} {number number' : Nat}
  {e e' : Engine σ ν}

theorem Studio.Sound.outlives (sound : s.Sound ids) (he : s.engine? number = some e)
    (idle : e.isExecuting = false) {handle : Handle} (own : handle.engine = e.id)
    (issued : Issued s.shared.moments handle) : Machine.Outlives ⟨e, s.shared⟩ handle := by
  have rest := sound.rest number e he
  have unarmed := (rest.settled.idle (Engine.run_of_idle idle)).2
  obtain ⟨board, called⟩ := issued
  obtain ⟨engine, ticket, index⟩ := handle
  obtain rfl : engine = e.id := own
  have old := mem_activations called
  rw [rest.core.ledger.tickets, List.mem_reverse, List.mem_range'_1, Nat.add_comm] at old
  replace old := Nat.le_of_lt_succ old.2
  have start : Expired e.id (s.shared.board.register e.id).lastTicket s.shared.moments s.shared.board
      s.shared.moments :=
    ⟨Nat.le_refl _, fun _ armed => by rw [unarmed] at armed; simp at armed, fun _ _ => rfl⟩
  intro operations target
  have expired := Machine.expired_after (m := ⟨e, s.shared⟩) operations start
  exact ⟨expired.signal old target, expired.landings ticket old⟩

/--
No run leaves anything to the next. Two idle engines that look the same go on alike, whatever they have been
through: unless something uses a handle from before, each further operation has the same outcome for both,
and so has all that the host can see of them. And the handles from before stay dead.
-/
theorem runs_leave_nothing (h : Reachable ids s) (h' : Reachable ids' s') (he : s.engine? number = some e)
    (he' : s'.engine? number' = some e') (alike : e.Resembles e') :
    let m : Machine σ ν := ⟨e, s.shared⟩
    let m' : Machine σ ν := ⟨e', s'.shared⟩
    (∀ operations, m.Ignores operations → m'.Ignores operations →
      List.Forall₂ (Glimpse.Agrees m.origin m'.origin) (m.outlook operations) (m'.outlook operations)) ∧
    (∀ handle, handle.engine = e.id → Issued s.shared.moments handle → m.Outlives handle) ∧
    (∀ handle, handle.engine = e'.id → Issued s'.shared.moments handle → m'.Outlives handle) := by
  intro m m'
  refine ⟨fun operations ignores ignores' => ?_, fun handle own issued => ?_, fun handle own issued => ?_⟩
  · have twins := alike.twin h.sound h'.sound he he'
    rw [← ignores, ← ignores']
    exact twins.glimpses operations
  · exact h.sound.outlives he alike.idle own issued
  · exact h'.sound.outlives he' alike.idle' own issued

end

/-! ## A keeper that was stopped -/

/-- The keeper was stopped before it had signalled, and its handle is still put away. -/
def keeperStopped : Studio Cue Note := (keeperWaiting.act 10 (.call 0 .stop)).2

/-- The keeper in another studio, on an engine that has never run. -/
def keeperElsewhere : Studio Cue Note :=
  Studio.add {} (.create ⟨9⟩ "engine" ((Edit.push keeper).apply {}).2 (some .recorder) true)

theorem reachable_keeperStopped : Reachable [keeperId] keeperStopped :=
  .act 10 (.call 0 .stop) reachable_keeperWaiting rfl

theorem reachable_keeperElsewhere : Reachable [⟨9⟩] keeperElsewhere :=
  .add ⟨9⟩ "engine" (some .recorder) true .start (by simp) (.edit (.push keeper) .empty)

/-- The next run puts its own handle away, which the host fires. -/
def keeperRun : List (Operation Cue Note) := [.call 10 (.execute 0 none), .fire "kept" none, .call 10 .tick]

theorem runs_leave_nothing_keeper : ∃ e e', keeperStopped.engine? 0 = some e ∧
    keeperElsewhere.engine? 0 = some e' ∧ e.Resembles e' ∧
    let m : Machine Cue Note := ⟨e, keeperStopped.shared⟩
    let m' : Machine Cue Note := ⟨e', keeperElsewhere.shared⟩
    m.Ignores keeperRun ∧ m'.Ignores keeperRun ∧
    List.Forall₂ (Glimpse.Agrees m.origin m'.origin) (m.outlook keeperRun) (m'.outlook keeperRun) ∧
    m.Outlives ⟨keeperId, 1, 0⟩ := by
  obtain ⟨e, he⟩ := Option.isSome_iff_exists.mp (by decide : (keeperStopped.engine? 0).isSome = true)
  obtain ⟨e', he'⟩ := Option.isSome_iff_exists.mp (by decide : (keeperElsewhere.engine? 0).isSome = true)
  have own : ∀ e ∈ keeperStopped.engine? 0, e.id = keeperId := by decide
  have settings : ∀ e ∈ keeperStopped.engine? 0, ∀ e' ∈ keeperElsewhere.engine? 0, e.name = e'.name ∧
      e.listener = e'.listener ∧ e.diagnostics = e'.diagnostics := by decide
  have idle : ∀ e ∈ keeperStopped.engine? 0, e.isExecuting = false ∧ e.sequence.needsRefresh = false := by decide
  have idle' : ∀ e ∈ keeperElsewhere.engine? 0, e.isExecuting = false ∧ e.sequence.needsRefresh = false := by
    decide
  have slots : ∀ e ∈ keeperStopped.engine? 0, ∀ e' ∈ keeperElsewhere.engine? 0,
      e.sequence.slots.map (Option.map fun entry => (entry.command, entry.enabled)) =
        e'.sequence.slots.map (Option.map fun entry => (entry.command, entry.enabled)) := by decide +kernel
  have ignores : ∀ e ∈ keeperStopped.engine? 0, Machine.Ignores ⟨e, keeperStopped.shared⟩ keeperRun := by
    decide +kernel
  have ignores' : ∀ e ∈ keeperElsewhere.engine? 0, Machine.Ignores ⟨e, keeperElsewhere.shared⟩ keeperRun := by
    decide +kernel
  have kept : keeperStopped.shared.board.handles.get? "kept" = some ⟨keeperId, 1, 0⟩ := by decide
  obtain ⟨name, listener, diagnostics⟩ := settings e he e' he'
  have alike : e.Resembles e' := ⟨name, listener, diagnostics, (idle e he).1, (idle' e' he').1, (idle e he).2,
    (idle' e' he').2, slots e he e' he'⟩
  have nothing := runs_leave_nothing reachable_keeperStopped reachable_keeperElsewhere he he' alike
  exact ⟨e, e', he, he', alike, ignores e he, ignores' e' he',
    nothing.1 keeperRun (ignores e he) (ignores' e' he'),
    nothing.2.1 ⟨keeperId, 1, 0⟩ (own e he).symm (reachable_keeperStopped.sound.history.issued "kept" _ kept)⟩

end Sequencer
