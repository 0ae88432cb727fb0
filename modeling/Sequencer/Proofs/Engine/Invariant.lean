import Sequencer.Proofs.Engine.Kept
import Sequencer.Proofs.Ledger
import Sequencer.Proofs.Listening

/-!
# The invariant of an engine

The core holds at every point of every operation. What the engine is waiting for is its phase, and between
operations it is in one of three phases only.
-/

namespace Sequencer

variable {σ ν : Type} {e : Engine σ ν} {mark : Option Nat} {b : Switchboard} {moments : List (Moment ν)}
  {handle : Handle} {r : Register} {moment : Moment ν}

/-- At every point: `mark` is the position of the entry that is marked as executing. -/
structure Engine.Core (e : Engine σ ν) (mark : Option Nat) (b : Switchboard)
    (moments : List (Moment ν)) : Prop where
  registered : b.registers.get? e.id = some (b.register e.id)
  ledger : Ledger e.id (b.register e.id) moments
  coherent : e.sequence.Coherent
  owner : e.sequence.owner = some e.id
  fresh : e.isExecuting = true → e.sequence.needsRefresh = false
  marked : e.sequence.Marked mark
  acting : ∀ index, e.active = some index →
    ∃ form, e.sequence.forms[index]? = some form ∧ form.kind = .action
  latest : ∀ index, e.active = some index →
    ∃ board, .called e.id .execute index (b.register e.id).lastTicket board ∈ moments

/-- The listener, if there is one, can follow the engine. -/
def Engine.Hears (e : Engine σ ν) (moments : List (Moment ν)) : Prop :=
  e.listener ≠ none → Told e.seen (heard e.id moments)

/-- The history is lawful, and every handle that was put away comes from it. -/
structure History (b : Switchboard) (moments : List (Moment ν)) : Prop where
  lawful : Lawful moments
  issued : ∀ name handle, b.handles.get? name = some handle → Issued moments handle

/-! ## Phases -/

/-- No run is in flight. -/
def Idle (e : Engine σ ν) (r : Register) : Prop := e.run = none ∧ r.armed = none

/-- The active command has signalled or is still to signal. -/
def Waiting (e : Engine σ ν) (r : Register) (moments : List (Moment ν)) : Prop :=
  e.active.isSome = true ∧ e.isFaulted = false ∧ Live e.id r moments

/-- A hook of the active command has failed. -/
def Faulted (e : Engine σ ν) (r : Register) (moments : List (Moment ν)) : Prop :=
  e.active.isSome = true ∧ e.isFaulted = true ∧ Dead e.id r moments

/-- The engine itself has said where its run goes on. -/
def Forced (e : Engine σ ν) (r : Register) : Prop :=
  e.isExecuting = true ∧ e.isFaulted = false ∧ r.armed = none ∧ r.pending.isSome = true

/-- The jump has been taken, and the next command is not active yet. -/
def Between (e : Engine σ ν) (r : Register) : Prop :=
  e.isExecuting = true ∧ e.isFaulted = false ∧ r.armed = none ∧ r.pending = none

/-- The phases between operations. -/
def Settled (e : Engine σ ν) (r : Register) (moments : List (Moment ν)) : Prop :=
  Idle e r ∨ Waiting e r moments ∨ Faulted e r moments

structure Engine.AtRest (e : Engine σ ν) (b : Switchboard) (moments : List (Moment ν)) : Prop where
  core : e.Core e.active b moments
  hears : e.Hears moments
  settled : Settled e (b.register e.id) moments

theorem isExecuting_of_active (h : e.active.isSome = true) : e.isExecuting = true := by
  rw [Engine.active] at h
  rw [Engine.isExecuting]
  cases hr : e.run <;> simp_all

theorem Settled.idle (h : Settled e r moments) (hr : e.run = none) : Idle e r := by
  have inactive : e.active = none := by rw [Engine.active, hr]; rfl
  rcases h with h | h | h
  · exact h
  · exact absurd h.1 (by simp [inactive])
  · exact absurd h.1 (by simp [inactive])

theorem Settled.active (h : Settled e r moments) (he : e.isExecuting = true) :
    e.active.isSome = true := by
  rcases h with h | h | h
  · simp [Engine.isExecuting, h.1] at he
  · exact h.1
  · exact h.1

theorem Settled.waiting (h : Settled e r moments) (he : e.isExecuting = true)
    (sane : e.isFaulted = false) : Waiting e r moments := by
  rcases h with h | h | h
  · simp [Engine.isExecuting, h.1] at he
  · exact h
  · simp [h.2.1] at sane

theorem Settled.faulted (h : Settled e r moments) (faulted : e.isFaulted = true) : Faulted e r moments := by
  rcases h with h | h | h
  · simp [Engine.isFaulted, h.1] at faulted
  · simp [h.2.1] at faulted
  · exact h

theorem Settled.resolved (h : Settled e r moments) (he : e.isExecuting = true) :
    Live e.id r moments ∨ Dead e.id r moments := by
  rcases h with h | h | h
  · simp [Engine.isExecuting, h.1] at he
  · exact .inl h.2.2
  · exact .inr h.2.2

/-! ## Landing signals -/

theorem History.land (h : History b moments) :
    History (b.setRegister handle.engine r) (.landed handle :: moments) where
  lawful := h.lawful.cons rfl (by rintro _ _ _ _ ⟨⟩)
  issued name held hh := (h.issued name held hh).cons

theorem register_land {id : EngineId} {jump : Jump} (hr : b.registers.get? handle.engine = some r) :
    (b.setRegister handle.engine (r.force jump)).register id =
      if handle.engine = id then (b.register id).force jump else b.register id := by
  split
  · next he =>
    rw [← he, Switchboard.register_setRegister_self, Switchboard.register_of_get? hr]
  · next he => exact Switchboard.register_setRegister_of_ne (Ne.symm he)

theorem land_cases (hr : b.registers.get? handle.engine = some r) (jump : Jump) (id : EngineId) :
    (handle.engine = id ∧ b.register id = r ∧
      (b.setRegister handle.engine (r.force jump)).register id = r.force jump) ∨
    ((b.setRegister handle.engine (r.force jump)).register id = b.register id ∧
      (Moment.landed handle : Moment ν).KeepsTickets id) := by
  rw [register_land hr]
  by_cases own : handle.engine = id
  · have old : b.register id = r := own ▸ Switchboard.register_of_get? hr
    rw [if_pos own, old]
    exact .inl ⟨own, rfl, rfl⟩
  · exact .inr ⟨if_neg own, Moment.keepsTickets_of_ne fun heq => own (Option.some.inj heq)⟩

theorem Ledger.land_any {id : EngineId} {jump : Jump} (h : Ledger id (b.register id) moments)
    (hr : b.registers.get? handle.engine = some r) (ha : r.armed = some handle.ticket) :
    Ledger id ((b.setRegister handle.engine (r.force jump)).register id) (.landed handle :: moments) := by
  rcases land_cases hr jump id with ⟨rfl, old, forced⟩ | ⟨same, keeps⟩
  · rw [forced]
    exact (old ▸ h).land ha jump
  · rw [same]
    exact h.keep keeps

theorem Live.land_any {id : EngineId} {jump : Jump} (h : Live id (b.register id) moments)
    (ledger : Ledger id (b.register id) moments) (hr : b.registers.get? handle.engine = some r)
    (ha : r.armed = some handle.ticket) :
    Live id ((b.setRegister handle.engine (r.force jump)).register id) (.landed handle :: moments) := by
  rcases land_cases hr jump id with ⟨rfl, old, forced⟩ | ⟨same, keeps⟩
  · rw [forced]
    exact Live.land (old ▸ ledger) rfl ha jump
  · rw [same]
    exact h.keep keeps

theorem register_land_of_disarmed {id : EngineId} {jump : Jump}
    (hr : b.registers.get? handle.engine = some r) (ha : r.armed = some handle.ticket)
    (disarmed : (b.register id).armed = none) :
    (b.setRegister handle.engine (r.force jump)).register id = b.register id := by
  rw [register_land hr, if_neg]
  rintro rfl
  rw [Switchboard.register_of_get? hr, ha] at disarmed
  simp at disarmed

theorem Engine.Core.land (h : e.Core mark b moments) {jump : Jump}
    (hr : b.registers.get? handle.engine = some r) (ha : r.armed = some handle.ticket) :
    e.Core mark (b.setRegister handle.engine (r.force jump)) (.landed handle :: moments) where
  registered := by
    rw [Switchboard.get?_setRegister, register_land hr]
    split
    · next he => rw [if_pos he.symm, he, Switchboard.register_of_get? hr]
    · next he => rw [if_neg (Ne.symm he), h.registered]
  ledger := h.ledger.land_any hr ha
  coherent := h.coherent
  owner := h.owner
  fresh := h.fresh
  marked := h.marked
  acting := h.acting
  latest index hi := by
    obtain ⟨board, hb⟩ := h.latest index hi
    refine ⟨board, List.mem_cons_of_mem _ ?_⟩
    rw [register_land hr]
    split <;> exact hb

theorem Settled.land (h : Settled e (b.register e.id) moments)
    (ledger : Ledger e.id (b.register e.id) moments) {jump : Jump}
    (hr : b.registers.get? handle.engine = some r) (ha : r.armed = some handle.ticket) :
    Settled e ((b.setRegister handle.engine (r.force jump)).register e.id)
      (.landed handle :: moments) := by
  rcases h with h | h | h
  · exact .inl ⟨h.1, by rw [register_land_of_disarmed hr ha h.2, h.2]⟩
  · exact .inr (.inl ⟨h.1, h.2.1, h.2.2.land_any ledger hr ha⟩)
  · refine .inr (.inr ⟨h.1, h.2.1, ?_⟩)
    rw [register_land_of_disarmed hr ha h.2.2.1]
    exact h.2.2.cons

/-! ## Further moments -/

theorem Engine.Hears.note (h : e.Hears moments) (hh : moment.heard? e.id = none) :
    e.Hears (moment :: moments) := by
  have same : heard e.id (moment :: moments) = heard e.id moments := by
    rw [heard_cons, hh, Option.toList_none, List.append_nil]
  rwa [Engine.Hears, same]

theorem Engine.Core.add (h : e.Core mark b moments)
    (ledger : Ledger e.id (b.register e.id) (moment :: moments)) :
    e.Core mark b (moment :: moments) where
  registered := h.registered
  ledger := ledger
  coherent := h.coherent
  owner := h.owner
  fresh := h.fresh
  marked := h.marked
  acting := h.acting
  latest index hi := (h.latest index hi).imp fun _ => List.mem_cons_of_mem _

theorem Engine.Core.note (h : e.Core mark b moments) (hq : moment.KeepsTickets e.id) :
    e.Core mark b (moment :: moments) :=
  h.add (h.ledger.keep hq)

theorem Settled.note (h : Settled e r moments) (hq : moment.KeepsTickets e.id) :
    Settled e r (moment :: moments) := by
  rcases h with h | h | h
  · exact .inl h
  · exact .inr (.inl ⟨h.1, h.2.1, h.2.2.keep hq⟩)
  · exact .inr (.inr ⟨h.1, h.2.1, h.2.2.cons⟩)

/-! ## Other engines -/

theorem Engine.Core.of_get? {b' : Switchboard} (h : e.Core mark b moments)
    (same : b'.registers.get? e.id = b.registers.get? e.id) : e.Core mark b' moments := by
  have register : b'.register e.id = b.register e.id := by
    rw [Switchboard.register, Switchboard.register, same]
  refine ⟨?_, ?_, h.coherent, h.owner, h.fresh, h.marked, h.acting, ?_⟩
  · rw [same, register, h.registered]
  · rw [register]
    exact h.ledger
  · rw [register]
    exact h.latest

namespace Engine.AtRest

theorem land (h : e.AtRest b moments) {jump : Jump}
    (hr : b.registers.get? handle.engine = some r) (ha : r.armed = some handle.ticket) :
    e.AtRest (b.setRegister handle.engine (r.force jump)) (.landed handle :: moments) :=
  ⟨h.core.land hr ha, h.hears.note rfl, h.settled.land h.core.ledger hr ha⟩

theorem of_get? {b' : Switchboard} (h : e.AtRest b moments)
    (same : b'.registers.get? e.id = b.registers.get? e.id) : e.AtRest b' moments := by
  refine ⟨h.core.of_get? same, h.hears, ?_⟩
  rw [Switchboard.register, same]
  exact h.settled

theorem aside {id : EngineId} (hne : e.id ≠ id) : Aside id (e.AtRest (ν := ν)) where
  land _ _ _ _ _ hr ha h := h.land hr ha
  register _ _ _ h := h.of_get? (by rw [Switchboard.get?_setRegister, if_neg hne])
  hold _ _ _ _ h := h.of_get? rfl
  mark _ _ moment hm h := by
    have other : moment.engine? ≠ some e.id := by
      rw [hm]
      exact fun heq => hne (Option.some.inj heq).symm
    have keeps := Moment.keepsTickets_of_ne other
    exact ⟨h.core.note keeps, h.hears.note (Moment.heard?_of_ne other), h.settled.note keeps⟩

end Engine.AtRest

end Sequencer
