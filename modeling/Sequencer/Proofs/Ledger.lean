import Mathlib.Data.List.Nodup
import Sequencer.Proofs.Moments

/-!
# The ledger of an engine

Ties the history to the register: which tickets were issued, and which of them may be armed. It holds at
every point of every operation, also while a hook is running.
-/

namespace Sequencer

variable {ν : Type} {id : EngineId} {r : Register} {moment : Moment ν} {moments : List (Moment ν)}
  {handle : Handle} {ticket : Ticket} {b : Switchboard}

/-- The tickets are numbered in order, at most one signal has landed for each, and only the latest is armed. -/
structure Ledger (id : EngineId) (r : Register) (moments : List (Moment ν)) : Prop where
  tickets : activations id moments = (List.range' 1 r.lastTicket).reverse
  armed : ∀ ticket, r.armed = some ticket → ticket = r.lastTicket ∧ Open id ticket moments
  once : ∀ ticket, landings id ticket moments ≤ 1
  unissued : ∀ ticket, r.lastTicket < ticket → Open id ticket moments

/-- The activation waits for its signal, or the signal has landed and its jump is pending. -/
def Live (id : EngineId) (r : Register) (moments : List (Moment ν)) : Prop :=
  (r.armed = some r.lastTicket ∧ r.pending = none) ∨
  (r.armed = none ∧ r.pending.isSome = true ∧ landings id r.lastTicket moments = 1)

/-- A hook of the activation has failed, and no ticket is armed. -/
def Dead (id : EngineId) (r : Register) (moments : List (Moment ν)) : Prop :=
  r.armed = none ∧ Moment.failed id r.lastTicket ∈ moments

namespace Ledger

theorem empty (h : ∀ moment ∈ moments, moment.engine? ≠ some id) : Ledger id {} moments := by
  have tickets : activations id moments = [] := by
    rw [activations, List.filterMap_eq_nil_iff]
    exact fun moment hm => Moment.activation?_of_ne (h moment hm)
  have closed : ∀ ticket, Open id ticket moments := by
    intro ticket
    refine ⟨List.countP_eq_zero.mpr fun moment hm => ?_, fun hm => h _ hm rfl⟩
    simp [Moment.isLanding_of_ne (h moment hm)]
  refine ⟨tickets, by simp, fun ticket => ?_, fun ticket _ => closed ticket⟩
  rw [(closed ticket).1]
  omega

theorem keep (h : Ledger id r moments) (hq : moment.KeepsTickets id) : Ledger id r (moment :: moments) where
  tickets := by rw [hq.activations, h.tickets]
  armed ticket ha := (h.armed ticket ha).imp_right hq.open_.mpr
  once ticket := by rw [hq.landings]; exact h.once ticket
  unissued ticket ht := hq.open_.mpr (h.unissued ticket ht)

theorem disarmed {r' : Register} (h : Ledger id r moments) (last : r'.lastTicket = r.lastTicket)
    (armed : r'.armed = none) : Ledger id r' moments :=
  ⟨by rw [last, h.tickets], by simp [armed], h.once, by rw [last]; exact h.unissued⟩

theorem clearPending (h : Ledger id r moments) : Ledger id r.clearPending moments :=
  ⟨h.tickets, h.armed, h.once, h.unissued⟩

theorem land (h : Ledger id r moments) (ha : r.armed = some handle.ticket)
    (jump : Jump) : Ledger id (r.force jump) (.landed handle :: moments) := by
  obtain ⟨latest, first, _⟩ := h.armed _ ha
  refine ⟨by rw [activations_cons]; exact h.tickets, by simp [Register.force], fun ticket => ?_,
    fun ticket ht => ?_⟩
  · rw [landings_cons]
    have := h.once ticket
    by_cases hticket : handle.ticket = ticket
    · rw [← hticket] at this ⊢
      split <;> omega
    · simpa [Moment.isLanding, hticket] using this
  · refine open_cons.mpr ⟨h.unissued ticket ht, decide_eq_false ?_, by simp⟩
    rintro ⟨_, rfl⟩
    exact absurd latest (Nat.ne_of_gt ht)

theorem fail (h : Ledger id r moments) :
    Ledger id r.disarm (.failed id r.lastTicket :: moments) := by
  refine ⟨by rw [activations_cons]; exact h.tickets, by simp [Register.disarm], fun ticket => ?_,
    fun ticket ht => ?_⟩
  · rw [landings_cons]
    exact h.once ticket
  · refine open_cons.mpr ⟨h.unissued ticket ht, rfl, ?_⟩
    rintro ⟨⟩
    exact Nat.lt_irrefl _ ht

theorem activate (h : Ledger id r moments) (index : Nat) (board : Switchboard) :
    Ledger id r.arm (.called id .execute index r.arm.lastTicket board :: moments) := by
  have still : ∀ ticket, Open id ticket moments →
      Open id ticket (.called id .execute index r.arm.lastTicket board :: moments) := by
    intro ticket ho
    exact open_cons.mpr ⟨ho, rfl, by simp⟩
  refine ⟨?_, fun ticket ha => ?_, fun ticket => ?_, fun ticket ht => ?_⟩
  · rw [activations_cons, h.tickets]
    simp [Moment.activation?, Register.arm, List.range'_1_concat, Nat.add_comm]
  · obtain rfl : r.lastTicket + 1 = ticket := by simpa [Register.arm] using ha
    exact ⟨rfl, still _ (h.unissued _ (Nat.lt_succ_self _))⟩
  · rw [landings_cons]
    exact h.once ticket
  · exact still ticket (h.unissued ticket (Nat.lt_of_succ_lt ht))

/-! ## The latest activation -/

theorem nodup (h : Ledger id r moments) : (activations id moments).Nodup := by
  rw [h.tickets]
  exact List.nodup_reverse.mpr (List.nodup_range' 1)

theorem head_activations (h : Ledger id r moments) (issued : r.lastTicket ∈ activations id moments) :
    (activations id moments).head? = some r.lastTicket := by
  have pos : 1 ≤ r.lastTicket := by
    rw [h.tickets, List.mem_reverse, List.mem_range'_1] at issued
    exact issued.1
  obtain ⟨n, hn⟩ := Nat.exists_eq_add_of_le' pos
  rw [h.tickets, hn, List.range'_1_concat, List.reverse_append]
  simp [Nat.add_comm]

end Ledger

theorem mem_activations {index : Nat} {board : Switchboard}
    (h : Moment.called id .execute index ticket board ∈ moments) : ticket ∈ activations id moments :=
  List.mem_filterMap.mpr ⟨_, h, by simp [Moment.activation?]⟩

/-! ## Live and dead activations -/

theorem Live.land (h : Ledger id r moments) (he : handle.engine = id)
    (ha : r.armed = some handle.ticket) (jump : Jump) :
    Live id (r.force jump) (.landed handle :: moments) := by
  obtain ⟨latest, first, _⟩ := h.armed _ ha
  have landing : (Moment.landed handle : Moment ν).isLanding id handle.ticket = true :=
    decide_eq_true ⟨he, rfl⟩
  refine .inr ⟨rfl, rfl, ?_⟩
  simp only [Register.force, ← latest]
  rw [landings_cons, if_pos landing, first]

theorem Live.keep (h : Live id r moments) (hq : moment.KeepsTickets id) : Live id r (moment :: moments) := by
  rwa [Live, hq.landings]

theorem Dead.cons (h : Dead id r moments) : Dead id r (moment :: moments) :=
  ⟨h.1, List.mem_cons_of_mem moment h.2⟩

/-- A ticket is armed if and only if it is the latest and nothing has closed it. -/
theorem Ledger.armed_iff (h : Ledger id r moments) (resolved : Live id r moments ∨ Dead id r moments) :
    r.armed = some ticket ↔ ticket = r.lastTicket ∧ Open id ticket moments := by
  refine ⟨h.armed ticket, ?_⟩
  rintro ⟨rfl, open_⟩
  rcases resolved with (⟨armed, _⟩ | ⟨_, _, landed⟩) | ⟨_, failed⟩
  · exact armed
  · rw [open_.1] at landed
    omega
  · exact absurd failed open_.2

/-! ## Laws of whole histories -/

/-- What the switchboard is when a stop hook is called for an activation. -/
def StopFinds (id : EngineId) (ticket : Ticket) (b : Switchboard) (earlier : List (Moment ν)) : Prop :=
  (activations id earlier).head? = some ticket ∧
  ∀ handle : Handle, handle.engine = id →
    (b.isArmed handle = true ↔ handle.ticket = ticket ∧ Open id ticket earlier)

/-- Stop hooks find what they should, and each command that a listener was told of has been called next. -/
structure Lawful (moments : List (Moment ν)) : Prop where
  stops : ∀ id index ticket board earlier,
    .called id .stop index ticket board :: earlier <:+ moments → StopFinds id ticket board earlier
  follows : ∀ ref name index total next earlier,
    next :: .told (.commandExecuting ref name index total) :: earlier <:+ moments →
      ∃ ticket board, next = .called ref.id .execute index ticket board
  caughtUp : ∀ moment ∈ moments.head?, moment.isTeller = false

namespace Lawful

theorem nil : Lawful ([] : List (Moment ν)) where
  stops _ _ _ _ _ h := by simp at h
  follows _ _ _ _ _ _ h := by simp at h
  caughtUp := by simp

theorem cons (h : Lawful moments) (teller : moment.isTeller = false)
    (stops : ∀ id index ticket board, moment = .called id .stop index ticket board →
      StopFinds id ticket board moments) : Lawful (moment :: moments) := by
  refine ⟨fun id index ticket board earlier hs => ?_, fun ref name index total next earlier hs => ?_, ?_⟩
  · rcases List.suffix_cons_iff.mp hs with heq | hs
    · obtain ⟨rfl, rfl⟩ := List.cons.inj heq
      exact stops id index ticket board rfl
    · exact h.stops id index ticket board earlier hs
  · rcases List.suffix_cons_iff.mp hs with heq | hs
    · obtain ⟨-, rfl⟩ := List.cons.inj heq
      exact absurd (h.caughtUp _ rfl) (by simp [Moment.isTeller])
    · exact h.follows ref name index total next earlier hs
  · rintro _ ⟨⟩
    exact teller

theorem cons_called {engine : EngineId} {hook : Hook} {index : Nat} {board : Switchboard}
    (h : Lawful moments) (hook_ne : hook ≠ .stop) :
    Lawful (.called engine hook index ticket board :: moments) :=
  h.cons rfl (by rintro _ _ _ _ ⟨⟩; exact absurd rfl hook_ne)

theorem told_called (h : Lawful moments) (ref : EngineRef) (name : String) (index total : Nat)
    (ticket : Ticket) (board : Switchboard) :
    Lawful (.called ref.id .execute index ticket board ::
      .told (.commandExecuting ref name index total) :: moments) := by
  refine ⟨fun id i t board' earlier hs => ?_, fun ref' name' i total' next earlier hs => ?_, ?_⟩
  · rcases List.suffix_cons_iff.mp hs with heq | hs
    · simp at heq
    rcases List.suffix_cons_iff.mp hs with heq | hs
    · simp at heq
    · exact h.stops id i t board' earlier hs
  · rcases List.suffix_cons_iff.mp hs with heq | hs
    · simp only [List.cons.injEq, Moment.told.injEq, Event.commandExecuting.injEq] at heq
      obtain ⟨rfl, ⟨rfl, rfl, rfl, rfl⟩, rfl⟩ := heq
      exact ⟨ticket, board, rfl⟩
    rcases List.suffix_cons_iff.mp hs with heq | hs
    · obtain ⟨-, rfl⟩ := List.cons.inj heq
      exact absurd (h.caughtUp _ rfl) (by simp [Moment.isTeller])
    · exact h.follows ref' name' i total' next earlier hs
  · rintro _ ⟨⟩
    rfl

end Lawful

end Sequencer
