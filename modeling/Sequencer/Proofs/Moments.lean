import Sequencer.Proofs.Switchboard

/-!
# What a history says

The moments of a history tell which activations an engine had, whose signals have landed, whose hooks
have failed, and what its listener heard. Histories are lists with the latest moment first.
-/

namespace Sequencer

variable {ν : Type} {id : EngineId} {ticket : Ticket} {moment : Moment ν} {moments : List (Moment ν)}

/-! ## One moment -/

/-- What a listener hears of one engine. -/
inductive Heard where
  | started
  | executing (index total : Nat)
  | ended
deriving DecidableEq

def Heard.isExecuting : Heard → Bool
  | .executing .. => true
  | _ => false

/-- The engine that an event is about. -/
def Event.engine? : Event ν → Option EngineId
  | .runStarted ref | .runEnded ref | .commandExecuting ref .. => some ref.id
  | .hookCalled id .. | .callbackFired id _ => some id
  | .noted _ => none

/-- What a listener hears of an engine from an event. -/
def Event.heard? (id : EngineId) : Event ν → Option Heard
  | .runStarted ref => if ref.id = id then some .started else none
  | .commandExecuting ref _ index total => if ref.id = id then some (.executing index total) else none
  | .runEnded ref => if ref.id = id then some .ended else none
  | .hookCalled .. | .callbackFired .. | .noted _ => none

/-- The engine and the number of the run whose callback fires. -/
def Event.firing? : Event ν → Option (EngineId × Nat)
  | .callbackFired id run => some (id, run)
  | _ => none

def Event.note? : Event ν → Option ν
  | .noted value => some value
  | _ => none

theorem Event.heard?_of_ne {event : Event ν} (h : event.engine? ≠ some id) : event.heard? id = none := by
  cases event with
  | runStarted ref => exact if_neg fun he => h (congrArg some he)
  | runEnded ref => exact if_neg fun he => h (congrArg some he)
  | commandExecuting ref command index total => exact if_neg fun he => h (congrArg some he)
  | _ => rfl

namespace Moment

def engine? : Moment ν → Option EngineId
  | .told event => event.engine?
  | .called id .. | .failed id _ => some id
  | .landed handle => some handle.engine

/-- The ticket, if the moment is an activation by the engine. -/
def activation? (id : EngineId) : Moment ν → Option Ticket
  | .called engine .execute _ ticket _ => if engine = id then some ticket else none
  | _ => none

/-- The position of the command, if the moment is an activation by the engine. -/
def call? (id : EngineId) : Moment ν → Option Nat
  | .called engine .execute index _ _ => if engine = id then some index else none
  | _ => none

/-- Whether a signal for the activation lands. -/
def isLanding (id : EngineId) (ticket : Ticket) : Moment ν → Bool
  | .landed handle => handle.engine = id ∧ handle.ticket = ticket
  | _ => false

def heard? (id : EngineId) : Moment ν → Option Heard
  | .told event => event.heard? id
  | _ => none

def isTold : Moment ν → Bool
  | .told _ => true
  | _ => false

/-- Whether a listener is told that a command is executing. -/
def isTeller : Moment ν → Bool
  | .told (.commandExecuting ..) => true
  | _ => false

theorem activation?_of_ne (h : moment.engine? ≠ some id) : moment.activation? id = none := by
  cases moment with
  | called engine hook index ticket board =>
    cases hook
    · exact if_neg fun he => h (congrArg some he)
    all_goals rfl
  | _ => rfl

theorem isLanding_of_ne (h : moment.engine? ≠ some id) : moment.isLanding id ticket = false := by
  cases moment with
  | landed handle => exact decide_eq_false fun he => h (congrArg some he.1)
  | _ => rfl

theorem heard?_of_ne (h : moment.engine? ≠ some id) : moment.heard? id = none := by
  cases moment with
  | told event => exact Event.heard?_of_ne h
  | _ => rfl

end Moment

/-! ## Whole histories -/

/-- The tickets of the activations by an engine, the latest first. -/
def activations (id : EngineId) (moments : List (Moment ν)) : List Ticket :=
  moments.filterMap (Moment.activation? id)

/-- The positions of the commands that an engine has activated, the latest first. -/
def calls (id : EngineId) (moments : List (Moment ν)) : List Nat :=
  moments.filterMap (Moment.call? id)

/-- The runs whose callbacks have fired, the latest first. -/
def firings (events : List (Event ν)) : List (EngineId × Nat) := events.filterMap Event.firing?

/-- What has been noted down, the latest first. -/
def notesOf (events : List (Event ν)) : List ν := events.filterMap Event.note?

/-- How many signals have landed for an activation. -/
def landings (id : EngineId) (ticket : Ticket) (moments : List (Moment ν)) : Nat :=
  moments.countP (Moment.isLanding id ticket)

/-- What the listener has heard of an engine, in order. -/
def heard (id : EngineId) (moments : List (Moment ν)) : List Heard :=
  moments.reverse.filterMap (Moment.heard? id)

/-- No signal has landed for the activation, and no hook of it has failed. -/
def Open (id : EngineId) (ticket : Ticket) (moments : List (Moment ν)) : Prop :=
  landings id ticket moments = 0 ∧ Moment.failed id ticket ∉ moments

/-- The handle comes from an activation of the history, and names the position of its command. -/
def Issued (moments : List (Moment ν)) (handle : Handle) : Prop :=
  ∃ board, Moment.called handle.engine .execute handle.index handle.ticket board ∈ moments

theorem activations_cons :
    activations id (moment :: moments) = (moment.activation? id).toList ++ activations id moments := by
  rw [activations, activations, List.filterMap_cons]
  cases moment.activation? id <;> rfl

theorem calls_cons : calls id (moment :: moments) = (moment.call? id).toList ++ calls id moments := by
  rw [calls, calls, List.filterMap_cons]
  cases moment.call? id <;> rfl

theorem landings_cons : landings id ticket (moment :: moments) =
    landings id ticket moments + if moment.isLanding id ticket then 1 else 0 :=
  List.countP_cons ..

theorem heard_cons :
    heard id (moment :: moments) = heard id moments ++ (moment.heard? id).toList := by
  rw [heard, heard, List.reverse_cons, List.filterMap_append]
  cases h : moment.heard? id <;> simp [h]

theorem heard_eq_nil (h : ∀ moment ∈ moments, moment.engine? ≠ some id) : heard id moments = [] := by
  rw [heard, List.filterMap_eq_nil_iff]
  exact fun moment hm => Moment.heard?_of_ne (h moment (List.mem_reverse.mp hm))

theorem open_cons : Open id ticket (moment :: moments) ↔
    Open id ticket moments ∧ moment.isLanding id ticket = false ∧ moment ≠ .failed id ticket := by
  rw [Open, Open, landings_cons, List.mem_cons, not_or]
  cases moment.isLanding id ticket <;> grind

theorem Issued.cons {handle : Handle} (h : Issued moments handle) : Issued (moment :: moments) handle :=
  h.imp fun _ => List.mem_cons_of_mem moment

/-! ## Moments of other engines -/

/-- A moment after which an engine has the same activations, landings and failures as before. -/
structure Moment.KeepsTickets (id : EngineId) (moment : Moment ν) : Prop where
  activation : moment.activation? id = none
  landing : ∀ ticket, moment.isLanding id ticket = false
  failure : ∀ ticket, moment ≠ .failed id ticket

theorem Moment.keepsTickets_of_ne (h : moment.engine? ≠ some id) : moment.KeepsTickets id where
  activation := activation?_of_ne h
  landing _ := isLanding_of_ne h
  failure := by rintro ticket rfl; exact h rfl

theorem Moment.keepsTickets_told (event : Event ν) : (Moment.told event).KeepsTickets id :=
  ⟨rfl, fun _ => rfl, by simp⟩

theorem Moment.keepsTickets_called {engine : EngineId} {hook : Hook} {index : Nat} {board : Switchboard}
    (h : hook ≠ .execute) : (Moment.called engine hook index ticket board : Moment ν).KeepsTickets id := by
  refine ⟨?_, fun _ => rfl, by simp⟩
  cases hook
  · exact absurd rfl h
  all_goals rfl

theorem Moment.KeepsTickets.activations (h : moment.KeepsTickets id) :
    activations id (moment :: moments) = activations id moments := by
  rw [activations_cons, h.activation]; rfl

theorem Moment.KeepsTickets.landings (h : moment.KeepsTickets id) :
    landings id ticket (moment :: moments) = landings id ticket moments := by
  rw [landings_cons, h.landing]; rfl

theorem Moment.KeepsTickets.open_ (h : moment.KeepsTickets id) :
    Open id ticket (moment :: moments) ↔ Open id ticket moments := by
  rw [open_cons]
  exact ⟨And.left, fun ho => ⟨ho, h.landing ticket, h.failure ticket⟩⟩

end Sequencer
