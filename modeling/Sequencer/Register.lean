import Sequencer.Table
import Sequencer.Uuid
import Sequencer.Word

/-!
# Jump registers and continuation handles

An engine waits in one place only: until a jump is pending in its register. Every activation of a command
gets a ticket of its own, and a signal lands only while its ticket is armed. A handle carries a ticket
out of the engine, so that a signal can come later and from elsewhere.
-/

namespace Sequencer

/-- The highest index there is. -/
def maxIndex : Nat := Word.limit - 1

/-- Where the run loop goes next. -/
inductive Jump where
  | to (index : Nat)
  | abort
deriving DecidableEq

/-- An abort lies past the end of every sequence. -/
def Jump.target : Jump → Nat
  | .to index => index
  | .abort => maxIndex

abbrev Ticket := Nat

abbrev EngineId := Uuid

/-! ## The register of one engine -/

structure Register where
  lastTicket : Ticket := 0
  armed : Option Ticket := none
  pending : Option Jump := none
deriving DecidableEq

namespace Register

/-- Issues a fresh ticket and forgets any pending jump. -/
def arm (r : Register) : Register :=
  { lastTicket := r.lastTicket + 1, armed := some (r.lastTicket + 1), pending := none }

/-- The engine's own jump: no ticket stays armed. -/
def force (r : Register) (jump : Jump) : Register := { r with armed := none, pending := some jump }

/-- A pending jump stays. -/
def disarm (r : Register) : Register := { r with armed := none }

def clearPending (r : Register) : Register := { r with pending := none }

/-- The first signal for an armed ticket lands, and disarms it. -/
def signal (r : Register) (ticket : Ticket) (target : Nat) : Bool × Register :=
  if r.armed = some ticket then (true, r.force (.to target)) else (false, r)

end Register

/-! ## Handles -/

/-- What a command keeps in order to signal after its hook has returned. -/
structure Handle where
  engine : EngineId
  ticket : Ticket
  /-- Position of the command that the ticket was issued to. -/
  index : Nat
deriving DecidableEq

/-- The registers of the engines that exist, and the handles that were put away under a name. -/
structure Switchboard where
  registers : Table EngineId Register := {}
  handles : Table String Handle := {}

namespace Switchboard

/-- An engine that no one has touched yet has the empty register. -/
def register (b : Switchboard) (id : EngineId) : Register := (b.registers.get? id).getD {}

def setRegister (b : Switchboard) (id : EngineId) (r : Register) : Switchboard :=
  { b with registers := b.registers.put id r }

/-- The engine is gone, and its handles are dead. -/
def disconnect (b : Switchboard) (id : EngineId) : Switchboard :=
  { b with registers := b.registers.erase id }

def hold (b : Switchboard) (name : String) (handle : Handle) : Switchboard :=
  { b with handles := b.handles.put name handle }

/-- Signals through a handle. -/
def signal (b : Switchboard) (handle : Handle) (target : Nat) : Bool × Switchboard :=
  match b.registers.get? handle.engine with
  | none => (false, b)
  | some r =>
    let (landed, r) := r.signal handle.ticket target
    (landed, b.setRegister handle.engine r)

/-- Whether a signal through the handle would land now. -/
def isArmed (b : Switchboard) (handle : Handle) : Bool :=
  match b.registers.get? handle.engine with
  | none => false
  | some r => r.armed = some handle.ticket

def armed? (b : Switchboard) (name : String) : Option Bool := (b.handles.get? name).map b.isArmed

end Switchboard

end Sequencer
