import Sequencer.Engine.Driver
import Sequencer.Proofs.Engine.Twins

/-!
# Twins go on alike

Whatever twins do, they do alike: they give the same results, and they are twins afterwards. No invariant is
needed for that, so it also holds of a call that does not come back.
-/

namespace Sequencer

variable {σ ν : Type} {like : Likeness σ} {apart : Prop} {o o' : Origin ν}

namespace Machine

/--
The machines differ at most in what was before their origins, and in what the likeness leaves out. Unless they were
`apart` in it there, they agree on which command was active before.
-/
structure Twin (like : Likeness σ) (apart : Prop) (o o' : Origin ν) (m m' : Machine σ ν) : Prop where
  id : m.engine.id = o.id
  id' : m'.engine.id = o'.id
  name : m.engine.name = m'.engine.name
  listener : m.engine.listener = m'.engine.listener
  diagnostics : m.engine.diagnostics = m'.engine.diagnostics
  sequence : like.Holds (m.engine.isExecuting = true) m.engine.sequence m'.engine.sequence
  run : m.engine.run = m'.engine.run
  runCount : SameRun o o' m.engine.runCount m'.engine.runCount
  previous : ¬ apart → m.engine.previousActive = m'.engine.previousActive
  shared : SameShared o o' (m.engine.isExecuting = true)
    (m.engine.previousActive ≠ m'.engine.previousActive) m.shared m'.shared

namespace Twin

variable {m m' : Machine σ ν} {ticket ticket' : Ticket}

/-! ## What twins have in common -/

section

variable (h : m.Twin like apart o o' m')

include h

theorem isExecuting : m.engine.isExecuting = m'.engine.isExecuting := by
  rw [Engine.isExecuting, Engine.isExecuting, h.run]

theorem isFaulted : m.engine.isFaulted = m'.engine.isFaulted := by
  rw [Engine.isFaulted, Engine.isFaulted, h.run]

theorem active : m.engine.active = m'.engine.active := by rw [Engine.active, Engine.active, h.run]

theorem register : SameRegister o o' m.register m'.register := by
  rw [Machine.register, Machine.register, h.id, h.id']
  exact h.shared.register

theorem pending (executing : m.engine.isExecuting = true) : m.register.pending = m'.register.pending := by
  rw [Machine.register, Machine.register, h.id, h.id']
  exact h.shared.pending executing

theorem ref : { m.engine.ref with id := o'.id } = m'.engine.ref := by
  rw [Engine.ref, Engine.ref, h.id', h.name]

theorem locationOf (index : Nat) : m.engine.locationOf index = m'.engine.locationOf index := by
  rw [Engine.locationOf, Engine.locationOf, like.get? h.sequence, h.name]

end

/-! ## Single changes -/

theorem setShared (h : m.Twin like apart o o' m') {s s' : Shared ν}
    (shared : SameShared o o' (m.engine.isExecuting = true)
      (m.engine.previousActive ≠ m'.engine.previousActive) s s') :
    Twin like apart o o' { m with shared := s } { m' with shared := s' } :=
  { h with shared }

theorem report (h : m.Twin like apart o o' m') (notice notice' : Notice) :
    (m.report notice).Twin like apart o o' (m'.report notice') :=
  h.setShared (h.shared.report notice notice')

theorem diagnose (h : m.Twin like apart o o' m') (notice notice' : Notice) :
    (if m.engine.diagnostics then m.report notice else m).Twin like apart o o'
      (if m'.engine.diagnostics then m'.report notice' else m') := by
  rw [← h.diagnostics]
  split
  · exact h.report notice notice'
  · exact h

theorem turn (h : m.Twin like apart o o' m') (turn turn' : Turn ν) :
    (m.turn turn).Twin like apart o o' (m'.turn turn') :=
  h.setShared (h.shared.turn turn turn')

theorem tell (h : m.Twin like apart o o' m') (event : Event ν) {event' : Event ν}
    (moved : event.moved o o' = event') (inactive : event.isActivation = false) (notice notice' : Notice) :
    (m.tell event notice).Twin like apart o o' (m'.tell event' notice') := by
  rw [Machine.tell, Machine.tell, ← h.listener]
  split
  · exact h
  · exact h.setShared ((h.shared.tell moved).record moved fun _ => inactive)
  · exact h.setShared ((h.shared.tell moved).report notice notice')

theorem setRegister (h : m.Twin like apart o o' m') {r r' : Register} (same : SameRegister o o' r r')
    (pending : m.engine.isExecuting = true → r.pending = r'.pending) :
    (m.setRegister r).Twin like apart o o' (m'.setRegister r') := by
  refine h.setShared ?_
  rw [h.id, h.id']
  exact h.shared.setRegister same pending

theorem setSequence (h : m.Twin like apart o o' m') {s s' : Sequence σ}
    (alike : like.Holds (m.engine.isExecuting = true) s s') :
    (m.setSequence s).Twin like apart o o' (m'.setSequence s') :=
  { h with sequence := alike }

theorem setExecuting (h : m.Twin like apart o o' m') (index : Nat) (executing : Bool) :
    (m.setExecuting index executing).Twin like apart o o' (m'.setExecuting index executing) :=
  h.setSequence (like.setExecuting h.sequence index executing)

theorem setRun (h : m.Twin like apart o o' m') {run : Option (Run ν)}
    (fewer : run.isSome = true → m.engine.isExecuting = true) :
    (m.setRun run).Twin like apart o o' (m'.setRun run) :=
  { h with
    sequence := like.mono h.sequence fewer, run := rfl, shared := h.shared.mono fewer fun quiet => quiet }

theorem mapRun (h : m.Twin like apart o o' m') (change : Run ν → Run ν) :
    (m.setRun (m.engine.run.map change)).Twin like apart o o' (m'.setRun (m'.engine.run.map change)) := by
  rw [← h.run]
  refine h.setRun fun executing => ?_
  rwa [Option.isSome_map] at executing

theorem announce (h : m.Twin like apart o o' m') (hook : Hook) (index : Nat) (ticket ticket' : Ticket)
    (activated : hook = .execute → m.engine.previousActive = m'.engine.previousActive) :
    (m.announce hook index ticket).Twin like apart o o' (m'.announce hook index ticket') := by
  refine h.setShared ((h.shared.record ?_ fun quiet => ?_).mark _ _ rfl rfl)
  · rw [h.id']
    rfl
  · cases hook with
    | execute => exact absurd (activated rfl) quiet
    | tick | stop => rfl

theorem perform {α : Type} (h : m.Twin like apart o o' m') (program : HostProgram ν α) :
    Agree (fun s s' => Twin like apart o o' { m with shared := s } { m' with shared := s' })
      (m.shared.perform program) (m'.shared.perform program) :=
  (h.shared.perform program).imp_right h.setShared

/-! ## Ending a run -/

theorem enterIdle (h : m.Twin like apart o o' m') : m.enterIdle.Twin like apart o o' m'.enterIdle := by
  have idle : (m.setRun none).Twin like apart o o' (m'.setRun none) := h.setRun (by simp)
  exact (idle.report _ _).tell (.runEnded m.engine.ref) (congrArg Event.runEnded h.ref) rfl _ _

theorem fireCallback (h : m.Twin like apart o o' m') (callback : HostProgram ν Unit) :
    (m.fireCallback callback).Twin like apart o o' (m'.fireCallback callback) := by
  have fired : (m.record (.callbackFired m.engine.id m.engine.runCount)).Twin like apart o o'
      (m'.record (.callbackFired m'.engine.id m'.engine.runCount)) := by
    refine h.setShared (h.shared.record ?_ fun _ => rfl)
    rw [Event.moved, h.runCount.moved, h.id']
  exact ((fired.turn _ _).perform callback).2

theorem finish (h : m.Twin like apart o o' m') : m.finish.Twin like apart o o' m'.finish := by
  rw [Machine.finish, Machine.finish, ← h.run]
  split
  · exact h.enterIdle
  · exact h.enterIdle.fireCallback _

/-! ## Starting a run -/

theorem launch (h : m.Twin like apart o o' m') (alike : like.Holds True m.engine.sequence m'.engine.sequence)
    (run : Run ν) (jump : Jump) :
    ((m.setRun (some run)).setRegister (m.register.force jump)).Twin like apart o o'
      ((m'.setRun (some run)).setRegister (m'.register.force jump)) := by
  have shared : SameShared o o' True _ _ _ := h.shared.setRegister (h.register.force jump jump) fun _ => rfl
  rw [← h.id, ← h.id'] at shared
  exact { h with
    sequence := like.mono alike fun _ => trivial, run := rfl
    shared := shared.mono (fun _ => trivial) fun quiet => quiet }

/-- The next run is counted, and it is not in flight yet. -/
def counted (m : Machine σ ν) (start : Nat) (onComplete : Option (HostProgram ν Unit)) : Machine σ ν :=
  let m' := { m with engine := { m.engine with
    sequence := m.engine.sequence.tidied, run := none, runCount := m.engine.runCount + 1 } }
  (m'.turn (.began m.engine.id (m.engine.runCount + 1) onComplete)).report
    (.runStarted m.engine.name (m.engine.runCount + 1) start)

theorem tell_setRun (m : Machine σ ν) (run : Option (Run ν)) (event : Event ν) (notice : Notice) :
    (m.setRun run).tell event notice = (m.tell event notice).setRun run := by
  rw [Machine.tell, Machine.tell, show (m.setRun run).engine.listener = m.engine.listener from rfl]
  split <;> rfl

theorem beginRun_eq (m : Machine σ ν) (start : Nat) (onComplete : Option (HostProgram ν Unit)) :
    let told := (counted m start onComplete).tell (.runStarted m.engine.ref) (.sequenceStarted m.engine.ref)
    m.beginRun start onComplete =
      (told.setRun (some { onComplete })).setRegister (told.register.force (.to start)) :=
  congrArg (fun m => m.setRegister (m.register.force (.to start)))
    (tell_setRun (counted m start onComplete) (some { onComplete }) (.runStarted m.engine.ref)
      (.sequenceStarted m.engine.ref))

theorem beginRun (h : m.Twin like apart o o' m') (start : Nat) (onComplete : Option (HostProgram ν Unit)) :
    (m.beginRun start onComplete).Twin like apart o o' (m'.beginRun start onComplete) := by
  have alike : like.Holds True m.engine.sequence.tidied m'.engine.sequence.tidied := like.tidied h.sequence
  have counted : (counted m start onComplete).Twin like apart o o' (counted m' start onComplete) := by
    refine report (turn ?_ _ _) _ _
    exact { h with
      sequence := like.mono alike fun _ => trivial, run := rfl, runCount := h.runCount.next
      shared := h.shared.mono (by simp [Engine.isExecuting]) fun quiet => quiet }
  have told := counted.tell (.runStarted m.engine.ref) (congrArg Event.runStarted h.ref) rfl
    (.sequenceStarted m.engine.ref) (.sequenceStarted m'.engine.ref)
  rw [beginRun_eq, beginRun_eq]
  exact told.launch (by rw [engine_tell, engine_tell]; exact alike) { onComplete } (.to start)

/-! ## Hooks -/

theorem target?_eq (m : Machine σ ν) (index : Nat) : (m.hookTarget? index).map
    (fun found => (found.1.command, found.2)) = m.engine.sequence.target? index := by
  rw [Machine.hookTarget?, Sequence.target?]
  cases m.engine.sequence.layout.slotOf index with
  | none => rfl
  | some slot =>
    simp only [Option.bind_eq_bind, Option.bind_some]
    rcases m.engine.sequence.slots[slot]? with _ | _ | entry <;> rfl

theorem hookTarget? (h : m.Twin like apart o o' m') (executing : m.engine.isExecuting = true) (index : Nat) :
    (m.hookTarget? index).map (fun found => (found.1.command, found.2)) =
      (m'.hookTarget? index).map fun found => (found.1.command, found.2) := by
  rw [target?_eq, target?_eq]
  exact like.target? (like.mono h.sequence fun _ => executing) index

theorem hookTarget?_cases (h : m.Twin like apart o o' m') (executing : m.engine.isExecuting = true) (index : Nat) :
    (m.hookTarget? index = none ∧ m'.hookTarget? index = none) ∨
      ∃ entry entry' view, m.hookTarget? index = some (entry, view) ∧
        m'.hookTarget? index = some (entry', view) ∧ entry.command = entry'.command := by
  have found := h.hookTarget? executing index
  cases target : m.hookTarget? index with
  | none =>
    rw [target] at found
    exact .inl ⟨rfl, Option.map_eq_none_iff.mp found.symm⟩
  | some here =>
    obtain ⟨entry, view⟩ := here
    rw [target] at found
    obtain ⟨⟨entry', view'⟩, found', same⟩ := Option.map_eq_some_iff.mp found.symm
    obtain ⟨command, rfl⟩ := Prod.mk.inj same
    exact .inr ⟨entry, entry', view', rfl, found', command.symm⟩

theorem runHook (h : m.Twin like apart o o' m') (pending : m.register.pending = m'.register.pending)
    (issued : SameTicket o o' ticket ticket') (index : Nat)
    (program : HookProgram ν (σ × Except CommandError Unit)) :
    let result := m.runHook index ticket program
    let result' := m'.runHook index ticket' program
    result.1 = result'.1 ∧ result.2.1 = result'.2.1 ∧ result.2.2.Twin like apart o o' result'.2.2 := by
  have frames : SameFrame o o' (m.engine.previousActive ≠ m'.engine.previousActive)
      { shared := m.shared, handle := ⟨m.engine.id, ticket, index⟩ }
      { shared := m'.shared, handle := ⟨m'.engine.id, ticket', index⟩ } := by
    rw [Machine.register, Machine.register, h.id, h.id'] at pending
    exact ⟨{ h.shared with pending := fun _ => pending }, ⟨h.id, h.id', issued, rfl⟩, rfl⟩
  obtain ⟨same, frames⟩ := Program.run_agree SameFrame.answer program frames
  have shared : SameShared o o' (m.engine.isExecuting = true) _ _ _ :=
    frames.shared.mono (fun _ => trivial) fun quiet => quiet
  rw [Machine.runHook, Machine.runHook]
  refine ⟨congrArg Prod.snd same, frames.request, ?_⟩
  have states := congrArg Prod.fst same
  dsimp only at states ⊢
  rw [← states]
  exact setShared (h.setSequence (like.setState h.sequence index _)) shared

theorem commandFailed (h : m.Twin like apart o o' m') (index : Nat) (source : CommandError) :
    Agree (Twin like apart o o') (m.commandFailed index ticket source) (m'.commandFailed index ticket' source) := by
  have faulted := h.mapRun fun run => { run with faulted := true }
  have failed := faulted.setRegister h.register.disarm
    fun executing => h.pending (by rwa [Engine.isExecuting, Machine.setRun, Option.isSome_map] at executing)
  have marked := failed.setShared (failed.shared.mark (.failed m.engine.id ticket)
    (.failed m'.engine.id ticket') rfl rfl)
  have located := marked.locationOf index
  have name := marked.name
  rw [Machine.commandFailed, Machine.commandFailed]
  refine ⟨?_, ?_⟩
  · exact congrArg₂
      (fun location name => EngineError.commandFailed (location.getD ⟨name, index, "<removed>"⟩) source)
      located name
  · exact marked.diagnose _ _

variable [Behaviour σ ν]

theorem callStopHook (h : m.Twin like apart o o' m') (index : Nat) :
    (m.callStopHook index).Twin like apart o o' (m'.callStopHook index) := by
  have found := like.get? h.sequence index
  rw [Sequence.get?, Sequence.get?] at found
  rw [Machine.callStopHook, Machine.callStopHook]
  generalize m.engine.sequence.entry? index = entry at found
  generalize m'.engine.sequence.entry? index = entry' at found
  cases entry with
  | none =>
    cases entry' with
    | none => exact h
    | some entry' => simp at found
  | some entry =>
    cases entry' with
    | none => simp at found
    | some entry' =>
      have same : entry.command = entry'.command := Option.some.inj found
      have performed := h.perform (Behaviour.onStop entry.command.state)
      dsimp only
      rw [← same, ← performed.1]
      exact performed.2.setSequence (like.setState h.sequence index _)

theorem interrupt (h : m.Twin like apart o o' m') (index : Nat) :
    (m.interrupt index).Twin like apart o o' (m'.interrupt index) := by
  have found := congrArg Option.isSome (like.get? h.sequence index)
  rw [Sequence.get?, Sequence.get?, Option.isSome_map, Option.isSome_map] at found
  rw [Machine.interrupt, Machine.interrupt, ← found]
  split
  · exact (h.announce .stop index _ _ (by simp)).callStopHook index
  · exact h

theorem stop (h : m.Twin like apart o o' m') : m.stop.Twin like apart o o' m'.stop := by
  have aborts : ∀ {m m' : Machine σ ν}, m.Twin like apart o o' m' →
      Twin like apart o o'
        ((m.setRegister (m.register.force .abort)).turn (.aborted m.engine.id m.engine.runCount)).enterIdle
        ((m'.setRegister (m'.register.force .abort)).turn (.aborted m'.engine.id m'.engine.runCount)).enterIdle :=
    fun h => ((h.setRegister (h.register.force _ _) fun _ => rfl).turn _ _).enterIdle
  rw [Machine.stop, Machine.stop, ← h.run]
  cases m.engine.run with
  | none => exact h
  | some run =>
    cases hactive : run.active with
    | none =>
      simp only [hactive]
      exact aborts h
    | some index =>
      simp only [hactive]
      exact aborts ((h.setExecuting index false).interrupt index)

theorem obey (h : m.Twin like apart o o' m') (index : Nat) (request : Option Request) :
    Agree (Twin like apart o o') (m.obey index request) (m'.obey index request) := by
  match request with
  | none => exact ⟨rfl, h⟩
  | some .stop => exact ⟨rfl, (h.report _ _).stop⟩
  | some (.restart start) => exact ⟨rfl, (h.report _ _).stop⟩

theorem settle {result result' : Except CommandError Unit × Option Request × Machine σ ν}
    (same : result.1 = result'.1) (requests : result.2.1 = result'.2.1)
    (h : result.2.2.Twin like apart o o' result'.2.2) (index : Nat) :
    Agree (Twin like apart o o') (Machine.settle index ticket result) (Machine.settle index ticket' result') := by
  obtain ⟨result, request, m⟩ := result
  obtain ⟨result', request', m'⟩ := result'
  obtain rfl : result = result' := same
  obtain rfl : request = request' := requests
  cases result with
  | error source => exact (h.commandFailed index source).imp_left (congrArg HookEnd.failed)
  | ok => exact h.obey index request

theorem callExecute (h : m.Twin like apart o o' m') (executing : m.engine.isExecuting = true)
    (pending : m.register.pending = m'.register.pending)
    (issued : SameTicket o o' ticket ticket') (activated : m.engine.previousActive = m'.engine.previousActive)
    (index : Nat) : Agree (Twin like apart o o') (m.callExecute index ticket) (m'.callExecute index ticket') := by
  rw [Machine.callExecute, Machine.callExecute]
  rcases h.hookTarget?_cases executing index with ⟨missing, missing'⟩ | ⟨entry, entry', view, found, found', same⟩
  · rw [missing, missing']
    exact ⟨rfl, h⟩
  · have reported := h.report (.hookStarted m.engine.name index entry.command.name)
      (.hookStarted m'.engine.name index entry.command.name)
    have announced := reported.announce .execute index ticket ticket' fun _ => activated
    have ran := announced.runHook pending issued index (Behaviour.execute entry.command.state view)
    rw [found, found']
    dsimp only
    rw [← same]
    exact settle ran.1 ran.2.1 ran.2.2 index

theorem callTick (h : m.Twin like apart o o' m') (executing : m.engine.isExecuting = true)
    (pending : m.register.pending = m'.register.pending) (issued : SameTicket o o' ticket ticket') (index : Nat) :
    Agree (Twin like apart o o') (m.callTick index ticket) (m'.callTick index ticket') := by
  rw [Machine.callTick, Machine.callTick]
  rcases h.hookTarget?_cases executing index with ⟨missing, missing'⟩ | ⟨entry, entry', view, found, found', same⟩
  · rw [missing, missing']
    exact ⟨rfl, h⟩
  · have announced := h.announce .tick index ticket ticket' (by simp)
    have ran := announced.runHook pending issued index (Behaviour.onTick entry.command.state view)
    rw [found, found']
    dsimp only
    rw [← same]
    exact settle ran.1 ran.2.1 ran.2.2 index

/-! ## Activating a command -/

omit [Behaviour σ ν] in
theorem isExecuting_takeJump (m : Machine σ ν) : m.takeJump.2.engine.isExecuting = m.engine.isExecuting := by
  rw [Machine.takeJump]
  split
  · rfl
  · dsimp only
    split <;> rfl

omit [Behaviour σ ν] in
theorem takeJump (h : m.Twin like apart o o' m') (executing : m.engine.isExecuting = true) :
    Agree (Twin like apart o o') m.takeJump m'.takeJump := by
  rw [Machine.takeJump, Machine.takeJump, ← h.pending executing]
  split
  · exact ⟨rfl, h⟩
  · refine ⟨rfl, ?_⟩
    have taken : (m.setRegister m.register.clearPending).Twin like apart o o'
        (m'.setRegister m'.register.clearPending) :=
      h.setRegister h.register.clearPending fun _ => rfl
    dsimp only
    rw [show (m'.setRegister m'.register.clearPending).engine.active =
      (m.setRegister m.register.clearPending).engine.active from h.active.symm]
    split
    · exact taken
    · exact taken.setExecuting _ false

omit [Behaviour σ ν] in
/-- From the first activation on, twins agree on which command was active before. -/
theorem enter (h : m.Twin like apart o o' m') (index : Nat) :
    (m.enter index).Twin like apart o o' (m'.enter index) ∧
    (m.enter index).engine.previousActive = (m'.enter index).engine.previousActive := by
  have fewer : (m.engine.run.map fun run => { run with active := some index }).isSome = true →
      m.engine.isExecuting = true := by
    rw [Option.isSome_map]
    exact fun executing => executing
  refine ⟨setExecuting ?_ index true, h.active⟩
  refine { h with
    sequence := like.mono h.sequence fewer, run := ?_, previous := fun _ => h.active
    shared := h.shared.mono fewer fun quiet => ?_ }
  · exact congrArg (Option.map fun run => { run with active := some index }) h.run
  · exact absurd h.active quiet

theorem activate (h : m.Twin like apart o o' m') (executing : m.engine.isExecuting = true) (index : Nat) :
    Agree (Twin like apart o o') (m.activate index) (m'.activate index) := by
  obtain ⟨entered, activated⟩ := h.enter index
  have entering : (m.enter index).engine.isExecuting = true := Option.isSome_map.trans executing
  have called : ∀ {m m' : Machine σ ν}, m.Twin like apart o o' m' → m.engine.isExecuting = true →
      m.engine.previousActive = m'.engine.previousActive →
      Agree (Twin like apart o o') ((m.setRegister m.register.arm).callExecute index m.register.arm.lastTicket)
        ((m'.setRegister m'.register.arm).callExecute index m'.register.arm.lastTicket) := by
    intro m m' h executing activated
    obtain ⟨armed, issued⟩ := h.register.arm
    refine (h.setRegister armed fun _ => rfl).callExecute executing ?_ issued activated index
    simp only [Machine.register, Machine.setRegister, Switchboard.register_setRegister_self]
    rfl
  rw [Machine.activate, Machine.activate, ← like.len h.sequence, ← like.get? entered.sequence]
  split
  · exact called entered entering activated
  · next command _ =>
    have told := entered.tell (.commandExecuting (m.enter index).engine.ref command.name index
      m.engine.sequence.len) (congrArg (Event.commandExecuting · command.name index _) entered.ref) rfl
      (.commandExecuting (m.enter index).engine.name command.name index m.engine.sequence.len)
      (.commandExecuting (m'.enter index).engine.name command.name index m.engine.sequence.len)
    refine called told ?_ ?_
    · rw [engine_tell]
      exact entering
    · rw [engine_tell, engine_tell]
      exact activated

/-! ## The run loop -/

omit [Behaviour σ ν] in
theorem proceed {loop : Nat → Machine σ ν → Verdict × Machine σ ν}
    (loops : ∀ {run run' m m'}, SameRun o o' run run' → m.Twin like apart o o' m' →
      Agree (Twin like apart o o') (loop run m) (loop run' m'))
    {run run' : Nat} (same : SameRun o o' run run') {ended ended' : HookEnd × Machine σ ν}
    (h : Agree (Twin like apart o o') ended ended') :
    Agree (Twin like apart o o') (Machine.proceed loop run ended) (Machine.proceed loop run' ended') := by
  obtain ⟨ended, m⟩ := ended
  obtain ⟨ended', m'⟩ := ended'
  obtain ⟨rfl, h⟩ := h
  cases ended with
  | settled => exact loops same h
  | failed error => exact ⟨rfl, h⟩
  | restart start =>
    -- The loop of the new run comes first, and then that of the old one.
    have begun := h.beginRun start none
    have nested := loops begun.runCount begun
    rw [Machine.proceed, Machine.proceed]
    generalize loop (m.beginRun start none).engine.runCount (m.beginRun start none) = played at nested
    generalize loop (m'.beginRun start none).engine.runCount (m'.beginRun start none) = played' at nested
    obtain ⟨verdict, m⟩ := played
    obtain ⟨verdict', m'⟩ := played'
    obtain ⟨rfl, h⟩ := nested
    cases verdict with
    | settled => exact loops same h
    | failed | outOfFuel => exact ⟨rfl, h⟩

theorem drive (fuel : Nat) {run run' : Nat} (same : SameRun o o' run run') (h : m.Twin like apart o o' m') :
    Agree (Twin like apart o o') (Machine.drive fuel run m) (Machine.drive fuel run' m') := by
  -- On the fuel. Both loops are those of the run in flight, or both runs have been superseded.
  induction fuel generalizing run run' m m' with
  | zero => exact ⟨rfl, h⟩
  | succ fuel ih =>
    have current : (m.engine.runCount == run) = (m'.engine.runCount == run') := by
      rw [Bool.eq_iff_iff, beq_iff_eq, beq_iff_eq]
      exact h.runCount.eq_iff same
    rw [Machine.drive, Machine.drive, ← h.isExecuting, ← current]
    split
    · next running =>
      rw [Bool.and_eq_true] at running
      have taken := h.takeJump running.1
      have executing := (isExecuting_takeJump m).trans running.1
      generalize m.takeJump = took at taken executing
      generalize m'.takeJump = took' at taken
      obtain ⟨jump, m⟩ := took
      obtain ⟨jump', m'⟩ := took'
      obtain ⟨rfl, h⟩ := taken
      cases jump with
      | none => exact ⟨rfl, h⟩
      | some jump =>
        have h : m.Twin like apart o o' m' := h
        dsimp only
        rw [← like.nextRunnable h.sequence jump.target]
        cases m.engine.sequence.nextRunnable jump.target with
        | none => exact ⟨rfl, (h.turn _ _).finish⟩
        | some index => exact proceed (fun same h => ih same h) same ((h.turn _ _).activate executing index)
    · exact ⟨rfl, h⟩

/-! ## What a host can do -/

theorem execute (h : m.Twin like apart o o' m') (fuel start : Nat) (onComplete : Option (HostProgram ν Unit)) :
    Agree (Twin like apart o o') (m.execute fuel start onComplete) (m'.execute fuel start onComplete) := by
  rw [Machine.execute, Machine.execute, ← h.isExecuting]
  split
  · exact ⟨rfl, h.report _ _⟩
  · have begun := h.beginRun start onComplete
    exact (drive fuel begun.runCount begun).imp_left (congrArg (Verdict.outcome Launch.started))

omit [Behaviour σ ν] in
theorem refreshIfIdle_eq (m : Machine σ ν) :
    m.refreshIfIdle = if m.engine.isExecuting then m else m.setSequence m.engine.sequence.tidied := by
  rw [Machine.refreshIfIdle, Sequence.tidied]
  cases m.engine.sequence.needsRefresh <;> cases m.engine.isExecuting <;> rfl

omit [Behaviour σ ν] in
theorem refreshIfIdle (h : m.Twin like apart o o' m') : m.refreshIfIdle.Twin like apart o o' m'.refreshIfIdle := by
  rw [refreshIfIdle_eq, refreshIfIdle_eq, ← h.isExecuting]
  split
  · exact h
  · exact h.setSequence (like.mono (like.tidied h.sequence) fun _ => trivial)

theorem executeLabel (h : m.Twin like apart o o' m') (fuel : Nat) (key : String)
    (onComplete : Option (HostProgram ν Unit)) :
    Agree (Twin like apart o o') (m.executeLabel fuel key onComplete) (m'.executeLabel fuel key onComplete) := by
  have refreshed := h.refreshIfIdle
  have found : m.refreshIfIdle.engine.findLabel? key = m'.refreshIfIdle.engine.findLabel? key :=
    like.findLabel? refreshed.sequence key
  rw [Machine.executeLabel, Machine.executeLabel, ← found]
  split
  · exact ⟨rfl, refreshed.report _ _⟩
  · exact refreshed.execute fuel _ onComplete

theorem tick (h : m.Twin like apart o o' m') (fuel : Nat) :
    Agree (Twin like apart o o') (m.tick fuel) (m'.tick fuel) := by
  rw [Machine.tick, Machine.tick, ← h.isExecuting, ← h.isFaulted]
  split
  · next running =>
    rw [Bool.and_eq_true] at running
    have pending := h.pending running.1
    have armed := h.register.armed
    have waits := h.drive fuel h.runCount
    rw [← h.active, ← pending]
    cases m.register.pending with
    | some jump => exact waits
    | none =>
      cases m.engine.active with
      | none => exact waits
      | some index =>
        generalize m.register.armed = ticket at armed
        generalize m'.register.armed = ticket' at armed
        cases armed with
        | none => exact waits
        | some issued =>
          exact proceed (fun same h => drive fuel same h) h.runCount (h.callTick running.1 pending issued index)
  · exact ⟨rfl, h⟩

theorem jumpTo (h : m.Twin like apart o o' m') (executing : m.engine.isExecuting = true) (run : Run ν)
    (index : Nat) : (m.jumpTo run index).Twin like apart o o' (m'.jumpTo run index) := by
  have resolves : ∀ {m m' : Machine σ ν}, m.Twin like apart o o' m' →
      ((m.setRun (m.engine.run.map fun run => { run with faulted := false })).setRegister
        (m.register.force (.to index))).Twin like apart o o'
        ((m'.setRun (m'.engine.run.map fun run => { run with faulted := false })).setRegister
          (m'.register.force (.to index))) :=
    fun h => (h.mapRun _).setRegister (h.register.force _ _) fun _ => rfl
  rw [Machine.jumpTo, Machine.jumpTo, ← h.pending executing]
  cases m.register.pending with
  | some jump => exact resolves h
  | none =>
    cases run.active with
    | none => exact resolves h
    | some active => exact resolves (h.interrupt active)

theorem redirect (h : m.Twin like apart o o' m') (fuel index : Nat) :
    Agree (Twin like apart o o') (m.redirect fuel index) (m'.redirect fuel index) := by
  have executing : ∀ run, m.engine.run = some run → m.engine.isExecuting = true := by
    rintro run hr
    rw [Engine.isExecuting, hr]
    rfl
  rw [Machine.redirect, Machine.redirect, ← h.run, ← like.len h.sequence, ← h.name]
  split
  · exact ⟨rfl, h⟩
  · next run hr =>
    dsimp only
    split
    · exact ⟨rfl, h⟩
    · have jumped := h.jumpTo (executing run hr) run index
      exact (drive fuel jumped.runCount jumped).imp_left (congrArg (Verdict.outcome ()))

theorem redirectToLabel (h : m.Twin like apart o o' m') (fuel : Nat) (key : String) :
    Agree (Twin like apart o o') (m.redirectToLabel fuel key) (m'.redirectToLabel fuel key) := by
  have found : m.engine.findLabel? key = m'.engine.findLabel? key := like.findLabel? h.sequence key
  rw [Machine.redirectToLabel, Machine.redirectToLabel, ← found]
  cases m.engine.findLabel? key with
  | none => exact ⟨rfl, h.report _ _⟩
  | some target =>
    have redirected := h.redirect fuel target
    dsimp only
    generalize m.redirect fuel target = ended at redirected
    generalize m'.redirect fuel target = ended' at redirected
    obtain ⟨outcome, m⟩ := ended
    obtain ⟨outcome', m'⟩ := ended'
    obtain ⟨rfl, h⟩ := redirected
    cases outcome <;> exact ⟨rfl, h⟩

omit [Behaviour σ ν] in
theorem setEnabled (h : m.Twin like apart o o' m') (index : Nat) (enabled : Bool) :
    Agree (Twin like apart o o') (m.setEnabled index enabled) (m'.setEnabled index enabled) := by
  have there := congrArg Option.isSome (like.get? h.sequence index)
  rw [Sequence.get?, Sequence.get?, Option.isSome_map, Option.isSome_map] at there
  have changed := like.setEnabled h.sequence index enabled
  rw [Machine.setEnabled, Machine.setEnabled, Sequence.setEnabled, Sequence.setEnabled, ← there,
    ← like.len h.sequence]
  cases (m.engine.sequence.entry? index).isSome with
  | true => exact ⟨rfl, h.setSequence changed⟩
  | false => exact ⟨rfl, h⟩

omit [Behaviour σ ν] in
theorem edit (h : m.Twin like apart o o' m') {edit : Edit σ}
    (alike : (edit.apply m.engine.sequence).1 = (edit.apply m'.engine.sequence).1 ∧
      like.Holds False (edit.apply m.engine.sequence).2 (edit.apply m'.engine.sequence).2) :
    Agree (Twin like apart o o') (m.edit edit) (m'.edit edit) := by
  rw [Machine.edit, Machine.edit, Machine.editable, Machine.editable, ← h.isExecuting, ← h.name]
  by_cases busy : m.engine.isExecuting = true
  · rw [if_pos busy, if_pos busy]
    exact ⟨rfl, h⟩
  · rw [if_neg busy, if_neg busy]
    exact ⟨congrArg Except.ok alike.1, h.setSequence (like.mono alike.2 busy)⟩

theorem reply (h : m.Twin like apart o o' m') (fuel : Nat) (call : Call σ ν) :
    Agree (Twin like apart o o') (m.reply fuel call) (m'.reply fuel call) := by
  cases call with
  | execute start onComplete => exact (h.execute fuel start onComplete).imp_left (congrArg CallReply.launched)
  | executeLabel key onComplete => exact (h.executeLabel fuel key onComplete).imp_left (congrArg CallReply.launched)
  | tick => exact (h.tick fuel).imp_left (congrArg CallReply.ticked)
  | stop => exact ⟨rfl, h.stop⟩
  | redirect index => exact (h.redirect fuel index).imp_left (congrArg CallReply.redirected)
  | redirectToLabel key => exact (h.redirectToLabel fuel key).imp_left (congrArg CallReply.redirectedTo)
  | setEnabled index enabled => exact (h.setEnabled index enabled).imp_left (congrArg CallReply.changed)
  | release index state =>
    rw [Machine.reply, Machine.reply, Machine.editable, Machine.editable, ← h.isExecuting, ← h.name]
    by_cases busy : m.engine.isExecuting = true
    · rw [if_pos busy, if_pos busy]
      exact ⟨rfl, h⟩
    · rw [if_neg busy, if_neg busy]
      exact ⟨rfl, h.setSequence (like.setState h.sequence index state)⟩

/-! ## Driving -/

theorem driveOn (h : m.Twin like apart o o' m') (fuel : Nat) (maxTicks : Option Nat) (rounds ticks : Nat) :
    Agree (Twin like apart o o') (m.driveOn fuel maxTicks rounds ticks) (m'.driveOn fuel maxTicks rounds ticks) := by
  induction rounds generalizing ticks m m' with
  | zero => exact ⟨rfl, h⟩
  | succ rounds ih =>
    rw [Machine.driveOn, Machine.driveOn, ← h.isExecuting, ← h.isFaulted]
    split
    · exact ⟨rfl, h.report _ _⟩
    split
    · exact ⟨rfl, h.report _ _⟩
    split
    · exact ⟨rfl, h.report _ _⟩
    have ticked := h.tick fuel
    generalize m.tick fuel = ended at ticked
    generalize m'.tick fuel = ended' at ticked
    obtain ⟨verdict, m⟩ := ended
    obtain ⟨verdict', m'⟩ := ended'
    obtain ⟨rfl, h⟩ := ticked
    cases verdict with
    | settled => exact ih h (ticks + 1)
    | failed | outOfFuel => exact ⟨rfl, h⟩

theorem runUntilIdle (h : m.Twin like apart o o' m') (fuel rounds interval : Nat) (maxTicks : Option Nat) :
    Agree (Twin like apart o o') (m.runUntilIdle fuel rounds interval maxTicks)
      (m'.runUntilIdle fuel rounds interval maxTicks) := by
  rw [Machine.runUntilIdle, Machine.runUntilIdle]
  split
  · exact ⟨rfl, h⟩
  · exact h.driveOn fuel maxTicks rounds 0

end Twin

end Machine

end Sequencer
