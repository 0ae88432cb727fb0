import Sequencer.Proofs.Engine.Lookups

/-!
# Machines in step

A relation between machines with the same engine that is kept by each single change, and by each answer to a hook or
callback whose lookups are such, is kept by whole operations, and they answer alike. No invariant is needed for that,
so it also holds of a call that does not come back.
-/

namespace Sequencer

variable {σ ν : Type} {P : Lookup → Prop}

/-- What a run looks up on its way is enough to relate it to another run. -/
theorem Program.run_agree_of_lookups {Q : Type} {A : Q → Type} {α S : Type} {answer : (q : Q) → S → A q × S}
    {look : Q → S → List Lookup} {R : S → S → Prop}
    (step : ∀ q s s', (∀ l ∈ look q s, P l) → R s s' → Agree R (answer q s) (answer q s'))
    (program : Program A α) {s s' : S} (such : ∀ l ∈ program.lookups look answer s, P l) (h : R s s') :
    Agree R (program.run answer s) (program.run answer s') := by
  induction program generalizing s s' with
  | done value => exact ⟨rfl, h⟩
  | ask question next ih =>
    rw [Program.lookups, List.forall_mem_append] at such
    obtain ⟨same, related⟩ := step question s s' such.1 h
    rw [Program.run, Program.run]
    dsimp only
    rw [← same]
    exact ih _ such.2 related

/-- A signal for the engine has landed. -/
def Moment.lands (id : EngineId) : Moment ν → Bool
  | .landed handle => handle.engine = id
  | _ => false

namespace Machine

/-- Related machines stay in step as long as all that is looked up is such. -/
structure InStep (P : Lookup → Prop) (R : Machine σ ν → Machine σ ν → Prop) : Prop where
  engine {m m' : Machine σ ν} : R m m' → m.engine = m'.engine
  register {m m' : Machine σ ν} : R m m' → m.register = m'.register
  setEngine {m m' : Machine σ ν} : R m m' → ∀ {e : Engine σ ν}, e.id = m.engine.id →
    R { m with engine := e } { m' with engine := e }
  setRegister {m m' : Machine σ ν} : R m m' → ∀ r, R (m.setRegister r) (m'.setRegister r)
  record {m m' : Machine σ ν} : R m m' → ∀ event, R (m.record event) (m'.record event)
  report {m m' : Machine σ ν} : R m m' → ∀ notice, R (m.report notice) (m'.report notice)
  turn {m m' : Machine σ ν} : R m m' → ∀ turn turn', R (m.turn turn) (m'.turn turn')
  /-- Listeners are told the same; else moments may differ. -/
  mark {m m' : Machine σ ν} : R m m' → ∀ {moment moment' : Moment ν}, moment.told? = moment'.told? →
    (∀ id, moment.lands id = false) → R (m.mark moment) (m'.mark moment')
  hold {m m' : Machine σ ν} : R m m' → ∀ (name : String) {handle : Handle}, handle.engine = m.engine.id →
    R { m with shared := { m.shared with board := m.shared.board.hold name handle } }
      { m' with shared := { m'.shared with board := m'.shared.board.hold name handle } }
  signal {m m' : Machine σ ν} : R m m' → ∀ {handle : Handle}, handle.engine = m.engine.id → ∀ target,
    Agree (fun s s' => R { m with shared := s } { m' with shared := s' }) (m.shared.signal handle target)
      (m'.shared.signal handle target)
  answer {m m' : Machine σ ν} : R m m' → ∀ question, (∀ l ∈ Shared.asked question m.shared, P l) →
    Agree (fun s s' => R { m with shared := s } { m' with shared := s' }) (m.shared.answer question)
      (m'.shared.answer question)

structure SameFrame (R : Machine σ ν → Machine σ ν → Prop) (m m' : Machine σ ν) (f f' : HookFrame ν) : Prop where
  shared : R { m with shared := f.shared } { m' with shared := f'.shared }
  handle : f.handle = f'.handle
  own : f.handle.engine = m.engine.id
  request : f.request = f'.request

namespace InStep

variable {R : Machine σ ν → Machine σ ν → Prop} (k : InStep P R) {m m' : Machine σ ν}

include k

/-! ## Single changes -/

theorem setSequence (h : R m m') (s : Sequence σ) : R (m.setSequence s) (m'.setSequence s) := by
  rw [Machine.setSequence, Machine.setSequence, ← k.engine h]
  exact k.setEngine h rfl

theorem setRun (h : R m m') (run : Option (Run ν)) : R (m.setRun run) (m'.setRun run) := by
  rw [Machine.setRun, Machine.setRun, ← k.engine h]
  exact k.setEngine h rfl

theorem setExecuting (h : R m m') (index : Nat) (executing : Bool) :
    R (m.setExecuting index executing) (m'.setExecuting index executing) := by
  rw [Machine.setExecuting, Machine.setExecuting, ← k.engine h]
  exact k.setSequence h _

theorem change (h : R m m') (change : Register → Register) :
    R (m.setRegister (change m.register)) (m'.setRegister (change m'.register)) := by
  rw [← k.register h]
  exact k.setRegister h _

theorem diagnose (h : R m m') (notice : Notice) :
    R (if m.engine.diagnostics then m.report notice else m)
      (if m'.engine.diagnostics then m'.report notice else m') := by
  rw [← k.engine h]
  split
  · exact k.report h notice
  · exact h

theorem tell (h : R m m') (event : Event ν) (notice : Notice) : R (m.tell event notice) (m'.tell event notice) := by
  rw [Machine.tell, Machine.tell, ← k.engine h]
  split
  · exact h
  · exact k.record (k.mark h rfl fun _ => rfl) event
  · exact k.report (k.mark h rfl fun _ => rfl) notice

theorem announce (h : R m m') (hook : Hook) (index : Nat) (ticket : Ticket) :
    R (m.announce hook index ticket) (m'.announce hook index ticket) := by
  rw [Machine.announce, Machine.announce, ← k.engine h]
  exact k.mark (k.record h _) rfl fun _ => rfl

theorem perform {α : Type} (h : R m m') (program : HostProgram ν α)
    (such : ∀ l ∈ m.shared.lookups program, P l) :
    Agree (fun s s' => R { m with shared := s } { m' with shared := s' }) (m.shared.perform program)
      (m'.shared.perform program) := by
  have step : ∀ question s s', (∀ l ∈ Shared.asked question s, P l) →
      R { m with shared := s } { m' with shared := s' } →
      Agree (fun s s' => R { m with shared := s } { m' with shared := s' }) (s.answer question)
        (s'.answer question) :=
    fun question _ _ such h => k.answer h question such
  exact Program.run_agree_of_lookups step program such h

/-! ## Ending a run -/

theorem enterIdle (h : R m m') : R m.enterIdle m'.enterIdle := by
  rw [Machine.enterIdle, Machine.enterIdle, ← k.engine h]
  exact k.tell (k.report (k.setRun h none) _) _ _

theorem completing (h : R m m') (callback : HostProgram ν Unit) :
    R (m.completing callback) (m'.completing callback) := by
  have idle := k.enterIdle h
  rw [Machine.completing, Machine.completing, ← k.engine idle]
  exact k.turn (k.record idle _) _ _

theorem finish (h : R m m') (such : ∀ l ∈ m.lookupsInFinish, P l) : R m.finish m'.finish := by
  rw [lookupsInFinish] at such
  rw [Machine.finish, Machine.finish, ← k.engine h]
  split
  · exact k.enterIdle h
  · next callback heq =>
    rw [heq] at such
    exact (k.perform (k.completing h callback) callback such).2

/-! ## Starting a run -/

theorem beginRun (h : R m m') (start : Nat) (onComplete : Option (HostProgram ν Unit)) :
    R (m.beginRun start onComplete) (m'.beginRun start onComplete) := by
  rw [Machine.beginRun, Machine.beginRun, ← k.engine h]
  refine k.change (k.tell (k.report (k.turn (k.setEngine h ?_) _ _) _) _ _) (·.force (.to start))
  rfl

/-! ## Hooks -/

theorem hookAnswer (question : HookQuestion ν) {f f' : HookFrame ν}
    (such : ∀ l ∈ HookFrame.asked question f, P l) (h : SameFrame R m m' f f') :
    Agree (SameFrame R m m') (HookFrame.answer question f) (HookFrame.answer question f') := by
  obtain ⟨s, handle, request⟩ := f
  obtain ⟨s', handle', request'⟩ := f'
  obtain ⟨shared, sameHandle, own, sameRequest⟩ := h
  obtain rfl : handle = handle' := sameHandle
  obtain rfl : request = request' := sameRequest
  cases question with
  | host question =>
    obtain ⟨same, shared⟩ := k.answer shared question such
    exact ⟨same, shared, rfl, own, rfl⟩
  | signal target =>
    obtain ⟨same, shared⟩ := k.signal shared own target
    exact ⟨same, shared, rfl, own, rfl⟩
  | hasSignalled =>
    have registers := k.register shared
    rw [Machine.register, Machine.register, ← k.engine shared] at registers
    refine ⟨?_, shared, rfl, own, rfl⟩
    show (s.board.register handle.engine).pending.isSome = (s'.board.register handle.engine).pending.isSome
    rw [show handle.engine = m.engine.id from own]
    exact congrArg (·.pending.isSome) registers
  | hold name => exact ⟨rfl, k.hold shared name own, rfl, own, rfl⟩
  | request wish => exact ⟨rfl, shared, rfl, own, rfl⟩
  | report notice => exact ⟨rfl, k.report shared notice, rfl, own, rfl⟩

theorem hookTarget? (h : R m m') (index : Nat) : m'.hookTarget? index = m.hookTarget? index := by
  rw [Machine.hookTarget?, Machine.hookTarget?, k.engine h]

theorem runHook (h : R m m') (index : Nat) (ticket : Ticket) (program : HookProgram ν (σ × Except CommandError Unit))
    (such : ∀ l ∈ m.lookupsInHook index ticket program, P l) :
    let result := m.runHook index ticket program
    let result' := m'.runHook index ticket program
    result.1 = result'.1 ∧ result.2.1 = result'.2.1 ∧ R result.2.2 result'.2.2 := by
  have frames : SameFrame R m m' { shared := m.shared, handle := ⟨m.engine.id, ticket, index⟩ }
      { shared := m'.shared, handle := ⟨m.engine.id, ticket, index⟩ } :=
    ⟨h, rfl, rfl, rfl⟩
  obtain ⟨same, frames⟩ :=
    Program.run_agree_of_lookups (fun question _ _ => k.hookAnswer question) program such frames
  rw [Machine.runHook, Machine.runHook, ← k.engine h]
  refine ⟨congrArg Prod.snd same, frames.request, ?_⟩
  have states := congrArg Prod.fst same
  dsimp only at states ⊢
  rw [← states]
  exact k.setSequence frames.shared _

theorem commandFailed (h : R m m') (index : Nat) (ticket : Ticket) (source : CommandError) :
    Agree R (m.commandFailed index ticket source) (m'.commandFailed index ticket source) := by
  have faulted := k.change (k.setRun h (m.engine.run.map fun run => { run with faulted := true })) (·.disarm)
  have marked := k.mark faulted (rfl : (Moment.failed m.engine.id ticket).told? = _) fun _ => rfl
  obtain ⟨e, s⟩ := m
  obtain ⟨e', s'⟩ := m'
  obtain rfl : e = e' := k.engine h
  exact ⟨rfl, k.diagnose marked _⟩

variable [Behaviour σ ν]

theorem interrupt (h : R m m') (index : Nat) (such : ∀ l ∈ m.lookupsInInterrupt index, P l) :
    R (m.interrupt index) (m'.interrupt index) := by
  have announced := k.announce h .stop index m.register.lastTicket
  rw [lookupsInInterrupt] at such
  rw [Machine.interrupt, Machine.interrupt, ← k.engine h, ← k.register h, callStopHook, callStopHook,
    ← k.engine announced]
  cases found : m.engine.sequence.entry? index with
  | none => exact h
  | some entry =>
    rw [found] at such
    obtain ⟨same, performed⟩ := k.perform announced (Behaviour.onStop entry.command.state) such
    rw [show (m.announce .stop index m.register.lastTicket).engine = m.engine from rfl, found]
    dsimp only
    rw [← same]
    exact k.setSequence performed _

theorem stop (h : R m m') (such : ∀ l ∈ m.lookupsInStop, P l) : R m.stop m'.stop := by
  have aborts : ∀ {m m' : Machine σ ν}, R m m' →
      R ((m.setRegister (m.register.force .abort)).turn (.aborted m.engine.id m.engine.runCount)).enterIdle
        ((m'.setRegister (m'.register.force .abort)).turn (.aborted m'.engine.id m'.engine.runCount)).enterIdle :=
    fun h => k.enterIdle (k.turn (k.change h (·.force .abort)) _ _)
  rw [lookupsInStop, Engine.active] at such
  rw [Machine.stop, Machine.stop, ← k.engine h]
  cases running : m.engine.run with
  | none => exact h
  | some run =>
    rw [running, Option.bind_some] at such
    dsimp only
    cases active : run.active with
    | none => exact aborts h
    | some index =>
      rw [active] at such
      exact aborts (k.interrupt (k.setExecuting h index false) index such)

theorem settle {index : Nat} {ticket : Ticket} {result result' : HookResult σ ν} (same : result.1 = result'.1)
    (requests : result.2.1 = result'.2.1) (h : R result.2.2 result'.2.2)
    (such : ∀ l ∈ lookupsInSettle index result, P l) :
    Agree R (Machine.settle index ticket result) (Machine.settle index ticket result') := by
  obtain ⟨result, request, m⟩ := result
  obtain ⟨result', request', m'⟩ := result'
  obtain rfl : result = result' := same
  obtain rfl : request = request' := requests
  have h : R m m' := h
  cases result with
  | error source => exact (k.commandFailed h index ticket source).imp_left (congrArg HookEnd.failed)
  | ok =>
    rw [Machine.settle, Machine.settle]
    match request with
    | none => exact ⟨rfl, h⟩
    | some .stop =>
      rw [obey, obey, ← k.engine h]
      exact ⟨rfl, k.stop (k.report h _) such⟩
    | some (.restart start) =>
      rw [obey, obey, ← k.engine h]
      exact ⟨rfl, k.stop (k.report h _) such⟩

theorem hooked (h : R m m') (index : Nat) (ticket : Ticket)
    (program : HookProgram ν (σ × Except CommandError Unit))
    (such : ∀ l ∈ m.lookupsInCall index ticket program, P l) :
    Agree R (Machine.settle index ticket (m.runHook index ticket program))
      (Machine.settle index ticket (m'.runHook index ticket program)) := by
  obtain ⟨inside, after⟩ := List.forall_mem_append.mp such
  obtain ⟨same, requests, ran⟩ := k.runHook h index ticket program inside
  exact k.settle same requests ran after

theorem callExecute (h : R m m') (index : Nat) (ticket : Ticket)
    (such : ∀ l ∈ m.lookupsInExecute index ticket, P l) :
    Agree R (m.callExecute index ticket) (m'.callExecute index ticket) := by
  rw [lookupsInExecute] at such
  rw [Machine.callExecute, Machine.callExecute, k.hookTarget? h, ← k.engine h]
  cases target : m.hookTarget? index with
  | none => exact ⟨rfl, h⟩
  | some found =>
    rw [target] at such
    exact k.hooked (k.announce (k.report h _) .execute index ticket) index ticket _ such

theorem callTick (h : R m m') (index : Nat) (ticket : Ticket) (such : ∀ l ∈ m.lookupsInTick index ticket, P l) :
    Agree R (m.callTick index ticket) (m'.callTick index ticket) := by
  rw [lookupsInTick] at such
  rw [Machine.callTick, Machine.callTick, k.hookTarget? h]
  cases target : m.hookTarget? index with
  | none => exact ⟨rfl, h⟩
  | some found =>
    rw [target] at such
    exact k.hooked (k.announce h .tick index ticket) index ticket _ such

/-! ## Activating a command -/

omit [Behaviour σ ν] in
theorem takeJump (h : R m m') : Agree R m.takeJump m'.takeJump := by
  have taken := k.change h (·.clearPending)
  rw [Machine.takeJump, Machine.takeJump, ← k.register h]
  rw [← k.register h] at taken
  cases m.register.pending with
  | none => exact ⟨rfl, h⟩
  | some jump =>
    refine ⟨rfl, ?_⟩
    dsimp only
    rw [← k.engine taken]
    split
    · exact taken
    · exact k.setExecuting taken _ false

omit [Behaviour σ ν] in
theorem enter (h : R m m') (index : Nat) : R (m.enter index) (m'.enter index) := by
  rw [Machine.enter, Machine.enter, ← k.engine h]
  refine k.setExecuting (k.setEngine h ?_) index true
  rfl

theorem activate (h : R m m') (index : Nat) (such : ∀ l ∈ m.lookupsInActivate index, P l) :
    Agree R (m.activate index) (m'.activate index) := by
  have entered := k.enter h index
  have called : ∀ {m m' : Machine σ ν}, R m m' →
      (∀ l ∈ (m.setRegister m.register.arm).lookupsInExecute index m.register.arm.lastTicket, P l) →
      Agree R ((m.setRegister m.register.arm).callExecute index m.register.arm.lastTicket)
        ((m'.setRegister m'.register.arm).callExecute index m'.register.arm.lastTicket) := by
    intro m m' h such
    have armed := k.change h (·.arm)
    rw [← k.register h] at armed ⊢
    exact k.callExecute armed index _ such
  rw [lookupsInActivate] at such
  rw [Machine.activate, Machine.activate, ← k.engine h, ← k.engine entered]
  cases found : (m.enter index).engine.sequence.get? index with
  | none =>
    rw [found] at such
    exact called entered such
  | some command =>
    rw [found] at such
    exact called (k.tell entered _ _) such

/-! ## The run loop -/

omit [Behaviour σ ν] in
theorem proceed {loop : Nat → Machine σ ν → Verdict × Machine σ ν} {looks : Nat → Machine σ ν → List Lookup}
    (loops : ∀ run m m', R m m' → (∀ l ∈ looks run m, P l) → Agree R (loop run m) (loop run m'))
    {run : Nat} {ended ended' : HookEnd × Machine σ ν} (h : Agree R ended ended')
    (such : ∀ l ∈ lookupsInProceed loop looks run ended, P l) :
    Agree R (Machine.proceed loop run ended) (Machine.proceed loop run ended') := by
  obtain ⟨ended, m⟩ := ended
  obtain ⟨ended', m'⟩ := ended'
  obtain ⟨rfl, h⟩ := h
  cases ended with
  | settled => exact loops run m m' h such
  | failed error => exact ⟨rfl, h⟩
  | restart start =>
    -- The loop of the new run comes first, and then that of the old one.
    have begun := k.beginRun h start none
    obtain ⟨first, second⟩ := List.forall_mem_append.mp such
    have nested := loops _ _ _ begun first
    rw [Machine.proceed, Machine.proceed, ← k.engine begun]
    generalize loop (m.beginRun start none).engine.runCount (m.beginRun start none) = played at nested second
    generalize loop (m.beginRun start none).engine.runCount (m'.beginRun start none) = played' at nested
    obtain ⟨verdict, m⟩ := played
    obtain ⟨verdict', m'⟩ := played'
    obtain ⟨rfl, h⟩ := nested
    cases verdict with
    | settled => exact loops run m m' h second
    | failed | outOfFuel => exact ⟨rfl, h⟩

theorem drive (fuel run : Nat) (h : R m m') (such : ∀ l ∈ lookupsInDrive fuel run m, P l) :
    Agree R (Machine.drive fuel run m) (Machine.drive fuel run m') := by
  -- On the fuel. The loop of a run that is begun on the way is covered too, so the run is general.
  induction fuel generalizing run m m' with
  | zero => exact ⟨rfl, h⟩
  | succ fuel ih =>
    rw [lookupsInDrive] at such
    rw [Machine.drive, Machine.drive, ← k.engine h]
    split
    · next running =>
      rw [if_pos running] at such
      have taken := k.takeJump h
      generalize m.takeJump = took at taken such
      generalize m'.takeJump = took' at taken
      obtain ⟨jump, m⟩ := took
      obtain ⟨jump', m'⟩ := took'
      obtain ⟨rfl, h⟩ := taken
      have h : R m m' := h
      cases jump with
      | none => exact ⟨rfl, h⟩
      | some jump =>
        dsimp only at such ⊢
        rw [← k.engine h]
        cases next : m.engine.sequence.nextRunnable jump.target with
        | none =>
          rw [next] at such
          exact ⟨rfl, k.finish (k.turn h _ _) such⟩
        | some index =>
          rw [next] at such
          obtain ⟨inside, after⟩ := List.forall_mem_append.mp such
          exact k.proceed (fun run m m' => @ih m m' run) (k.activate (k.turn h _ _) index inside) after
    · exact ⟨rfl, h⟩

/-! ## What a host can do -/

theorem execute (h : R m m') (fuel start : Nat) (onComplete : Option (HostProgram ν Unit))
    (such : ∀ l ∈ m.lookupsInLaunch fuel start onComplete, P l) :
    Agree R (m.execute fuel start onComplete) (m'.execute fuel start onComplete) := by
  rw [lookupsInLaunch] at such
  rw [Machine.execute, Machine.execute, ← k.engine h]
  split
  · exact ⟨rfl, k.report h _⟩
  · next idle =>
    rw [if_neg idle] at such
    have begun := k.beginRun h start onComplete
    have played := k.drive fuel _ begun such
    rw [Machine.startRun, Machine.startRun, ← k.engine begun]
    exact played.imp_left (congrArg (Verdict.outcome Launch.started))

omit [Behaviour σ ν] in
theorem refreshIfIdle (h : R m m') : R m.refreshIfIdle m'.refreshIfIdle := by
  rw [Machine.refreshIfIdle, Machine.refreshIfIdle, ← k.engine h]
  split
  · exact k.setSequence h _
  · exact h

theorem executeLabel (h : R m m') (fuel : Nat) (key : String) (onComplete : Option (HostProgram ν Unit))
    (such : ∀ l ∈ m.lookupsInReply fuel (.executeLabel key onComplete), P l) :
    Agree R (m.executeLabel fuel key onComplete) (m'.executeLabel fuel key onComplete) := by
  have refreshed := k.refreshIfIdle h
  rw [lookupsInReply] at such
  rw [Machine.executeLabel, Machine.executeLabel, ← k.engine refreshed]
  cases found : m.refreshIfIdle.engine.findLabel? key with
  | none => exact ⟨rfl, k.report refreshed _⟩
  | some start =>
    rw [found] at such
    exact k.execute refreshed fuel start onComplete such

theorem tick (h : R m m') (fuel : Nat) (such : ∀ l ∈ m.lookupsInTicking fuel, P l) :
    Agree R (m.tick fuel) (m'.tick fuel) := by
  rw [lookupsInTicking] at such
  rw [Machine.tick, Machine.tick, ← k.register h, ← k.engine h]
  split
  · next running =>
    rw [if_pos running] at such
    dsimp only at such ⊢
    cases pending : m.register.pending with
    | some jump =>
      rw [pending] at such
      exact k.drive fuel _ h such
    | none =>
      rw [pending] at such
      cases active : m.engine.active with
      | none =>
        rw [active] at such
        exact k.drive fuel _ h such
      | some index =>
        rw [active] at such
        cases armed : m.register.armed with
        | none =>
          rw [armed] at such
          exact k.drive fuel _ h such
        | some ticket =>
          rw [armed] at such
          obtain ⟨inside, after⟩ := List.forall_mem_append.mp such
          exact k.proceed (fun run _ _ => k.drive fuel run) (k.callTick h index ticket inside) after
  · exact ⟨rfl, h⟩

theorem jumpTo (h : R m m') (run : Run ν) (index : Nat)
    (such : ∀ l ∈ match m.register.pending, run.active with
      | none, some active => m.lookupsInInterrupt active
      | _, _ => [], P l) : R (m.jumpTo run index) (m'.jumpTo run index) := by
  have resolves : ∀ {m m' : Machine σ ν}, R m m' →
      R ((m.setRun (m.engine.run.map fun run => { run with faulted := false })).setRegister
          (m.register.force (.to index)))
        ((m'.setRun (m'.engine.run.map fun run => { run with faulted := false })).setRegister
          (m'.register.force (.to index))) := by
    intro m m' h
    rw [← k.engine h]
    exact k.change (k.setRun h _) (·.force (.to index))
  rw [Machine.jumpTo, Machine.jumpTo, ← k.register h]
  cases pending : m.register.pending with
  | some jump => exact resolves h
  | none =>
    rw [pending] at such
    cases active : run.active with
    | none => exact resolves h
    | some active' =>
      rw [active] at such
      exact resolves (k.interrupt h active' such)

theorem redirect (h : R m m') (fuel index : Nat) (such : ∀ l ∈ m.lookupsInRedirect fuel index, P l) :
    Agree R (m.redirect fuel index) (m'.redirect fuel index) := by
  rw [lookupsInRedirect] at such
  rw [Machine.redirect, Machine.redirect, ← k.engine h]
  cases running : m.engine.run with
  | none => exact ⟨rfl, h⟩
  | some run =>
    rw [running] at such
    dsimp only at such ⊢
    split
    · exact ⟨rfl, h⟩
    · next inside =>
      rw [if_neg inside] at such
      obtain ⟨interrupting, after⟩ := List.forall_mem_append.mp such
      have jumped := k.jumpTo h run index interrupting
      have played := k.drive fuel _ jumped after
      rw [← k.engine jumped]
      exact played.imp_left (congrArg (Verdict.outcome ()))

theorem redirectToLabel (h : R m m') (fuel : Nat) (key : String)
    (such : ∀ l ∈ m.lookupsInReply fuel (.redirectToLabel key), P l) :
    Agree R (m.redirectToLabel fuel key) (m'.redirectToLabel fuel key) := by
  rw [lookupsInReply] at such
  rw [Machine.redirectToLabel, Machine.redirectToLabel, ← k.engine h]
  cases found : m.engine.findLabel? key with
  | none => exact ⟨rfl, k.report h _⟩
  | some target =>
    rw [found] at such
    have redirected := k.redirect h fuel target such
    dsimp only
    generalize m.redirect fuel target = ended at redirected
    generalize m'.redirect fuel target = ended' at redirected
    obtain ⟨outcome, m⟩ := ended
    obtain ⟨outcome', m'⟩ := ended'
    obtain ⟨rfl, h⟩ := redirected
    cases outcome <;> exact ⟨rfl, h⟩

omit [Behaviour σ ν] in
theorem setEnabled (h : R m m') (index : Nat) (enabled : Bool) :
    Agree R (m.setEnabled index enabled) (m'.setEnabled index enabled) := by
  rw [Machine.setEnabled, Machine.setEnabled, ← k.engine h]
  split
  · exact ⟨rfl, k.setSequence h _⟩
  · exact ⟨rfl, h⟩

omit [Behaviour σ ν] in
theorem edit (h : R m m') (edit : Edit σ) : Agree R (m.edit edit) (m'.edit edit) := by
  rw [Machine.edit, Machine.edit, Machine.editable, Machine.editable, ← k.engine h]
  split
  · exact ⟨rfl, h⟩
  · exact ⟨rfl, k.setSequence h _⟩

theorem reply (h : R m m') (fuel : Nat) (call : Call σ ν) (such : ∀ l ∈ m.lookupsInReply fuel call, P l) :
    Agree R (m.reply fuel call) (m'.reply fuel call) := by
  cases call with
  | execute start onComplete =>
    exact (k.execute h fuel start onComplete such).imp_left (congrArg CallReply.launched)
  | executeLabel key onComplete =>
    exact (k.executeLabel h fuel key onComplete such).imp_left (congrArg CallReply.launched)
  | tick => exact (k.tick h fuel such).imp_left (congrArg CallReply.ticked)
  | stop => exact ⟨rfl, k.stop h such⟩
  | redirect index => exact (k.redirect h fuel index such).imp_left (congrArg CallReply.redirected)
  | redirectToLabel key => exact (k.redirectToLabel h fuel key such).imp_left (congrArg CallReply.redirectedTo)
  | setEnabled index enabled => exact (k.setEnabled h index enabled).imp_left (congrArg CallReply.changed)
  | release index state =>
    rw [Machine.reply, Machine.reply, Machine.editable, Machine.editable, ← k.engine h]
    split
    · exact ⟨rfl, h⟩
    · exact ⟨rfl, k.setSequence h _⟩

theorem driveOn (h : R m m') (fuel : Nat) (maxTicks : Option Nat) (rounds ticks : Nat)
    (such : ∀ l ∈ lookupsInDriving fuel maxTicks rounds ticks m, P l) :
    Agree R (m.driveOn fuel maxTicks rounds ticks) (m'.driveOn fuel maxTicks rounds ticks) := by
  induction rounds generalizing ticks m m' with
  | zero => exact ⟨rfl, h⟩
  | succ rounds ih =>
    rw [lookupsInDriving] at such
    rw [Machine.driveOn, Machine.driveOn, ← k.engine h]
    split
    · exact ⟨rfl, k.report h _⟩
    next executing =>
    split
    · exact ⟨rfl, k.report h _⟩
    next unfaulted =>
    split
    · exact ⟨rfl, k.report h _⟩
    next budget =>
    rw [if_neg (by simp [executing, unfaulted, budget])] at such
    obtain ⟨inside, after⟩ := List.forall_mem_append.mp such
    have ticked := k.tick h fuel inside
    generalize m.tick fuel = ended at ticked after
    generalize m'.tick fuel = ended' at ticked
    obtain ⟨verdict, m⟩ := ended
    obtain ⟨verdict', m'⟩ := ended'
    obtain ⟨rfl, h⟩ := ticked
    cases verdict with
    | settled => exact ih h (ticks + 1) after
    | failed | outOfFuel => exact ⟨rfl, h⟩

theorem operate (h : R m m') (operation : Operation σ ν) (such : ∀ l ∈ m.lookups operation, P l) :
    Agree R (m.operate operation) (m'.operate operation) := by
  cases operation with
  | call fuel call => exact (k.reply h fuel call such).imp_left (congrArg Answer.replied)
  | drive fuel rounds interval maxTicks =>
    rw [lookups] at such
    rw [Machine.operate, Machine.operate, runUntilIdle, runUntilIdle]
    split
    · exact ⟨rfl, h⟩
    · next ticking =>
      rw [if_neg ticking] at such
      exact (k.driveOn h fuel maxTicks rounds 0 such).imp_left (congrArg Answer.driven)
  | edit edit => exact (k.edit h edit).imp_left (congrArg Answer.edited)
  | fire handle target => exact (k.answer h (.fire handle target) such).imp_left (congrArg Answer.fired)

end InStep

end Machine

end Sequencer
