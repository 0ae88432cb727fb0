import Sequencer.Proofs.Engine.Tracing
import Sequencer.Proofs.Refusals
import Sequencer.Proofs.Runs

/-!
# How a call fails

A call that fails has come to a hook that failed. That hook is the last thing that happened, and the run that
it belongs to is in flight as it was.
-/

namespace Sequencer

variable {σ ν : Type}

/-! ## What replies say -/

def Verdict.error? : Verdict → Option EngineError
  | .failed error => some error
  | .settled | .outOfFuel => none

namespace CallReply

def error? : CallReply → Option EngineError
  | .launched (.failed error) | .ticked (.failed error) | .redirected (.failed error)
  | .redirectedTo (.failed error) | .changed (.error error) => some error
  | _ => none

/-- Whether the reply is that of a stop, or of a redirect that has been accepted. -/
def resolves : CallReply → Bool
  | .stopped | .redirected (.value ()) | .redirected (.failed (.commandFailed ..))
  | .redirectedTo (.value (some _)) | .redirectedTo (.failed (.commandFailed ..)) => true
  | _ => false

theorem isBack_of_error? {reply : CallReply} {error : EngineError} (h : reply.error? = some error) :
    reply.isBack = true := by
  cases reply with
  | launched outcome | redirected outcome | redirectedTo outcome => cases outcome <;> first | rfl | cases h
  | ticked verdict => cases verdict <;> first | rfl | cases h
  | stopped | changed => rfl

/-- No command has failed, and nothing has been resolved. -/
structure IsPlain (reply : CallReply) : Prop where
  resolves : reply.resolves = false
  error : ∀ location source, reply.error? ≠ some (.commandFailed location source)

end CallReply

namespace Machine

variable [Behaviour σ ν] {m : Machine σ ν} {call : Call σ ν} {answer : Verdict → CallReply} {p : Point σ ν}

theorem error?_answer (opens : m.opening call = some (answer, p)) (verdict : Verdict) :
    (answer verdict).error? = verdict.error? := by
  cases opens_of_opening opens <;> cases verdict <;> rfl

theorem resolves_answer (opens : m.opening call = some (answer, p)) (faulted : m.engine.isFaulted = true) :
    (answer .settled).resolves = true := by
  have executing : m.engine.isExecuting = true := by
    rw [Engine.isFaulted] at faulted
    rw [Engine.isExecuting]
    cases hr : m.engine.run <;> simp_all
  cases opens_of_opening opens with
  | execute start onComplete idle => exact absurd executing idle
  | executeLabel key start onComplete found idle => exact absurd (isExecuting_refreshIfIdle.trans executing) idle
  | tick _ sane => exact absurd (faulted.symm.trans sane) (by simp)
  | redirect | redirectToLabel => rfl

theorem isPlain_reply (unopened : m.opening call = none) (other : call ≠ .stop) (fuel : Nat) :
    (m.reply fuel call).1.IsPlain := by
  have declines := (declined unopened other fuel).2
  generalize (m.reply fuel call).1 = reply at declines
  cases declines with
  | launched | ticked | missing | changed => exact ⟨rfl, by simp [CallReply.error?]⟩
  | redirected refusal | redirectedTo refusal | unchanged refusal =>
    refine ⟨?_, fun location source same => refusal location source (Option.some.inj same)⟩
    cases ‹EngineError› with
    | commandFailed location source => exact absurd rfl (refusal location source)
    | _ => rfl

end Machine

/-! ## More fuel -/

section Fuel

variable [Behaviour σ ν] {fuel : Nat}

theorem Machine.proceed_add {more run : Nat}
    (same : ∀ (run : Nat) (m : Machine σ ν), (Machine.drive fuel run m).1 ≠ .outOfFuel →
      Machine.drive (fuel + more) run m = Machine.drive fuel run m)
    (ended : HookEnd × Machine σ ν) (back : (Machine.proceed (Machine.drive fuel) run ended).1 ≠ .outOfFuel) :
    Machine.proceed (Machine.drive (fuel + more)) run ended = Machine.proceed (Machine.drive fuel) run ended := by
  obtain ⟨hookEnd, m⟩ := ended
  cases hookEnd with
  | settled => exact same run m back
  | failed error => rfl
  | restart start =>
    let begun := m.beginRun start none
    rw [Machine.proceed] at back
    rw [Machine.proceed, Machine.proceed]
    have inner := same begun.engine.runCount begun
    rcases hd : Machine.drive fuel begun.engine.runCount begun with ⟨verdict, m'⟩
    rw [hd] at inner back
    cases verdict with
    | settled =>
      rw [inner (by simp)]
      exact same run m' back
    | failed error => rw [inner (by simp)]
    | outOfFuel => exact absurd rfl back

theorem Machine.drive_add (more run : Nat) (m : Machine σ ν) (back : (Machine.drive fuel run m).1 ≠ .outOfFuel) :
    Machine.drive (fuel + more) run m = Machine.drive fuel run m := by
  induction fuel generalizing run m with
  | zero => exact absurd rfl back
  | succ fuel ih =>
    rw [Nat.add_right_comm]
    rw [Machine.drive] at back
    rw [Machine.drive, Machine.drive]
    split
    · next running =>
      rw [if_pos running] at back
      split
      · rfl
      · next jump m' taken =>
        rw [taken] at back
        dsimp only at back ⊢
        cases next : m'.engine.sequence.nextRunnable jump.target with
        | none => rfl
        | some index =>
          rw [next] at back
          exact Machine.proceed_add ih _ back
    · rfl

theorem Point.play_add {p : Point σ ν} (more : Nat) (back : (p.play fuel).1 ≠ .outOfFuel) :
    p.play (fuel + more) = p.play fuel := by
  cases p with
  | loop m => exact Machine.drive_add more m.engine.runCount m back
  | hooked index ticket result => exact Machine.proceed_add (Machine.drive_add more) _ back

end Fuel

/-! ## Hooks that fail -/

namespace Machine

variable [Behaviour σ ν] {m m' called left : Machine σ ν} {call : Call σ ν} {index : Nat} {ticket : Ticket}
  {hook : Hook} {command : Command σ} {source : CommandError} {request : Option Request} {location : Location}

omit [Behaviour σ ν] in
/-- Since a hook was called nothing has happened, but that its run is faulted now. -/
structure BrokenOff (called m : Machine σ ν) : Prop where
  shown : shown m.shared.moments = shown called.shared.moments
  turns : m.shared.turns = called.shared.turns
  runCount : m.engine.runCount = called.engine.runCount
  previousActive : m.engine.previousActive = called.engine.previousActive
  run : m.engine.run = called.engine.run.map fun run => { run with faulted := true }

/--
The call has come to a hook that failed, and has left the engine unresolved. Whatever the hook requested, it
makes no difference.
-/
structure Breaks (m : Machine σ ν) (call : Call σ ν) (location : Location) (source : CommandError)
    (m' : Machine σ ν) : Prop where
  executing : m'.engine.state = .executing
  faulted : m'.engine.isFaulted = true
  active : m'.engine.active = some location.index
  located : ∃ command, m'.engine.sequence.get? location.index = some command ∧
    location = ⟨m'.engine.name, location.index, command.name⟩
  failing : ∃ answer p called hook ticket command request left, m.opening call = some (answer, p) ∧
    p.Meets m called hook location.index ticket command (.error source, request, left) ∧ called.BrokenOff m'
  callback : ∃ run, m'.engine.run = some run ∧ story m'.engine.id m'.engine.runCount m'.shared.turns =
    [.began m'.engine.id m'.engine.runCount run.onComplete]

omit [Behaviour σ ν] in
theorem commandFailed_eq (m : Machine σ ν) (index : Nat) (ticket : Ticket) (source : CommandError) :
    ∃ notices, (m.commandFailed index ticket source).2 =
      { m with
        engine := { m.engine with run := m.engine.run.map fun run => { run with faulted := true } }
        shared := { m.shared with
          board := m.shared.board.setRegister m.engine.id m.register.disarm
          moments := .failed m.engine.id ticket :: m.shared.moments
          notices } } := by
  rw [Machine.commandFailed]
  dsimp only
  split <;> exact ⟨_, rfl⟩

theorem Invokes.brokenOff (h : called.Invokes hook index ticket command (.error source, request, left)) :
    called.BrokenOff (left.commandFailed index ticket source).2 := by
  obtain ⟨program, -, returns⟩ := h.returns
  have left_eq : left = (called.runHook index ticket program).2.2 := congrArg (fun result => result.2.2) returns
  have keeps : called.KeepsTurns left := left_eq ▸ (KeepsTurns.refl called).runHook index ticket program
  have shown_left : shown left.shared.moments = shown called.shared.moments := by
    rw [left_eq]
    exact hook_of_land (P := fun moments => shown moments = shown called.shared.moments)
      (fun _ _ same => same) rfl ⟨called.engine.id, ticket, index⟩ program
  obtain ⟨notices, eq⟩ := left.commandFailed_eq index ticket source
  rw [eq]
  refine ⟨shown_left, keeps.shared.turns, keeps.runCount, ?_, ?_⟩
  · rw [left_eq]
    rfl
  · rw [left_eq]
    rfl

omit [Behaviour σ ν] in
theorem BrokenOff.active (h : called.BrokenOff m) : m.engine.active = called.engine.active := by
  rw [Engine.active, Engine.active, h.run]
  cases called.engine.run <;> rfl

theorem AtRest.breaks {fuel : Nat} (h : m.AtRest) (charted : m.Charted)
    (failed : (m.reply fuel call).1.error? = some (.commandFailed location source)) :
    m.Breaks call location source (m.reply fuel call).2 := by
  cases opens : m.opening call with
  | none =>
    by_cases stops : call = .stop
    · subst stops
      simp [reply, CallReply.error?] at failed
    · exact absurd failed ((isPlain_reply opens stops fuel).error location source)
  | some opening =>
    obtain ⟨answer, p⟩ := opening
    obtain ⟨ready, replies⟩ := h.opening opens fuel
    have arrives : p.Arrives m (p.play fuel) := Point.carries_follows.play ready (h.follows_opening opens)
    have reports : Reports (p.play fuel) := Point.carries_reports.play ready trivial
    have rest := (h.call fuel call).rest
    have after := Strides.charted ((Strides.refl m).call h fuel call) charted
    rw [call_eq_reply, replies] at rest after
    rw [replies, error?_answer opens] at failed
    rw [replies]
    rcases hp : p.play fuel with ⟨verdict, m'⟩
    rw [hp] at arrives reports rest after failed
    cases verdict with
    | settled | outOfFuel => simp [Verdict.error?] at failed
    | failed error =>
      obtain rfl : error = .commandFailed location source := Option.some.inj failed
      have rest : m'.AtRest := rest (isBack_answer opens _)
      obtain ⟨faulted, index, source', active, located⟩ := reports
      -- The hook that failed is one of the command that is active in the end.
      obtain ⟨called, hook, index', ticket, command, thrown, request, left, met, -, ends⟩ := arrives.fails _ rfl
      have brokenOff : called.BrokenOff m' := by
        have brokenOff := met.invokes.brokenOff
        rwa [ends] at brokenOff
      obtain rfl : index' = index := by
        have same := brokenOff.active
        rw [active, met.invokes.active] at same
        exact (Option.some.inj same).symm
      obtain ⟨entry, found⟩ := rest.stands.entry? active
      have get : m'.engine.sequence.get? index' = some entry.command := by rw [Sequence.get?, found]; rfl
      have location_eq : location = ⟨m'.engine.name, index', entry.command.name⟩ := by
        have same := (EngineError.commandFailed.inj located).1
        rw [Engine.locationOf, get] at same
        exact same
      obtain rfl : thrown = source := (EngineError.commandFailed.inj (congrArg Prod.fst ends)).2
      obtain ⟨run, hr⟩ := Option.isSome_iff_exists.mp
        (isExecuting_of_active (e := m'.engine) (by rw [active]; rfl))
      have chronicle := after.chronicle
      rw [hr] at chronicle
      subst location_eq
      exact ⟨Engine.state_executing.mpr (by rw [Engine.isExecuting, hr]; rfl), faulted, active,
        ⟨entry.command, get, rfl⟩, ⟨answer, p, called, hook, ticket, command, request, left, opens, met, brokenOff⟩,
        run, hr, chronicle.begun run.onComplete rfl⟩

theorem AtRest.fails_of_meets {answer : Verdict → CallReply} {p : Point σ ν} {fuel : Nat} (h : m.AtRest)
    (opens : m.opening call = some (answer, p))
    (met : p.Meets m called hook index ticket command (.error source, request, left))
    (back : (m.reply fuel call).1.isBack = true) :
    ∃ location, (m.reply fuel call).1.error? = some (.commandFailed location source) := by
  obtain ⟨ready, replies⟩ := h.opening opens fuel
  obtain ⟨-, cost, plays⟩ := met.reaches.plays ready
  rw [replies, isBack_answer opens] at back
  have returns : (p.play fuel).1 ≠ .outOfFuel := by
    intro tired
    rw [tired] at back
    exact Bool.false_ne_true back
  have error : (m.reply fuel call).1.error? =
      ((Point.hooked index ticket (.error source, request, left)).play fuel).1.error? := by
    rw [replies, error?_answer opens, ← p.play_add cost returns, plays]
  exact ⟨_, error⟩

end Machine

end Sequencer
