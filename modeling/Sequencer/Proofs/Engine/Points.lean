import Sequencer.Proofs.Engine.Replies
import Sequencer.Proofs.Engine.Strides

/-!
# The points of a call

A call into an engine goes from the head of the loop of its run to the end of a hook and back. A restart
begins a loop within a loop, but of the outer one nothing is left to do. So what each step from point to
point preserves, the whole call preserves.
-/

namespace Sequencer

variable {σ ν : Type}

/-- What a hook comes back with. -/
abbrev HookResult (σ ν : Type) := Except CommandError Unit × Option Request × Machine σ ν

/-- The head of the loop of the run in flight, or the end of a hook of the command at `index`. -/
inductive Point (σ ν : Type) where
  | loop (m : Machine σ ν)
  | hooked (index : Nat) (ticket : Ticket) (result : HookResult σ ν)

namespace Machine

variable [Behaviour σ ν] {m : Machine σ ν} {index : Nat}

/-- What the execute hook of an entry comes back with, once its command is the active one. -/
def executeHook (m : Machine σ ν) (index : Nat) (entry : Entry σ) : HookResult σ ν :=
  (m.calling index entry.command.name).runHook index m.register.arm.lastTicket
    (Behaviour.execute entry.command.state (m.view index))

/-- What the tick hook of an entry comes back with. -/
def tickHook (m : Machine σ ν) (index : Nat) (ticket : Ticket) (entry : Entry σ) : HookResult σ ν :=
  (m.announce .tick index ticket).runHook index ticket (Behaviour.onTick entry.command.state (m.view index))

/-- The engine has been stopped for the command at `index`, and has started again. -/
def restarted (m : Machine σ ν) (index start : Nat) : Machine σ ν :=
  (m.report (.restartRequested m.engine.name index start)).stop.beginRun start none

/-! ## Counting runs -/

theorem runCount_executeHook (m : Machine σ ν) (index : Nat) (entry : Entry σ) :
    (m.executeHook index entry).2.2.engine.runCount = m.engine.runCount := by
  show (m.calling index entry.command.name).engine.runCount = m.engine.runCount
  rw [engine_calling]
  rfl

theorem runCount_stop (m : Machine σ ν) : m.stop.engine.runCount = m.engine.runCount := by
  rw [stop]
  split
  · rfl
  · dsimp only
    split
    · rw [engine_enterIdle]
      rfl
    · rw [engine_enterIdle]
      exact (((Machine.KeepsTurns.refl m).setSequence _).interrupt _).runCount

theorem runCount_settle (index : Nat) (ticket : Ticket) (result : HookResult σ ν) :
    (Machine.settle index ticket result).2.engine.runCount = result.2.2.engine.runCount := by
  obtain ⟨result, request, m⟩ := result
  cases result with
  | error source => exact ((Machine.KeepsTurns.refl m).commandFailed index ticket source).runCount
  | ok =>
    match request with
    | none => rfl
    | some .stop => exact runCount_stop _
    | some (.restart _) => exact runCount_stop _

end Machine

namespace Point

variable [Behaviour σ ν] {fuel index : Nat} {ticket : Ticket} {result : HookResult σ ν}
  {m m' : Machine σ ν} {p : Point σ ν}

/-- Goes on from the point. -/
def play (fuel : Nat) : Point σ ν → Verdict × Machine σ ν
  | .loop m => Machine.drive fuel m.engine.runCount m
  | .hooked index ticket result =>
    Machine.proceed (Machine.drive fuel) result.2.2.engine.runCount (Machine.settle index ticket result)

/-! ## From point to point -/

theorem play_settled (h : Machine.settle index ticket result = (.settled, m)) :
    (hooked index ticket result).play fuel = (loop m).play fuel := by
  have counted := Machine.runCount_settle index ticket result
  rw [h] at counted
  rw [play, play, h, ← counted]
  rfl

theorem play_waits (executing : m.engine.isExecuting = true) (pending : m.register.pending = none) (fuel : Nat) :
    (loop m).play (fuel + 1) = (.settled, m) := by
  have taken : m.takeJump = (none, m) := by rw [Machine.takeJump, pending]
  rw [play, Machine.drive, if_pos (by simp [executing]), taken]

/-- The loop of a run that has been superseded comes to nothing, however the newer run has ended. -/
theorem proceed_restart {run start : Nat} (later : run ≤ m.engine.runCount) :
    Machine.proceed (Machine.drive fuel) run (.restart start, m) =
      (loop (m.beginRun start none)).play fuel := by
  let begun := m.beginRun start none
  have counted := ((Moves.refl begun).drive fuel begun.engine.runCount).kept.runCount
  rw [Machine.proceed, play]
  split
  · next m' heq =>
    rw [heq] at counted ⊢
    cases fuel with
    | zero => simp [Machine.drive] at heq
    | succ fuel =>
      have newer : m'.engine.runCount ≠ run := by
        rw [Machine.runCount_beginRun] at counted
        dsimp only at counted
        omega
      rw [Machine.drive, if_neg (by simp [newer])]
  · rfl

theorem play_restart (fuel index start : Nat) (ticket : Ticket) (m : Machine σ ν) :
    (hooked index ticket (.ok (), some (.restart start), m)).play fuel =
      (loop (m.restarted index start)).play fuel :=
  proceed_restart (Nat.le_of_eq (Machine.runCount_stop (m.report _)).symm)

/-- Where the run in flight can go on. -/
def Ready : Point σ ν → Prop
  | .loop m => Machine.Enters m.engine.runCount m
  | .hooked index ticket (_, _, m) => m.Stands m.engine.active ∧
    Waiting m.engine m.register m.shared.moments ∧ m.engine.active = some index ∧
    m.register.lastTicket = ticket

omit [Behaviour σ ν] in
theorem ready_runHook (stands : m.Stands m.engine.active)
    (waiting : Waiting m.engine m.register m.shared.moments) (active : m.engine.active = some index)
    (program : HookProgram ν (σ × Except CommandError Unit)) :
    (hooked index m.register.lastTicket (m.runHook index m.register.lastTicket program)).Ready := by
  obtain ⟨stands, waiting, latest⟩ := stands.runHook waiting active program
  exact ⟨stands, waiting, active, latest⟩

theorem ready_executeHook {entry : Entry σ} (stands : m.Stands none) (between : Between m.engine m.register)
    (runs : ∃ form, m.engine.sequence.forms[index]? = some form ∧ form.kind = .action) :
    (hooked index m.register.arm.lastTicket (m.executeHook index entry)).Ready := by
  have called := stands.calling between.1 runs entry.command.name
  have engine := Machine.engine_calling m index entry.command.name
  have register := Machine.register_calling m index entry.command.name
  have active : (m.calling index entry.command.name).engine.active = some index := by
    rw [engine, Machine.active_enter between.1]
  rw [← active] at called
  rw [Machine.executeHook, ← register]
  refine ready_runHook called ⟨by rw [active]; rfl, ?_, .inl ?_⟩ active _
  · rw [engine, Machine.isFaulted_enter]
    exact between.2.1
  · rw [register]
    exact ⟨rfl, rfl⟩

theorem ready_tickHook {entry : Entry σ} (stands : m.Stands m.engine.active)
    (waiting : Waiting m.engine m.register m.shared.moments) (active : m.engine.active = some index) :
    (hooked index m.register.lastTicket (m.tickHook index m.register.lastTicket entry)).Ready :=
  ready_runHook (stands.announceTick index m.register.lastTicket)
    (Machine.waiting_announceTick waiting index m.register.lastTicket) active _

/-- The loop takes a jump, and goes on at an entry. -/
structure Goes (m m' : Machine σ ν) (jump : Jump) (index : Nat) (entry : Entry σ) : Prop where
  executing : m.engine.isExecuting = true
  taken : m.takeJump = (some jump, m')
  next : m'.engine.sequence.nextRunnable jump.target = some index
  found : m'.engine.sequence.entries[index]? = some entry

omit [Behaviour σ ν] in
theorem Ready.takes {jump : Jump} (h : (loop m).Ready) (executing : m.engine.isExecuting = true)
    (taken : m.takeJump = (some jump, m')) : m'.Stands none ∧ Between m'.engine m'.register := by
  obtain ⟨-, -, ready⟩ | ⟨other, -⟩ := h
  · exact ready.takeJump_some taken
  · exact absurd ⟨executing, rfl⟩ other

omit [Behaviour σ ν] in
theorem Ready.exists_goes {jump : Jump} (h : (loop m).Ready) (executing : m.engine.isExecuting = true)
    (taken : m.takeJump = (some jump, m')) (next : m'.engine.sequence.nextRunnable jump.target = some index) :
    ∃ entry, Goes m m' jump index entry := by
  obtain ⟨form, hf, -⟩ := (h.takes executing taken).1.core.coherent.action_of_nextRunnable next
  rw [Sequence.forms, List.getElem?_map] at hf
  obtain ⟨entry, found, -⟩ := Option.map_eq_some_iff.mp hf
  exact ⟨entry, executing, taken, next, found⟩

theorem Ready.goes {jump : Jump} {entry : Entry σ} (h : (loop m).Ready) (fuel : Nat)
    (goes : Goes m m' jump index entry) :
    let p := hooked index m'.register.arm.lastTicket
      ((m'.turn (m'.jump jump.target)).executeHook index entry)
    p.Ready ∧ (loop m).play (fuel + 1) = p.play fuel := by
  obtain ⟨executing, taken, next, found⟩ := goes
  obtain ⟨stands, between⟩ := h.takes executing taken
  have turned : (m'.turn (m'.jump jump.target)).Stands none := stands.turn _
  have runs := stands.core.coherent.action_of_nextRunnable next
  have counted := (Machine.KeepsTurns.refl m).takeJump.runCount
  rw [taken] at counted
  refine ⟨ready_executeHook turned between runs, ?_⟩
  obtain ⟨entry', found', activated⟩ := turned.activate_eq between.1 runs
  obtain rfl : entry' = entry := Option.some.inj (found'.symm.trans found)
  have jumped : m'.jump jump.target = .jumped m'.engine.id m.engine.runCount jump.target
      m'.engine.sequence.outline (some index) := by
    rw [Machine.jump, counted, next]
  rw [jumped] at activated ⊢
  rw [play, Machine.drive, if_pos (by simp [executing]), taken]
  dsimp only
  rw [next]
  dsimp only
  rw [activated, play, Machine.runCount_executeHook]
  exact congrArg (Machine.proceed _ · _) counted.symm

theorem Ready.settles (h : (hooked index ticket result).Ready)
    (settled : Machine.settle index ticket result = (.settled, m)) : (loop m).Ready := by
  obtain ⟨result, request, m₀⟩ := result
  obtain ⟨stands, waiting, -, rfl⟩ := h
  have resumes := stands.settle waiting index result request
  rw [settled] at resumes
  exact resumes.1.enters resumes.2 _

theorem Ready.restarts {start : Nat} (h : (hooked index ticket (.ok (), some (.restart start), m)).Ready) :
    (loop (m.restarted index start)).Ready := by
  have rest : (m.report (.restartRequested m.engine.name index start)).AtRest :=
    ⟨⟨h.1.core, h.1.hears, h.1.history⟩, .inr (.inl h.2.1)⟩
  exact rest.stop.1.enters_beginRun rest.stop.2 start none

/-! ## Whole calls -/

/-- What holds at each point of a call, and what comes of it at the end. -/
structure Carries (P : Point σ ν → Prop) (Q : Verdict × Machine σ ν → Prop) : Prop where
  tired : ∀ m, (loop m).Ready → P (loop m) → Q (.outOfFuel, m)
  rests : ∀ m, (loop m).Ready → P (loop m) →
    (m.engine.isExecuting = true → m.register.pending = none) → Q (.settled, m)
  ends : ∀ m m' jump, (loop m).Ready → P (loop m) → m.engine.isExecuting = true →
    m.takeJump = (some jump, m') → m'.engine.sequence.nextRunnable jump.target = none →
    Q (.settled, (m'.turn (m'.jump jump.target)).finish)
  goes : ∀ m m' jump index entry, (loop m).Ready → P (loop m) → Goes m m' jump index entry →
    P (hooked index m'.register.arm.lastTicket ((m'.turn (m'.jump jump.target)).executeHook index entry))
  settles : ∀ index ticket result m, (hooked index ticket result).Ready → P (hooked index ticket result) →
    Machine.settle index ticket result = (.settled, m) → P (loop m)
  fails : ∀ index ticket source request m, (hooked index ticket (.error source, request, m)).Ready →
    P (hooked index ticket (.error source, request, m)) →
    Q (.failed (m.commandFailed index ticket source).1, (m.commandFailed index ticket source).2)
  restarts : ∀ index ticket start m, (hooked index ticket (.ok (), some (.restart start), m)).Ready →
    P (hooked index ticket (.ok (), some (.restart start), m)) → P (loop (m.restarted index start))

theorem Carries.hooked {P : Point σ ν → Prop} {Q : Verdict × Machine σ ν → Prop} (h : Carries P Q)
    (loops : ∀ m, (loop m).Ready → P (loop m) → Q ((loop m).play fuel))
    (ready : (hooked index ticket result).Ready) (hp : P (.hooked index ticket result)) :
    Q ((Point.hooked index ticket result).play fuel) := by
  obtain ⟨result, request, m⟩ := result
  cases result with
  | error source => exact h.fails index ticket source request m ready hp
  | ok =>
    match request with
    | some (.restart start) =>
      rw [play_restart]
      exact loops _ ready.restarts (h.restarts index ticket start m ready hp)
    | none =>
      have settled : Machine.settle index ticket (.ok (), none, m) = (.settled, m) := rfl
      rw [play_settled settled]
      exact loops _ (ready.settles settled) (h.settles index ticket _ _ ready hp settled)
    | some .stop =>
      have settled : Machine.settle index ticket (.ok (), some .stop, m) =
          (.settled, (m.report (.stopRequested m.engine.name index)).stop) := rfl
      rw [play_settled settled]
      exact loops _ (ready.settles settled) (h.settles index ticket _ _ ready hp settled)

theorem Carries.loop {P : Point σ ν → Prop} {Q : Verdict × Machine σ ν → Prop} (h : Carries P Q)
    (ready : (loop m).Ready) (hp : P (.loop m)) : Q ((Point.loop m).play fuel) := by
  -- On the fuel, of which each turn of the loop takes one.
  induction fuel generalizing m with
  | zero => exact h.tired m ready hp
  | succ fuel ih =>
    by_cases executing : m.engine.isExecuting = true
    · cases pending : m.register.pending with
      | none =>
        rw [play_waits executing pending]
        exact h.rests m ready hp fun _ => pending
      | some jump =>
        obtain ⟨m', taken⟩ : ∃ m', m.takeJump = (some jump, m') := by
          rw [Machine.takeJump, pending]
          exact ⟨_, rfl⟩
        cases next : m'.engine.sequence.nextRunnable jump.target with
        | none =>
          have ended := h.ends m m' jump ready hp executing taken next
          have counted := (Machine.KeepsTurns.refl m).takeJump.runCount
          rw [taken] at counted
          rw [Machine.jump, counted, next] at ended
          rw [play, Machine.drive, if_pos (by simp [executing]), taken]
          dsimp only
          rw [next]
          exact ended
        | some index =>
          obtain ⟨entry, goes⟩ := ready.exists_goes executing taken next
          obtain ⟨hooked, plays⟩ := ready.goes fuel goes
          rw [plays]
          exact h.hooked (fun _ => ih) hooked (h.goes m m' jump index entry ready hp goes)
    · rw [play, Machine.drive, if_neg (by simp [executing])]
      exact h.rests m ready hp fun he => absurd he executing

/-- What each step from point to point preserves, a whole call preserves. -/
theorem Carries.play {P : Point σ ν → Prop} {Q : Verdict × Machine σ ν → Prop} (h : Carries P Q)
    (ready : p.Ready) (hp : P p) : Q (p.play fuel) := by
  cases p with
  | loop m => exact h.loop ready hp
  | hooked index ticket result => exact h.hooked (fun _ => h.loop) ready hp

end Point

/-! ## Where calls begin -/

namespace Machine

variable [Behaviour σ ν] {m : Machine σ ν} {call : Call σ ν} {answer : Verdict → CallReply} {p : Point σ ν}

/-- Where a tick begins: at the end of the tick hook, if there is one to call. -/
def ticking (m : Machine σ ν) : Point σ ν :=
  match m.register.pending, m.engine.active, m.register.armed with
  | none, some index, some ticket =>
    match m.engine.sequence.entries[index]? with
    | some entry => .hooked index ticket (m.tickHook index ticket entry)
    | none => .loop m
  | _, _, _ => .loop m

/--
The point at which a call begins that works on a run, and what it replies once it has come to an end there.
Calls that are refused, and those that run no commands, have none.
-/
def opening (m : Machine σ ν) : Call σ ν → Option ((Verdict → CallReply) × Point σ ν)
  | .execute start onComplete =>
    if m.engine.isExecuting then none
    else some (fun verdict => .launched (verdict.outcome .started), .loop (m.beginRun start onComplete))
  | .executeLabel key onComplete =>
    let m := m.refreshIfIdle
    match m.engine.findLabel? key with
    | none => none
    | some start =>
      if m.engine.isExecuting then none
      else some (fun verdict => .launched (verdict.outcome .started), .loop (m.beginRun start onComplete))
  | .tick => if m.engine.isExecuting && !m.engine.isFaulted then some (.ticked, m.ticking) else none
  | .redirect index =>
    match m.engine.run with
    | none => none
    | some run =>
      if m.engine.sequence.len < index then none
      else some (fun verdict => .redirected (verdict.outcome ()), .loop (m.jumpTo run index))
  | .redirectToLabel key =>
    match m.engine.findLabel? key, m.engine.run with
    | some target, some run =>
      if m.engine.sequence.len < target then none
      else some (fun verdict => .redirectedTo (verdict.outcome (some target)), .loop (m.jumpTo run target))
    | _, _ => none
  | .stop | .setEnabled .. | .release .. => none

/-- Where each call begins that does, and what it replies. -/
inductive Opens (m : Machine σ ν) : Call σ ν → (Verdict → CallReply) → Point σ ν → Prop where
  | execute (start : Nat) (onComplete : Option (HostProgram ν Unit)) (idle : ¬ m.engine.isExecuting = true) :
    Opens m (.execute start onComplete) (fun verdict => .launched (verdict.outcome .started))
      (.loop (m.beginRun start onComplete))
  | executeLabel (key : String) (start : Nat) (onComplete : Option (HostProgram ν Unit))
      (found : m.refreshIfIdle.engine.findLabel? key = some start)
      (idle : ¬ m.refreshIfIdle.engine.isExecuting = true) :
    Opens m (.executeLabel key onComplete) (fun verdict => .launched (verdict.outcome .started))
      (.loop (m.refreshIfIdle.beginRun start onComplete))
  | tick (executing : m.engine.isExecuting = true) (sane : m.engine.isFaulted = false) :
    Opens m .tick .ticked m.ticking
  | redirect (index : Nat) (run : Run ν) (inFlight : m.engine.run = some run)
      (inside : ¬ m.engine.sequence.len < index) :
    Opens m (.redirect index) (fun verdict => .redirected (verdict.outcome ())) (.loop (m.jumpTo run index))
  | redirectToLabel (key : String) (target : Nat) (run : Run ν) (found : m.engine.findLabel? key = some target)
      (inFlight : m.engine.run = some run) (inside : ¬ m.engine.sequence.len < target) :
    Opens m (.redirectToLabel key) (fun verdict => .redirectedTo (verdict.outcome (some target)))
      (.loop (m.jumpTo run target))

theorem opens_of_opening (opens : m.opening call = some (answer, p)) : m.Opens call answer p := by
  cases call with
  | execute start onComplete =>
    rw [opening] at opens
    split at opens
    · cases opens
    · next idle =>
      obtain ⟨rfl, rfl⟩ := Prod.mk.inj (Option.some.inj opens)
      exact .execute start onComplete idle
  | executeLabel key onComplete =>
    rw [opening] at opens
    split at opens
    · cases opens
    · next start found =>
      split at opens
      · cases opens
      · next idle =>
        obtain ⟨rfl, rfl⟩ := Prod.mk.inj (Option.some.inj opens)
        exact .executeLabel key start onComplete found idle
  | tick =>
    rw [opening] at opens
    split at opens
    · next running =>
      obtain ⟨rfl, rfl⟩ := Prod.mk.inj (Option.some.inj opens)
      rw [Bool.and_eq_true, Bool.not_eq_true'] at running
      exact .tick running.1 running.2
    · cases opens
  | redirect index =>
    rw [opening] at opens
    split at opens
    · cases opens
    · next run inFlight =>
      split at opens
      · cases opens
      · next inside =>
        obtain ⟨rfl, rfl⟩ := Prod.mk.inj (Option.some.inj opens)
        exact .redirect index run inFlight inside
  | redirectToLabel key =>
    rw [opening] at opens
    split at opens
    · next target run found inFlight =>
      split at opens
      · cases opens
      · next inside =>
        obtain ⟨rfl, rfl⟩ := Prod.mk.inj (Option.some.inj opens)
        exact .redirectToLabel key target run found inFlight inside
    · cases opens
  | stop | setEnabled | release => cases opens

theorem Stands.callTick_eq {mark : Option Nat} {entry : Entry σ} {index : Nat} (h : m.Stands mark)
    (executing : m.engine.isExecuting = true) (found : m.engine.sequence.entries[index]? = some entry)
    (ticket : Ticket) :
    m.callTick index ticket = Machine.settle index ticket (m.tickHook index ticket entry) := by
  have fresh := (Bool.or_eq_false_iff.mp (h.core.fresh executing)).1
  have target : m.hookTarget? index = some (entry, m.view index) := by
    rw [hookTarget?_eq h.core.coherent fresh, found]
    rfl
  rw [Machine.callTick, target]
  rfl

theorem AtRest.ticking (h : m.AtRest) (executing : m.engine.isExecuting = true)
    (sane : m.engine.isFaulted = false) (fuel : Nat) :
    m.ticking.Ready ∧ m.tick fuel = m.ticking.play fuel := by
  have ready : (Point.loop m).Ready := h.enters sane _
  rw [Machine.tick, if_pos (by simp [executing, sane]), Machine.ticking]
  cases pending : m.register.pending with
  | some jump => exact ⟨ready, rfl⟩
  | none =>
    cases active : m.engine.active with
    | none => exact ⟨ready, rfl⟩
    | some index =>
      cases armed : m.register.armed with
      | none => exact ⟨ready, rfl⟩
      | some ticket =>
        obtain rfl : ticket = m.register.lastTicket := (h.stands.core.ledger.armed ticket armed).1
        obtain ⟨entry, found⟩ := h.stands.entry? active
        rw [h.stands.core.coherent.entry?_eq] at found
        simp only [found, h.stands.callTick_eq executing found]
        exact ⟨Point.ready_tickHook h.stands (h.settled.waiting executing sane) active, rfl⟩

theorem AtRest.opening (h : m.AtRest) (opens : m.opening call = some (answer, p)) (fuel : Nat) :
    p.Ready ∧ m.reply fuel call = (answer (p.play fuel).1, (p.play fuel).2) := by
  cases opens_of_opening opens with
  | execute start onComplete idle =>
    refine ⟨h.enters_beginRun (run_of_not_executing idle) start onComplete, ?_⟩
    rw [reply, Machine.execute, if_neg idle]
    rfl
  | executeLabel key start onComplete found idle =>
    refine ⟨h.refreshIfIdle.enters_beginRun (run_of_not_executing idle) start onComplete, ?_⟩
    rw [reply, Machine.executeLabel, found]
    dsimp only
    rw [Machine.execute, if_neg idle]
    rfl
  | tick executing sane =>
    obtain ⟨ready, plays⟩ := h.ticking executing sane fuel
    exact ⟨ready, by rw [reply, plays]; rfl⟩
  | redirect index run inFlight inside =>
    obtain ⟨ready, executing⟩ := h.jumpTo inFlight index
    refine ⟨.inl ⟨executing, rfl, ready⟩, ?_⟩
    rw [reply, Machine.redirect, inFlight]
    dsimp only
    rw [if_neg inside]
    rfl
  | redirectToLabel key target run found inFlight inside =>
    obtain ⟨ready, executing⟩ := h.jumpTo inFlight target
    refine ⟨.inl ⟨executing, rfl, ready⟩, ?_⟩
    rw [reply, Machine.redirectToLabel, found]
    dsimp only
    rw [Machine.redirect, inFlight]
    dsimp only
    rw [if_neg inside, Point.play]
    generalize drive fuel (m.jumpTo run target).engine.runCount (m.jumpTo run target) = ended
    obtain ⟨verdict, m'⟩ := ended
    cases verdict <;> rfl

theorem isBack_answer (opens : m.opening call = some (answer, p)) (verdict : Verdict) :
    (answer verdict).isBack = verdict.isBack := by
  cases opens_of_opening opens with
  | tick => rfl
  | execute | executeLabel | redirect | redirectToLabel => cases verdict <;> rfl

/-- The run is the same and nothing has happened, but the sequence may have changed. -/
structure KeepsRunAndPast (m m' : Machine σ ν) : Prop where
  id : m'.engine.id = m.engine.id
  run : m'.engine.run = m.engine.run
  board : m'.shared.board = m.shared.board
  moments : m'.shared.moments = m.shared.moments
  turns : m'.shared.turns = m.shared.turns

omit [Behaviour σ ν] in
theorem keepsRunAndPast_refreshIfIdle (m : Machine σ ν) : m.KeepsRunAndPast m.refreshIfIdle := by
  rw [refreshIfIdle]
  split <;> exact ⟨rfl, rfl, rfl, rfl, rfl⟩

omit [Behaviour σ ν] in
theorem KeepsRunAndPast.report {m' : Machine σ ν} (h : m.KeepsRunAndPast m') (notice : Notice) :
    m.KeepsRunAndPast (m'.report notice) :=
  ⟨h.id, h.run, h.board, h.moments, h.turns⟩

theorem declined (unopened : m.opening call = none) (other : call ≠ .stop) (fuel : Nat) :
    m.KeepsRunAndPast (m.reply fuel call).2 ∧ (m.reply fuel call).1.Declines := by
  have same : m.KeepsRunAndPast m := ⟨rfl, rfl, rfl, rfl, rfl⟩
  cases call with
  | stop => exact absurd rfl other
  | execute start onComplete =>
    rw [reply, Machine.execute]
    split
    · exact ⟨same.report _, .launched _⟩
    · next idle => simp [Machine.opening, idle] at unopened
  | executeLabel key onComplete =>
    rw [reply, Machine.executeLabel]
    cases found : m.refreshIfIdle.engine.findLabel? key with
    | none => exact ⟨m.keepsRunAndPast_refreshIfIdle.report _, .launched _⟩
    | some start =>
      dsimp only
      rw [Machine.execute]
      split
      · exact ⟨m.keepsRunAndPast_refreshIfIdle.report _, .launched _⟩
      · next idle => simp [Machine.opening, found, idle] at unopened
  | tick =>
    rw [reply, Machine.tick]
    split
    · next running => simp [Machine.opening, running] at unopened
    · exact ⟨same, .ticked⟩
  | redirect index =>
    rw [reply, Machine.redirect]
    cases inFlight : m.engine.run with
    | none => exact ⟨same, .redirected (by simp)⟩
    | some run =>
      dsimp only
      split
      · exact ⟨same, .redirected (by simp)⟩
      · next inside => simp [Machine.opening, inFlight, inside] at unopened
  | redirectToLabel key =>
    rw [reply, Machine.redirectToLabel]
    cases found : m.engine.findLabel? key with
    | none => exact ⟨same.report _, .missing⟩
    | some target =>
      dsimp only
      rw [Machine.redirect]
      cases inFlight : m.engine.run with
      | none => exact ⟨same, .redirectedTo (by simp)⟩
      | some run =>
        have beyond : m.engine.sequence.len < target := by
          by_contra inside
          simp [Machine.opening, found, inFlight, inside] at unopened
        dsimp only
        rw [if_pos beyond]
        exact ⟨same, .redirectedTo (by simp)⟩
  | setEnabled index enabled =>
    rw [reply, Machine.setEnabled]
    split
    · exact ⟨⟨rfl, rfl, rfl, rfl, rfl⟩, .changed⟩
    · exact ⟨same, .unchanged (by simp)⟩
  | release index state =>
    rw [reply, Machine.editable]
    cases m.engine.isExecuting with
    | true => exact ⟨same, .unchanged (by simp)⟩
    | false => exact ⟨⟨rfl, rfl, rfl, rfl, rfl⟩, .changed⟩

theorem keepsRunAndPast_reply (unopened : m.opening call = none) (other : call ≠ .stop) (fuel : Nat) :
    m.KeepsRunAndPast (m.reply fuel call).2 :=
  (declined unopened other fuel).1

theorem isBack_reply (unopened : m.opening call = none) (fuel : Nat) : (m.reply fuel call).1.isBack = true := by
  by_cases stops : call = .stop
  · rw [stops]
    rfl
  · exact (declined unopened stops fuel).2.isBack

end Machine

end Sequencer
