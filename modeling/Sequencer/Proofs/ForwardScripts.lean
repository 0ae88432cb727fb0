import Sequencer.Proofs.Engine.Failing
import Sequencer.Proofs.Engine.Jumps
import Sequencer.Proofs.StopHooks

/-!
# Scripts that only go forward

As long as each command that executes sends the run behind itself, and none restarts it, a call comes back. It
activates commands one behind the other, so there are no more of them than there is room from where the run resumes.
-/

namespace Sequencer

variable {σ ν : Type}

/-! ## Going forward -/

theorem Machine.SelfUntried.calls {m m' : Machine σ ν} (h : m.SelfUntried m') :
    Sequencer.calls m.engine.id m'.shared.moments = Sequencer.calls m.engine.id m.shared.moments := by
  obtain ⟨new, moments, untried⟩ := h.moments
  have silent : new.filterMap (Moment.call? m.engine.id) = [] := by
    rw [List.filterMap_eq_nil_iff]
    intro moment hm
    have other := untried moment hm
    cases moment with
    | called engine hook => cases hook <;> simp_all [Moment.call?, Moment.isTry]
    | told | failed | landed => rfl
  rw [moments, Sequencer.calls, Sequencer.calls, List.filterMap_append, silent, List.nil_append]

/--
No hook on the way restarts the engine, and if a signal of an execute hook lands, it sends the run behind its command.
Tick hooks may send the run anywhere, hooks may fail, and they may stop the engine.
-/
def Point.Forward [Behaviour σ ν] (p : Point σ ν) (o : Machine σ ν) : Prop :=
  ∀ called hook index ticket command result request left,
    p.Meets o called hook index ticket command (result, request, left) →
    (∀ start, request ≠ some (.restart start)) ∧
    (hook = .execute → ∀ jump, left.register.pending = some jump → index < jump.target)

namespace Machine

variable {m m' : Machine σ ν} {resumed : Option Nat} {fuel target index : Nat} {back : Bool}

/-- How many positions there are from where a run resumes. -/
def room (m : Machine σ ν) : Option Nat → Nat
  | none => 0
  | some target => m.engine.sequence.len - target

/--
From the one to the other, the commands at these positions have been activated one behind the other, the first of
them where the run has resumed or behind that. With fuel for one more than there is room for, the call comes back.
-/
structure Marches (m : Machine σ ν) (resumed : Option Nat) (fuel : Nat) (back : Bool) (after : Machine σ ν)
    (visits : List Nat) : Prop where
  activated : calls m.engine.id after.shared.moments = visits.reverse ++ calls m.engine.id m.shared.moments
  forward : visits.Pairwise (· < ·)
  inside : ∀ index ∈ visits, index < m.engine.sequence.len ∧ ∃ target, resumed = some target ∧ target ≤ index
  few : visits.length ≤ m.room resumed
  comes : m.room resumed < fuel → back = true

namespace Marches

variable {after : Machine σ ν} {visits : List Nat}

theorem of_calls (same : calls m.engine.id after.shared.moments = calls m.engine.id m.shared.moments)
    (comes : 0 < fuel → back = true) : m.Marches resumed fuel back after [] :=
  ⟨same, .nil, by simp, Nat.zero_le _, fun lt => comes (Nat.zero_lt_of_lt lt)⟩

theorem cons (h : m'.Marches resumed fuel back after visits)
    (id : m'.engine.id = m.engine.id) (len : m'.engine.sequence.len = m.engine.sequence.len)
    (called : calls m.engine.id m'.shared.moments = index :: calls m.engine.id m.shared.moments)
    (le : target ≤ index) (lt : index < m.engine.sequence.len) (ahead : ∀ next, resumed = some next → index < next) :
    m.Marches (some target) (fuel + 1) back after (index :: visits) := by
  have inside := h.inside
  rw [len] at inside
  have less : m'.room resumed < m.room (some target) := by
    cases resumed with
    | none => simp only [room]; omega
    | some next =>
      have := ahead next rfl
      simp only [room, len]
      omega
  have behind : ∀ other ∈ visits, index < other := by
    intro other hm
    obtain ⟨-, next, resumes, reached⟩ := inside other hm
    exact Nat.lt_of_lt_of_le (ahead next resumes) reached
  refine ⟨?_, .cons behind h.forward, ?_, ?_, fun enough => h.comes (by omega)⟩
  · rw [← id, h.activated, id, called, List.reverse_cons, List.append_assoc]
    rfl
  · refine List.forall_mem_cons.mpr ⟨⟨lt, target, rfl, le⟩, fun other hm => ⟨(inside other hm).1, target, rfl, ?_⟩⟩
    exact Nat.le_of_lt (Nat.lt_of_le_of_lt le (behind other hm))
  · rw [List.length_cons]
    exact Nat.lt_of_le_of_lt h.few less

theorem of_start (h : m'.Marches resumed fuel back after visits) (id : m'.engine.id = m.engine.id)
    (len : m'.engine.sequence.len = m.engine.sequence.len)
    (same : calls m.engine.id m'.shared.moments = calls m.engine.id m.shared.moments) :
    m.Marches resumed fuel back after visits := by
  have room : m'.room resumed = m.room resumed := by cases resumed <;> simp only [Machine.room, len]
  exact ⟨by rw [← id, h.activated, id, same], h.forward, len ▸ h.inside, room ▸ h.few, room ▸ h.comes⟩

end Marches

end Machine

/-! ## The loop -/

theorem Machine.len_executeHook [Behaviour σ ν] (m : Machine σ ν) (index : Nat) (entry : Entry σ)
    (coherent : m.engine.sequence.Coherent) :
    (m.executeHook index entry).2.2.engine.sequence.len = m.engine.sequence.len := by
  have hooked := ((Moves.refl (m.calling index entry.command.name)).runHook index m.register.arm.lastTicket
    (Behaviour.execute entry.command.state (m.view index))).kept
  exact ((kept_calling m index entry.command.name).trans hooked).len coherent

namespace Point

open Machine (SelfUntried Marches)

variable [Behaviour σ ν] {p : Point σ ν} {o m m' : Machine σ ν} {index : Nat} {ticket : Ticket} {jump : Jump}
  {entry : Entry σ} {result : Except CommandError Unit} {fuel : Nat}

theorem Goes.calls (goes : Goes m m' jump index entry) :
    Sequencer.calls m.engine.id ((m'.turn (m'.jump jump.target)).executeHook index entry).2.2.shared.moments =
      index :: Sequencer.calls m.engine.id m.shared.moments := by
  let turned := m'.turn (m'.jump jump.target)
  let called := turned.calling index entry.command.name
  have untried : m.SelfUntried turned := (Machine.allUntried_taken goes.taken).selfUntried
  have hooked := (Machine.KeepsTurns.refl called).runHook index m'.register.arm.lastTicket
    (Behaviour.execute entry.command.state (turned.view index))
  refine (hooked.shared.calls m.engine.id).trans ?_
  rw [Machine.calls_calling, if_pos untried.id, untried.calls]
  rfl

omit [Behaviour σ ν] in
theorem Goes.inside (goes : Goes m m' jump index entry) (coherent : m'.engine.sequence.Coherent) :
    jump.target ≤ index ∧ index < m'.engine.sequence.len := by
  refine ⟨(Sequence.skipFrom_some goes.next).1, ?_⟩
  rw [coherent.len_eq]
  exact (List.getElem?_eq_some_iff.mp goes.found).1

theorem play_idle (idle : m.engine.run = none) (fuel : Nat) : (loop m).play (fuel + 1) = (.settled, m) := by
  have stopped : m.engine.isExecuting = false := by rw [Engine.isExecuting, idle]; rfl
  rw [play, Machine.drive, if_neg (by simp [stopped])]

/-- After a hook that does not restart the engine, the run goes on where the hook has sent it, if it goes on. -/
theorem Follows.marches_hooked {request : Option Request} {left : Machine σ ν}
    (h : p.Follows o (.hooked index ticket (result, request, left)))
    (ready : (hooked index ticket (result, request, left)).Ready)
    (unrestarted : ∀ start, request ≠ some (.restart start))
    (loops : ∀ m, p.Follows o (.loop m) → (loop m).Ready →
      ∃ visits, m.Marches m.resumes fuel ((loop m).play fuel).1.isBack ((loop m).play fuel).2 visits) :
    let ended := (hooked index ticket (result, request, left)).play fuel
    ∃ visits, left.Marches left.resumes fuel ended.1.isBack ended.2 visits := by
  cases result with
  | error source =>
    have failed := (Machine.KeepsTurns.refl left).commandFailed index ticket source
    exact ⟨[], .of_calls (failed.shared.calls left.engine.id) fun _ => rfl⟩
  | ok =>
    match request with
    | none =>
      have settled : Machine.settle index ticket (.ok (), none, left) = (.settled, left) := rfl
      rw [play_settled settled]
      exact loops left (carries_follows.settles _ _ _ _ ready h settled) (ready.settles settled)
    | some .stop =>
      -- A stop ends the run, and nothing more is activated.
      let asked := left.report (.stopRequested left.engine.name index)
      have settled : Machine.settle index ticket (.ok (), some .stop, left) = (.settled, asked.stop) := rfl
      have same := (Machine.allUntried_settled settled).selfUntried.calls
      rw [play_settled settled]
      cases fuel with
      | zero => exact ⟨[], .of_calls same (absurd · (Nat.lt_irrefl 0))⟩
      | succ fuel =>
        rw [play_idle asked.run_stop]
        exact ⟨[], .of_calls same fun _ => rfl⟩
    | some (.restart start) => exact absurd rfl (unrestarted start)

theorem Follows.marches (h : p.Follows o (.loop m)) (ready : (loop m).Ready) (forward : p.Forward o) (fuel : Nat) :
    ∃ visits, m.Marches m.resumes fuel ((loop m).play fuel).1.isBack ((loop m).play fuel).2 visits := by
  -- On the fuel, of which each activation takes one.
  induction fuel generalizing m with
  | zero => exact ⟨[], .of_calls rfl (absurd · (Nat.lt_irrefl 0))⟩
  | succ fuel ih =>
    by_cases executing : m.engine.isExecuting = true
    · cases pending : m.register.pending with
      | none =>
        rw [play_waits executing pending]
        exact ⟨[], .of_calls rfl fun _ => rfl⟩
      | some jump =>
        obtain ⟨m', taken, keeps, len, -⟩ := Machine.takeJump_of_pending pending
        cases next : m'.engine.sequence.nextRunnable jump.target with
        | none =>
          rw [play_exhausted executing taken keeps.runCount next]
          exact ⟨[], .of_calls (Machine.allUntried_taken taken).finish.selfUntried.calls fun _ => rfl⟩
        | some index =>
          obtain ⟨entry, goes⟩ := ready.exists_goes executing taken next
          obtain ⟨hooked, plays⟩ := ready.goes fuel goes
          have coherent := (ready.takes executing taken).1.core.coherent
          obtain ⟨reached, inside⟩ := goes.inside coherent
          have follows := h.goes ready goes
          obtain ⟨unrestarted, ahead⟩ := forward _ _ _ _ _ _ _ _ (Meets.of_goes h.reaches h.kept ready goes)
          obtain ⟨visits, marches⟩ := follows.marches_hooked hooked unrestarted fun m h ready => ih h ready
          have resumes : m.resumes = some jump.target := congrArg (Option.map Jump.target) pending
          refine ⟨index :: visits, ?_⟩
          rw [plays, resumes]
          have len' := (Machine.len_executeHook (m'.turn (m'.jump jump.target)) index entry coherent).trans len
          refine marches.cons (follows.kept.id.trans h.kept.id.symm) len' goes.calls reached (len ▸ inside)
            fun next sent => ?_
          obtain ⟨jump, landed, rfl⟩ := Option.map_eq_some_iff.mp sent
          exact ahead rfl jump landed
    · have idle := Machine.run_of_not_executing executing
      rw [play_idle idle]
      exact ⟨[], .of_calls rfl fun _ => rfl⟩

theorem Follows.marches_on {q : Point σ ν} (h : p.Follows o q) (ready : q.Ready) (forward : p.Forward o)
    (fuel : Nat) :
    ∃ visits, q.machine.Marches q.machine.resumes fuel (q.play fuel).1.isBack (q.play fuel).2 visits := by
  cases q with
  | loop m => exact h.marches ready forward fuel
  | hooked index ticket result =>
    obtain ⟨called, hook, command, met⟩ := h.meeting
    obtain ⟨unrestarted, -⟩ := forward _ _ _ _ _ _ _ _ met
    exact h.marches_hooked ready unrestarted fun m h ready => h.marches ready forward fuel

end Point

/-! ## Whole calls -/

namespace Machine

variable [Behaviour σ ν] {m : Machine σ ν} {call : Call σ ν} {answer : Verdict → CallReply} {p : Point σ ν}

theorem calls_ticking (m : Machine σ ν) :
    calls m.engine.id m.ticking.machine.shared.moments = calls m.engine.id m.shared.moments := by
  rw [ticking]
  split
  · next index ticket _ _ _ =>
    split
    · next entry _ =>
      have hooked := (KeepsTurns.refl (m.announce .tick index ticket)).runHook index ticket
        (Behaviour.onTick entry.command.state (m.view index))
      exact hooked.shared.calls m.engine.id
    · rfl
  · rfl

theorem AtRest.marches (h : m.AtRest) (forward : ∀ answer p, m.opening call = some (answer, p) → p.Forward m)
    (fuel : Nat) :
    ∃ visits, m.Marches (m.resumed? call) fuel (m.reply fuel call).1.isBack (m.reply fuel call).2 visits := by
  cases opens : m.opening call with
  | none =>
    exact ⟨[], .of_calls (selfUntried_reply opens fuel).calls fun _ => isBack_reply opens fuel⟩
  | some opening =>
    obtain ⟨answer, p⟩ := opening
    obtain ⟨ready, replies⟩ := h.opening opens fuel
    have follows := h.follows_opening opens
    obtain ⟨visits, marches⟩ := follows.marches_on ready (forward answer p opens) fuel
    have begins : calls m.engine.id p.machine.shared.moments = calls m.engine.id m.shared.moments ∧
        p.machine.resumes = m.resumed? call := by
      rcases opening_cases opens with ⟨m', rfl, -, untried, resumes⟩ | ⟨rfl, -, -, rfl⟩
      · exact ⟨untried.calls, resumes⟩
      · exact ⟨m.calls_ticking, rfl⟩
    rw [begins.2] at marches
    rw [replies, isBack_answer opens]
    exact ⟨visits, marches.of_start follows.kept.id (follows.kept.len h.stands.core.coherent) begins.1⟩

end Machine

/-! ## What hooks ask -/

namespace Machine

/-- If the question sends a run on its way through the handle of the frame, it sends it behind its command. -/
def HookFrame.Ahead (f : HookFrame ν) : HookQuestion ν → Prop
  | .signal target => f.handle.index < target
  | .host (.fire name (some target)) =>
    f.shared.board.handles.get? name = some f.handle → f.handle.index < target
  | _ => True

/-- What a hook may ask: an execute hook sends its run only ahead, and no hook requests a restart. -/
def HookFrame.Allows (hook : Hook) (question : HookQuestion ν) (f : HookFrame ν) : Prop :=
  (∀ start, question ≠ .request (.restart start)) ∧ (hook = .execute → f.Ahead question)

/-- While its handle is armed a hook has sent its run nowhere, and after that only ahead. -/
def SentAhead (own : Handle) (r : Register) : Prop :=
  r.armed = some own.ticket ∨ r.armed = none ∧ ∀ jump, r.pending = some jump → own.index < jump.target

/-- What holds while a hook runs that has this handle, and asks only what it may. -/
structure HookFrame.Onward (own : Handle) (hook : Hook) (f : HookFrame ν) : Prop where
  handle : f.handle = own
  unrestarted : ∀ start, f.request ≠ some (.restart start)
  held : ∀ name handle, f.shared.board.handles.get? name = some handle → handle.engine = own.engine →
    handle.ticket = own.ticket → handle = own
  ahead : hook = .execute → SentAhead own (f.shared.board.register own.engine)

namespace HookFrame.Onward

variable {own : Handle} {hook : Hook} {f : HookFrame ν}

theorem signal (h : f.Onward own hook) (handle : Handle) (target : Nat)
    (ahead : hook = .execute → handle.engine = own.engine → handle.ticket = own.ticket → own.index < target) :
    HookFrame.Onward own hook { f with shared := (f.shared.signal handle target).2 } := by
  rcases f.shared.signal_cases handle target with ⟨-, same⟩ | ⟨-, r, hr, armed, landed⟩
  · rwa [same]
  · rw [landed]
    refine ⟨h.handle, h.unrestarted, h.held, fun executes => ?_⟩
    show SentAhead own ((f.shared.board.setRegister handle.engine (r.force (.to target))).register own.engine)
    rw [register_land hr]
    split
    · next here =>
      rw [← Switchboard.register_of_get? hr, here] at armed
      rcases h.ahead executes with armed' | ⟨disarmed, -⟩
      · have ticket : handle.ticket = own.ticket := Option.some.inj (armed.symm.trans armed')
        refine .inr ⟨rfl, ?_⟩
        rintro jump ⟨⟩
        exact ahead executes here ticket
      · simp [disarmed] at armed
    · exact h.ahead executes

theorem answer (h : f.Onward own hook) (question : HookQuestion ν) (allowed : f.Allows hook question) :
    HookFrame.Onward own hook (HookFrame.answer question f).2 := by
  obtain ⟨unrestarted, ahead⟩ := allowed
  have handle := h.handle
  cases question with
  | signal target => exact h.signal f.handle target fun executes _ _ => handle ▸ ahead executes
  | hold name =>
    refine ⟨h.handle, h.unrestarted, fun other held hh engine ticket => ?_, h.ahead⟩
    simp only [HookFrame.answer, Switchboard.hold, Table.get?_put] at hh
    split at hh
    · exact (Option.some.inj hh).symm.trans handle
    · exact h.held other held hh engine ticket
  | hasSignalled => exact h
  | request request =>
    refine ⟨h.handle, fun start requested => ?_, h.held, h.ahead⟩
    exact unrestarted start (congrArg HookQuestion.request (Option.some.inj requested))
  | report notice => exact ⟨h.handle, h.unrestarted, h.held, h.ahead⟩
  | host question =>
    cases question with
    | armed name => exact h
    | note value => exact ⟨h.handle, h.unrestarted, h.held, h.ahead⟩
    | fire name target =>
      -- If the handle is one of this activation, it is that of the hook.
      show HookFrame.Onward own hook { f with shared := (f.shared.fire name target).2 }
      rw [Shared.fire]
      cases held : f.shared.board.handles.get? name with
      | none => exact h
      | some fired =>
        refine h.signal fired _ fun executes engine ticket => ?_
        obtain rfl := h.held name fired held engine ticket
        cases target with
        | none => exact Nat.lt_succ_self _
        | some target => exact handle ▸ ahead executes (held.trans (congrArg some handle.symm))

end HookFrame.Onward

variable [Behaviour σ ν] {m : Machine σ ν} {hook : Hook} {index : Nat} {ticket : Ticket} {command : Command σ}
  {result : HookResult σ ν}

theorem Invokes.onward (h : m.Invokes hook index ticket command result) :
    HookFrame.Onward ⟨m.engine.id, ticket, index⟩ hook
      { shared := m.shared, handle := ⟨m.engine.id, ticket, index⟩ } := by
  refine ⟨rfl, by simp, ?_, fun _ => .inl h.armed⟩
  rintro name ⟨engine, issued, index'⟩ held (rfl : engine = _) (same : issued = ticket)
  have last : issued = m.register.lastTicket := same.trans (h.stands.core.ledger.armed ticket h.armed).1
  obtain ⟨board, called⟩ := h.stands.history.issued name _ held
  obtain ⟨latest, here⟩ := h.stands.latest h.active
  have there := head_calls h.stands.core.ledger.nodup (latest.trans (congrArg some last.symm)) called
  obtain rfl : index = index' := Option.some.inj (here.symm.trans there)
  rw [same]

/-- Wherever the call calls a hook, that hook asks only what it may. -/
def OnlyForward (m : Machine σ ν) (call : Call σ ν) : Prop :=
  ∀ answer p, m.opening call = some (answer, p) → ∀ there hook index ticket command result program,
    p.Meets m there hook index ticket command result →
    hook.program? command.state (there.view index) = some program →
    program.Heeds HookFrame.answer (fun question f => f.Allows hook question)
      { shared := there.shared, handle := ⟨there.engine.id, ticket, index⟩ }

theorem OnlyForward.forward {call : Call σ ν} {answer : Verdict → CallReply} {p : Point σ ν}
    (h : m.OnlyForward call) (rest : m.AtRest) (opens : m.opening call = some (answer, p)) : p.Forward m := by
  intro there hook index ticket command result request left met
  obtain ⟨program, hp, returns⟩ := met.invokes.returns
  have after := (h answer p opens _ _ _ _ _ _ program met hp).run
    (fun question f allowed onward => HookFrame.Onward.answer onward question allowed) met.invokes.onward
  obtain ⟨-, rfl, rfl⟩ : _ ∧ _ ∧ _ := ⟨(Prod.mk.inj returns).1, Prod.mk.inj (Prod.mk.inj returns).2⟩
  refine ⟨after.unrestarted, fun executes jump pending => ?_⟩
  obtain ⟨-, waiting, -⟩ := (met.reaches.plays (rest.opening opens 0).1).1
  rcases after.ahead executes with armed | ⟨-, ahead⟩
  · -- While the handle is armed no jump is pending.
    rcases waiting.2.2 with ⟨-, none_pending⟩ | ⟨disarmed, -⟩
    · exact absurd (none_pending.symm.trans pending) (by simp)
    · exact absurd (disarmed.symm.trans armed) (by simp)
  · exact ahead jump pending

end Machine

/-! ## The main result -/

/--
Scripts that only go forward come to an end. If on its way the hooks of a call send the run only behind their own
commands, and restart nothing, the call activates commands one behind the other, from where it resumes the run, and
comes back once there are none left to activate.
-/
theorem forward_scripts_terminate [Behaviour σ ν] {ids : List EngineId} {s : Studio σ ν} (h : Reachable ids s)
    {number : Nat} {e : Engine σ ν} (he : s.engine? number = some e) {call : Call σ ν}
    (forward : Machine.OnlyForward ⟨e, s.shared⟩ call) (fuel : Nat) :
    let m : Machine σ ν := ⟨e, s.shared⟩
    ∃ visits, m.Marches (m.resumed? call) fuel (m.reply fuel call).1.isBack (m.reply fuel call).2 visits :=
  have rest := h.sound.machine he
  rest.marches (fun _ _ opens => forward.forward rest opens) fuel

/-! ## Leaps -/

/-- A command that leaps over some of the commands behind it. -/
structure Leap where
  ahead : Nat
deriving DecidableEq

instance : Behaviour Leap Unit where
  execute leap view := do
    let _ ← HookProgram.signal (view.index + 1 + leap.ahead)
    return (leap, .ok ())
  onTick leap _ := return (leap, .ok ())
  onStop leap := return leap

def leap (ahead : Nat) : Command Leap := { name := "leap", state := ⟨ahead⟩ }

def leapsStart : Studio Leap Unit :=
  Studio.add {} (.create keeperId "engine" (.ofCommands [leap 1, leap 0, leap 2, leap 0]) none true)

theorem reachable_leapsStart : Reachable [keeperId] leapsStart :=
  .add keeperId "engine" none true .start (by simp) (Sequence.Built.ofCommands _)

theorem Machine.onlyForward_leaps (m : Machine Leap Unit) (call : Call Leap Unit) : m.OnlyForward call := by
  intro answer p _ there hook index ticket command result program _ hp
  cases hook with
  | execute =>
    obtain rfl := Option.some.inj hp
    have beyond : index < index + 1 + command.state.ahead := by omega
    exact ⟨⟨by simp, fun _ => beyond⟩, trivial⟩
  | tick =>
    obtain rfl := Option.some.inj hp
    trivial
  | stop => cases hp

theorem forward_scripts_terminate_leaps : ∃ e visits, leapsStart.engine? 0 = some e ∧
    let m : Machine Leap Unit := ⟨e, leapsStart.shared⟩
    let ended := m.reply 5 (.execute 0 none)
    m.OnlyForward (.execute 0 none) ∧ m.Marches (some 0) 5 ended.1.isBack ended.2 visits ∧
      ended.1.isBack = true ∧ visits = [0, 2] := by
  have forward := fun m => Machine.onlyForward_leaps m (.execute 0 none)
  obtain ⟨visits, marches⟩ :=
    @forward_scripts_terminate Leap Unit _ _ leapsStart reachable_leapsStart 0 _ rfl _ (forward _) 5
  have activated : [2, 0] = visits.reverse ++ [] := marches.activated
  refine ⟨_, visits, rfl, forward _, marches, marches.comes (by decide), ?_⟩
  rw [List.append_nil] at activated
  rw [← visits.reverse_reverse, ← activated]
  rfl

end Sequencer
