import Sequencer.Proofs.Engine.Hooks

/-!
# Every hook is on the way

Each call of a hook that the history tells of is at a point that the call into the engine gets to. So what
comes back from there is what the call comes to.
-/

namespace Sequencer

variable {σ ν : Type}

theorem suffix_of_notMem {α : Type} {a : α} {rest new before : List α} (h : a :: rest <:+ new ++ before)
    (other : a ∉ new) : a :: rest <:+ before := by
  induction new with
  | nil => exact h
  | cons b new ih =>
    rw [List.mem_cons, not_or] at other
    rcases List.suffix_cons_iff.mp h with same | h
    · exact absurd (List.cons.inj same).1 other.1
    · exact ih h other.2

theorem Untried.suffix {id : EngineId} {before moments earlier : List (Moment ν)} {moment : Moment ν}
    (h : Untried id before moments) (tried : moment.isTry id = true) (suffix : moment :: earlier <:+ moments) :
    moment :: earlier <:+ before := by
  obtain ⟨new, rfl, untried⟩ := h
  exact suffix_of_notMem suffix fun hm => by simp [untried _ hm] at tried

theorem Machine.SelfUntried.uncalled {m m' : Machine σ ν} (h : m.SelfUntried m') {hook : Hook} {index : Nat}
    {ticket : Ticket} {board : Switchboard} {earlier : List (Moment ν)} (working : hook ≠ .stop)
    (since : m.shared.moments <:+ earlier) :
    ¬ .called m.engine.id hook index ticket board :: earlier <:+ m'.shared.moments := by
  intro called
  have shorter := (h.moments.suffix (by simp [Moment.isTry, working]) called).length_le
  have longer := since.length_le
  simp only [List.length_cons] at shorter
  omega

section Kept

variable {o m : Machine σ ν}

theorem kept_enter (m : Machine σ ν) (index : Nat) : Kept m (m.enter index) where
  id := rfl
  name := rfl
  listener := rfl
  runCount := Nat.le_refl _
  owner := Sequence.owner_update
  forms hc :=
    have mild := Sequence.mild_setExecuting true
    ⟨hc.update mild index, Sequence.forms_update hc mild⟩

theorem Kept.of_engine {m' : Machine σ ν} (h : Kept o m) (engine : m'.engine = m.engine) : Kept o m' :=
  ⟨engine ▸ h.id, engine ▸ h.name, engine ▸ h.listener, engine ▸ h.runCount, engine ▸ h.owner, engine ▸ h.forms⟩

theorem kept_calling (m : Machine σ ν) (index : Nat) (name : String) : Kept m (m.calling index name) :=
  (kept_enter m index).of_engine (m.engine_calling index name)

end Kept

namespace Point

variable [Behaviour σ ν] {p q : Point σ ν} {o m m' : Machine σ ν} {index : Nat} {ticket : Ticket}
  {result : HookResult σ ν} {fuel : Nat}

/-! ## Traces -/

/-- The call gets to where this hook is called. -/
structure Meets (p : Point σ ν) (o called : Machine σ ν) (hook : Hook) (index : Nat) (ticket : Ticket)
    (command : Command σ) (result : HookResult σ ν) : Prop where
  invokes : called.Invokes hook index ticket command result
  reaches : Reaches p (.hooked index ticket result)
  kept : Kept o called

/-- Each hook that is called between the one and the other is met on the way. -/
def Traced (p : Point σ ν) (o m : Machine σ ν) : Prop :=
  ∀ hook index ticket board earlier, hook ≠ .stop → o.shared.moments <:+ earlier →
    .called o.engine.id hook index ticket board :: earlier <:+ m.shared.moments →
    ∃ called command result, p.Meets o called hook index ticket command result ∧
      called.shared.moments = .called o.engine.id hook index ticket board :: earlier

theorem Traced.of_append (h : p.Traced o m) (new : List (Moment ν))
    (moments : m'.shared.moments = new ++ m.shared.moments)
    (uncalled : ∀ hook index ticket board, hook ≠ .stop → .called o.engine.id hook index ticket board ∉ new) :
    p.Traced o m' := by
  intro hook index ticket board earlier working since suffix
  rw [moments] at suffix
  exact h hook index ticket board earlier working since
    (suffix_of_notMem suffix (uncalled hook index ticket board working))

theorem Traced.selfUntried (h : p.Traced o m) (id : m.engine.id = o.engine.id) (untried : m.SelfUntried m') :
    p.Traced o m' := by
  obtain ⟨new, moments, untried⟩ := untried.moments
  refine h.of_append new moments fun hook index ticket board working hm => ?_
  have tried := untried _ hm
  simp [Moment.isTry, id, working] at tried

theorem Traced.start (p : Point σ ν) (o : Machine σ ν) : p.Traced o o := by
  intro hook index ticket board earlier working since called
  exact absurd called ((Machine.SelfUntried.refl o).uncalled working since)

theorem Traced.call {hook : Hook} {command : Command σ} (h : p.Traced o m)
    (met : p.Meets o m' hook index ticket command result) {board : Switchboard} {earlier : List (Moment ν)}
    (moments : m'.shared.moments = .called o.engine.id hook index ticket board :: earlier)
    (untried : Untried o.engine.id m.shared.moments earlier) : p.Traced o m' := by
  intro hook' index' ticket' board' earlier' working since suffix
  rw [moments] at suffix
  rcases List.suffix_cons_iff.mp suffix with same | suffix
  · obtain ⟨⟨-, rfl, rfl, rfl, rfl⟩, rfl⟩ := List.cons.inj same |>.imp_left Moment.called.inj
    exact ⟨m', command, result, met, moments⟩
  · exact h hook' index' ticket' board' earlier' working since
      (untried.suffix (by simp [Moment.isTry, working]) suffix)

/-- The hook at whose end the call is has been met. -/
def Meeting (p : Point σ ν) (o : Machine σ ν) : Point σ ν → Prop
  | .loop _ => True
  | .hooked index ticket result => ∃ called hook command, p.Meets o called hook index ticket command result

/-- What holds at each point that a call gets to. -/
structure Follows (p : Point σ ν) (o : Machine σ ν) (q : Point σ ν) : Prop where
  reaches : Reaches p q
  kept : Kept o q.machine
  traced : p.Traced o q.machine
  meeting : p.Meeting o q

/-- What holds at the end of a call. If it fails, it does so at the end of a hook. -/
structure Arrives (p : Point σ ν) (o : Machine σ ν) (ended : Verdict × Machine σ ν) : Prop where
  traced : p.Traced o ended.2
  fails : ∀ error, ended.1 = .failed error → ∃ called hook index ticket command source request left,
    p.Meets o called hook index ticket command (.error source, request, left) ∧
    (hooked index ticket (.error source, request, left)).Ready ∧
    left.commandFailed index ticket source = (error, ended.2)

omit [Behaviour σ ν] in
theorem Goes.kept {jump : Jump} {entry : Entry σ} (goes : Goes m m' jump index entry) :
    Kept m (m'.turn (m'.jump jump.target)) := by
  have taken := (Moves.refl m).takeJump
  rw [goes.taken] at taken
  exact (taken.next (@Move.turn _ _ m' (m'.jump jump.target) rfl)).kept

theorem Meets.of_goes {jump : Jump} {entry : Entry σ} (reaches : Reaches p (.loop m)) (kept : Kept o m)
    (ready : (loop m).Ready) (goes : Goes m m' jump index entry) :
    p.Meets o ((m'.turn (m'.jump jump.target)).calling index entry.command.name) .execute index
      m'.register.arm.lastTicket entry.command ((m'.turn (m'.jump jump.target)).executeHook index entry) where
  invokes := ready.invokes goes
  reaches := reaches.tail (.goes goes)
  kept := kept.trans (goes.kept.trans (kept_calling _ index entry.command.name))

theorem Follows.goes {jump : Jump} {entry : Entry σ} (h : p.Follows o (.loop m)) (ready : (loop m).Ready)
    (goes : Goes m m' jump index entry) : p.Follows o (.hooked index m'.register.arm.lastTicket
      ((m'.turn (m'.jump jump.target)).executeHook index entry)) := by
  let turned := m'.turn (m'.jump jump.target)
  have since : m.SelfUntried turned := (Machine.allUntried_taken goes.taken).selfUntried
  have met := Meets.of_goes h.reaches h.kept ready goes
  obtain ⟨board, moments⟩ := turned.moments_calling index entry.command.name
  have untried : Untried o.engine.id turned.shared.moments (if turned.engine.listener = none
      then turned.shared.moments else .told (.commandExecuting turned.engine.ref entry.command.name index
        turned.engine.sequence.len) :: turned.shared.moments) := by
    split
    · exact .refl ..
    · exact (Untried.refl ..).cons rfl
  rw [show turned.engine.id = o.engine.id from (h.kept.trans goes.kept).id] at moments
  have traced := (h.traced.selfUntried h.kept.id since).call met moments untried
  exact ⟨met.reaches, met.kept.trans ((Moves.refl _).runHook index _ _).kept,
    traced.selfUntried met.kept.id ((Machine.AllUntried.refl _).runHook index _ _).selfUntried, _, _, _, met⟩

theorem carries_follows : Carries (σ := σ) (ν := ν) (p.Follows o) (p.Arrives o) where
  tired m _ h := ⟨h.traced, by simp⟩
  rests m _ h _ := ⟨h.traced, by simp⟩
  ends m m' jump _ h _ taken _ := by
    exact ⟨h.traced.selfUntried h.kept.id (Machine.allUntried_taken taken).finish.selfUntried, by simp⟩
  goes m m' jump index entry ready h goes := h.goes ready goes
  settles index ticket result m _ h settled := by
    have kept := ((Moves.refl result.2.2).settle index ticket).kept
    rw [settled] at kept
    have untried := (Machine.allUntried_settled settled).selfUntried
    exact ⟨h.reaches.tail (.settles settled), h.kept.trans kept, h.traced.selfUntried h.kept.id untried, trivial⟩
  fails index ticket source request m ready h := by
    obtain ⟨called, hook, command, met⟩ := h.meeting
    refine ⟨h.traced.of_append [.failed m.engine.id ticket] ?_ (by simp), fun error failed => ?_⟩
    · rw [Machine.commandFailed]
      dsimp only
      split <;> rfl
    · obtain rfl : _ = error := Verdict.failed.inj failed
      exact ⟨called, hook, index, ticket, command, source, request, m, met, ready, rfl⟩
  restarts index ticket start m _ h := by
    have moves := ((Moves.refl m).next (.report m (.restartRequested m.engine.name index start))).stop
    exact ⟨h.reaches.tail .restarts, h.kept.trans (moves.beginRun start none).kept,
      h.traced.selfUntried h.kept.id ((Machine.AllUntried.refl m).restarted index start).selfUntried, trivial⟩

end Point

/-! ## Calls into an engine -/

namespace Machine

variable [Behaviour σ ν] {m : Machine σ ν} {call : Call σ ν} {answer : Verdict → CallReply} {p : Point σ ν}

theorem follows_loop {m' : Machine σ ν} (kept : Kept m m') (untried : m.SelfUntried m') :
    (Point.loop m').Follows m (.loop m') :=
  ⟨.refl, kept, (Point.Traced.start _ m).selfUntried rfl untried, trivial⟩

theorem AtRest.follows_ticking (h : m.AtRest) (sane : m.engine.isFaulted = false) :
    m.ticking.Follows m m.ticking := by
  have loop : (Point.loop m).Follows m (.loop m) := follows_loop (.refl m) (.refl m)
  rw [Machine.ticking]
  split
  · next index ticket _ active armed =>
    split
    · next entry found =>
      let announced := m.announce .tick index ticket
      have kept : Kept m announced := ((Moves.refl m).announce .tick index ticket).kept
      let p : Point σ ν := .hooked index ticket (m.tickHook index ticket entry)
      have met : p.Meets m announced .tick index ticket entry.command (m.tickHook index ticket entry) :=
        ⟨invokes_tickHook h sane active armed found, .refl, kept⟩
      have traced : p.Traced m announced := (Point.Traced.start p m).call met rfl (.refl _ m.shared.moments)
      exact ⟨.refl, kept.trans ((Moves.refl announced).runHook index ticket _).kept,
        traced.selfUntried rfl ((AllUntried.refl announced).runHook index ticket _).selfUntried, _, _, _, met⟩
    · exact loop
  · exact loop

/-- Where the loop resumes the run, if there is a jump to take. -/
def resumes (m : Machine σ ν) : Option Nat := m.register.pending.map Jump.target

/-- Where a call resumes the run. A tick resumes it where its hook, or someone before the tick, has sent it. -/
def resumed? (m : Machine σ ν) : Call σ ν → Option Nat
  | .execute start _ => some start
  | .executeLabel key _ => m.refreshIfIdle.engine.findLabel? key
  | .tick => m.ticking.machine.resumes
  | .redirect index => some index
  | .redirectToLabel key => m.engine.findLabel? key
  | .stop | .setEnabled .. | .release .. => none

omit [Behaviour σ ν] in
theorem resumes_setRegister (m : Machine σ ν) (r : Register) (target : Nat) :
    (m.setRegister (r.force (.to target))).resumes = some target := by
  rw [resumes, register_setRegister]
  rfl

omit [Behaviour σ ν] in
theorem resumes_beginRun (m : Machine σ ν) (start : Nat) (onComplete : Option (HostProgram ν Unit)) :
    (m.beginRun start onComplete).resumes = some start :=
  resumes_setRegister ..

theorem resumes_jumpTo (m : Machine σ ν) (run : Run ν) (index : Nat) : (m.jumpTo run index).resumes = some index :=
  resumes_setRegister ..

theorem opening_cases (opens : m.opening call = some (answer, p)) :
    (∃ m', p = .loop m' ∧ Kept m m' ∧ m.SelfUntried m' ∧ m'.resumes = m.resumed? call) ∨
      (call = .tick ∧ m.engine.isExecuting = true ∧ m.engine.isFaulted = false ∧ p = m.ticking) := by
  have moves : Moves m m.refreshIfIdle := by
    rw [Machine.refreshIfIdle]
    split
    · exact (Moves.refl m).refresh
    · exact .refl m
  have refreshed : m.AllUntried m.refreshIfIdle := (AllUntried.refl m).refreshIfIdle
  cases opens_of_opening opens with
  | execute start onComplete =>
    exact .inl ⟨_, rfl, ((Moves.refl m).beginRun start onComplete).kept,
      ((AllUntried.refl m).beginRun start onComplete).selfUntried, m.resumes_beginRun start onComplete⟩
  | executeLabel key start onComplete found =>
    exact .inl ⟨_, rfl, (moves.beginRun start onComplete).kept, (refreshed.beginRun start onComplete).selfUntried,
      (m.refreshIfIdle.resumes_beginRun start onComplete).trans found.symm⟩
  | tick executing sane => exact .inr ⟨rfl, executing, sane, rfl⟩
  | redirect index run =>
    exact .inl ⟨_, rfl, ((Moves.refl m).jumpTo run index).kept, ((AllUntried.refl m).jumpTo run index).selfUntried,
      m.resumes_jumpTo run index⟩
  | redirectToLabel key target run found =>
    exact .inl ⟨_, rfl, ((Moves.refl m).jumpTo run target).kept, ((AllUntried.refl m).jumpTo run target).selfUntried,
      (m.resumes_jumpTo run target).trans found.symm⟩

theorem AtRest.follows_opening (h : m.AtRest) (opens : m.opening call = some (answer, p)) : p.Follows m p := by
  rcases opening_cases opens with ⟨m', rfl, kept, untried, -⟩ | ⟨-, -, sane, rfl⟩
  · exact follows_loop kept untried
  · exact h.follows_ticking sane

/-- Each hook that a call into an engine calls is on its way, and what it comes to is what comes of it. -/
theorem AtRest.meets (h : m.AtRest) (fuel : Nat) {hook : Hook} {index : Nat} {ticket : Ticket}
    {board : Switchboard} {earlier : List (Moment ν)} (working : hook ≠ .stop)
    (since : m.shared.moments <:+ earlier)
    (called : .called m.engine.id hook index ticket board :: earlier <:+ (m.reply fuel call).2.shared.moments) :
    ∃ answer p there command result, m.opening call = some (answer, p) ∧
      p.Meets m there hook index ticket command result ∧
      there.shared.moments = .called m.engine.id hook index ticket board :: earlier ∧
      ∃ cost, ∀ left, m.reply (left + cost) call =
        (answer ((Point.hooked index ticket result).play left).1, ((Point.hooked index ticket result).play left).2) := by
  cases opens : m.opening call with
  | none =>
    -- Nothing is called then.
    exact absurd called ((selfUntried_reply opens fuel).uncalled working since)
  | some opening =>
    obtain ⟨answer, p⟩ := opening
    obtain ⟨ready, replies⟩ := h.opening opens fuel
    rw [replies] at called
    have arrives : p.Arrives m (p.play fuel) := Point.carries_follows.play ready (h.follows_opening opens)
    obtain ⟨there, command, result, met, moments⟩ :=
      arrives.traced hook index ticket board earlier working since called
    obtain ⟨-, cost, plays⟩ := met.reaches.plays ready
    refine ⟨answer, p, there, command, result, rfl, met, moments, cost, fun left => ?_⟩
    rw [(h.opening opens (left + cost)).2, plays]

end Machine

end Sequencer
