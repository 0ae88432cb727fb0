import Sequencer.Proofs.Engine.Points
import Sequencer.Proofs.Handles

/-!
# Restarts

A command that asks for a restart gets what the host would get by stopping the engine and starting a run
without a callback. The loops of the runs that were superseded come to nothing.
-/

namespace Sequencer

variable {σ ν : Type}

/-! ## What can be seen from outside -/

/-- Listeners and commands take notice of it. -/
def Moment.isShown : Moment ν → Bool
  | .told _ | .called .. => true
  | .failed .. | .landed _ => false

/-- What listeners were told and which hooks were called, the latest first. -/
def shown (moments : List (Moment ν)) : List (Moment ν) := moments.filter Moment.isShown

theorem Shared.shown_signal (s : Shared ν) (handle : Handle) (target : Nat) :
    shown (s.signal handle target).2.moments = shown s.moments := by
  rcases s.signal_cases handle target with ⟨_, heq⟩ | ⟨_, r, _, _, heq⟩
  · rw [heq]
  · rw [heq]
    rfl

theorem Shared.shown_answer (s : Shared ν) (question : HostQuestion ν) :
    shown (s.answer question).2.moments = shown s.moments := by
  rcases s.answer_cases question with same | ⟨handle, target, same⟩ | ⟨value, same⟩ <;> rw [same]
  · exact s.shown_signal handle target
  · rfl

theorem Shared.shown_perform {α : Type} (s : Shared ν) (program : HostProgram ν α) :
    shown (s.perform program).2.moments = shown s.moments :=
  Program.run_preserves (P := fun s' : Shared ν => shown s'.moments = shown s.moments)
    (fun question s' hs => (s'.shown_answer question).trans hs) program s rfl

namespace Machine

variable {m : Machine σ ν} {index : Nat}

/-- What the listener of the engine, if there is one, is told. -/
def news (m : Machine σ ν) (event : Event ν) : List (Moment ν) :=
  if m.engine.listener = none then [] else [.told event]

theorem shown_tell (m : Machine σ ν) (event : Event ν) (notice : Notice) :
    shown (m.tell event notice).shared.moments = m.news event ++ shown m.shared.moments := by
  rw [moments_tell, news]
  split <;> rfl

theorem shown_enterIdle (m : Machine σ ν) :
    shown m.enterIdle.shared.moments = m.news (.runEnded m.engine.ref) ++ shown m.shared.moments :=
  shown_tell ..

theorem shown_beginRun (m : Machine σ ν) (start : Nat) (onComplete : Option (HostProgram ν Unit)) :
    shown (m.beginRun start onComplete).shared.moments =
      m.news (.runStarted m.engine.ref) ++ shown m.shared.moments :=
  shown_tell ..

variable [Behaviour σ ν]

theorem shown_callStopHook (m : Machine σ ν) (index : Nat) :
    shown (m.callStopHook index).shared.moments = shown m.shared.moments := by
  rw [callStopHook]
  split
  · rfl
  · exact m.shared.shown_perform _

theorem Stands.shown_interrupt {mark : Option Nat} (h : m.Stands mark) (active : m.engine.active = some index) :
    shown (m.interrupt index).shared.moments =
      .called m.engine.id .stop index m.register.lastTicket m.shared.board :: shown m.shared.moments := by
  obtain ⟨entry, found⟩ := h.entry? active
  rw [Machine.interrupt, if_pos (by rw [found]; rfl), shown_callStopHook]
  rfl

/-- The run has been taken away from the command at `index`, and nobody has been told yet. -/
def aborting (m : Machine σ ν) (index : Nat) : Machine σ ν :=
  let m := (m.setExecuting index false).interrupt index
  (m.setRegister (m.register.force .abort)).turn (.aborted m.engine.id m.engine.runCount)

theorem stop_eq (active : m.engine.active = some index) : m.stop = (m.aborting index).enterIdle := by
  obtain ⟨run, hr⟩ := Option.isSome_iff_exists.mp (isExecuting_of_active (e := m.engine) (by rw [active]; rfl))
  have own : run.active = some index := by rw [← active, Engine.active, hr]; rfl
  rw [stop, hr]
  simp only [own]
  rfl

/-- What a stop does to the run of the command at `index`. -/
structure Stops (m : Machine σ ν) (index : Nat) (m' : Machine σ ν) : Prop where
  idle : m'.engine.run = none
  runCount : m'.engine.runCount = m.engine.runCount
  turns : m'.shared.turns = .aborted m.engine.id m.engine.runCount :: m.shared.turns
  shown : shown m'.shared.moments = m.news (.runEnded m.engine.ref) ++
    .called m.engine.id .stop index m.register.lastTicket m.shared.board :: shown m.shared.moments

theorem Stands.stops (h : m.Stands m.engine.active) (active : m.engine.active = some index) :
    m.Stops index m.stop := by
  rw [active] at h
  have kept := (((Moves.refl m).setExecuting index false).interrupt index).kept
  have keeps : m.KeepsTurns ((m.setExecuting index false).interrupt index) :=
    ((Machine.KeepsTurns.refl m).setSequence _).interrupt index
  have called := h.unmark.shown_interrupt active
  have ended := keepsTurns_enterIdle (m.aborting index)
  have ref : (m.aborting index).engine.ref = m.engine.ref := kept.ref
  have news : (m.aborting index).news (.runEnded m.engine.ref) = m.news (.runEnded m.engine.ref) := by
    rw [Machine.news, Machine.news, show (m.aborting index).engine.listener = _ from kept.listener]
  rw [stop_eq active]
  refine ⟨by rw [engine_enterIdle], ended.runCount.trans keeps.runCount, ended.shared.turns.trans ?_, ?_⟩
  · exact congrArg₂ List.cons (by rw [kept.id, keeps.runCount]) keeps.shared.turns
  · rw [shown_enterIdle, ref, news]
    exact congrArg _ called

end Machine

/-! ## Chains of restarts -/

/-- A hook that has returned and has asked for a restart, which is still to be made. -/
structure Asking (σ ν : Type) where
  /-- What is left for the loops to come. -/
  fuel : Nat
  /-- Position of the command whose hook it is. -/
  index : Nat
  start : Nat
  machine : Machine σ ν

namespace Asking

variable [Behaviour σ ν] {a : Asking σ ν}

/-- The host stops the engine. -/
def stopped (a : Asking σ ν) : Machine σ ν :=
  (a.machine.report (.restartRequested a.machine.engine.name a.index a.start)).stop

/-- The next run has begun. -/
def begun (a : Asking σ ν) : Machine σ ν := a.machine.restarted a.index a.start

/-- What becomes of the run that asks, and of the engine. -/
structure Supersedes (a : Asking σ ν) : Prop where
  active : a.machine.engine.active = some a.index
  idle : a.stopped.engine.run = none
  run : a.begun.engine.run = some {}
  runCount : a.begun.engine.runCount = a.machine.engine.runCount + 1
  turns : a.begun.shared.turns = .began a.machine.engine.id (a.machine.engine.runCount + 1) none ::
    .aborted a.machine.engine.id a.machine.engine.runCount :: a.machine.shared.turns
  shown : shown a.begun.shared.moments = a.machine.news (.runStarted a.machine.engine.ref) ++
    (a.machine.news (.runEnded a.machine.engine.ref) ++
      .called a.machine.engine.id .stop a.index a.machine.register.lastTicket a.machine.shared.board ::
        Sequencer.shown a.machine.shared.moments)

theorem supersedes (stands : a.machine.Stands a.machine.engine.active)
    (active : a.machine.engine.active = some a.index) : a.Supersedes := by
  let asked := a.machine.report (.restartRequested a.machine.engine.name a.index a.start)
  have stops : asked.Stops a.index a.stopped :=
    Machine.Stands.stops ⟨stands.core, stands.hears, stands.history⟩ active
  have kept : Kept asked a.stopped := (Moves.refl asked).stop.kept
  have keeps := Machine.keepsTurns_beginRun a.stopped a.start none
  have counted : a.stopped.engine.runCount = a.machine.engine.runCount := stops.runCount
  have id : a.stopped.engine.id = a.machine.engine.id := kept.id
  have news : a.stopped.news (.runStarted a.stopped.engine.ref) =
      a.machine.news (.runStarted a.machine.engine.ref) := by
    rw [kept.ref, Machine.news, kept.listener]
    rfl
  refine ⟨active, stops.idle, ?_, ?_, keeps.shared.turns.trans ?_, ?_⟩
  · show (a.stopped.beginRun a.start none).engine.run = _
    rw [Machine.beginRun, Machine.setRegister, Machine.engine_tell]
    rfl
  · show (a.stopped.beginRun a.start none).engine.runCount = _
    rw [Machine.runCount_beginRun, counted]
  · exact congrArg₂ List.cons (by rw [id, counted]) stops.turns
  · show Sequencer.shown (a.stopped.beginRun a.start none).shared.moments = _
    rw [Machine.shown_beginRun, news, stops.shown]
    rfl

theorem execute_stopped (idle : a.stopped.engine.run = none) : a.stopped.execute a.fuel a.start none =
    (((Point.loop a.begun).play a.fuel).1.outcome .started, ((Point.loop a.begun).play a.fuel).2) := by
  rw [Machine.execute, if_neg (by simp [Engine.isExecuting, idle])]
  rfl

end Asking

namespace Point

variable [Behaviour σ ν] {fuel left : Nat} {p last : Point σ ν} {a : Asking σ ν} {links : List (Asking σ ν)}

/-- The run in flight gets to a hook that asks for a restart. The last request of a hook counts. -/
inductive Comes : Nat → Point σ ν → Asking σ ν → Prop where
  | asks (fuel index start : Nat) (ticket : Ticket) (m : Machine σ ν) :
    Comes fuel (.hooked index ticket (.ok (), some (.restart start), m)) ⟨fuel, index, start, m⟩
  | settles {fuel index : Nat} {ticket : Ticket} {result : HookResult σ ν} {m : Machine σ ν}
    {a : Asking σ ν} : Machine.settle index ticket result = (.settled, m) → Comes fuel (.loop m) a →
    Comes fuel (.hooked index ticket result) a
  | goes {fuel index : Nat} {m m' : Machine σ ν} {jump : Jump} {entry : Entry σ} {a : Asking σ ν} :
    Goes m m' jump index entry → Comes fuel (.hooked index m'.register.arm.lastTicket
      ((m'.turn (m'.jump jump.target)).executeHook index entry)) a → Comes (fuel + 1) (.loop m) a

/-- Restarts that follow each other, from one point to another that is in the latest run. -/
inductive Chain : Nat → Point σ ν → List (Asking σ ν) → Nat → Point σ ν → Prop where
  | done (fuel : Nat) (p : Point σ ν) : Chain fuel p [] fuel p
  | restart {fuel left : Nat} {p last : Point σ ν} {a : Asking σ ν} {links : List (Asking σ ν)} :
    Comes fuel p a → Chain a.fuel (.loop a.begun) links left last → Chain fuel p (a :: links) left last

theorem Comes.plays (h : Comes fuel p a) (ready : p.Ready) :
    a.Supersedes ∧ (loop a.begun).Ready ∧ p.play fuel = (loop a.begun).play a.fuel := by
  induction h with
  | asks fuel index start ticket m =>
    exact ⟨Asking.supersedes ready.1 ready.2.2.1, ready.restarts, play_restart ..⟩
  | settles settled _ ih =>
    obtain ⟨supersedes, begun, plays⟩ := ih (ready.settles settled)
    exact ⟨supersedes, begun, (play_settled settled).trans plays⟩
  | @goes fuel _ _ _ _ _ _ goes _ ih =>
    obtain ⟨hooked, on⟩ := ready.goes fuel goes
    obtain ⟨supersedes, begun, plays⟩ := ih hooked
    exact ⟨supersedes, begun, on.trans plays⟩

/-- Of restarts that follow each other only the latest run has any effect, from each of them on. -/
theorem Chain.plays (h : Chain fuel p links left last) (ready : p.Ready) :
    p.play fuel = last.play left ∧ ∀ a ∈ links, a.Supersedes ∧
      a.stopped.execute a.fuel a.start none = ((last.play left).1.outcome .started, (last.play left).2) := by
  induction h with
  | done => exact ⟨rfl, by simp⟩
  | restart comes _ ih =>
    obtain ⟨supersedes, begun, plays⟩ := comes.plays ready
    obtain ⟨rest, each⟩ := ih begun
    refine ⟨plays.trans rest, List.forall_mem_cons.mpr ⟨⟨supersedes, ?_⟩, each⟩⟩
    rw [Asking.execute_stopped supersedes.idle, rest]

/-! ## The latest run -/

theorem Comes.fuel_le (h : Comes fuel p a) : a.fuel ≤ fuel := by
  induction h with
  | asks => exact Nat.le_refl _
  | settles _ _ ih => exact ih
  | goes _ _ ih => exact Nat.le_succ_of_le ih

theorem Comes.fuel_lt {m : Machine σ ν} (h : Comes fuel (loop m) a) : a.fuel < fuel := by
  cases h with
  | goes _ comes => exact Nat.lt_succ_of_le comes.fuel_le

theorem exists_chain_loop (fuel : Nat) (m : Machine σ ν) :
    ∃ links left last, Chain fuel (loop m) links left last ∧ ∀ a, ¬ Comes left last a := by
  induction fuel using Nat.strong_induction_on generalizing m with
  | _ fuel ih =>
    by_cases more : ∃ a, Comes fuel (loop m) a
    · obtain ⟨a, comes⟩ := more
      obtain ⟨links, left, last, chain, latest⟩ := ih a.fuel comes.fuel_lt a.begun
      exact ⟨a :: links, left, last, .restart comes chain, latest⟩
    · exact ⟨[], fuel, loop m, .done fuel _, fun a comes => more ⟨a, comes⟩⟩

theorem exists_chain (fuel : Nat) (p : Point σ ν) :
    ∃ links left last, Chain fuel p links left last ∧ ∀ a, ¬ Comes left last a := by
  by_cases more : ∃ a, Comes fuel p a
  · obtain ⟨a, comes⟩ := more
    obtain ⟨links, left, last, chain, latest⟩ := exists_chain_loop a.fuel a.begun
    exact ⟨a :: links, left, last, .restart comes chain, latest⟩
  · exact ⟨[], fuel, p, .done fuel p, fun a comes => more ⟨a, comes⟩⟩

end Point

/-! ## Errors -/

/-- A call fails exactly if the command fails that is active at its end. -/
def Machine.Reports : Verdict × Machine σ ν → Prop
  | (.settled, m) => m.engine.isFaulted = false
  | (.failed error, m) => m.engine.isFaulted = true ∧ ∃ index source, m.engine.active = some index ∧
    error = .commandFailed ((m.engine.locationOf index).getD ⟨m.engine.name, index, "<removed>"⟩) source
  | (.outOfFuel, _) => True

theorem Machine.isFaulted_finish (m : Machine σ ν) : m.finish.engine.isFaulted = false := by
  have ended : m.enterIdle.engine.isFaulted = false := by
    rw [engine_enterIdle]
    rfl
  rw [finish]
  split
  · exact ended
  · exact ended

theorem Machine.reports_commandFailed {m : Machine σ ν} {index : Nat} (active : m.engine.active = some index)
    (ticket : Ticket) (source : CommandError) :
    Machine.Reports (.failed (m.commandFailed index ticket source).1, (m.commandFailed index ticket source).2) := by
  let failed := m.setRun (m.engine.run.map fun run => { run with faulted := true })
  have engine : (m.commandFailed index ticket source).2.engine = failed.engine := by
    rw [commandFailed]
    dsimp only
    split <;> rfl
  obtain ⟨run, hr⟩ := Option.isSome_iff_exists.mp (isExecuting_of_active (e := m.engine) (by rw [active]; rfl))
  refine ⟨?_, index, source, ?_, ?_⟩
  · rw [engine, Engine.isFaulted]
    show ((m.engine.run.map _).map _).getD false = true
    rw [hr]
    rfl
  · rw [engine, active_setFaulted, active]
  · rw [engine]
    rfl

theorem Point.Ready.sane [Behaviour σ ν] {m : Machine σ ν} (h : (Point.loop m).Ready) :
    m.engine.isFaulted = false := by
  rcases h with ⟨-, -, going⟩ | ⟨other, -⟩
  · exact going.phase.elim (fun waiting => waiting.2.1) fun forced => forced.2.1
  · have idle := Machine.run_of_not_executing fun executing => other ⟨executing, rfl⟩
    rw [Engine.isFaulted, idle]
    rfl

theorem Point.carries_reports [Behaviour σ ν] : Carries (σ := σ) (fun _ => True) Machine.Reports where
  tired _ _ _ := trivial
  rests _ ready _ _ := ready.sane
  ends _ _ _ _ _ _ _ _ := Machine.isFaulted_finish _
  goes _ _ _ _ _ _ _ _ := trivial
  settles _ _ _ _ _ _ _ := trivial
  fails _ ticket source _ _ ready _ := Machine.reports_commandFailed ready.2.2.1 ticket source
  restarts _ _ _ _ _ _ := trivial

/-! ## The main result -/

open Point in
/--
Restarts supersede. However many follow each other during one call, each does what a stop and an execute of the
host would do at that point, and the call comes to what the latest run comes to.
-/
theorem restart_supersedes [Behaviour σ ν] {ids : List EngineId} {s : Studio σ ν} (h : Reachable ids s)
    {number : Nat} {e : Engine σ ν} (he : s.engine? number = some e) (fuel : Nat) {call : Call σ ν}
    {answer : Verdict → CallReply} {p : Point σ ν}
    (opens : Machine.opening ⟨e, s.shared⟩ call = some (answer, p)) :
    (∃ links left last, Chain fuel p links left last ∧ ∀ a, ¬ Comes left last a) ∧
    ∀ links left last, Chain fuel p links left last →
      Machine.reply ⟨e, s.shared⟩ fuel call = (answer (last.play left).1, (last.play left).2) ∧
      Machine.Reports (last.play left) ∧
      ∀ a ∈ links, a.Supersedes ∧
        a.stopped.execute a.fuel a.start none = ((last.play left).1.outcome .started, (last.play left).2) := by
  obtain ⟨ready, replies⟩ := (h.sound.machine he).opening opens fuel
  refine ⟨exists_chain fuel p, fun links left last chain => ?_⟩
  obtain ⟨plays, each⟩ := chain.plays ready
  have reports : Machine.Reports (p.play fuel) := carries_reports.play ready trivial
  rw [plays] at replies reports
  exact ⟨replies, reports, each⟩

/-- A command that has its run begin again twice, and then waits. -/
def beginner : Command Cue where
  name := "beginner"
  state := .scripted
    { name := "beginner", execute := [[.request (.restart 0)], [.request .stop, .request (.restart 0)], []],
      tick := [], stop := [] }

def beginnerEngine : Engine Cue Note :=
  .create keeperId "engine" ((Edit.push beginner).apply {}).2 (some .recorder) true

def beginnerStart : Studio Cue Note := Studio.add {} beginnerEngine

/-- Two restarts in one call: the third run is the one that the call leaves waiting. -/
theorem restart_supersedes_beginner : ∃ a b left last,
    Point.Chain 10 (.loop (Machine.beginRun ⟨beginnerEngine, beginnerStart.shared⟩ 0 none)) [a, b] left last ∧
    (last.play left).2.engine.runCount = 3 ∧
    a.stopped.execute a.fuel a.start none = ((last.play left).1.outcome .started, (last.play left).2) ∧
    b.stopped.execute b.fuel b.start none = ((last.play left).1.outcome .started, (last.play left).2) := by
  have reachable : Reachable [keeperId] beginnerStart :=
    .add keeperId "engine" (some .recorder) true .start (by simp) (.edit (.push beginner) .empty)
  have chain : Point.Chain 10 (.loop (Machine.beginRun ⟨beginnerEngine, beginnerStart.shared⟩ 0 none)) [_, _] _ _ :=
    .restart (.goes ⟨rfl, rfl, rfl, rfl⟩ (.asks ..)) (.restart (.goes ⟨rfl, rfl, rfl, rfl⟩ (.asks ..)) (.done ..))
  have opens : Machine.opening ⟨beginnerEngine, beginnerStart.shared⟩ (.execute 0 none) =
    some (fun verdict => .launched (verdict.outcome .started), _) := rfl
  have there : beginnerStart.engine? 0 = some beginnerEngine := rfl
  obtain ⟨-, -, each⟩ := (restart_supersedes reachable there 10 opens).2 _ _ _ chain
  exact ⟨_, _, _, _, chain, rfl, (each _ (by simp)).2, (each _ (by simp)).2⟩

end Sequencer
