import Sequencer.Proofs.Handles
import Sequencer.Proofs.Runs

/-!
# When callbacks fire

The callback of a call fires when the run that the call began comes to the end of the sequence, once, and
for no other reason. By then the run is over in every respect.
-/

namespace Sequencer

variable {σ ν : Type}

/-! ## Calls that begin a run -/

/--
A call that is refused leaves the runs alone. Any other begins the next run, with its own callback, whether
or not it comes back.
-/
def Launches (m : Machine σ ν) (onComplete : Option (HostProgram ν Unit)) :
    Outcome Launch × Machine σ ν → Prop
  | (.value .rejected, m') | (.value .labelNotFound, m') =>
    m'.shared.turns = m.shared.turns ∧ m'.engine.run = m.engine.run
  | (_, m') => ∃ new, m'.shared.turns =
      new ++ .began m.engine.id (m.engine.runCount + 1) onComplete :: m.shared.turns

/-- The run in flight is aborted. -/
def Aborts (m m' : Machine σ ν) : Prop :=
  m'.engine.run = none ∧
    m'.shared.turns = .aborted m.engine.id m.engine.runCount :: m.shared.turns

namespace Machine

variable [Behaviour σ ν] {m : Machine σ ν}

theorem AtRest.launches_startRun (h : m.AtRest) (idle : m.engine.run = none) (fuel start : Nat)
    (onComplete : Option (HostProgram ν Unit)) : Launches m onComplete
      (((m.startRun fuel start onComplete).1.outcome .started), (m.startRun fuel start onComplete).2) := by
  have begun := (m.keepsTurns_beginRun start onComplete).shared.turns
  obtain ⟨-, new, turns, -⟩ :=
    Strides.adds ((Strides.refl _).drive fuel (h.enters_beginRun idle start onComplete))
  have added : ∃ new, (m.startRun fuel start onComplete).2.shared.turns =
      new ++ .began m.engine.id (m.engine.runCount + 1) onComplete :: m.shared.turns :=
    ⟨new, turns.trans (congrArg (new ++ ·) begun)⟩
  cases hv : (m.startRun fuel start onComplete).1 with
  | settled | failed | outOfFuel => exact added

theorem AtRest.launches_execute (h : m.AtRest) (fuel start : Nat)
    (onComplete : Option (HostProgram ν Unit)) :
    Launches m onComplete (m.execute fuel start onComplete) := by
  rw [Machine.execute]
  split
  · exact ⟨rfl, rfl⟩
  · next idle => exact h.launches_startRun (run_of_not_executing idle) fuel start onComplete

theorem AtRest.launches_executeLabel (h : m.AtRest) (fuel : Nat) (key : String)
    (onComplete : Option (HostProgram ν Unit)) :
    Launches m onComplete (m.executeLabel fuel key onComplete) := by
  have refreshed : ∃ s, m.refreshIfIdle = m.setSequence s := by
    rw [Machine.refreshIfIdle]
    split
    · exact ⟨_, rfl⟩
    · exact ⟨m.engine.sequence, rfl⟩
  obtain ⟨s, hs⟩ := refreshed
  have rest := h.refreshIfIdle
  rw [hs] at rest
  rw [Machine.executeLabel, hs]
  split
  · exact ⟨rfl, rfl⟩
  · exact rest.launches_execute fuel _ onComplete

theorem aborts_stop (executing : m.engine.isExecuting = true) : Aborts m m.stop := by
  obtain ⟨run, hr⟩ := Option.isSome_iff_exists.mp executing
  have aborted : ∀ m' : Machine σ ν, m.KeepsTurns m' →
      Aborts m (m'.turn (.aborted m'.engine.id m'.engine.runCount)).enterIdle := by
    intro m' keeps
    have ended := (m'.turn (.aborted m'.engine.id m'.engine.runCount)).keepsTurns_enterIdle.shared.turns
    refine ⟨congrArg Engine.run (engine_enterIdle _), ended.trans ?_⟩
    show Turn.aborted m'.engine.id m'.engine.runCount :: m'.shared.turns = _
    rw [keeps.id, keeps.runCount, keeps.shared.turns]
  rw [stop, hr]
  dsimp only
  split
  · exact aborted _ ((KeepsTurns.refl m).setRegister _)
  · exact aborted _ ((((KeepsTurns.refl m).setSequence _).interrupt _).setRegister _)

theorem aborts_obey (executing : m.engine.isExecuting = true) (index : Nat) (request : Request) :
    Aborts m (m.obey index (some request)).2 := by
  cases request with
  | stop => exact aborts_stop (m := m.report _) executing
  | restart start => exact aborts_stop (m := m.report _) executing

end Machine

/-! ## Callbacks -/

variable {ids : List EngineId} {s : Studio σ ν}

/-- What a history says of callbacks. -/
structure CallbacksRight (s : Shared ν) : Prop where
  /-- Every run has one of the stories there are. -/
  stories : ∀ id run, Story id run (story id run s.turns)
  /-- No callback fires twice. -/
  once : (firings s.events).Nodup
  fired : ∀ id run, (id, run) ∈ firings s.events ↔
    ∃ callback found, .completed id run callback found ∈ s.turns
  /-- A callback fires exactly if its own run takes a jump with nothing left to run. -/
  completed : ∀ id run callback, (∃ found, .completed id run callback found ∈ s.turns) ↔
    .began id run (some callback) ∈ s.turns ∧
      ∃ target outline, .jumped id run target outline none ∈ s.turns
  exhausted : ∀ id run target outline next, .jumped id run target outline next ∈ s.turns →
    (next = none ↔ runnableFrom outline target = ∅)
  aborted : ∀ id run, .aborted id run ∈ s.turns → (id, run) ∉ firings s.events ∧
    ∀ target outline, .jumped id run target outline none ∉ s.turns
  found : ∀ id run callback found, .completed id run callback found ∈ s.turns → found.AtEnd id

theorem mem_completed {turns : List (Turn ν)} {id : EngineId} {run : Nat} :
    (id, run) ∈ completed turns ↔ ∃ callback found, .completed id run callback found ∈ turns := by
  rw [completed, List.mem_filterMap]
  constructor
  · rintro ⟨turn, hm, heq⟩
    cases turn with
    | completed engine number callback found =>
      obtain ⟨rfl, rfl⟩ := Prod.mk.inj (Option.some.inj heq)
      exact ⟨callback, found, hm⟩
    | _ => simp [Turn.completion?] at heq
  · rintro ⟨callback, found, hm⟩
    exact ⟨_, hm, rfl⟩

theorem Studio.Charted.callbacksRight (h : s.Charted ids) : CallbacksRight s.shared where
  stories := h.stories
  once := by
    rw [h.fired, List.nodup_iff_count_le_one]
    rintro ⟨id, run⟩
    exact (h.stories id run).count_completed_le
  fired id run := by
    rw [h.fired]
    exact mem_completed
  completed id run callback := (h.stories id run).completed_iff
  exhausted id run target outline next hm := ((h.right _ hm).goes id run target outline next rfl).eq_none_iff
  aborted id run hm := by
    rw [h.fired]
    exact (h.stories id run).aborted hm
  found id run callback found hm := (h.right _ hm).finds id run callback found rfl

/--
Callbacks, whatever a host does and has done: what the history says of them is right, and it only grows.
Calls that are refused leave the runs alone, and a run that is stopped is aborted.
-/
theorem completion_callback [Behaviour σ ν] (h : Reachable ids s) :
    (∀ fuel act, CallbacksRight (s.act fuel act).2.shared ∧
      s.shared.turns <:+ (s.act fuel act).2.shared.turns) ∧
    (∀ number e, s.engine? number = some e → ∀ fuel onComplete,
      (∀ start, Launches ⟨e, s.shared⟩ onComplete (Machine.execute ⟨e, s.shared⟩ fuel start onComplete)) ∧
      (∀ key, Launches ⟨e, s.shared⟩ onComplete
        (Machine.executeLabel ⟨e, s.shared⟩ fuel key onComplete))) ∧
    (∀ m : Machine σ ν, m.engine.isExecuting = true →
      Aborts m m.stop ∧ ∀ index request, Aborts m (m.obey index (some request)).2) := by
  refine ⟨fun fuel act => ⟨(h.charted.act h.sound fuel act).callbacksRight, h.sound.turns_act fuel act⟩,
    fun number e he fuel onComplete => ?_,
    fun m executing => ⟨Machine.aborts_stop executing, Machine.aborts_obey executing⟩⟩
  have rest := h.sound.machine he
  exact ⟨fun start => rest.launches_execute fuel start onComplete,
    fun key => rest.launches_executeLabel fuel key onComplete⟩

/-- Fires the handle of the keeper, and notes down what came of it. -/
def farewell : HostProgram Note Unit := do
  let fired ← HostProgram.fire "kept" none
  HostProgram.note (.completed "farewell" fired)

/-- The keeper waits for its signal, in a run with a callback. -/
def keeperCalling : Studio Cue Note := (keeperStart.act 10 (.call 0 (.execute 0 (some farewell)))).2

/-- The run of the keeper is moved behind the last command, and its callback fires. -/
theorem completion_callback_keeper :
    let after := (keeperCalling.act 10 (.call 0 (.redirect 1))).2.shared
    firings after.events = [(keeperId, 1)] ∧
      .noted (.completed "farewell" (some false)) ∈ after.events ∧
      ∃ callback found, .completed keeperId 1 callback found ∈ after.turns ∧ found.AtEnd keeperId := by
  have reachable : Reachable [keeperId] keeperCalling :=
    .act 10 (.call 0 (.execute 0 (some farewell))) reachable_keeperStart rfl
  obtain ⟨right, -⟩ := (completion_callback reachable).1 10 (.call 0 (.redirect 1))
  have fired : firings (keeperCalling.act 10 (.call 0 (.redirect 1))).2.shared.events = [(keeperId, 1)] :=
    rfl
  refine ⟨fired, by decide, ?_⟩
  obtain ⟨callback, found, completed⟩ := (right.fired keeperId 1).mp (by rw [fired]; simp)
  exact ⟨callback, found, completed, right.found keeperId 1 callback found completed⟩

end Sequencer
