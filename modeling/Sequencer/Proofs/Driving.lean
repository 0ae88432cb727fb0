import Sequencer.Command.Cue
import Sequencer.Engine.Driver
import Sequencer.Proofs.Faults

/-!
# Driving is ticking

The driver does nothing that a host could not do with ticks of its own. It looks at the engine before each tick,
so a run that is over, faulted or out of budget is not ticked again.
-/

namespace Sequencer

variable {σ ν : Type}

/-! ## Ticks in a row -/

/-- The log line of a driver that comes back after so many ticks. -/
def Engine.drivingNotice (e : Engine σ ν) (made : Nat) : Notice :=
  if e.isExecuting = false then .drivingFinished e.name made
  else if e.isFaulted = true then .drivingFaulted e.name made
  else .budgetExhausted e.name made

namespace Machine

/-- The run is to be ticked again, after `made` ticks. -/
structure Pressing (maxTicks : Option Nat) (made : Nat) (m : Machine σ ν) : Prop where
  executing : m.engine.isExecuting = true
  sane : m.engine.isFaulted = false
  budget : ∀ limit ∈ maxTicks, made < limit

theorem exhausted_eq_false {maxTicks : Option Nat} {made : Nat} :
    exhausted maxTicks made = false ↔ ∀ limit ∈ maxTicks, made < limit := by
  cases maxTicks with
  | none => simp [exhausted]
  | some limit => simp [exhausted]

variable [Behaviour σ ν] {m m' : Machine σ ν} {fuel rounds made count : Nat} {maxTicks : Option Nat}

/-- So many ticks in a row settle, and before each of them the run is to be ticked again. -/
structure Pressed (fuel : Nat) (maxTicks : Option Nat) (made : Nat) (m : Machine σ ν) (count : Nat)
    (m' : Machine σ ν) : Prop where
  settled : m.ticks fuel count = (.settled, m')
  before : ∀ k < count, ∃ between, m.ticks fuel k = (.settled, between) ∧
    between.Pressing maxTicks (made + k)

theorem Pressed.none (m : Machine σ ν) : m.Pressed fuel maxTicks made 0 m := ⟨rfl, by simp⟩

theorem Pressed.cons {first : Machine σ ν} (pressing : m.Pressing maxTicks made)
    (tick : m.tick fuel = (.settled, first)) (rest : first.Pressed fuel maxTicks (made + 1) count m') :
    m.Pressed fuel maxTicks made (count + 1) m' := by
  have later : ∀ k, m.ticks fuel (k + 1) = first.ticks fuel k := fun k => by rw [ticks, tick]
  refine ⟨(later count).trans rest.settled, fun k hk => ?_⟩
  cases k with
  | zero => exact ⟨m, rfl, pressing⟩
  | succ k =>
    obtain ⟨between, settled, pressing⟩ := rest.before k (Nat.lt_of_succ_lt_succ hk)
    rw [Nat.add_right_comm] at pressing
    exact ⟨between, (later k).trans settled, pressing⟩

theorem Pressed.uncons (h : m.Pressed fuel maxTicks made (count + 1) m') : m.Pressing maxTicks made ∧
    ∃ first, m.tick fuel = (.settled, first) ∧ first.Pressed fuel maxTicks (made + 1) count m' := by
  obtain ⟨_, ⟨⟩, pressing⟩ := h.before 0 (Nat.zero_lt_succ count)
  have settled := h.settled
  rw [ticks] at settled
  split at settled
  · next first tick =>
    have later : ∀ k, m.ticks fuel (k + 1) = first.ticks fuel k := fun k => by rw [ticks, tick]
    refine ⟨pressing, first, tick, settled, fun k hk => ?_⟩
    obtain ⟨between, settled, pressing⟩ := h.before (k + 1) (Nat.succ_lt_succ hk)
    rw [later] at settled
    rw [← Nat.add_assoc, Nat.add_right_comm] at pressing
    exact ⟨between, settled, pressing⟩
  · next unsettled => exact absurd settled (unsettled m')

theorem AtRest.pressed (h : m.AtRest) (pressed : m.Pressed fuel maxTicks made count m') : m'.AtRest := by
  induction count generalizing m made with
  | zero =>
    obtain ⟨⟩ := pressed.settled
    exact h
  | succ count ih =>
    obtain ⟨-, first, tick, rest⟩ := pressed.uncons
    have ends := h.tick fuel
    rw [tick] at ends
    exact ih ends rest

theorem Pressed.le (h : m.Pressed fuel maxTicks 0 count m') : ∀ limit ∈ maxTicks, count ≤ limit := by
  intro limit hl
  cases count with
  | zero => exact limit.zero_le
  | succ count =>
    obtain ⟨_, -, pressing⟩ := h.before count count.lt_succ_self
    rw [Nat.zero_add] at pressing
    exact pressing.budget limit hl

/-! ## The driver -/

theorem driveOn_of_not_pressing (h : ¬ m.Pressing maxTicks made) :
    driveOn fuel maxTicks (rounds + 1) made m =
      (.outcome ⟨made, !m.engine.isExecuting⟩, m.report (m.engine.drivingNotice made)) := by
  rw [driveOn, Engine.drivingNotice]
  cases executing : m.engine.isExecuting with
  | false => rfl
  | true =>
    cases faulted : m.engine.isFaulted with
    | true => rfl
    | false =>
      have exhausted : exhausted maxTicks made = true := by
        rw [← Bool.not_eq_false, exhausted_eq_false]
        exact fun budget => h ⟨executing, faulted, budget⟩
      simp [exhausted]

theorem driveOn_of_pressing (h : m.Pressing maxTicks made) :
    driveOn fuel maxTicks (rounds + 1) made m =
      match m.tick fuel with
      | (.settled, m) => driveOn fuel maxTicks rounds (made + 1) m
      | (.failed error, m) => (.failed error, m)
      | (.outOfFuel, m) => (.outOfFuel, m) := by
  have left := exhausted_eq_false.mpr h.budget
  rw [driveOn]
  simp only [h.executing, h.sane, left]
  rfl

theorem Pressed.driveOn (h : m.Pressed fuel maxTicks made count m') (rounds : Nat) :
    Machine.driveOn fuel maxTicks (count + rounds) made m =
      Machine.driveOn fuel maxTicks rounds (made + count) m' := by
  induction count generalizing m made with
  | zero =>
    obtain ⟨⟩ := h.settled
    rw [Nat.zero_add]
    rfl
  | succ count ih =>
    obtain ⟨pressing, first, tick, rest⟩ := h.uncons
    rw [Nat.add_right_comm, driveOn_of_pressing pressing, tick]
    dsimp only
    rw [ih rest, Nat.add_right_comm made 1 count]
    rfl

/-- How a driver ends: there is nothing left to press on with, a tick does not settle, or its rounds are over. -/
inductive Halts (fuel : Nat) (maxTicks : Option Nat) (rounds made : Nat) (m : Machine σ ν) :
    DriveEnd × Machine σ ν → Prop where
  | rests (count : Nat) (last : Machine σ ν) : count < rounds → m.Pressed fuel maxTicks made count last →
    ¬ last.Pressing maxTicks (made + count) → Halts fuel maxTicks rounds made m
      (.outcome ⟨made + count, !last.engine.isExecuting⟩, last.report (last.engine.drivingNotice (made + count)))
  | fails (count : Nat) (last : Machine σ ν) (error : EngineError) (m' : Machine σ ν) :
    m.Pressed fuel maxTicks made count last → last.Pressing maxTicks (made + count) →
    last.tick fuel = (.failed error, m') → Halts fuel maxTicks rounds made m (.failed error, m')
  | tires (count : Nat) (last m' : Machine σ ν) : count < rounds → m.Pressed fuel maxTicks made count last →
    last.Pressing maxTicks (made + count) → last.tick fuel = (.outOfFuel, m') →
    Halts fuel maxTicks rounds made m (.outOfFuel, m')
  | goesOn (m' : Machine σ ν) : m.Pressed fuel maxTicks made rounds m' →
    Halts fuel maxTicks rounds made m (.outOfFuel, m')

theorem Halts.cons {first : Machine σ ν} {ended : DriveEnd × Machine σ ν} (pressing : m.Pressing maxTicks made)
    (tick : m.tick fuel = (.settled, first)) (h : first.Halts fuel maxTicks rounds (made + 1) ended) :
    m.Halts fuel maxTicks (rounds + 1) made ended := by
  have shift : ∀ count, made + 1 + count = made + (count + 1) := by omega
  cases h with
  | rests count last lt rest still =>
    rw [shift] at still ⊢
    exact .rests (count + 1) last (Nat.succ_lt_succ lt) (rest.cons pressing tick) still
  | fails count last error m' rest goesOn failed =>
    rw [shift] at goesOn
    exact .fails (count + 1) last error m' (rest.cons pressing tick) goesOn failed
  | tires count last m' lt rest goesOn tired =>
    rw [shift] at goesOn
    exact .tires (count + 1) last m' (Nat.succ_lt_succ lt) (rest.cons pressing tick) goesOn tired
  | goesOn m' rest => exact .goesOn m' (rest.cons pressing tick)

theorem halts_driveOn (fuel : Nat) (maxTicks : Option Nat) (rounds made : Nat) (m : Machine σ ν) :
    m.Halts fuel maxTicks rounds made (driveOn fuel maxTicks rounds made m) := by
  induction rounds generalizing made m with
  | zero => exact .goesOn m (.none m)
  | succ rounds ih =>
    by_cases pressing : m.Pressing maxTicks made
    · rw [driveOn_of_pressing pressing]
      split
      · next first tick => exact (ih (made + 1) first).cons pressing tick
      · next error m' tick => exact .fails 0 m error m' (.none m) pressing tick
      · next m' tick => exact .tires 0 m m' rounds.zero_lt_succ (.none m) pressing tick
    · rw [driveOn_of_not_pressing pressing]
      exact .rests 0 m rounds.zero_lt_succ (.none m) pressing

theorem AtRest.faulted_of_tick {error : EngineError} (h : m.AtRest) (pressing : m.Pressing maxTicks made)
    (failed : m.tick fuel = (.failed error, m')) : m'.engine.isFaulted = true := by
  obtain ⟨ready, plays⟩ := h.ticking pressing.executing pressing.sane fuel
  have reports : Reports (m.ticking.play fuel) := Point.carries_reports.play ready trivial
  rw [← plays, failed] at reports
  exact reports.1

end Machine

/-! ## The main result -/

section Driver

variable [Behaviour σ ν] {ids : List EngineId} {s : Studio σ ν} {number : Nat} {e : Engine σ ν}

/-- What a driven run comes to, in terms of ticks. -/
structure Machine.DrivenRight (m : Machine σ ν) (fuel rounds : Nat) (maxTicks : Option Nat)
    (ended : DriveEnd × Machine σ ν) : Prop where
  outcome : ∀ ticks completed m', ended = (.outcome ⟨ticks, completed⟩, m') → ∃ last,
    m.Pressed fuel maxTicks 0 ticks last ∧ m' = last.report (last.engine.drivingNotice ticks) ∧
    (∀ limit ∈ maxTicks, ticks ≤ limit) ∧ (completed = true ↔ m'.engine.state = .idle) ∧
    (completed = false → m'.engine.isFaulted = true ∨ maxTicks = some ticks)
  failed : ∀ error m', ended = (.failed error, m') → ∃ ticks last,
    m.Pressed fuel maxTicks 0 ticks last ∧ last.tick fuel = (.failed error, m') ∧
    m'.engine.state = .executing ∧ m'.engine.isFaulted = true
  lastTick : ∀ limit last, maxTicks = some limit → m.Pressed fuel maxTicks 0 limit last →
    last.engine.state = .idle → limit < rounds →
    ended = (.outcome ⟨limit, true⟩, last.report (.drivingFinished last.engine.name limit))
  /-- The driver itself does not give up. -/
  outOfFuel : ∀ m', ended = (.outOfFuel, m') → m.Pressed fuel maxTicks 0 rounds m' ∨ ∃ ticks last,
    m.Pressed fuel maxTicks 0 ticks last ∧ last.tick fuel = (.outOfFuel, m')
  timed : ended.1 ≠ .noInterval

theorem Machine.AtRest.drivenRight {m : Machine σ ν} (h : m.AtRest) (fuel rounds : Nat) (maxTicks : Option Nat) :
    m.DrivenRight fuel rounds maxTicks (Machine.driveOn fuel maxTicks rounds 0 m) := by
  have halts := halts_driveOn fuel maxTicks rounds 0 m
  refine ⟨fun ticks completed m' ended => ?_, fun error m' ended => ?_, fun limit last budget pressed idle more => ?_,
    fun m' ended => ?_, fun untimed => ?_⟩
  · rw [ended] at halts
    cases halts with
    | rests count last _ pressed still =>
      rw [Nat.zero_add] at still ⊢
      refine ⟨last, pressed, rfl, pressed.le, ?_, fun going => ?_⟩
      · rw [Engine.state_idle, Bool.not_eq_true', Engine.isExecuting]
        exact Option.isSome_eq_false_iff.trans Option.isNone_iff_eq_none
      · rw [Bool.not_eq_false'] at going
        by_contra neither
        rw [not_or, Bool.not_eq_true] at neither
        -- Neither faulted nor at the limit, the run would be ticked again.
        refine still ⟨going, neither.1, fun limit hl => lt_of_le_of_ne (pressed.le limit hl) ?_⟩
        rintro rfl
        exact neither.2 hl
  · rw [ended] at halts
    cases halts with
    | fails count last error m' pressed pressing failed =>
      have faulted := (h.pressed pressed).faulted_of_tick pressing failed
      exact ⟨count, last, pressed, failed, Engine.state_executing.mpr (Engine.isExecuting_of_isFaulted faulted),
        faulted⟩
  · have resting : last.engine.isExecuting = false := by
      rw [Engine.isExecuting, Engine.state_idle.mp idle]
      rfl
    obtain ⟨left, rfl⟩ := Nat.exists_eq_add_of_lt more
    rw [Nat.add_assoc, pressed.driveOn, Nat.zero_add,
      driveOn_of_not_pressing fun pressing => Bool.false_ne_true (resting.symm.trans pressing.executing)]
    simp [resting, Engine.drivingNotice]
  · rw [ended] at halts
    cases halts with
    | tires count last m' _ pressed _ tired => exact .inr ⟨count, last, pressed, tired⟩
    | goesOn m' pressed => exact .inl pressed
  · generalize Machine.driveOn fuel maxTicks rounds 0 m = ended at halts untimed
    cases halts <;> cases untimed

/--
Driving refines ticking. Whatever the budget, a driver that comes back leaves just what ticks in a row leave, and
each of them was made while the run was in flight, sane and within the budget; with an error it comes back from the
tick that failed. A run that ends with the last tick that it may have is completed.
-/
theorem driver_refines_ticks (h : Reachable ids s) (he : s.engine? number = some e) {interval : Nat}
    (timer : interval ≠ 0) (fuel rounds : Nat) (maxTicks : Option Nat) :
    Machine.DrivenRight ⟨e, s.shared⟩ fuel rounds maxTicks
      (Machine.runUntilIdle ⟨e, s.shared⟩ fuel rounds interval maxTicks) := by
  rw [Machine.runUntilIdle, if_neg timer]
  exact (h.sound.machine he).drivenRight fuel rounds maxTicks

end Driver

/-- A wait of two ticks. -/
def pauseStart : Studio Cue Note :=
  Studio.add {} (.create keeperId "engine" ((Edit.push (Cue.makeWait 0 2)).apply {}).2 (some .recorder) true)

def pausing : Studio Cue Note := (pauseStart.act 10 (.call 0 (.execute 0 none))).2

/-- One tick is not enough for the pause, two are; and the tick of the breaker fails. -/
theorem driver_refines_ticks_pause :
    (∃ e, pausing.engine? 0 = some e ∧ ∃ after last, Machine.Pressed 10 (some 1) 0 ⟨e, pausing.shared⟩ 1 after ∧
      after.engine.state = .executing ∧ Machine.Pressed 10 (some 2) 0 ⟨e, pausing.shared⟩ 2 last ∧
      last.engine.state = .idle) ∧
    ∃ e m', breakerWaiting.engine? 0 = some e ∧
      Machine.runUntilIdle ⟨e, breakerWaiting.shared⟩ 10 3 5 none =
        (.failed (.commandFailed ⟨"engine", 0, "breaker"⟩ (.failed "the ice gave way")), m') ∧
      m'.engine.state = .executing ∧ m'.engine.isFaulted = true := by
  have paused : Reachable [keeperId] pausing :=
    .act 10 (.call 0 (.execute 0 none))
      (.add keeperId "engine" (some .recorder) true .start (by simp) (.edit (.push _) .empty)) rfl
  have broke : Reachable [keeperId] breakerWaiting :=
    .act 10 (.call 0 (.execute 0 (some farewell)))
      (.add keeperId "engine" (some .recorder) true .start (by simp) (.edit (.push breaker) .empty)) rfl
  have pause : pausing.engine? 0 = some _ := rfl
  have broken : breakerWaiting.engine? 0 = some _ := rfl
  obtain ⟨after, once, -, -, going, -⟩ :=
    (driver_refines_ticks paused pause (by decide : 5 ≠ 0) 10 3 (some 1)).outcome 1 false _ rfl
  obtain ⟨last, twice, -, -, resting, -⟩ :=
    (driver_refines_ticks paused pause (by decide : 5 ≠ 0) 10 3 (some 2)).outcome 2 true _ rfl
  obtain ⟨_, _, -, -, executing, faulted⟩ :=
    (driver_refines_ticks broke broken (by decide : 5 ≠ 0) 10 3 none).failed _ _ rfl
  refine ⟨⟨_, pause, after, last, once, ?_, twice, ?_⟩, _, _, broken, rfl, executing, faulted⟩
  · obtain ⟨⟩ := once.settled
    rfl
  · obtain ⟨⟩ := twice.settled
    rfl

end Sequencer
