import Mathlib.Algebra.GroupWithZero.Nat
import Sequencer.Proofs.Driving
import Sequencer.Proofs.Engine.Polling
import Sequencer.Proofs.Scenes

/-!
# Waits add up

A wait is over with the last of its ticks, and what comes behind it, up to the next wait, takes none. So a run over
waits and commands that do not wait takes as many ticks as its waits do together.
-/

namespace Sequencer

/-! ## Scores -/

/-- An action that asks to go on with the next command, and succeeds. -/
structure Prompt where
  command : Command Cue
  action : command.kind = .action
  continues : ∀ view, ∃ notes, Passes (some (view.index + 1)) (Cue.execute view command.state) notes

/-- A comment or a label. -/
structure Inert where
  command : Command Cue
  inert : command.kind ≠ .action

inductive Beat where
  | wait (serial ticks : Nat) (enabled : Bool)
  | prompt (prompt : Prompt) (enabled : Bool)
  | inert (inert : Inert) (enabled : Bool)

abbrev Score := List Beat

namespace Beat

def command : Beat → Command Cue
  | wait serial ticks _ => Cue.makeWait serial ticks
  | prompt action _ => action.command
  | inert remark _ => remark.command

def enabled : Beat → Bool
  | wait _ _ enabled | prompt _ enabled | inert _ enabled => enabled

def entry (beat : Beat) : Command Cue × Bool := (beat.command, beat.enabled)

def ticks : Beat → Nat
  | wait _ ticks true => ticks
  | _ => 0

end Beat

namespace Score

variable {score : Score} {p q k run fuel : Nat}

/-- The ticks that are due for the beats before `p`. -/
def due (score : Score) (p : Nat) : Nat := ((score.take p).map Beat.ticks).sum

def total (score : Score) : Nat := score.due score.length

theorem due_succ {beat : Beat} (here : score[p]? = some beat) : score.due (p + 1) = score.due p + beat.ticks := by
  rw [due, List.take_add_one, here, List.map_append, List.sum_append]
  simp [due]

theorem due_of_length_le (le : score.length ≤ p) : score.due p = score.total := by
  rw [total, due, due, List.take_of_length_le le, List.take_length]

theorem due_le_total (score : Score) (p : Nat) : score.due p ≤ score.total := by
  have split := congrArg (fun score : Score => (score.map Beat.ticks).sum) (List.take_append_drop p score)
  rw [List.map_append, List.sum_append] at split
  rw [total, due, due, List.take_length]
  omega

/-! ## The sequence meanwhile -/

/-- From `p` on, the sequence is as written; `left q` is what remains of the wait at `q`. -/
structure Holds (score : Score) (p : Nat) (left : Nat → Nat) (s : Sequence Cue) : Prop where
  ahead : s.script.drop p = (score.drop p).map Beat.entry
  waits : ∀ q serial ticks enabled, score[q]? = some (Beat.wait serial ticks enabled) →
    ∃ c : Command Cue, s.script[q]? = some (c, enabled) ∧ c.state = .wait serial ticks (left q)

variable {left left' : Nat → Nat} {s s' : Sequence Cue} {beat : Beat}

theorem Holds.written (same : s.script = score.map Beat.entry) : score.Holds 0 (fun _ => 0) s := by
  refine ⟨by rw [same]; rfl, fun q serial ticks enabled here => ⟨Cue.makeWait serial ticks, ?_, rfl⟩⟩
  rw [same, List.getElem?_map, here]
  rfl

theorem Holds.found (h : score.Holds p left s) (here : score[p]? = some beat) :
    s.script[p]? = some beat.entry := by
  rw [← List.head?_drop, h.ahead, List.head?_map, List.head?_drop, here]
  rfl

theorem Holds.drop (h : score.Holds p left s) (le : p ≤ q) : score.Holds q left s := by
  refine ⟨?_, h.waits⟩
  obtain ⟨count, rfl⟩ := Nat.exists_eq_add_of_le le
  rw [← List.drop_drop, h.ahead, ← List.map_drop, List.drop_drop]

theorem Holds.set {c : Command Cue} {state : Cue} (h : score.Holds p left s) (le : p ≤ q + 1)
    (here : score[q]? = some beat) (running : beat.enabled = true) (found : s.script[q]? = some (c, true))
    (set : s'.script = s.script.set q ({ c with state }, true)) (others : ∀ r, r ≠ q → left' r = left r)
    (own : ∀ serial ticks, beat = .wait serial ticks true → state = .wait serial ticks (left' q)) :
    score.Holds (q + 1) left' s' := by
  refine ⟨?_, fun r serial ticks enabled there => ?_⟩
  · rw [set, List.drop_set_of_lt (Nat.lt_succ_self q)]
    exact (h.drop le).ahead
  · by_cases heq : r = q
    · subst heq
      obtain rfl : beat = .wait serial ticks enabled := Option.some.inj (here.symm.trans there)
      obtain rfl : enabled = true := running
      refine ⟨{ c with state }, ?_, own serial ticks rfl⟩
      rw [set, List.getElem?_set_self (List.getElem?_eq_some_iff.mp found).1]
    · obtain ⟨c', there', state'⟩ := h.waits r serial ticks enabled there
      refine ⟨c', ?_, by rw [others r heq, state']⟩
      rw [set, List.getElem?_set_ne (Ne.symm heq), there']

/-! ## One beat -/

variable {m : Machine Cue Note}

theorem Holds.skip (holds : score.Holds p left m.engine.sequence) (h : m.Poised run p)
    (here : score[p]? = some beat) (skipped : beat.enabled = false ∨ beat.command.kind ≠ .action) :
    m.Poised run (p + 1) ∧ score.Holds (p + 1) left m.engine.sequence := by
  refine ⟨h.skip ?_, holds.drop p.le_succ⟩
  rw [Sequence.outline_of_script (holds.found here)]
  rcases skipped with disabled | inert
  · simp [disabled]
  · simp [inert]

theorem Holds.pass {notes : List Note} (holds : score.Holds p (fun _ => 0) m.engine.sequence)
    (h : m.Poised run p) (here : score[p]? = some beat) (running : beat.enabled = true)
    (action : beat.command.kind = .action)
    (signals : Passes (some (p + 1)) (Behaviour.execute beat.command.state (m.view p)) notes)
    (own : ∀ serial ticks, beat = .wait serial ticks true → ticks = 0) :
    ∃ m', (∀ fuel, Machine.drive (fuel + 1) run m = Machine.drive fuel run m') ∧ m'.Poised run (p + 1) ∧
      score.Holds (p + 1) (fun _ => 0) m'.engine.sequence := by
  have found := holds.found here
  rw [Beat.entry, running] at found
  obtain ⟨called, awaits, entered, loop⟩ := h.activates found action
  have script : called.engine.sequence.script = m.engine.sequence.script := entered.script
  obtain ⟨m', plays, poised, ⟨f, set⟩, -⟩ := awaits.signals (script ▸ found) signals
  refine ⟨m', fun fuel => (loop fuel).trans (plays fuel), poised, ?_⟩
  refine holds.set p.le_succ here running found (set.trans (by rw [script])) (fun _ _ => rfl) ?_
  rintro serial ticks rfl
  obtain rfl := own serial ticks rfl
  rfl

theorem Holds.suspend {serial ticks : Nat} (holds : score.Holds p (fun _ => 0) m.engine.sequence)
    (h : m.Poised run p) (here : score[p]? = some (.wait serial (ticks + 1) true)) :
    ∃ m', (∀ fuel, Machine.drive (fuel + 2) run m = (.settled, m')) ∧ m'.Awaits run p ∧
      score.Holds (p + 1) (fun q => if q = p then ticks + 1 else 0) m'.engine.sequence := by
  have found := holds.found here
  obtain ⟨called, awaits, entered, loop⟩ := h.activates found rfl
  have script : called.engine.sequence.script = m.engine.sequence.script := entered.script
  obtain ⟨m', plays, waits, f, set⟩ := awaits.pauses (script ▸ found) rfl
  refine ⟨m', fun fuel => (loop _).trans (plays fuel), waits, ?_⟩
  refine holds.set p.le_succ here rfl found (set.trans (by rw [script])) (fun r other => if_neg other) ?_
  rintro _ _ ⟨⟩
  rw [if_pos rfl]
  rfl

theorem Holds.poll {serial ticks more : Nat} (holds : score.Holds (p + 1) left m.engine.sequence)
    (h : m.Awaits run p) (here : score[p]? = some (.wait serial ticks true)) (remains : left p = more + 2)
    (others : ∀ r, r ≠ p → left' r = left r) (own : left' p = more + 1) :
    ∃ m', (∀ fuel, m.tick (fuel + 1) = (.settled, m')) ∧ m'.Awaits run p ∧
      score.Holds (p + 1) left' m'.engine.sequence := by
  obtain ⟨c, found, state⟩ := holds.waits p serial ticks true here
  obtain ⟨called, awaits, script, polls⟩ := h.polls found
  have onTick : (Behaviour.onTick c.state (m.view p) : HookProgram Note _) =
      .done (.wait serial ticks (more + 1), .ok ()) := by
    rw [state, remains]
    rfl
  obtain ⟨m', plays, waits, f, set⟩ := awaits.pauses (script ▸ found) onTick
  refine ⟨m', fun fuel => (polls _).trans (plays fuel), waits, ?_⟩
  refine holds.set (Nat.le_refl _) here rfl found (set.trans (by rw [script])) others ?_
  rintro _ _ ⟨⟩
  rw [onTick, own]
  rfl

theorem Holds.pollLast {serial ticks : Nat} (holds : score.Holds (p + 1) left m.engine.sequence)
    (h : m.Awaits run p) (here : score[p]? = some (.wait serial ticks true)) (remains : left p = 1)
    (others : ∀ r, r ≠ p → left r = 0) :
    ∃ m', (∀ fuel, m.tick fuel = Machine.drive fuel run m') ∧ m'.Poised run (p + 1) ∧
      score.Holds (p + 1) (fun _ => 0) m'.engine.sequence := by
  obtain ⟨c, found, state⟩ := holds.waits p serial ticks true here
  obtain ⟨called, awaits, script, polls⟩ := h.polls found
  have onTick : (Behaviour.onTick c.state (m.view p) : HookProgram Note _) =
      .ask (.signal (p + 1)) fun _ => .done (.wait serial ticks 0, .ok ()) := by
    rw [state, remains]
    rfl
  have signals : Passes (some (p + 1)) (Behaviour.onTick c.state (m.view p) : HookProgram Note _) [] := by
    rw [onTick]
    exact .signal (.done _)
  obtain ⟨m', plays, poised, ⟨f, set⟩, -⟩ := awaits.signals (script ▸ found) signals
  refine ⟨m', fun fuel => (polls fuel).trans (plays fuel), poised, ?_⟩
  refine holds.set (Nat.le_refl _) here rfl found (set.trans (by rw [script])) (fun r other => (others r other).symm) ?_
  rintro _ _ ⟨⟩
  rw [onTick]
  rfl

/-! ## The run meanwhile -/

/-- Where a run is after `k` ticks. -/
inductive At (score : Score) (run k : Nat) (m : Machine Cue Note) : Prop where
  | waits (p serial ticks : Nat) : score[p]? = some (Beat.wait serial ticks true) → score.due p ≤ k →
    k < score.due (p + 1) → m.Awaits run p →
    score.Holds (p + 1) (fun q => if q = p then score.due (p + 1) - k else 0) m.engine.sequence → At score run k m
  | ended : k = score.total → m.engine.run = none → At score run k m

/-- A loop that is poised at a beat goes on to the next wait, or to the end, without a tick. -/
theorem At.drive (h : m.Poised run p) (holds : score.Holds p (fun _ => 0) m.engine.sequence)
    (enough : score.length - p < fuel) :
    ∃ m', Machine.drive fuel run m = (.settled, m') ∧ score.At run (score.due p) m' := by
  -- On what is left of the score.
  induction hn : score.length - p generalizing p m fuel with
  | zero =>
    obtain ⟨fuel, rfl⟩ := Nat.exists_eq_succ_of_ne_zero (Nat.ne_of_gt (Nat.zero_lt_of_lt enough))
    have behind : score.length ≤ p := Nat.sub_eq_zero_iff_le.mp hn
    have nothing := holds.ahead
    rw [List.drop_of_length_le behind] at nothing
    obtain ⟨m', loop, idle⟩ := h.ends (h.ready.stands.core.coherent.nextRunnable_of_drop nothing)
    exact ⟨m', loop fuel, .ended (due_of_length_le behind) idle⟩
  | succ n ih =>
    obtain ⟨beat, here⟩ : ∃ beat, score[p]? = some beat := ⟨_, List.getElem?_eq_getElem (by omega)⟩
    have next := due_succ here
    -- What takes no ticks leaves the loop poised at the next beat.
    have goesOn {left : Nat} {m' : Machine Cue Note} (untimed : beat.ticks = 0) (poised : m'.Poised run (p + 1))
        (holds' : score.Holds (p + 1) (fun _ => 0) m'.engine.sequence) (enough' : n < left) :
        ∃ last, Machine.drive left run m' = (.settled, last) ∧ score.At run (score.due p) last := by
      have same : score.due (p + 1) = score.due p := by rw [next, untimed]; rfl
      rw [← same]
      exact ih poised holds' (by omega) (by omega)
    have skips (untimed : beat.ticks = 0) (skipped : beat.enabled = false ∨ beat.command.kind ≠ .action) :
        ∃ m', Machine.drive fuel run m = (.settled, m') ∧ score.At run (score.due p) m' := by
      obtain ⟨poised, holds'⟩ := holds.skip h here skipped
      exact goesOn untimed poised holds' (by omega)
    obtain ⟨fuel, rfl⟩ := Nat.exists_eq_succ_of_ne_zero (Nat.ne_of_gt (Nat.zero_lt_of_lt enough))
    cases beat with
    | inert remark enabled => exact skips rfl (.inr remark.inert)
    | prompt prompt enabled =>
      cases enabled with
      | false => exact skips rfl (.inl rfl)
      | true =>
        obtain ⟨notes, signals⟩ := prompt.continues (m.view p)
        obtain ⟨m', loop, poised, holds'⟩ := holds.pass h here rfl prompt.action signals (by rintro _ _ ⟨⟩)
        rw [loop fuel]
        exact goesOn rfl poised holds' (by omega)
    | wait serial ticks enabled =>
      cases enabled with
      | false => exact skips rfl (.inl rfl)
      | true =>
        cases ticks with
        | zero =>
          obtain ⟨m', loop, poised, holds'⟩ :=
            holds.pass h here rfl rfl (.signal (.done _)) (by rintro _ _ ⟨⟩; rfl)
          rw [loop fuel]
          exact goesOn rfl poised holds' (by omega)
        | succ ticks =>
          -- The wait has ticks to take, and the loop stops at it.
          obtain ⟨m', loop, waits, holds'⟩ := holds.suspend h here
          obtain ⟨fuel, rfl⟩ := Nat.exists_eq_succ_of_ne_zero (show fuel ≠ 0 by omega)
          have left : score.due (p + 1) - score.due p = ticks + 1 := by
            rw [next, Nat.add_sub_cancel_left]
            rfl
          exact ⟨m', loop fuel, .waits p serial (ticks + 1) here le_rfl (by omega) waits (by rwa [left])⟩

/-- A tick counts for the wait that is due, and for no other. -/
theorem At.tick (h : score.At run k m) (unfinished : k < score.total) (enough : score.length < fuel) :
    ∃ m', m.tick fuel = (.settled, m') ∧ score.At run (k + 1) m' := by
  cases h with
  | ended finished => omega
  | waits p serial ticks here since still awaits holds =>
    obtain ⟨more, remains⟩ : ∃ more, score.due (p + 1) - k = more + 1 := ⟨score.due (p + 1) - k - 1, by omega⟩
    cases more with
    | zero =>
      -- The last tick of this wait: the loop goes on to the next one that is due.
      obtain ⟨m', polls, poised, holds'⟩ :=
        holds.pollLast awaits here ((if_pos rfl).trans remains) fun r other => if_neg other
      have now : score.due (p + 1) = k + 1 := by omega
      rw [polls fuel, ← now]
      exact At.drive poised holds' (by omega)
    | succ more =>
      -- The wait goes on, with one tick less to take.
      have later : score.due (p + 1) - (k + 1) = more + 1 := by omega
      let left' q := if q = p then score.due (p + 1) - (k + 1) else 0
      have others : ∀ r, r ≠ p → left' r = if r = p then score.due (p + 1) - k else 0 := by
        intro r other
        rw [if_neg other]
        exact if_neg other
      have own : left' p = more + 1 := (if_pos rfl).trans later
      obtain ⟨m', polls, waits, holds'⟩ := holds.poll awaits here ((if_pos rfl).trans remains) others own
      obtain ⟨fuel, rfl⟩ := Nat.exists_eq_succ_of_ne_zero (Nat.ne_of_gt (Nat.zero_lt_of_lt enough))
      exact ⟨m', polls fuel, .waits p serial ticks here (by omega) (by omega) waits holds'⟩

theorem At.ticks (more : Nat) (h : score.At run k m) (within : k + more ≤ score.total) (enough : score.length < fuel) :
    ∃ m', m.ticks fuel more = (.settled, m') ∧ score.At run (k + more) m' := by
  induction more generalizing k m with
  | zero => exact ⟨m, rfl, h⟩
  | succ more ih =>
    obtain ⟨first, tick, next⟩ := h.tick (by omega) enough
    obtain ⟨m', rest, later⟩ := ih next (by omega)
    refine ⟨m', ?_, by rwa [Nat.add_right_comm, Nat.add_assoc] at later⟩
    rw [Machine.ticks, tick]
    exact rest

theorem At.pressing {maxTicks : Option Nat} (h : score.At run k m) (unfinished : k < score.total)
    (budget : ∀ limit ∈ maxTicks, k < limit) : m.Pressing maxTicks k := by
  cases h with
  | ended finished => omega
  | waits p serial ticks here since still awaits holds => exact ⟨awaits.executing, awaits.sane, budget⟩

theorem At.over_of_total (h : score.At run score.total m) : m.engine.run = none := by
  cases h with
  | ended _ idle => exact idle
  | waits p _ _ _ _ still =>
    have := score.due_le_total (p + 1)
    omega

theorem At.driveOn {rounds : Nat} (h : score.At run 0 m) (enough : score.length < fuel)
    (patient : score.total < rounds) (maxTicks : Option Nat) :
    let ticks := maxTicks.elim score.total (min score.total)
    (Machine.driveOn fuel maxTicks rounds 0 m).1 = .outcome ⟨ticks, decide (score.total ≤ ticks)⟩ := by
  intro ticks
  have within : ticks ≤ score.total := by cases maxTicks <;> simp [ticks]
  have budget : ∀ limit ∈ maxTicks, ticks ≤ limit := by rintro limit rfl; exact Nat.min_le_right ..
  obtain ⟨last, settled, at_last⟩ := h.ticks ticks (by omega) enough
  have pressed : m.Pressed fuel maxTicks 0 ticks last := by
    refine ⟨settled, fun k hk => ?_⟩
    obtain ⟨between, settled, at_between⟩ := h.ticks k (by omega) enough
    refine ⟨between, settled, at_between.pressing (by omega) fun limit hl => ?_⟩
    have := budget limit hl
    omega
  obtain ⟨left, rfl⟩ : ∃ left, rounds = ticks + (left + 1) := ⟨rounds - ticks - 1, by omega⟩
  rw [Nat.zero_add] at at_last
  by_cases finished : score.total ≤ ticks
  · -- The run is over, and so no tick is pressing any more.
    have resting : last.engine.isExecuting = false := by
      rw [show ticks = score.total by omega] at at_last
      rw [Engine.isExecuting, at_last.over_of_total]
      rfl
    rw [pressed.driveOn, Nat.zero_add,
      Machine.driveOn_of_not_pressing fun pressing => Bool.false_ne_true (resting.symm.trans pressing.executing)]
    simp [resting, finished]
  · -- The budget is used up while the run still waits.
    have spent : ¬ last.Pressing maxTicks ticks := by
      intro pressing
      cases maxTicks with
      | none => exact finished le_rfl
      | some limit =>
        have : ticks < limit := pressing.budget limit rfl
        have : ticks = min score.total limit := rfl
        omega
    have unlimited : ∀ limit ∈ (none : Option Nat), ticks < limit := by simp
    have going : last.engine.isExecuting = true := (at_last.pressing (by omega) unlimited).executing
    rw [pressed.driveOn, Nat.zero_add, Machine.driveOn_of_not_pressing spent]
    simp [going, finished]

end Score

/-! ## Whole runs -/

def Machine.remaining? (m : Machine Cue Note) (p serial : Nat) : Option Nat :=
  (m.engine.sequence.get? p).bind fun c => c.state.remaining? serial

/-- After `k` ticks the run is suspended at the wait that is due then, and nothing remains of any other. -/
structure Score.Suspends (score : Score) (k : Nat) (m : Machine Cue Note) : Prop where
  executing : m.engine.state = .executing
  wait : ∃ p serial ticks, score[p]? = some (Beat.wait serial ticks true) ∧ 0 < ticks ∧
    m.engine.active = some p ∧ score.due p ≤ k ∧ k < score.due (p + 1) ∧
    ∀ q serial ticks enabled, score[q]? = some (Beat.wait serial ticks enabled) →
      m.remaining? q serial = some (if q = p then score.due (p + 1) - k else 0)

theorem Score.At.suspends {score : Score} {run k : Nat} {m : Machine Cue Note} (h : score.At run k m)
    (unfinished : k < score.total) : score.Suspends k m := by
  cases h with
  | ended finished => omega
  | waits p serial ticks here since still awaits holds =>
    have next := due_succ here
    refine ⟨Engine.state_executing.mpr awaits.executing, p, serial, ticks, here, ?_, awaits.active, since, still,
      fun q serial ticks enabled there => ?_⟩
    · rw [show (Beat.wait serial ticks true).ticks = ticks from rfl] at next
      omega
    · obtain ⟨c, found, state⟩ := holds.waits q serial ticks enabled there
      obtain ⟨entry, at_q, rfl, -⟩ := Sequence.entry_of_script found
      have get : m.engine.sequence.get? q = some entry.command := by
        rw [awaits.stands.core.coherent.get?_eq, at_q]
        rfl
      rw [Machine.remaining?, get, Option.bind_some, state]
      exact if_pos rfl

/--
Waits add up. A run over waits and commands that do not wait is suspended at the wait that is due, for as many ticks
as are due in all, and is over with the last of them. So that many ticks a driver needs.
-/
theorem waits_add_up {ids : List EngineId} {s : Studio Cue Note} (h : Reachable ids s) {number : Nat}
    {e : Engine Cue Note} (he : s.engine? number = some e) (idle : e.state = .idle) (score : Score)
    (written : e.sequence.script = score.map Beat.entry) {fuel : Nat} (enough : score.length < fuel)
    (onComplete : Option (HostProgram Note Unit)) :
    ∃ started, Machine.execute ⟨e, s.shared⟩ fuel 0 onComplete = (.value .started, started) ∧
      (∀ k ≤ score.total, ∃ m, started.ticks fuel k = (.settled, m) ∧
        (k < score.total → score.Suspends k m) ∧ (k = score.total → m.engine.state = .idle)) ∧
      ∀ rounds interval, score.total < rounds → interval ≠ 0 →
        (started.runUntilIdle fuel rounds interval none).1 = .outcome ⟨score.total, true⟩ ∧
        ∀ limit, (started.runUntilIdle fuel rounds interval (some limit)).1 =
          .outcome ⟨min score.total limit, decide (score.total ≤ limit)⟩ := by
  let m : Machine Cue Note := ⟨e, s.shared⟩
  have still : m.engine.run = none := Engine.state_idle.mp idle
  obtain ⟨poised, -, -, -, -, script⟩ := (h.sound.machine he).poised_beginRun still 0 onComplete
  obtain ⟨started, driven, begun⟩ :=
    Score.At.drive poised (.written (script.trans written)) (Nat.lt_of_le_of_lt (Nat.sub_le ..) enough)
  have executed : m.execute fuel 0 onComplete = (.value .started, started) := by
    rw [← poised.current] at driven
    rw [Machine.execute, if_neg (by simp [Engine.isExecuting, still]), Machine.startRun, driven]
    rfl
  refine ⟨started, executed, fun k hk => ?_, fun rounds interval patient timer => ⟨?_, fun limit => ?_⟩⟩
  · obtain ⟨mk, settled, at_k⟩ := begun.ticks k (by simpa [Score.due] using hk) enough
    rw [show score.due 0 + k = k from Nat.zero_add k] at at_k
    refine ⟨mk, settled, at_k.suspends, ?_⟩
    rintro rfl
    exact Engine.state_idle.mpr at_k.over_of_total
  · have drives := begun.driveOn enough patient none
    rw [Machine.runUntilIdle, if_neg timer, drives]
    simp
  · have drives := begun.driveOn enough patient (some limit)
    rw [Machine.runUntilIdle, if_neg timer, drives]
    simp

/-! ## A score with a hole and a wait that is struck -/

def SyncAction.prompt (action : SyncAction) : Prompt where
  command := action.command
  action := action.action
  continues view := (action.continues view).imp fun _ => And.left

def interlude : Score :=
  [.inert ⟨Cue.makeLabel "start", nofun⟩ true, .wait 0 2 true, .prompt (spoken "dusk").prompt true,
    .wait 1 3 false, .wait 2 0 true, .inert ⟨Cue.makeComment "it rains", nofun⟩ true, .wait 3 1 true]

def interludeSequence : Sequence Cue :=
  let written := Sequence.ofCommands (interlude.map Beat.command)
  let cut := ((Edit.remove 2).apply ((Edit.insert 2 (Cue.makeSay "cut")).apply written).2).2
  ((Edit.setEnabled 3 false).apply cut).2

def interludeStage : Studio Cue Note :=
  Studio.add {} (.create stageId "stage" interludeSequence (some .recorder) true)

/-- The third tick is the last one that is due: the second wait is disabled, and the third has no ticks. -/
theorem waits_add_up_interlude : ∃ e started, interludeStage.engine? 0 = some e ∧
    e.sequence.slots.map (·.isSome) = [true, true, false, true, true, true, true, true] ∧
    Machine.execute ⟨e, interludeStage.shared⟩ 8 0 none = (.value .started, started) ∧
    (∃ m, started.ticks 8 2 = (.settled, m) ∧ interlude.Suspends 2 m ∧ m.engine.active = some 6) ∧
    (started.runUntilIdle 8 4 5 none).1 = .outcome ⟨3, true⟩ ∧
    (started.runUntilIdle 8 4 5 (some 2)).1 = .outcome ⟨2, false⟩ := by
  have built : interludeSequence.Built :=
    (((Sequence.Built.ofCommands _).edit (.insert 2 _)).edit (.remove 2)).edit (.setEnabled 3 false)
  have reachable : Reachable [stageId] interludeStage :=
    .add stageId "stage" (some .recorder) true .start (by simp) built
  have there : interludeStage.engine? 0 = some _ := rfl
  obtain ⟨started, ran, ticks, drives⟩ :=
    waits_add_up reachable there rfl interlude rfl (show 7 < 8 by decide) none
  obtain ⟨free, budgeted⟩ := drives 4 5 (by decide) (by decide)
  obtain ⟨m, settled, suspends, -⟩ := ticks 2 (by decide)
  refine ⟨_, started, there, rfl, ran, ⟨m, settled, suspends (by decide), ?_⟩, free, budgeted 2⟩
  obtain ⟨⟩ := ran
  obtain ⟨⟩ := settled
  rfl

end Sequencer
