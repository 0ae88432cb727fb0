import Sequencer.Proofs.Engine.Points
import Sequencer.Proofs.Sequence.Nesting

/-!
# Commands that pass

A hook that signals at once, and otherwise only notes things down, lets its command pass: the run goes on
where the signal says. The loop takes one iteration for it.
-/

namespace Sequencer

variable {σ ν : Type}

/-! ## Hooks that pass -/

/--
A hook that succeeds and asks for nothing of its engine but to go on at `goal`, if it has not signalled
already. On its way it notes `notes` down.
-/
inductive Passes : (goal : Option Nat) → HookProgram ν (σ × Except CommandError Unit) →
    (notes : List ν) → Prop where
  | done (state : σ) : Passes none (.done (state, .ok ())) []
  | signal {target : Nat} {next : Bool → HookProgram ν (σ × Except CommandError Unit)}
    {notes : List ν} : Passes none (next true) notes →
    Passes (some target) (.ask (.signal target) next) notes
  /-- Signals after the first are refused. -/
  | again {target : Nat} {next : Bool → HookProgram ν (σ × Except CommandError Unit)}
    {notes : List ν} : Passes none (next false) notes → Passes none (.ask (.signal target) next) notes
  | note {goal : Option Nat} {value : ν} {next : Unit → HookProgram ν (σ × Except CommandError Unit)}
    {notes : List ν} : Passes goal (next ()) notes →
    Passes goal (.ask (.host (.note value)) next) (value :: notes)
  | report {goal : Option Nat} {notice : Notice}
    {next : Unit → HookProgram ν (σ × Except CommandError Unit)} {notes : List ν} :
    Passes goal (next ()) notes → Passes goal (.ask (.report notice) next) notes

/-- The register after a hook that passes. -/
def Register.passed (r : Register) : (goal : Option Nat) → Register
  | none => r
  | some target => r.force (.to target)

theorem Passes.run {goal : Option Nat} {program : HookProgram ν (σ × Except CommandError Unit)}
    {notes : List ν} (h : Passes goal program notes) (f : Machine.HookFrame ν) {r : Register}
    (hr : f.shared.board.registers.get? f.handle.engine = some r)
    (armed : r.armed = goal.map fun _ => f.handle.ticket) :
    ∃ state shared, program.run Machine.HookFrame.answer f = ((state, .ok ()), { f with shared }) ∧
      shared.board.register f.handle.engine = r.passed goal ∧
      notesOf shared.events = notes.reverse ++ notesOf f.shared.events := by
  -- On the questions of the hook; only the first signal finds the ticket armed.
  induction h generalizing f r with
  | done state => exact ⟨state, f.shared, rfl, Switchboard.register_of_get? hr, rfl⟩
  | @signal target next notes _ ih =>
    rcases f.shared.signal_cases f.handle target with ⟨disarmed, -⟩ | ⟨-, r', hr', -, landed⟩
    · rw [Switchboard.isArmed, hr, decide_eq_false_iff_not] at disarmed
      exact absurd armed disarmed
    · rw [hr] at hr'
      obtain rfl := Option.some.inj hr'
      let shared := (f.shared.signal f.handle target).2
      have set : shared.board.registers.get? f.handle.engine = some (r.force (.to target)) := by
        show (f.shared.signal f.handle target).2.board.registers.get? f.handle.engine = _
        rw [landed]
        exact Switchboard.get?_setRegister.trans (if_pos rfl)
      have noted : shared.events = f.shared.events := by
        show (f.shared.signal f.handle target).2.events = _
        rw [landed]
        rfl
      obtain ⟨state, shared', ran, register, notes_eq⟩ := ih { f with shared } set rfl
      refine ⟨state, shared', ?_, register, notes_eq.trans (by rw [noted])⟩
      have answered : (f.shared.signal f.handle target).1 = true := by rw [landed]
      rw [Program.run]
      show (next (f.shared.signal f.handle target).1).run _ { f with shared } = _
      rw [answered]
      exact ran
  | @again target next notes _ ih =>
    have disarmed : f.shared.board.isArmed f.handle = false := by
      rw [Switchboard.isArmed, hr, decide_eq_false_iff_not, armed]
      simp
    have refused : Machine.HookFrame.answer (.signal target) f = (false, f) := by
      show ((f.shared.signal f.handle target).1,
        { f with shared := (f.shared.signal f.handle target).2 }) = _
      rw [f.shared.signal_fst, Shared.signal_refused disarmed, disarmed]
    rw [Program.run, refused]
    exact ih f hr armed
  | @note goal value next notes _ ih =>
    obtain ⟨state, shared, ran, register, notes_eq⟩ :=
      ih { f with shared := f.shared.record (.noted value) } hr armed
    refine ⟨state, shared, ran, register, notes_eq.trans ?_⟩
    rw [List.reverse_cons, List.append_assoc]
    rfl
  | @report goal notice next notes _ ih =>
    obtain ⟨state, shared, ran, register, notes_eq⟩ :=
      ih { f with shared := f.shared.report notice } hr armed
    exact ⟨state, shared, ran, register, notes_eq⟩

/-! ## One iteration of the loop -/

theorem Sequence.Coherent.script_setState {s : Sequence σ} (h : s.Coherent) {p : Nat} {c : Command σ}
    {enabled : Bool} (found : s.script[p]? = some (c, enabled)) (state : σ) :
    (s.setState p state).script = s.script.set p ({ c with state }, enabled) := by
  refine List.ext_getElem? fun q => ?_
  obtain ⟨entry, here, rfl, rfl⟩ := entry_of_script found
  rw [script, setState, h.entries_update, script, List.getElem?_map, List.getElem?_modify, List.getElem?_set,
    List.length_map, List.getElem?_map]
  by_cases heq : p = q
  · subst heq
    obtain ⟨lt, rfl⟩ := List.getElem?_eq_some_iff.mp here
    simp [lt]
  · simp [heq]

namespace Machine

variable {m m' : Machine σ ν} {run p q target : Nat}

/-- The loop of a run is about to go on at `p`, or from there on. -/
structure Poised (m : Machine σ ν) (run p : Nat) : Prop where
  executing : m.engine.isExecuting = true
  current : m.engine.runCount = run
  ready : m.Ready
  pending : ∃ target, m.register.pending = some (.to target) ∧
    m.engine.sequence.nextRunnable target = m.engine.sequence.nextRunnable p

/-- A stretch of a run, up to `p`: it has activated `visits`, and left the script from `p` on alone. -/
structure Played (m m' : Machine σ ν) (visits : List Nat) (notes : List ν) (p : Nat) : Prop where
  id : m'.engine.id = m.engine.id
  onComplete : m'.engine.run.map (·.onComplete) = m.engine.run.map (·.onComplete)
  calls : calls m.engine.id m'.shared.moments = visits.reverse ++ calls m.engine.id m.shared.moments
  notes : notesOf m'.shared.events = notes.reverse ++ notesOf m.shared.events
  script : m'.engine.sequence.script.drop p = m.engine.sequence.script.drop p

theorem Played.refl (m : Machine σ ν) (p : Nat) : m.Played m [] [] p := ⟨rfl, rfl, rfl, rfl, rfl⟩

theorem Played.mono {visits : List Nat} {notes : List ν} (h : m.Played m' visits notes p) (le : p ≤ q) :
    m.Played m' visits notes q := by
  refine ⟨h.id, h.onComplete, h.calls, h.notes, ?_⟩
  obtain ⟨count, rfl⟩ := Nat.exists_eq_add_of_le le
  rw [← List.drop_drop, h.script, List.drop_drop]

theorem Played.trans {m'' : Machine σ ν} {visits visits' : List Nat} {notes notes' : List ν}
    (h : m.Played m' visits notes p) (h' : m'.Played m'' visits' notes' q) (le : p ≤ q) :
    m.Played m'' (visits ++ visits') (notes ++ notes') q where
  id := h'.id.trans h.id
  onComplete := h'.onComplete.trans h.onComplete
  calls := by
    have calls := h'.calls
    rw [h.id] at calls
    rw [calls, h.calls, List.reverse_append, List.append_assoc]
  notes := by rw [h'.notes, h.notes, List.reverse_append, List.append_assoc]
  script := h'.script.trans (h.mono le).script

theorem Poised.skip (h : m.Poised run p)
    (skipped : m.engine.sequence.outline[p]? ≠ some (true, .action)) : m.Poised run (p + 1) := by
  obtain ⟨target, pending, leads⟩ := h.pending
  refine ⟨h.executing, h.current, h.ready, target, pending, ?_⟩
  rw [leads, h.ready.stands.core.coherent.nextRunnable_of_skipped skipped]

theorem Poised.take (h : m.Poised run p) :
    ∃ jump m', m.takeJump = (some (.to jump), m') ∧ m'.Stands none ∧ Between m'.engine m'.register ∧
      m'.engine.runCount = run ∧ m'.view p = m.view p ∧
      m'.engine.sequence.nextRunnable jump = m.engine.sequence.nextRunnable p ∧
      m.Played m' [] [] 0 := by
  obtain ⟨jump, pending, leads⟩ := h.pending
  have coherent := h.ready.stands.core.coherent
  obtain ⟨m', taken, events, unmarked⟩ : ∃ m', m.takeJump = (some (.to jump), m') ∧
      m'.shared.events = m.shared.events ∧ (m'.engine.sequence = m.engine.sequence ∨
        ∃ index, m'.engine.sequence = m.engine.sequence.setExecuting index false) := by
    refine ⟨_, by rw [takeJump, pending], ?_⟩
    split
    · exact ⟨rfl, .inl rfl⟩
    · next index _ => exact ⟨rfl, .inr ⟨index, rfl⟩⟩
  obtain ⟨stands, between⟩ := h.ready.takeJump_some taken
  have keeps := (KeepsTurns.refl m).takeJump
  rw [taken] at keeps
  -- If a command is left behind, it is only unmarked.
  obtain ⟨script, layout, len⟩ : m'.engine.sequence.script = m.engine.sequence.script ∧
      m'.engine.sequence.layout = m.engine.sequence.layout ∧
      m'.engine.sequence.len = m.engine.sequence.len := by
    rcases unmarked with same | ⟨index, set⟩
    · rw [same]
      exact ⟨rfl, rfl, rfl⟩
    · rw [set]
      exact ⟨Sequence.script_setExecuting coherent false, Sequence.layout_update, Sequence.len_update⟩
  have outline : m'.engine.sequence.outline = m.engine.sequence.outline := by
    rw [Sequence.outline_eq_script, Sequence.outline_eq_script, script]
  refine ⟨jump, m', taken, stands, between, keeps.runCount.trans h.current, ?_, ?_, ?_⟩
  · rw [view, view, layout, len]
  · rw [Sequence.nextRunnable_congr coherent stands.core.coherent outline, leads]
  · exact ⟨keeps.id, keeps.onComplete, keeps.shared.calls _, by rw [events]; rfl, by rw [script]⟩

theorem notesOf_tell {event : Event ν} (h : event.note? = none) (notice : Notice) :
    notesOf (m.tell event notice).shared.events = notesOf m.shared.events := by
  rw [tell]
  split
  · rfl
  · exact List.filterMap_cons_none h
  · rfl

theorem notesOf_calling (m : Machine σ ν) (index : Nat) (name : String) :
    notesOf (m.calling index name).shared.events = notesOf m.shared.events :=
  (List.filterMap_cons_none rfl).trans (notesOf_tell (m := m.enter index) rfl _)

theorem AtRest.poised_beginRun (h : m.AtRest) (idle : m.engine.run = none) (start : Nat)
    (onComplete : Option (HostProgram ν Unit)) :
    let begun := m.beginRun start onComplete
    begun.Poised (m.engine.runCount + 1) start ∧ begun.engine.id = m.engine.id ∧
      begun.engine.run.map (·.onComplete) = some onComplete ∧
      calls m.engine.id begun.shared.moments = calls m.engine.id m.shared.moments ∧
      notesOf begun.shared.events = notesOf m.shared.events ∧
      begun.engine.sequence.script = m.engine.sequence.script := by
  intro begun
  have keeps := m.keepsTurns_beginRun start onComplete
  have pending : begun.register.pending = some (.to start) := by
    show (Machine.setRegister _ _).register.pending = _
    rw [register_setRegister]
    rfl
  have sequence : begun.engine.sequence =
      if m.engine.sequence.needsRefresh then m.engine.sequence.refresh else m.engine.sequence := by
    show (m.beginRun start onComplete).engine.sequence = _
    rw [Machine.beginRun, Machine.setRegister, engine_tell]
    rfl
  refine ⟨⟨isExecuting_beginRun m start onComplete, runCount_beginRun m start onComplete,
    h.beginRun idle start onComplete, start, pending, rfl⟩, keeps.id, keeps.onComplete,
    keeps.shared.calls _, notesOf_tell rfl _, ?_⟩
  rw [sequence]
  split
  · exact Sequence.script_refresh
  · rfl

/-! ## Suspended -/

section

variable {c : Command σ} {program : HookProgram ν (σ × Except CommandError Unit)}

/-- The run is suspended at `p`, and the command there has not signalled. -/
structure Awaits (m : Machine σ ν) (run p : Nat) : Prop where
  stands : m.Stands m.engine.active
  current : m.engine.runCount = run
  active : m.engine.active = some p
  sane : m.engine.isFaulted = false
  armed : m.register.armed = some m.register.lastTicket
  pending : m.register.pending = none

/-- What a hook of the command at `p` comes to, if it is called now. -/
def hooked (m : Machine σ ν) (p : Nat) (program : HookProgram ν (σ × Except CommandError Unit)) : Point σ ν :=
  .hooked p m.register.lastTicket (m.runHook p m.register.lastTicket program)

/-- A hook of the command at `p` has been called, and has set its state. -/
def Sets (m m' : Machine σ ν) (p : Nat) (c : Command σ) (program : HookProgram ν (σ × Except CommandError Unit)) :
    Prop :=
  ∃ f, m'.engine.sequence.script = m.engine.sequence.script.set p
    ({ c with state := (program.run HookFrame.answer f).1.1 }, true)

theorem Awaits.waiting (h : m.Awaits run p) : Waiting m.engine m.register m.shared.moments :=
  ⟨by rw [h.active]; rfl, h.sane, .inl ⟨h.armed, h.pending⟩⟩

theorem Awaits.atRest (h : m.Awaits run p) : m.AtRest := ⟨h.stands, .inr (.inl h.waiting)⟩

theorem Awaits.executing (h : m.Awaits run p) : m.engine.isExecuting = true :=
  isExecuting_of_active h.waiting.1

theorem Awaits.sets (h : m.Awaits run p) (found : m.engine.sequence.script[p]? = some (c, true)) :
    m.Sets (m.runHook p m.register.lastTicket program).2.2 p c program :=
  ⟨_, h.stands.core.coherent.script_setState found _⟩

theorem Awaits.ready (h : m.Awaits run p) : (m.hooked p program).Ready :=
  Point.ready_runHook h.stands h.waiting h.active program

variable [Behaviour σ ν]

theorem Awaits.signals {notes : List ν} (h : m.Awaits run p)
    (found : m.engine.sequence.script[p]? = some (c, true)) (passes : Passes (some target) program notes) :
    ∃ m', (∀ fuel, (m.hooked p program).play fuel = drive fuel run m') ∧ m'.Poised run target ∧
      m.Sets m' p c program ∧ m.Played m' [] notes (p + 1) := by
  let m' := (m.runHook p m.register.lastTicket program).2.2
  obtain ⟨state, shared, ran, register, noted⟩ :=
    passes.run ⟨m.shared, ⟨m.engine.id, m.register.lastTicket, p⟩, none⟩ h.stands.core.registered h.armed
  have returned : m.runHook p m.register.lastTicket program = (.ok (), none, m') := by
    show _ = (_, _, (m.runHook p m.register.lastTicket program).2.2)
    rw [Machine.runHook, ran]
  have settled : Machine.settle p m.register.lastTicket (m.runHook p m.register.lastTicket program) =
      (.settled, m') := by
    rw [returned]
    rfl
  have pending : m'.register.pending = some (.to target) := by
    show (m.runHook p m.register.lastTicket program).2.2.register.pending = _
    rw [Machine.runHook, ran]
    exact congrArg Register.pending register
  have current : m'.engine.runCount = run := h.current
  have keeps := (KeepsTurns.refl m).runHook p m.register.lastTicket program
  obtain ⟨f, set⟩ : m.Sets m' p c program := h.sets found
  refine ⟨m', fun fuel => ?_, ⟨h.executing, current, ?_, target, pending, rfl⟩, ⟨f, set⟩,
    ⟨keeps.id, keeps.onComplete, keeps.shared.calls _, ?_, ?_⟩⟩
  · rw [hooked, Point.play_settled settled, Point.play, current]
  · obtain ⟨-, -, ready⟩ | ⟨other, -⟩ := h.ready.settles settled
    · exact ready
    · exact absurd ⟨h.executing, rfl⟩ other
  · show notesOf (m.runHook p m.register.lastTicket program).2.2.shared.events = _
    rw [Machine.runHook, ran]
    exact noted
  · rw [set, List.drop_set_of_lt (Nat.lt_succ_self p)]

theorem Poised.activates (h : m.Poised run p) (found : m.engine.sequence.script[p]? = some (c, true))
    (action : c.kind = .action) : ∃ called : Machine σ ν, called.Awaits run p ∧
      m.Played called [p] [] 0 ∧
      ∀ fuel, drive (fuel + 1) run m = (called.hooked p (Behaviour.execute c.state (m.view p))).play fuel := by
  have runs : m.engine.sequence.outline[p]? = some (true, .action) := action ▸ Sequence.outline_of_script found
  obtain ⟨jump, m₁, taken, stands, between, current, view, next, played⟩ := h.take
  rw [h.ready.stands.core.coherent.nextRunnable_of_runs runs] at next
  have same : m₁.engine.sequence.script = m.engine.sequence.script := played.script
  obtain ⟨entry, here, rfl, -⟩ := Sequence.entry_of_script (same ▸ found)
  have looping : (Point.loop m).Ready := .inl ⟨h.executing, rfl, h.ready⟩
  have goes : Point.Goes m m₁ (.to jump) p entry := ⟨h.executing, taken, next, here⟩
  -- The jump is taken, and the command is entered with the next ticket.
  let turned := m₁.turn (m₁.jump jump)
  let called := turned.calling p entry.command.name
  have runs := stands.core.coherent.action_of_nextRunnable next
  have engine : called.engine = (turned.enter p).engine := engine_calling ..
  have register : called.register = turned.register.arm := register_calling ..
  have active : called.engine.active = some p := by rw [engine, active_enter (m := turned) between.1]
  have suspended : called.Stands (some p) := (stands.turn _).calling between.1 runs entry.command.name
  have keeps := (KeepsTurns.refl turned).enter p
  have turning : m.Played turned [] [] 0 :=
    ⟨played.id, played.onComplete, played.calls, played.notes, played.script⟩
  have entering : turned.Played called [p] [] 0 := by
    refine ⟨by rw [engine, keeps.id], by rw [engine, keeps.onComplete], ?_, notesOf_calling .., ?_⟩
    · rw [calls_calling, if_pos rfl]
      rfl
    · rw [engine]
      exact Sequence.script_setExecuting stands.core.coherent true
  refine ⟨called, ⟨by rwa [active], ?_, active, ?_, ?_, ?_⟩, turning.trans entering (Nat.le_refl 0), fun fuel => ?_⟩
  · rw [engine]
    exact current
  · rw [engine, isFaulted_enter]
    exact between.2.1
  · rw [register]
    rfl
  · rw [register]
    rfl
  · have plays := (looping.goes fuel goes).2
    rw [Point.play, h.current, executeHook] at plays
    rw [plays, hooked, register, ← view]
    rfl

end

variable [Behaviour σ ν]

/-- The loop activates an enabled action that passes, and goes on where it signals. -/
theorem Poised.step (h : m.Poised run p) {c : Command σ} {notes : List ν}
    (found : m.engine.sequence.script[p]? = some (c, true)) (action : c.kind = .action)
    (passes : Passes (some target) (Behaviour.execute c.state (m.view p)) notes) :
    ∃ m', (∀ fuel, drive (fuel + 1) run m = drive fuel run m') ∧ m'.Poised run target ∧
      m.Played m' [p] notes (p + 1) := by
  obtain ⟨called, awaits, entered, loop⟩ := h.activates found action
  have same : called.engine.sequence.script = m.engine.sequence.script := entered.script
  obtain ⟨m', plays, poised, -, signalled⟩ := awaits.signals (same ▸ found) passes
  exact ⟨m', fun fuel => (loop fuel).trans (plays fuel), poised, entered.trans signalled (Nat.zero_le _)⟩

theorem Poised.runsOut (h : m.Poised run p) (nothing : m.engine.sequence.nextRunnable p = none) :
    ∃ last, (∀ fuel, drive (fuel + 1) run m = (.settled, last.finish)) ∧ m.Played last [] [] 0 := by
  obtain ⟨jump, m₁, taken, -, -, -, -, next, played⟩ := h.take
  rw [nothing] at next
  refine ⟨m₁.turn (.jumped m₁.engine.id run jump m₁.engine.sequence.outline none), fun fuel => ?_,
    ⟨played.id, played.onComplete, played.calls, played.notes, played.script⟩⟩
  rw [drive, if_pos (by simp [h.executing, h.current]), taken]
  simp only [Jump.target, next]

theorem Poised.finish (h : m.Poised run p) (nothing : m.engine.sequence.nextRunnable p = none)
    (quiet : m.engine.run.map (·.onComplete) = some none) : ∃ m',
      (∀ fuel, drive (fuel + 1) run m = (.settled, m')) ∧ m'.engine.run = none ∧
      calls m.engine.id m'.shared.moments = calls m.engine.id m.shared.moments ∧
      notesOf m'.shared.events = notesOf m.shared.events := by
  obtain ⟨last, ended, played⟩ := h.runsOut nothing
  have silent : last.finish = last.enterIdle := by
    obtain ⟨r, running, none_left⟩ := Option.map_eq_some_iff.mp (played.onComplete.trans quiet)
    rw [Machine.finish, running, Option.bind_some, none_left]
  rw [silent] at ended
  refine ⟨last.enterIdle, ended, congrArg Engine.run last.engine_enterIdle, ?_, ?_⟩
  · exact (last.keepsTurns_enterIdle.shared.calls _).trans played.calls
  · exact (notesOf_tell (m := (last.setRun none).report _) rfl _).trans played.notes

end Machine

end Sequencer
