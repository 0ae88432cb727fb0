import Sequencer.Proofs.Engine.Steps

/-!
# From one command to the next

Beginning a run, taking its next jump, activating the command there, and doing what its hook asked for.
-/

namespace Sequencer

variable {σ ν : Type}

namespace Machine

variable {m : Machine σ ν} {mark : Option Nat} {index : Nat}

/-- Where the loop of a run can go on. -/
structure Ready (m : Machine σ ν) : Prop where
  stands : m.Stands m.engine.active
  phase : Waiting m.engine m.register m.shared.moments ∨ Forced m.engine m.register

/-! ## Starting a run -/

theorem Stands.launch (core : m.engine.Core none m.shared.board m.shared.moments)
    (history : History m.shared.board m.shared.moments)
    (hears : m.engine.listener ≠ none →
      Told m.engine.seen (heard m.engine.id m.shared.moments ++ [.started]))
    {run : Run ν} (hr : m.engine.run = some run) (inactive : run.active = none)
    (sane : run.faulted = false) (jump : Jump) :
    let told := m.tell (.runStarted m.engine.ref) (.sequenceStarted m.engine.ref)
    (told.setRegister (told.register.force jump)).Ready := by
  have news : (Moment.told (.runStarted m.engine.ref) : Moment ν).heard? m.engine.id =
      some .started := if_pos rfl
  intro told
  have stands : told.Stands none := Stands.tell core history rfl news hears _
  have engine : told.engine = m.engine := engine_tell m _ _
  have active : told.engine.active = none := by rw [engine, Engine.active, hr]; exact inactive
  have faulted : told.engine.isFaulted = false := by rw [engine, Engine.isFaulted, hr]; exact sane
  have executing : told.engine.isExecuting = true := by rw [engine, Engine.isExecuting, hr]; rfl
  rw [← active] at stands
  refine ⟨stands.force jump, .inr ⟨executing, faulted, ?_, ?_⟩⟩
  all_goals rw [register_setRegister]; rfl

theorem AtRest.beginRun (h : m.AtRest) (idle : m.engine.run = none) (start : Nat)
    (onComplete : Option (HostProgram ν Unit)) : (m.beginRun start onComplete).Ready := by
  have core := h.stands.core
  have inactive : m.engine.active = none := by rw [Engine.active, idle]; rfl
  have state : m.engine.seen.state = .idle := by
    rw [Engine.seen, Engine.state, Engine.isExecuting, idle]
    rfl
  -- The sequence as the run finds it.
  obtain ⟨s, hs, coherent, owner, fresh, marked⟩ : ∃ s,
      (if m.engine.sequence.needsRefresh then m.engine.sequence.refresh else m.engine.sequence) = s ∧
      s.Coherent ∧ s.owner = m.engine.sequence.owner ∧ s.needsRefresh = false ∧ s.Marked none := by
    have unmarked := core.marked
    rw [inactive] at unmarked
    refine ⟨_, rfl, ?_⟩
    split
    · exact ⟨core.coherent.refresh, rfl, rfl, unmarked.refresh⟩
    · next hn => exact ⟨core.coherent, rfl, by simpa using hn, unmarked⟩
  let begun := Machine.turn { m with engine := { m.engine with
    sequence := s, run := some { onComplete }, runCount := m.engine.runCount + 1 } }
      (.began m.engine.id (m.engine.runCount + 1) onComplete)
  have launched := Stands.launch (m := begun.report
      (.runStarted m.engine.name (m.engine.runCount + 1) start))
    ⟨core.registered, core.ledger, coherent, owner.trans core.owner, fun _ => fresh, marked,
      by rintro _ ⟨⟩, by rintro _ ⟨⟩⟩ h.stands.history
    (fun hl => (h.stands.hears hl).started state) rfl rfl rfl (.to start)
  rw [Machine.beginRun, hs]
  exact launched

/-! ## Running a hook -/

/-- What holds while a hook runs that was given this handle. -/
structure HookSafe (e : Engine σ ν) (mark : Option Nat) (handle : Handle) (b : Switchboard)
    (moments : List (Moment ν)) : Prop where
  stands : Machine.Stands ⟨e, { board := b, moments }⟩ mark
  settled : Settled e (b.register e.id) moments
  issued : Issued moments handle
  latest : (b.register e.id).lastTicket = handle.ticket

theorem steady_hookSafe (e : Engine σ ν) (mark : Option Nat) (handle : Handle) :
    Steady (HookSafe (ν := ν) e mark handle) := by
  intro b moments other r jump hr ha h
  refine ⟨⟨h.stands.core.land hr ha, h.stands.hears.note rfl, h.stands.history.land⟩,
    h.settled.land h.stands.core.ledger hr ha, h.issued.cons, ?_⟩
  rw [register_land hr]
  split <;> exact h.latest

theorem HookSafe.hold {e : Engine σ ν} {handle : Handle} {b : Switchboard} {moments : List (Moment ν)}
    (h : HookSafe e mark handle b moments) (name : String) :
    HookSafe e mark handle (b.hold name handle) moments := by
  have core := h.stands.core
  refine ⟨⟨⟨core.registered, core.ledger, core.coherent, core.owner, core.fresh, core.marked,
    core.acting, core.latest⟩, h.stands.hears, h.stands.history.lawful, fun other held hh => ?_⟩,
    h.settled, h.issued, h.latest⟩
  simp only [Switchboard.hold, Table.get?_put] at hh
  split at hh
  · rw [← Option.some.inj hh]
    exact h.issued
  · exact h.stands.history.issued other held hh

/-- While the active command waits for its signal, its hook can do what it likes. -/
theorem Stands.runHook (h : m.Stands mark) (waiting : Waiting m.engine m.register m.shared.moments)
    (active : m.engine.active = some index)
    (program : HookProgram ν (σ × Except CommandError Unit)) :
    let m' := (m.runHook index m.register.lastTicket program).2.2
    m'.Stands mark ∧ Waiting m'.engine m'.register m'.shared.moments ∧
      m'.register.lastTicket = m.register.lastTicket := by
  intro m'
  have safe : HookSafe m.engine mark ⟨m.engine.id, m.register.lastTicket, index⟩ m.shared.board
      m.shared.moments :=
    ⟨⟨h.core, h.hears, h.history⟩, .inr (.inl waiting), h.core.latest index active, rfl⟩
  have after := (steady_hookSafe m.engine mark _).hook (fun _ _ name hs => hs.hold name) safe program
  have stands : Machine.Stands ⟨m.engine, m'.shared⟩ mark :=
    ⟨after.stands.core, after.stands.hears, after.stands.history⟩
  exact ⟨stands.setState index _, after.settled.waiting (isExecuting_of_active waiting.1) waiting.2.1, after.latest⟩

/-! ## After a hook -/

theorem active_setFaulted (m : Machine σ ν) (faulted : Bool) :
    (m.setRun (m.engine.run.map fun run => { run with faulted })).engine.active = m.engine.active := by
  rw [Engine.active, Engine.active, setRun]
  cases m.engine.run <;> rfl

theorem isExecuting_setFaulted (m : Machine σ ν) (faulted : Bool) :
    (m.setRun (m.engine.run.map fun run => { run with faulted })).engine.isExecuting =
      m.engine.isExecuting := by
  rw [Engine.isExecuting, Engine.isExecuting, setRun, Option.isSome_map]

theorem Stands.setFaulted (h : m.Stands mark) (faulted : Bool) :
    (m.setRun (m.engine.run.map fun run => { run with faulted })).Stands mark := by
  have seen : (m.setRun (m.engine.run.map fun run => { run with faulted })).engine.seen =
      m.engine.seen := by
    rw [Engine.seen, Engine.seen, Engine.state, Engine.state, active_setFaulted, isExecuting_setFaulted]
    rfl
  refine ⟨⟨h.core.registered, h.core.ledger, h.core.coherent, h.core.owner, ?_, h.core.marked, ?_, ?_⟩,
    ?_, h.history⟩
  · rw [isExecuting_setFaulted]; exact h.core.fresh
  · rw [active_setFaulted]; exact h.core.acting
  · rw [active_setFaulted]; exact h.core.latest
  · rw [Engine.Hears, seen]; exact h.hears

/-- How a hook call leaves the engine, for each way in which it can end. -/
def Resumes : HookEnd × Machine σ ν → Prop
  | (.settled, m) => m.AtRest ∧ m.engine.isFaulted = false
  | (.failed _, m) => m.AtRest
  | (.restart _, m) => m.AtRest ∧ m.engine.run = none

theorem Stands.commandFailed (h : m.Stands m.engine.active) (active : m.engine.active.isSome = true)
    (index : Nat) (source : CommandError) :
    (m.commandFailed index m.register.lastTicket source).2.AtRest := by
  let failed := ((m.setRun (m.engine.run.map fun run => { run with faulted := true })).setRegister
    m.register.disarm).mark (.failed m.engine.id m.register.lastTicket)
  have disarmed := (h.setFaulted true).setRegister (r := m.register.disarm)
    (h.core.ledger.disarmed rfl rfl) rfl
  have ledger : Ledger m.engine.id failed.register failed.shared.moments := by
    rw [show failed.register = m.register.disarm from register_setRegister _ _]
    exact h.core.ledger.fail
  have stands : failed.Stands m.engine.active :=
    ⟨disarmed.core.add ledger, disarmed.hears.note rfl, disarmed.history.lawful.cons rfl
      (by rintro _ _ _ _ ⟨⟩), fun name handle hh => (disarmed.history.issued name handle hh).cons⟩
  have faulted : failed.engine.isFaulted = true := by
    obtain ⟨run, hr⟩ := Option.isSome_iff_exists.mp (isExecuting_of_active active)
    show (((m.engine.run.map _).map _).getD false) = true
    rw [hr]
    rfl
  -- The ticket is disarmed, and its failure is on record.
  have dead : Dead m.engine.id failed.register failed.shared.moments := by
    rw [show failed.register = m.register.disarm from register_setRegister _ _]
    exact ⟨rfl, List.mem_cons_self⟩
  have still : failed.engine.active = m.engine.active := active_setFaulted m true
  have rest : failed.AtRest :=
    ⟨by rw [still]; exact stands, .inr (.inr ⟨by rw [still]; exact active, faulted, dead⟩)⟩
  rw [Machine.commandFailed]
  dsimp only
  split
  · exact ⟨⟨rest.stands.core, rest.stands.hears, rest.stands.history⟩, rest.settled⟩
  · exact rest

variable [Behaviour σ ν]

theorem Stands.obey (h : m.Stands m.engine.active)
    (waiting : Waiting m.engine m.register m.shared.moments) (index : Nat) (request : Option Request) :
    Resumes (m.obey index request) := by
  have rest : ∀ notice, (m.report notice).AtRest :=
    fun _ => ⟨⟨h.core, h.hears, h.history⟩, .inr (.inl waiting)⟩
  match request with
  | none => exact ⟨⟨h, .inr (.inl waiting)⟩, waiting.2.1⟩
  | some .stop =>
    obtain ⟨stopped, idle⟩ := (rest (.stopRequested m.engine.name index)).stop
    refine ⟨stopped, ?_⟩
    rw [Engine.isFaulted, idle]
    rfl
  | some (.restart start) => exact (rest (.restartRequested m.engine.name index start)).stop

theorem Stands.settle (h : m.Stands m.engine.active)
    (waiting : Waiting m.engine m.register m.shared.moments) (index : Nat)
    (result : Except CommandError Unit) (request : Option Request) :
    Resumes (Machine.settle index m.register.lastTicket (result, request, m)) := by
  cases result with
  | error source => exact h.commandFailed waiting.1 index source
  | ok => exact h.obey waiting index request

theorem Stands.callHook (h : m.Stands m.engine.active)
    (waiting : Waiting m.engine m.register m.shared.moments) (active : m.engine.active = some index)
    (program : HookProgram ν (σ × Except CommandError Unit)) :
    Resumes (Machine.settle index m.register.lastTicket
      (m.runHook index m.register.lastTicket program)) := by
  obtain ⟨stands, still, latest⟩ := h.runHook waiting active program
  have settled := Stands.settle stands still index
    (m.runHook index m.register.lastTicket program).1 (m.runHook index m.register.lastTicket program).2.1
  rw [latest] at settled
  exact settled

omit [Behaviour σ ν] in
theorem Stands.announceTick {mark : Option Nat} (h : m.Stands mark) (index : Nat) (ticket : Ticket) :
    (m.announce .tick index ticket).Stands mark :=
  ⟨h.core.note (Moment.keepsTickets_called (by simp)), h.hears.note rfl, h.history.lawful.cons_called (by simp),
    fun name handle hh => (h.history.issued name handle hh).cons⟩

omit [Behaviour σ ν] in
theorem waiting_announceTick (waiting : Waiting m.engine m.register m.shared.moments) (index : Nat)
    (ticket : Ticket) : Waiting m.engine m.register (m.announce .tick index ticket).shared.moments :=
  ⟨waiting.1, waiting.2.1, waiting.2.2.keep (Moment.keepsTickets_called (by simp))⟩

theorem Stands.callTick (h : m.Stands m.engine.active)
    (waiting : Waiting m.engine m.register m.shared.moments) (active : m.engine.active = some index) :
    Resumes (m.callTick index m.register.lastTicket) := by
  rw [Machine.callTick]
  split
  · exact ⟨⟨h, .inr (.inl waiting)⟩, waiting.2.1⟩
  · exact (h.announceTick index m.register.lastTicket).callHook
      (Machine.waiting_announceTick waiting index m.register.lastTicket) active _

/-! ## Taking a jump -/

omit [Behaviour σ ν] in
theorem Ready.takeJump_none {m' : Machine σ ν} (h : m.Ready) (heq : m.takeJump = (none, m')) :
    m'.AtRest := by
  rw [takeJump] at heq
  split at heq
  · next pending =>
    obtain rfl : m = m' := congrArg Prod.snd heq
    rcases h.phase with waiting | forced
    · exact ⟨h.stands, .inr (.inl waiting)⟩
    · exact absurd forced.2.2.2 (by simp [pending])
  · simp at heq

omit [Behaviour σ ν] in
theorem Ready.takeJump_some {m' : Machine σ ν} {jump : Jump} (h : m.Ready)
    (heq : m.takeJump = (some jump, m')) : m'.Stands none ∧ Between m'.engine m'.register := by
  rw [takeJump] at heq
  split at heq
  · simp at heq
  · next pending =>
    obtain rfl : _ = m' := congrArg Prod.snd heq
    -- Whoever has set the jump has disarmed the ticket.
    have between : Between m.engine m.register.clearPending := by
      rcases h.phase with waiting | forced
      · rcases waiting.2.2 with ⟨_, none_pending⟩ | ⟨disarmed, _⟩
        · simp [pending] at none_pending
        · exact ⟨isExecuting_of_active waiting.1, waiting.2.1, disarmed, rfl⟩
      · exact ⟨forced.1, forced.2.1, forced.2.2.1, rfl⟩
    have cleared : (m.setRegister m.register.clearPending).Stands m.engine.active :=
      h.stands.setRegister h.stands.core.ledger.clearPending rfl
    have register : (m.setRegister m.register.clearPending).register = m.register.clearPending :=
      register_setRegister _ _
    dsimp only
    split
    · next inactive =>
      rw [show m.engine.active = none from inactive] at cleared
      exact ⟨cleared, by rw [register]; exact between⟩
    · next index active =>
      rw [show m.engine.active = some index from active] at cleared
      exact ⟨cleared.unmark, by
        rw [show (setExecuting _ index false).register = _ from register]; exact between⟩

/-! ## Activating a command -/

section Enter

omit [Behaviour σ ν]

theorem active_enter (executing : m.engine.isExecuting = true) :
    (m.enter index).engine.active = some index := by
  obtain ⟨run, hr⟩ := Option.isSome_iff_exists.mp executing
  show (m.engine.run.map _).bind _ = some index
  rw [hr]
  rfl

theorem isExecuting_enter : (m.enter index).engine.isExecuting = m.engine.isExecuting :=
  Option.isSome_map

theorem isFaulted_enter : (m.enter index).engine.isFaulted = m.engine.isFaulted := by
  show ((m.engine.run.map _).map _).getD false = (m.engine.run.map _).getD false
  cases m.engine.run <;> rfl

theorem seen_enter (executing : m.engine.isExecuting = true) (total : Nat) :
    (m.enter index).engine.seen = m.engine.seen.hear (.executing index total) := by
  rw [Engine.seen, active_enter executing, Engine.state, isExecuting_enter]
  rfl

theorem Stands.tell_executing (h : m.Stands none) (name : String) (index total : Nat) :
    let told := if m.engine.listener = none then m.shared.moments else
      .told (.commandExecuting m.engine.ref name index total) :: m.shared.moments
    Ledger m.engine.id m.register told ∧
    (∀ ticket board, Lawful (.called m.engine.id .execute index ticket board :: told)) ∧
    (∀ name handle, m.shared.board.handles.get? name = some handle → Issued told handle) ∧
    (m.engine.listener ≠ none →
      heard m.engine.id told = heard m.engine.id m.shared.moments ++ [.executing index total]) := by
  intro told
  -- Without a listener nothing is told.
  by_cases silent : m.engine.listener = none
  · have same : told = m.shared.moments := if_pos silent
    rw [same]
    exact ⟨h.core.ledger, fun _ _ => h.history.lawful.cons_called (by simp), h.history.issued,
      fun hl => absurd silent hl⟩
  · have more : told = .told (.commandExecuting m.engine.ref name index total) :: m.shared.moments :=
      if_neg silent
    have news : (Moment.told (.commandExecuting m.engine.ref name index total) : Moment ν).heard?
        m.engine.id = some (.executing index total) := if_pos rfl
    rw [more]
    refine ⟨h.core.ledger.keep (Moment.keepsTickets_told _), fun ticket board => ?_,
      fun name handle hh => (h.history.issued name handle hh).cons, fun _ => ?_⟩
    · exact h.history.lawful.told_called m.engine.ref name index total ticket board
    · rw [heard_cons, news]
      rfl

/-- The engine right when the execute hook of the command at `index` is called. -/
def calling (m : Machine σ ν) (index : Nat) (name : String) : Machine σ ν :=
  let told := (m.enter index).tell
    (.commandExecuting m.engine.ref name index m.engine.sequence.len)
    (.commandExecuting m.engine.name name index m.engine.sequence.len)
  let armed := told.setRegister told.register.arm
  (armed.report (.hookStarted m.engine.name index name)).announce .execute index
    told.register.arm.lastTicket

theorem engine_calling (m : Machine σ ν) (index : Nat) (name : String) :
    (m.calling index name).engine = (m.enter index).engine := engine_tell ..

theorem board_calling (m : Machine σ ν) (index : Nat) (name : String) :
    (m.calling index name).shared.board = m.shared.board.setRegister m.engine.id m.register.arm := by
  have told : ∀ event notice, ((m.enter index).tell event notice).register = m.register :=
    fun _ _ => register_tell ..
  simp only [calling, announce, mark, record, report, setRegister, Shared.mark, Shared.record,
    Shared.report, engine_tell, board_tell, told]
  rfl

theorem register_calling (m : Machine σ ν) (index : Nat) (name : String) :
    (m.calling index name).register = m.register.arm := by
  rw [Machine.register, engine_calling, board_calling]
  exact Switchboard.register_setRegister_self

theorem moments_calling (m : Machine σ ν) (index : Nat) (name : String) :
    ∃ board, (m.calling index name).shared.moments =
      .called m.engine.id .execute index m.register.arm.lastTicket board ::
        if m.engine.listener = none then m.shared.moments else
          .told (.commandExecuting m.engine.ref name index m.engine.sequence.len) :: m.shared.moments := by
  let told := (m.enter index).tell
    (.commandExecuting m.engine.ref name index m.engine.sequence.len)
    (.commandExecuting m.engine.name name index m.engine.sequence.len)
  have engine : told.engine = (m.enter index).engine := engine_tell ..
  have id : told.engine.id = m.engine.id := by rw [engine]; rfl
  have arm : told.register = m.register := register_tell ..
  have past : told.shared.moments = if m.engine.listener = none then m.shared.moments else
      .told (.commandExecuting m.engine.ref name index m.engine.sequence.len) :: m.shared.moments :=
    moments_tell ..
  rw [← id, ← arm, ← past]
  exact ⟨_, rfl⟩

theorem Stands.calling (h : m.Stands none) (executing : m.engine.isExecuting = true)
    (runs : ∃ form, m.engine.sequence.forms[index]? = some form ∧ form.kind = .action) (name : String) :
    (m.calling index name).Stands (some index) := by
  have engine := engine_calling m index name
  have id : (m.calling index name).engine.id = m.engine.id := by rw [engine]; rfl
  have sequence : (m.calling index name).engine.sequence = m.engine.sequence.setExecuting index true := by
    rw [engine]; rfl
  have board := board_calling m index name
  have register : (m.calling index name).shared.board.register m.engine.id = m.register.arm := by
    rw [board, Switchboard.register_setRegister_self]
  obtain ⟨found, moments⟩ := moments_calling m index name
  have mild := Sequence.mild_setExecuting (σ := σ) true
  obtain ⟨ledger, lawful, issued, hears⟩ := h.tell_executing name index m.engine.sequence.len
  -- The next ticket is armed and the entry is marked; all else is as it was.
  refine ⟨⟨?_, ?_, ?_, ?_, ?_, ?_, ?_, ?_⟩, ?_, ?_, ?_⟩
  · rw [id, register, board]
    exact Switchboard.get?_setRegister.trans (if_pos rfl)
  · rw [id, register, moments]
    exact ledger.activate index _
  · rw [sequence]; exact h.core.coherent.update mild index
  · rw [sequence, id]; exact Sequence.owner_update.trans h.core.owner
  · rw [sequence]; exact fun _ => Sequence.needsRefresh_update.trans (h.core.fresh executing)
  · rw [sequence]; exact h.core.marked.set h.core.coherent
  · rw [sequence, engine, active_enter executing]
    rintro _ ⟨⟩
    rw [Sequence.setExecuting, Sequence.forms_update h.core.coherent mild]
    exact runs
  · rw [id, register, moments, engine, active_enter executing]
    rintro _ ⟨⟩
    exact ⟨_, List.mem_cons_self⟩
  · rw [engine]
    intro hl
    have hears := hears hl
    rw [seen_enter executing m.engine.sequence.len, moments, heard_cons]
    rw [show (m.enter index).engine.id = m.engine.id from rfl, hears]
    rw [show (Moment.called m.engine.id .execute index m.register.arm.lastTicket found :
      Moment ν).heard? m.engine.id = none from rfl, Option.toList_none, List.append_nil]
    exact (h.hears hl).step (if_pos executing) index _
  · rw [moments]
    exact lawful _ _
  · rw [moments, board]
    exact fun name handle hh => (issued name handle hh).cons

/-- What the hooks of the command at `index` see. -/
def view (m : Machine σ ν) (index : Nat) : View :=
  ⟨index, m.engine.sequence.len, m.engine.sequence.layout.labels, m.engine.sequence.layout.blocks⟩

theorem hookTarget?_eq (coherent : m.engine.sequence.Coherent)
    (fresh : m.engine.sequence.indicesStale = false) :
    m.hookTarget? index = m.engine.sequence.entries[index]?.map fun entry => (entry, m.view index) := by
  have slot : m.engine.sequence.layout.slotOf index = m.engine.sequence.slotOf index := by
    rw [Sequence.slotOf, if_neg (by simp [fresh])]
  rw [← coherent.entry?_eq, Sequence.entry?, ← slot, hookTarget?]
  cases m.engine.sequence.layout.slotOf index with
  | none => rfl
  | some slot =>
    simp only [Option.bind_eq_bind, Option.bind_some]
    cases m.engine.sequence.slots[slot]? with
    | none => rfl
    | some entry => cases entry <;> rfl

end Enter

theorem callExecute_eq {entry : Entry σ} {view : View} (target : m.hookTarget? index = some (entry, view))
    (ticket : Ticket) : m.callExecute index ticket = settle index ticket
      (((m.report (.hookStarted m.engine.name index entry.command.name)).announce .execute index
        ticket).runHook index ticket (Behaviour.execute entry.command.state view)) := by
  rw [callExecute, target]

theorem Stands.activate_eq (h : m.Stands none) (executing : m.engine.isExecuting = true)
    (runs : ∃ form, m.engine.sequence.forms[index]? = some form ∧ form.kind = .action) :
    ∃ entry, m.engine.sequence.entries[index]? = some entry ∧
      m.activate index = Machine.settle index m.register.arm.lastTicket
        ((m.calling index entry.command.name).runHook index m.register.arm.lastTicket
          (Behaviour.execute entry.command.state (m.view index))) := by
  obtain ⟨entry, found⟩ : ∃ entry, m.engine.sequence.entries[index]? = some entry := by
    obtain ⟨form, hf, -⟩ := runs
    rw [Sequence.forms, List.getElem?_map] at hf
    exact (Option.map_eq_some_iff.mp hf).imp fun _ => And.left
  have mild := Sequence.mild_setExecuting (σ := σ) true
  have coherent : (m.enter index).engine.sequence.Coherent := h.core.coherent.update mild index
  have fresh : (m.enter index).engine.sequence.indicesStale = false := by
    have fresh : (m.enter index).engine.sequence.needsRefresh = false :=
      Sequence.needsRefresh_update.trans (h.core.fresh executing)
    exact (Bool.or_eq_false_iff.mp fresh).1
  -- Marking the entry changes neither its command nor what a hook sees of the sequence.
  have entered : (m.enter index).engine.sequence.entries[index]? =
      some { entry with executing := true } := by
    rw [show (m.enter index).engine.sequence = m.engine.sequence.setExecuting index true from rfl,
      Sequence.setExecuting, h.core.coherent.entries_update, List.getElem?_modify, found]
    simp
  have command : (m.enter index).engine.sequence.get? index = some entry.command := by
    rw [coherent.get?_eq, entered]
    rfl
  have view : (m.enter index).view index = m.view index := by
    rw [Machine.view, Machine.view,
      show (m.enter index).engine.sequence = m.engine.sequence.setExecuting index true from rfl,
      Sequence.setExecuting, Sequence.len_update, Sequence.layout_update]
  refine ⟨entry, found, ?_⟩
  rw [Machine.activate, command]
  dsimp only
  let told := (m.enter index).tell
    (.commandExecuting m.engine.ref entry.command.name index m.engine.sequence.len)
    (.commandExecuting m.engine.name entry.command.name index m.engine.sequence.len)
  -- Nor does what the listener is told, before the hook is looked up.
  have target : (told.setRegister told.register.arm).hookTarget? index =
      some ({ entry with executing := true }, m.view index) := by
    have same : (told.setRegister told.register.arm).hookTarget? index =
        (m.enter index).hookTarget? index := by
      rw [hookTarget?, hookTarget?, Machine.setRegister, engine_tell]
    rw [same, hookTarget?_eq coherent fresh, entered, Option.map_some, view]
  have arm : told.register = m.register := register_tell ..
  have engine : told.engine = (m.enter index).engine := engine_tell ..
  have name : told.engine.name = m.engine.name := by rw [engine]; rfl
  refine (callExecute_eq target told.register.arm.lastTicket).trans ?_
  rw [show (told.setRegister told.register.arm).engine.name = m.engine.name from name, ← arm]
  rfl

theorem Stands.activate (h : m.Stands none) (between : Between m.engine m.register)
    (runs : ∃ form, m.engine.sequence.forms[index]? = some form ∧ form.kind = .action) :
    Resumes (m.activate index) := by
  obtain ⟨executing, sane, -, -⟩ := between
  obtain ⟨entry, -, activated⟩ := h.activate_eq executing runs
  let called := m.calling index entry.command.name
  have stands : called.Stands (some index) := h.calling executing runs entry.command.name
  have engine : called.engine = (m.enter index).engine := engine_calling ..
  have register : called.register = m.register.arm := register_calling ..
  have active : called.engine.active = some index :=
    (congrArg Engine.active engine).trans (active_enter executing)
  have faulted : called.engine.isFaulted = false := by
    rw [engine, isFaulted_enter]
    exact sane
  have live : Live called.engine.id called.register called.shared.moments := by
    rw [register]
    exact .inl ⟨rfl, rfl⟩
  rw [activated, ← register]
  rw [← active] at stands
  exact stands.callHook ⟨by rw [active]; rfl, faulted, live⟩ active _

end Machine

end Sequencer
