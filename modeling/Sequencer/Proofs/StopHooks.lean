import Sequencer.Proofs.Fates
import Sequencer.Proofs.Superseding

/-!
# When stop hooks are called

A stop calls the stop hook of the active command once, a redirect does so unless the command has signalled,
and nothing else ever does.
-/

namespace Sequencer

variable {σ ν : Type}

/-! ## Calls of one engine -/

section Calls

variable {id : EngineId} {moments : List (Moment ν)} {turns : List (Turn ν)} {ticket : Ticket}

/-- The positions and tickets of the activations by an engine, the latest first. -/
def Moment.issue? (id : EngineId) : Moment ν → Option (Nat × Ticket)
  | .called engine .execute index ticket _ => if engine = id then some (index, ticket) else none
  | _ => none

theorem Moment.issue?_map (moment : Moment ν) : (moment.issue? id).map Prod.fst = moment.call? id ∧
    (moment.issue? id).map Prod.snd = moment.activation? id := by
  cases moment with
  | called engine hook index ticket board =>
    cases hook with
    | execute =>
      simp only [issue?, call?, activation?]
      split <;> exact ⟨rfl, rfl⟩
    | tick | stop => exact ⟨rfl, rfl⟩
  | _ => exact ⟨rfl, rfl⟩

theorem issues_map : (moments.filterMap (Moment.issue? id)).map Prod.fst = calls id moments ∧
    (moments.filterMap (Moment.issue? id)).map Prod.snd = activations id moments := by
  simp only [List.map_filterMap, Moment.issue?_map, calls, activations, and_self]

theorem head_calls {index : Nat} {board : Switchboard} (nodup : (activations id moments).Nodup)
    (latest : (activations id moments).head? = some ticket)
    (called : .called id .execute index ticket board ∈ moments) : (calls id moments).head? = some index := by
  have issued : (index, ticket) ∈ moments.filterMap (Moment.issue? id) :=
    List.mem_filterMap.mpr ⟨_, called, if_pos rfl⟩
  rw [← issues_map.2] at nodup latest
  rw [← issues_map.1]
  generalize moments.filterMap (Moment.issue? id) = issues at nodup latest issued
  cases issues with
  | nil => simp at issued
  | cons first rest =>
    obtain rfl : first.2 = ticket := Option.some.inj latest
    rcases List.mem_cons.mp issued with same | later
    · rw [← same]
      rfl
    · exact absurd (List.mem_map_of_mem later) (List.nodup_cons.mp nodup).1

/--
The stop hook of the latest activation has been called once, and code of the host has run since. There is an
excuse for the call.
-/
structure Halted (id : EngineId) (excused : Ticket → Prop) (ticket : Ticket) (before moments : List (Moment ν))
    (turns : List (Turn ν)) : Prop where
  disciplined : Disciplined id (fun number => excused number ∨ number = ticket) moments turns
  tickets : activations id moments = activations id before
  once : halts id ticket moments = 1
  unheard : landings id ticket before = 0 → Unheard id ticket moments
  failed : .failed id ticket ∈ before → .failed id ticket ∈ moments

theorem keepsHalts_landed (handle : Handle) : (Moment.landed handle : Moment ν).KeepsHalts id := ⟨rfl, fun _ => rfl⟩

theorem Halted.land {excused : Ticket → Prop} {before : List (Moment ν)}
    (h : Halted id excused ticket before moments turns) (handle : Handle) :
    Halted id excused ticket before (.landed handle :: moments) turns where
  disciplined := h.disciplined.cons (keepsHalts_landed handle)
  tickets := h.tickets
  once := h.once
  unheard none_landed index board earlier suffix :=
    h.unheard none_landed index board earlier (isHalt_of_suffix suffix rfl)
  failed hf := .tail _ (h.failed hf)

end Calls

/-! ## Between hooks -/

section Moments

variable {id : EngineId}

theorem keepsHalts_told (event : Event ν) : (Moment.told event).KeepsHalts id := ⟨rfl, fun _ => rfl⟩

theorem keepsHalts_failed (engine : EngineId) (ticket : Ticket) :
    (Moment.failed engine ticket : Moment ν).KeepsHalts id :=
  ⟨rfl, fun _ => rfl⟩

theorem keepsHalts_tick (engine : EngineId) (index : Nat) (ticket : Ticket) (board : Switchboard) :
    (Moment.called engine .tick index ticket board : Moment ν).KeepsHalts id :=
  ⟨rfl, fun _ => rfl⟩

end Moments

namespace Machine

variable {m m' : Machine σ ν} {index : Nat} {excused excused' : Ticket → Prop}

/-- Between operations and while its hooks run: the stop hook of an ongoing activation has not been called. -/
structure Held (m : Machine σ ν) (excused : Ticket → Prop) : Prop where
  paced : Paced m.engine.id excused m.engine.active m.shared.moments m.shared.turns
  unhalted : m.engine.active.isSome = true → Unhalted m.engine.id m.shared.moments

/-- At the head of the loop: the activation goes on, or the run may go on from it. -/
structure Heads (m : Machine σ ν) (excused : Ticket → Prop) : Prop where
  paced : Paced m.engine.id excused m.engine.active m.shared.moments m.shared.turns
  departing : m.engine.active.isSome = true →
    Waiting m.engine m.register m.shared.moments ∧ Unhalted m.engine.id m.shared.moments ∨
    m.register.pending.isSome = true ∧ Departing m.engine.id m.shared.moments

theorem Held.mono (h : m.Held excused) (more : ∀ ticket, excused ticket → excused' ticket) : m.Held excused' :=
  ⟨⟨h.paced.disciplined.mono more, h.paced.ongoing⟩, h.unhalted⟩

theorem Heads.mono (h : m.Heads excused) (more : ∀ ticket, excused ticket → excused' ticket) :
    m.Heads excused' :=
  ⟨⟨h.paced.disciplined.mono more, h.paced.ongoing⟩, h.departing⟩

theorem Stands.latest {mark : Option Nat} (h : m.Stands mark) (active : m.engine.active = some index) :
    (activations m.engine.id m.shared.moments).head? = some m.register.lastTicket ∧
      (calls m.engine.id m.shared.moments).head? = some index := by
  obtain ⟨board, called⟩ := h.core.latest index active
  have latest := h.core.ledger.head_activations (mem_activations called)
  exact ⟨latest, head_calls h.core.ledger.nodup latest called⟩

theorem Held.heads (h : m.Held excused) (waiting : m.engine.active.isSome = true →
    Waiting m.engine m.register m.shared.moments) : m.Heads excused :=
  ⟨h.paced, fun active => .inl ⟨waiting active, h.unhalted active⟩⟩

theorem Heads.of_inactive (h : Paced m.engine.id excused none m.shared.moments m.shared.turns)
    (inactive : m.engine.active = none) : m.Heads excused := by
  rw [← inactive] at h
  exact ⟨h, by simp [inactive]⟩

theorem Held.of_inactive (h : Paced m.engine.id excused none m.shared.moments m.shared.turns)
    (inactive : m.engine.active = none) : m.Held excused := by
  rw [← inactive] at h
  exact ⟨h, by simp [inactive]⟩

theorem Stands.departing {mark : Option Nat} (stands : m.Stands mark) (active : m.engine.active = some index)
    (unhalted : Unhalted m.engine.id m.shared.moments)
    (signalled : .failed m.engine.id m.register.lastTicket ∉ m.shared.moments →
      landings m.engine.id m.register.lastTicket m.shared.moments = 1) :
    Departing m.engine.id m.shared.moments := by
  intro ticket latest
  have none_called := unhalted ticket latest
  rw [(stands.latest active).1] at latest
  obtain rfl := Option.some.inj latest
  refine ⟨by omega, fun sane => .inl ⟨none_called, ?_⟩⟩
  rw [signalled sane]
  exact Nat.one_ne_zero

theorem landed_of_waiting (h : Waiting m.engine m.register m.shared.moments)
    (pending : m.register.pending.isSome = true) :
    landings m.engine.id m.register.lastTicket m.shared.moments = 1 := by
  rcases h.2.2 with ⟨-, none_pending⟩ | ⟨-, -, landed⟩
  · simp [none_pending] at pending
  · exact landed

theorem Heads.departs (h : m.Heads excused) (stands : m.Stands m.engine.active)
    (pending : m.register.pending.isSome = true) (active : m.engine.active.isSome = true) :
    Departing m.engine.id m.shared.moments := by
  obtain ⟨index, hi⟩ := Option.isSome_iff_exists.mp active
  rcases h.departing active with ⟨waiting, unhalted⟩ | ⟨-, departing⟩
  · exact stands.departing hi unhalted fun _ => landed_of_waiting waiting pending
  · exact departing

/-! ## Telling and running hooks -/

theorem paced_tell {active : Option Nat}
    (h : Paced m.engine.id excused active m.shared.moments m.shared.turns) (event : Event ν) (notice : Notice) :
    Paced m.engine.id excused active (m.tell event notice).shared.moments
      (m.tell event notice).shared.turns := by
  rw [Machine.tell]
  split
  · exact h
  · exact h.cons (keepsHalts_told event)
  · exact h.cons (keepsHalts_told event)

theorem paced_enterIdle (h : Paced m.engine.id excused none m.shared.moments m.shared.turns) :
    Paced m.engine.id excused none m.enterIdle.shared.moments m.enterIdle.shared.turns :=
  Machine.paced_tell (m := (m.setRun none).report (.runEnded m.engine.name m.engine.runCount)) h _ _

theorem Held.runHook (h : m.Held excused) (index : Nat) (ticket : Ticket)
    (program : HookProgram ν (σ × Except CommandError Unit)) :
    (m.runHook index ticket program).2.2.Held excused := by
  have keeps := (Machine.KeepsTurns.refl m).runHook index ticket program
  have land : ∀ moments handle,
      Paced m.engine.id excused m.engine.active moments m.shared.turns ∧
        (m.engine.active.isSome = true → Unhalted m.engine.id moments) →
      Paced m.engine.id excused m.engine.active (.landed handle :: moments) m.shared.turns ∧
        (m.engine.active.isSome = true → Unhalted m.engine.id (.landed handle :: moments)) :=
    fun _ handle held =>
      ⟨held.1.cons (keepsHalts_landed handle), fun active => (held.2 active).cons (keepsHalts_landed handle)⟩
  have held := hook_of_land land ⟨h.paced, h.unhalted⟩ ⟨m.engine.id, ticket, index⟩ program
  rw [← keeps.shared.turns] at held
  exact ⟨held.1, held.2⟩

theorem Held.commandFailed (h : m.Held excused) (index : Nat) (ticket : Ticket) (source : CommandError) :
    (m.commandFailed index ticket source).2.Held excused := by
  let failed := ((m.setRun (m.engine.run.map fun run => { run with faulted := true })).setRegister
    m.register.disarm).mark (.failed m.engine.id ticket)
  have active : failed.engine.active = m.engine.active := active_setFaulted m true
  have held : failed.Held excused := by
    refine ⟨?_, fun still => ?_⟩
    · rw [active]
      exact h.paced.cons (keepsHalts_failed m.engine.id ticket)
    · rw [active] at still
      exact (h.unhalted still).cons (keepsHalts_failed m.engine.id ticket)
  rw [Machine.commandFailed]
  dsimp only
  split
  · exact ⟨held.paced, held.unhalted⟩
  · exact held

variable [Behaviour σ ν]

/-! ## Stop hooks -/

theorem Held.interrupt {mark : Option Nat} (h : m.Held excused) (stands : m.Stands mark)
    (active : m.engine.active = some index) :
    Halted m.engine.id excused m.register.lastTicket m.shared.moments (m.interrupt index).shared.moments
      m.shared.turns := by
  obtain ⟨entry, found⟩ := stands.entry? active
  obtain ⟨latest, called⟩ := stands.latest active
  have busy : m.engine.active.isSome = true := by rw [active]; rfl
  obtain ⟨disciplined, once, unheard⟩ := h.paced.disciplined.halt stands.core.ledger.nodup called latest
    (h.paced.ongoing.mpr busy) (h.unhalted busy _ latest) m.shared.board
  have halted : Halted m.engine.id excused m.register.lastTicket m.shared.moments
      (m.announce .stop index m.register.lastTicket).shared.moments m.shared.turns :=
    ⟨disciplined, activations_cons, once, unheard, List.mem_cons_of_mem _⟩
  rw [Machine.interrupt, if_pos (by rw [found]; rfl), callStopHook]
  split
  · exact halted
  · exact perform_of_land (P := fun moments =>
      Halted m.engine.id excused m.register.lastTicket m.shared.moments moments m.shared.turns)
      (fun _ handle halted => halted.land handle) halted _

omit [Behaviour σ ν] in
theorem Held.setExecuting (h : m.Held excused) (index : Nat) (executing : Bool) :
    (m.setExecuting index executing).Held excused :=
  ⟨h.paced, h.unhalted⟩

theorem Held.stop (h : m.Held excused) (rest : m.AtRest) :
    Paced m.stop.engine.id excused none m.stop.shared.moments m.stop.shared.turns := by
  by_cases executing : m.engine.isExecuting = true
  · obtain ⟨index, active⟩ := Option.isSome_iff_exists.mp (rest.settled.active executing)
    have stands := rest.stands
    rw [active] at stands
    -- The stop hook runs before the run is given up.
    have halted := (h.setExecuting index false).interrupt stands.unmark active
    have keeps : m.KeepsTurns ((m.setExecuting index false).interrupt index) :=
      ((Machine.KeepsTurns.refl m).setSequence _).interrupt index
    have latest := (stands.latest active).1
    have paced : Paced (m.aborting index).engine.id excused none (m.aborting index).shared.moments
        (m.aborting index).shared.turns := by
      have id : (m.aborting index).engine.id = m.engine.id := keeps.id
      have turns : (m.aborting index).shared.turns =
          .aborted m.engine.id ((m.setExecuting index false).interrupt index).engine.runCount :: m.shared.turns :=
        congrArg₂ (fun id turns => Turn.aborted id _ :: turns) keeps.id keeps.shared.turns
      rw [id, turns]
      refine halted.disciplined.abort _ (halted.tickets ▸ latest) ?_ halted.once
      exact h.paced.ongoing.mpr (by rw [active]; rfl)
    rw [stop_eq active]
    have idle := paced_enterIdle paced
    rwa [engine_enterIdle]
  · have idle := run_of_not_executing executing
    have inactive : m.engine.active = none := by rw [Engine.active, idle]; rfl
    have paced := h.paced
    rw [Machine.stop, idle]
    rwa [inactive] at paced

omit [Behaviour σ ν] in
theorem AtRest.sane_waiting (rest : m.AtRest) (executing : m.engine.isExecuting = true)
    (sane : .failed m.engine.id m.register.lastTicket ∉ m.shared.moments) :
    Waiting m.engine m.register m.shared.moments := by
  rcases rest.settled with idle | waiting | faulted
  · simp [Engine.isExecuting, idle.1] at executing
  · exact waiting
  · exact absurd faulted.2.2.2 sane

omit [Behaviour σ ν] in
theorem AtRest.unsignalled (rest : m.AtRest) (executing : m.engine.isExecuting = true)
    (pending : m.register.pending = none)
    (sane : .failed m.engine.id m.register.lastTicket ∉ m.shared.moments) :
    landings m.engine.id m.register.lastTicket m.shared.moments = 0 := by
  rcases (rest.sane_waiting executing sane).2.2 with ⟨armed, -⟩ | ⟨-, some_pending, -⟩
  · exact (rest.stands.core.ledger.armed _ armed).2.1
  · simp [pending] at some_pending

/-- A redirect calls the stop hook of the active command once, unless it has signalled. -/
theorem Held.departing_jumpTo (h : m.Held excused) (rest : m.AtRest) {run : Run ν} (hr : m.engine.run = some run)
    (target : Nat) : Departing m.engine.id (m.jumpTo run target).shared.moments ∧
      Disciplined m.engine.id
        (fun ticket => excused ticket ∨ m.register.pending = none ∧ ticket = m.register.lastTicket)
        (m.jumpTo run target).shared.moments m.shared.turns := by
  have executing : m.engine.isExecuting = true := by rw [Engine.isExecuting, hr]; rfl
  obtain ⟨index, active⟩ := Option.isSome_iff_exists.mp (rest.settled.active executing)
  have own : run.active = some index := by rw [← active, Engine.active, hr]; rfl
  rw [Machine.jumpTo, own]
  split
  · next active' pending heq =>
    -- The command has not signalled, and is interrupted.
    obtain rfl : index = active' := Option.some.inj heq
    have halted := h.interrupt rest.stands active
    refine ⟨fun ticket latest => ?_, halted.disciplined.mono fun ticket => Or.imp_right (.intro pending)⟩
    have latest : (activations m.engine.id (m.interrupt index).shared.moments).head? = some ticket := latest
    rw [halted.tickets, (rest.stands.latest active).1] at latest
    obtain rfl := Option.some.inj latest
    refine ⟨Nat.le_of_eq halted.once, fun sane => .inr ⟨halted.once, halted.unheard ?_⟩⟩
    exact rest.unsignalled executing pending fun failed => sane (halted.failed failed)
  · next not_silent =>
    -- A signal has landed, and no hook is called.
    have pending : m.register.pending.isSome = true := by
      cases pending : m.register.pending with
      | none => exact (not_silent index pending rfl).elim
      | some jump => rfl
    refine ⟨rest.stands.departing active (h.unhalted (by rw [active]; rfl)) fun sane => ?_,
      h.paced.disciplined.mono fun _ => .inl⟩
    exact landed_of_waiting (rest.sane_waiting executing sane) pending

theorem active_jumpTo (m : Machine σ ν) (run : Run ν) (target : Nat) :
    (m.jumpTo run target).engine.active = m.engine.active := by
  rw [jumpTo]
  split
  · refine (active_setFaulted _ false).trans ?_
    rw [Engine.active, Engine.active, run_interrupt]
  · exact active_setFaulted m false

theorem pending_jumpTo (m : Machine σ ν) (run : Run ν) (target : Nat) :
    (m.jumpTo run target).register.pending = some (.to target) := by
  rw [jumpTo, register_setRegister]
  rfl

theorem Held.jumpTo (h : m.Held excused) (rest : m.AtRest) {run : Run ν} (hr : m.engine.run = some run)
    (target : Nat) : (m.jumpTo run target).Heads
      fun ticket => excused ticket ∨ m.register.pending = none ∧ ticket = m.register.lastTicket := by
  obtain ⟨departing, disciplined⟩ := h.departing_jumpTo rest hr target
  have keeps := (Machine.KeepsTurns.refl m).jumpTo run target
  refine ⟨⟨?_, ?_⟩, fun _ => .inr ⟨by rw [pending_jumpTo]; rfl, ?_⟩⟩
  · rw [keeps.id, keeps.shared.turns]
    exact disciplined
  · rw [keeps.id, keeps.shared.turns, active_jumpTo]
    exact h.paced.ongoing
  · rw [keeps.id]
    exact departing

/-! ## The loop goes on -/

section Loop

omit [Behaviour σ ν]

variable {jump : Jump}

theorem takeJump_kept (taken : m.takeJump = (some jump, m')) : m'.shared.moments = m.shared.moments ∧
    m'.shared.turns = m.shared.turns ∧ m'.engine.id = m.engine.id ∧ m'.engine.active = m.engine.active ∧
    m.register.pending = some jump := by
  rw [takeJump] at taken
  split at taken
  · simp at taken
  · next pending =>
    obtain ⟨same, rfl⟩ := Prod.mk.inj taken
    split <;> exact ⟨rfl, rfl, rfl, rfl, pending.trans same⟩

theorem Heads.parting (h : m.Heads excused) (stands : m.Stands m.engine.active)
    (taken : m.takeJump = (some jump, m')) :
    Disciplined m'.engine.id excused m'.shared.moments m'.shared.turns ∧
      ∀ ticket, (activations m'.engine.id m'.shared.moments).head? = some ticket →
        (fates m'.engine.id m'.shared.turns).head? = some .ongoing →
        Parting m'.engine.id m'.shared.moments ticket := by
  obtain ⟨moments, turns, id, -, pending⟩ := takeJump_kept taken
  rw [moments, turns, id]
  refine ⟨h.paced.disciplined, fun ticket latest ongoing => ?_⟩
  exact h.departs stands (by rw [pending]; rfl) (h.paced.ongoing.mp ongoing) ticket latest

theorem Heads.finish (h : m.Heads excused) (stands : m.Stands m.engine.active)
    (taken : m.takeJump = (some jump, m')) (next : m'.engine.sequence.nextRunnable jump.target = none) :
    (m'.turn (m'.jump jump.target)).finish.Held excused := by
  obtain ⟨disciplined, parting⟩ := h.parting stands taken
  let turned := m'.turn (m'.jump jump.target)
  have turns : turned.shared.turns = .jumped m'.engine.id m'.engine.runCount jump.target
      m'.engine.sequence.outline none :: m'.shared.turns := by
    rw [← next]
    rfl
  have paced : Paced turned.engine.id excused none turned.shared.moments turned.shared.turns := by
    rw [turns]
    exact disciplined.exhaust parting
  have ended := paced_enterIdle paced
  have engine := turned.engine_enterIdle
  have inactive : turned.enterIdle.engine.active = none := by rw [engine]; rfl
  have id : turned.enterIdle.engine.id = turned.engine.id := by rw [engine]
  rw [← id] at ended
  show turned.finish.Held excused
  rw [Machine.finish]
  split
  · exact .of_inactive ended inactive
  · next callback _ =>
    -- The callback is not about any activation.
    have fires : Paced turned.enterIdle.engine.id excused none (turned.completing callback).shared.moments
        (turned.completing callback).shared.turns :=
      ⟨⟨ended.disciplined.due, ended.disciplined.latest, ended.disciplined.called⟩, ended.ongoing⟩
    have fired := perform_of_land (P := fun moments => Paced turned.enterIdle.engine.id excused none moments
      (turned.completing callback).shared.turns)
      (fun _ handle paced => paced.cons (keepsHalts_landed handle)) fires callback
    rw [← ((Shared.KeepsTurns.refl (turned.completing callback).shared).perform callback).turns] at fired
    exact .of_inactive fired inactive

theorem Heads.calling (h : m.Heads excused) (ready : m.Stands m.engine.active) (stands : m'.Stands none)
    (executing : m'.engine.isExecuting = true) (taken : m.takeJump = (some jump, m'))
    (next : m'.engine.sequence.nextRunnable jump.target = some index) (name : String) :
    ((m'.turn (m'.jump jump.target)).calling index name).Held excused := by
  obtain ⟨disciplined, parting⟩ := h.parting ready taken
  let turned := m'.turn (m'.jump jump.target)
  have turns : turned.shared.turns = .jumped m'.engine.id m'.engine.runCount jump.target
      m'.engine.sequence.outline (some index) :: m'.shared.turns := by
    rw [← next]
    rfl
  have new : turned.register.arm.lastTicket ∉ activations m'.engine.id m'.shared.moments := by
    rw [stands.core.ledger.tickets, List.mem_reverse, List.mem_range'_1, Nat.add_comm 1]
    exact fun issued => Nat.lt_irrefl _ issued.2
  have engine := turned.engine_calling index name
  have active : (turned.calling index name).engine.active = some index :=
    (congrArg Engine.active engine).trans (active_enter (m := turned) executing)
  have id : (turned.calling index name).engine.id = m'.engine.id := by rw [engine]; rfl
  have called_turns : (turned.calling index name).shared.turns = turned.shared.turns := by
    obtain ⟨before, ticket, keeps, called⟩ := turned.keepsTurns_calling index name
    rw [called]
    exact keeps.shared.turns
  obtain ⟨board, moments⟩ := turned.moments_calling index name
  -- What the listener is told first makes no difference.
  obtain ⟨told, htold, disciplined, parting, tickets⟩ : ∃ told,
      (if turned.engine.listener = none then turned.shared.moments else
        .told (.commandExecuting turned.engine.ref name index turned.engine.sequence.len) ::
          turned.shared.moments) = told ∧
      Disciplined m'.engine.id excused told m'.shared.turns ∧
      (∀ ticket, (activations m'.engine.id told).head? = some ticket →
        (fates m'.engine.id m'.shared.turns).head? = some .ongoing → Parting m'.engine.id told ticket) ∧
      activations m'.engine.id told = activations m'.engine.id m'.shared.moments := by
    refine ⟨_, rfl, ?_⟩
    split
    · exact ⟨disciplined, parting, rfl⟩
    · exact ⟨disciplined.cons (keepsHalts_told _),
        fun ticket latest ongoing => (parting ticket latest ongoing).cons rfl, rfl⟩
  rw [← tickets] at new
  obtain ⟨paced, unhalted⟩ := disciplined.activate parting new m'.engine.runCount jump.target
    m'.engine.sequence.outline index index board
  rw [← htold, ← turns] at paced
  rw [← htold] at unhalted
  refine ⟨?_, fun _ => ?_⟩
  · rw [active, id, called_turns, moments]
    exact paced
  · rw [id, moments]
    exact unhalted

end Loop

omit [Behaviour σ ν] in
theorem heads_beginRun (h : Paced m.engine.id excused none m.shared.moments m.shared.turns) (start : Nat)
    (onComplete : Option (HostProgram ν Unit)) : (m.beginRun start onComplete).Heads excused := by
  have begun : Paced (m.begun onComplete).engine.id excused none (m.begun onComplete).shared.moments
      (m.begun onComplete).shared.turns :=
    ⟨⟨h.disciplined.due, h.disciplined.latest, h.disciplined.called⟩, h.ongoing⟩
  have told := paced_tell (m := (m.begun onComplete).report (.runStarted m.engine.name (m.engine.runCount + 1) start))
    begun (.runStarted m.engine.ref) (.sequenceStarted m.engine.ref)
  have engine : (m.beginRun start onComplete).engine = (m.begun onComplete).engine := by
    rw [beginRun, setRegister, engine_tell]
    rfl
  refine .of_inactive ?_ (by rw [engine]; rfl)
  rw [engine]
  exact told

end Machine

/-! ## Whole calls -/

namespace Point

variable {excused excused' : Ticket → Prop}

def Held (excused : Ticket → Prop) : Point σ ν → Prop
  | .loop m => m.Heads excused
  | .hooked _ _ (_, _, m) => m.Held excused

/-- How a call comes back; where it does not, an activation may be on its way out. -/
def Holds (excused : Ticket → Prop) : Verdict × Machine σ ν → Prop
  | (.outOfFuel, m) => Disciplined m.engine.id excused m.shared.moments m.shared.turns
  | (.settled, m) | (.failed _, m) => m.Held excused

theorem Held.mono {p : Point σ ν} (h : p.Held excused) (more : ∀ ticket, excused ticket → excused' ticket) :
    p.Held excused' := by
  cases p with
  | loop => exact Machine.Heads.mono h more
  | hooked => exact Machine.Held.mono h more

theorem Ready.held_stop [Behaviour σ ν] {index : Nat} {ticket : Ticket} {result : Except CommandError Unit}
    {request : Option Request} {m : Machine σ ν} (ready : (hooked index ticket (result, request, m)).Ready)
    (held : m.Held excused) (notice : Notice) : (m.report notice).stop.engine.active = none ∧
      Paced (m.report notice).stop.engine.id excused none (m.report notice).stop.shared.moments
        (m.report notice).stop.shared.turns := by
  have rest : (m.report notice).AtRest :=
    ⟨⟨ready.1.core, ready.1.hears, ready.1.history⟩, .inr (.inl ready.2.1)⟩
  refine ⟨by rw [Engine.active, rest.stop.2]; rfl, ?_⟩
  exact Machine.Held.stop ⟨held.paced, held.unhalted⟩ rest

theorem carries_held [Behaviour σ ν] : Carries (σ := σ) (ν := ν) (Held excused) (Holds excused) where
  tired m _ held := Machine.Heads.paced held |>.disciplined
  rests m ready held still := by
    refine ⟨held.paced, fun active => ?_⟩
    have executing := isExecuting_of_active active
    rcases held.departing active with ⟨-, unhalted⟩ | ⟨pending, -⟩
    · exact unhalted
    · simp [still executing] at pending
  ends m m' jump ready held _ taken next := Machine.Heads.finish held ready.stands taken next
  goes m m' jump index entry ready held goes := by
    obtain ⟨executing, taken, next, found⟩ := goes
    rcases ready with ⟨-, -, going⟩ | ⟨other, -⟩
    · obtain ⟨stands, between⟩ := going.takeJump_some taken
      exact (held.calling going.stands stands between.1 taken next entry.command.name).runHook index _ _
    · exact absurd ⟨executing, rfl⟩ other
  settles index ticket result m ready held settled := by
    obtain ⟨result, request, m₀⟩ := result
    have held : m₀.Held excused := held
    cases result with
    | error source => simp [Machine.settle] at settled
    | ok =>
      match request with
      | none =>
        obtain rfl : m₀ = m := congrArg Prod.snd settled
        exact held.heads fun _ => ready.2.1
      | some .stop =>
        obtain rfl : _ = m := congrArg Prod.snd settled
        obtain ⟨inactive, paced⟩ := ready.held_stop held (.stopRequested m₀.engine.name index)
        exact .of_inactive paced inactive
      | some (.restart start) => simp [Machine.settle, Machine.obey] at settled
  fails index ticket source request m ready held := Machine.Held.commandFailed held index ticket source
  restarts index ticket start m ready held :=
    Machine.heads_beginRun (ready.held_stop held (.restartRequested m.engine.name index start)).2 start none

end Point

def Call.isRedirect : Call σ ν → Bool
  | .redirect _ | .redirectToLabel _ => true
  | _ => false

namespace Machine

variable [Behaviour σ ν] {m m' : Machine σ ν} {excused : Ticket → Prop}

/-- The call redirects the engine from an activation that has not signalled. -/
structure Diverts (m : Machine σ ν) (call : Call σ ν) (ticket : Ticket) : Prop where
  redirects : call.isRedirect = true
  accepted : (m.opening call).isSome = true
  unsignalled : m.register.pending = none
  latest : ticket = m.register.lastTicket

omit [Behaviour σ ν] in
theorem Held.keep (h : m.Held excused) (keeps : m.KeepsRunAndPast m') : m'.Held excused := by
  have active : m'.engine.active = m.engine.active := by rw [Engine.active, keeps.run]; rfl
  refine ⟨?_, fun busy => ?_⟩
  · rw [keeps.id, active, keeps.moments, keeps.turns]
    exact h.paced
  · rw [keeps.id, keeps.moments]
    rw [active] at busy
    exact h.unhalted busy

omit [Behaviour σ ν] in
theorem Held.paced_idle (h : m.Held excused) (idle : ¬ m.engine.isExecuting = true) :
    Paced m.engine.id excused none m.shared.moments m.shared.turns := by
  have inactive : m.engine.active = none := by rw [Engine.active, run_of_not_executing idle]; rfl
  rw [← inactive]
  exact h.paced

theorem Held.ticking (h : m.Held excused) (rest : m.AtRest) (sane : m.engine.isFaulted = false) :
    m.ticking.Held excused := by
  have heads : m.Heads excused :=
    h.heads fun active => rest.settled.waiting (isExecuting_of_active active) sane
  rw [Machine.ticking]
  split
  · next index ticket _ _ _ =>
    split
    · next entry _ =>
      have called : (m.announce .tick index ticket).Held excused :=
        ⟨h.paced.cons (keepsHalts_tick _ _ _ _), fun active => (h.unhalted active).cons (keepsHalts_tick _ _ _ _)⟩
      exact called.runHook index ticket _
    · exact heads
  · exact heads

theorem Held.opening {call : Call σ ν} {answer : Verdict → CallReply} {p : Point σ ν} (h : m.Held excused)
    (rest : m.AtRest) (opens : m.opening call = some (answer, p)) :
    p.Held fun ticket => excused ticket ∨ m.Diverts call ticket := by
  have accepted : (m.opening call).isSome = true := by rw [opens]; rfl
  cases opens_of_opening opens with
  | execute start onComplete idle => exact (heads_beginRun (h.paced_idle idle) start onComplete).mono fun _ => .inl
  | executeLabel key start onComplete found idle =>
    have refreshed := h.keep m.keepsRunAndPast_refreshIfIdle
    exact (heads_beginRun (refreshed.paced_idle idle) start onComplete).mono fun _ => .inl
  | tick executing sane => exact (h.ticking rest sane).mono fun _ => .inl
  | redirect index run inFlight =>
    exact (h.jumpTo rest inFlight index).mono fun ticket =>
      Or.imp_right fun diverted => ⟨rfl, accepted, diverted.1, diverted.2⟩
  | redirectToLabel key target run found inFlight =>
    exact (h.jumpTo rest inFlight target).mono fun ticket =>
      Or.imp_right fun diverted => ⟨rfl, accepted, diverted.1, diverted.2⟩

theorem Held.call (h : m.Held excused) (rest : m.AtRest) (fuel : Nat) (call : Call σ ν) :
    let excused' := fun ticket => excused ticket ∨ m.Diverts call ticket
    let ended := m.call fuel call
    Disciplined m.engine.id excused' ended.2.shared.moments ended.2.shared.turns ∧
      (ended.1 = true → ended.2.Held excused') := by
  intro excused' ended
  have same : ended.2.engine.id = m.engine.id := ((Moves.refl m).call fuel call).kept.id
  rw [← same]
  unfold ended
  rw [call_eq_reply]
  cases opens : m.opening call with
  | none =>
    -- Of the calls that play nothing, only a stop does anything to the run.
    have held : (m.reply fuel call).2.Held excused' := by
      refine .mono ?_ fun _ => .inl
      by_cases stops : call = .stop
      · have inactive : m.stop.engine.active = none := by rw [Engine.active, rest.stop.2]; rfl
        rw [stops]
        exact .of_inactive (h.stop rest) inactive
      · exact h.keep (keepsRunAndPast_reply opens stops fuel)
    exact ⟨held.paced.disciplined, fun _ => held⟩
  | some opening =>
    obtain ⟨answer, p⟩ := opening
    obtain ⟨ready, replies⟩ := rest.opening opens fuel
    have holds : Point.Holds excused' (p.play fuel) := Point.carries_held.play ready (h.opening rest opens)
    rw [replies]
    dsimp only
    rw [isBack_answer opens]
    generalize p.play fuel = ended at holds
    obtain ⟨verdict, m'⟩ := ended
    cases verdict with
    | outOfFuel => exact ⟨holds, by simp [Verdict.isBack]⟩
    | settled | failed => exact ⟨Held.paced holds |>.disciplined, fun _ => holds⟩

end Machine

end Sequencer
