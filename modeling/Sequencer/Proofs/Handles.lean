import Sequencer.Command.Cue
import Sequencer.Proofs.Histories

/-!
# When handles are armed

A handle is armed exactly while its activation is the latest one of a run that waits for it. What stop
hooks find is a different matter: they are called before the run is taken away.
-/

namespace Sequencer

variable {σ ν : Type}

/-! ## Between operations -/

section Between

variable {ids : List EngineId} {s : Studio σ ν} {number : Nat} {e : Engine σ ν} {handle : Handle}

/-- What arms a handle: its activation is the latest, and waits for its first signal. -/
structure Armed (e : Engine σ ν) (ticket : Ticket) (moments : List (Moment ν)) : Prop where
  executing : e.isExecuting = true
  sane : e.isFaulted = false
  latest : (activations e.id moments).head? = some ticket
  unsignalled : landings e.id ticket moments = 0

theorem Engine.AtRest.head_activations {b : Switchboard} {moments : List (Moment ν)}
    (h : e.AtRest b moments) (executing : e.isExecuting = true) :
    (activations e.id moments).head? = some (b.register e.id).lastTicket := by
  obtain ⟨index, active⟩ := Option.isSome_iff_exists.mp (h.settled.active executing)
  obtain ⟨_, called⟩ := h.core.latest index active
  exact h.core.ledger.head_activations (mem_activations called)

theorem Engine.AtRest.armed_iff {b : Switchboard} {moments : List (Moment ν)} (h : e.AtRest b moments)
    (he : handle.engine = e.id) : b.isArmed handle = true ↔ Armed e handle.ticket moments := by
  have armed_iff : b.isArmed handle = true ↔ (b.register e.id).armed = some handle.ticket := by
    rw [Switchboard.isArmed, he, h.core.registered, decide_eq_true_iff]
  rw [armed_iff]
  constructor
  · intro armed
    obtain ⟨last, unsignalled, -⟩ := h.core.ledger.armed _ armed
    rcases h.settled with idle | waiting | faulted
    · simp [idle.2] at armed
    · have executing := isExecuting_of_active waiting.1
      exact ⟨executing, waiting.2.1, by rw [h.head_activations executing, last], unsignalled⟩
    · simp [faulted.2.2.1] at armed
  · rintro ⟨executing, sane, latest, unsignalled⟩
    rw [h.head_activations executing, Option.some_inj] at latest
    rw [← latest] at unsignalled ⊢
    rcases (h.settled.waiting executing sane).2.2 with ⟨armed, -⟩ | ⟨-, -, landed⟩
    · exact armed
    · rw [unsignalled] at landed
      simp at landed

theorem Studio.Sound.armed_iff (h : s.Sound ids) (handle : Handle) :
    s.shared.board.isArmed handle = true ↔ ∃ number e, s.engine? number = some e ∧
      e.id = handle.engine ∧ Armed e handle.ticket s.shared.moments := by
  constructor
  · intro armed
    have there : s.Has handle.engine := by
      by_contra missing
      obtain ⟨r, hr, -⟩ := Switchboard.isArmed_iff.mp armed
      rw [(h.gone _ missing).unregistered] at hr
      simp at hr
    obtain ⟨number, e, he, hid⟩ := there
    exact ⟨number, e, he, hid, ((h.rest number e he).armed_iff hid.symm).mp armed⟩
  · rintro ⟨number, e, he, hid, armed⟩
    exact ((h.rest number e he).armed_iff hid.symm).mpr armed

theorem Studio.Sound.past (h : s.Sound ids) (id : EngineId) :
    (∀ ticket, landings id ticket s.shared.moments ≤ 1) ∧ (activations id s.shared.moments).Nodup := by
  by_cases there : s.Has id
  · obtain ⟨number, e, he, rfl⟩ := there
    have ledger := (h.rest number e he).core.ledger
    exact ⟨ledger.once, ledger.nodup⟩
  · exact ⟨(h.gone id there).once, (h.gone id there).nodup⟩

theorem Studio.fire_refused {name : String} {target : Option Nat}
    (h : s.shared.board.armed? name ≠ some true) : (s.fire name target).2 = s := by
  rw [Studio.fire, Shared.fire]
  cases held : s.shared.board.handles.get? name with
  | none => rfl
  | some handle =>
    have disarmed : s.shared.board.isArmed handle = false := by
      simpa [Switchboard.armed?, held] using h
    simp only [Shared.signal_refused disarmed]

theorem Studio.fire_fst (s : Studio σ ν) (name : String) (target : Option Nat) :
    (s.fire name target).1 = s.shared.board.armed? name := by
  rw [Studio.fire, Shared.fire, Switchboard.armed?]
  cases s.shared.board.handles.get? name with
  | none => rfl
  | some handle => exact congrArg some (s.shared.signal_fst handle _)

/--
Handles between operations. Whoever keeps a handle of an activation, it is armed exactly while the engine
waits for the first signal of that activation; only then a signal lands, and only one ever does.
-/
theorem handle_liveness [Behaviour σ ν] (h : Reachable ids s) :
    (∀ handle : Handle, s.shared.board.isArmed handle = true ↔ ∃ number e,
      s.engine? number = some e ∧ e.id = handle.engine ∧ Armed e handle.ticket s.shared.moments) ∧
    (∀ (handle : Handle) (target : Nat),
      (s.shared.signal handle target).1 = s.shared.board.isArmed handle ∧
      (s.shared.board.isArmed handle = true →
        (s.shared.signal handle target).2.moments = .landed handle :: s.shared.moments) ∧
      (s.shared.board.isArmed handle = false → (s.shared.signal handle target).2 = s.shared)) ∧
    (∀ name target, (s.fire name target).1 = s.shared.board.armed? name ∧
      (s.shared.board.armed? name ≠ some true → (s.fire name target).2 = s)) ∧
    (∀ name handle, s.shared.board.handles.get? name = some handle → Issued s.shared.moments handle) ∧
    (∀ id, (activations id s.shared.moments).Nodup) ∧
    (∀ id ticket, landings id ticket s.shared.moments ≤ 1) := by
  have sound := h.sound
  refine ⟨sound.armed_iff, fun handle target => ⟨s.shared.signal_fst handle target, fun armed => ?_,
    Shared.signal_refused⟩, fun name target => ⟨s.fire_fst name target, Studio.fire_refused⟩,
    sound.history.issued, fun id => (sound.past id).2, fun id => (sound.past id).1⟩
  rcases s.shared.signal_cases handle target with ⟨disarmed, _⟩ | ⟨_, r, _, _, heq⟩
  · simp [armed] at disarmed
  · rw [heq]
    rfl

end Between

/-! ## A suspended run -/

/-- A command that puts its handle away and waits; its stop hook asks whether the handle is armed, fires it,
and asks again. -/
def keeper : Command Cue where
  name := "keeper"
  state := .scripted
    { name := "keeper", execute := [[.hold "kept"]], tick := [],
      stop := [[.armed "kept", .fire "kept" none, .armed "kept"]] }

def keeperId : EngineId := ⟨7⟩

def keeperStart : Studio Cue Note :=
  Studio.add {} (.create keeperId "engine" ((Edit.push keeper).apply {}).2 (some .recorder) true)

/-- The run of the keeper has begun, and waits for the keeper's signal. -/
def keeperWaiting : Studio Cue Note := (keeperStart.act 10 (.call 0 (.execute 0 none))).2

theorem reachable_keeperStart : Reachable [keeperId] keeperStart :=
  .add keeperId "engine" (some .recorder) true .start (by simp) (.edit (.push keeper) .empty)

theorem reachable_keeperWaiting : Reachable [keeperId] keeperWaiting :=
  .act 10 (.call 0 (.execute 0 none)) reachable_keeperStart rfl

theorem handle_liveness_keeper :
    Reachable [keeperId] keeperWaiting ∧ keeperWaiting.shared.board.isArmed ⟨keeperId, 1, 0⟩ = true ∧
      ∃ number e, keeperWaiting.engine? number = some e ∧ e.id = keeperId ∧
        Armed e 1 keeperWaiting.shared.moments :=
  ⟨reachable_keeperWaiting, rfl,
    ((handle_liveness reachable_keeperWaiting).1 ⟨keeperId, 1, 0⟩).mp rfl⟩

/-! ## While a stop hook runs -/

section Stopping

variable {ids : List EngineId} {s : Studio σ ν} {id : EngineId} {ticket : Ticket} {b : Switchboard}
  {earlier : List (Moment ν)}

/-- Every handle of the engine is disarmed. -/
def Disarmed (id : EngineId) (b : Switchboard) : Prop :=
  ∀ handle : Handle, handle.engine = id → b.isArmed handle = false

/-- Whatever code of the host runs, no signal for the engine lands. -/
def Deaf (ν : Type) (id : EngineId) (b : Switchboard) : Prop :=
  ∀ (s : Shared ν) (α : Type) (program : HostProgram ν α), s.board = b →
    ∃ new, (s.perform program).2.moments = new ++ s.moments ∧
      ∀ handle, .landed handle ∈ new → handle.engine ≠ id

theorem Disarmed.deaf (h : Disarmed id b) : Deaf ν id b := by
  rintro s α program rfl
  have steady : Steady fun b moments => Disarmed id b ∧ ∃ new, moments = new ++ s.moments ∧
      ∀ handle : Handle, Moment.landed handle ∈ new → handle.engine ≠ id := by
    rintro b moments handle r jump hr ha ⟨disarmed, new, hnew, others⟩
    have armed : b.isArmed handle = true := Switchboard.isArmed_iff.mpr ⟨r, hr, ha⟩
    have other : handle.engine ≠ id := fun heq => by simp [disarmed handle heq] at armed
    refine ⟨fun handle' he => ?_, .landed handle :: new, by rw [hnew]; rfl, fun handle' hm => ?_⟩
    · rw [Switchboard.isArmed, Switchboard.get?_setRegister, if_neg (by rw [he]; exact Ne.symm other)]
      exact disarmed handle' he
    · rcases List.mem_cons.mp hm with heq | hm
      · rw [Moment.landed.inj heq]
        exact other
      · exact others handle' hm
  exact (steady.perform ⟨h, [], rfl, by simp⟩ program).2

theorem StopFinds.disarmed_iff (h : StopFinds id ticket b earlier) :
    Disarmed id b ↔ ¬ Open id ticket earlier := by
  constructor
  · intro disarmed open_
    have armed := (h.2 ⟨id, ticket, 0⟩ rfl).mpr ⟨rfl, open_⟩
    rw [disarmed _ rfl] at armed
    simp at armed
  · intro closed handle he
    have armed_iff := h.2 handle he
    rw [← Bool.not_eq_true, armed_iff]
    exact fun armed => closed armed.2

/--
What a stop hook finds. It is called for the latest activation, and only if that activation has signalled
already or has failed, the handles of the engine are disarmed and no signal for it lands meanwhile.
-/
theorem stop_hook_disarmed_iff [Behaviour σ ν] (h : Reachable ids s) (fuel : Nat) (act : HostAct σ ν)
    {index : Nat}
    (called : .called id .stop index ticket b :: earlier <:+ (s.act fuel act).2.shared.moments) :
    (activations id earlier).head? = some ticket ∧
    ((Disarmed id b ∧ Deaf ν id b) ↔
      (landings id ticket earlier ≠ 0 ∨ .failed id ticket ∈ earlier)) := by
  have finds := (h.sound.history_act fuel act).lawful.stops id index ticket b earlier called
  have closed : ¬ Open id ticket earlier ↔ landings id ticket earlier ≠ 0 ∨ .failed id ticket ∈ earlier := by
    rw [Open, not_and_or, not_not]
  rw [← closed, ← finds.disarmed_iff]
  exact ⟨finds.1, And.left, fun disarmed => ⟨disarmed, disarmed.deaf⟩⟩

end Stopping

/-- A command that signals, and then has its engine stopped. -/
def leaver : Command Cue where
  name := "leaver"
  state := .scripted { name := "leaver", execute := [[.next, .request .stop]], tick := [], stop := [] }

def leaverStart : Studio Cue Note :=
  Studio.add {} (.create keeperId "engine" ((Edit.push leaver).apply {}).2 none true)

theorem stop_hook_disarmed_iff_leaver : ∃ b earlier,
    .called keeperId .stop 0 1 b :: earlier <:+
      (leaverStart.act 10 (.call 0 (.execute 0 none))).2.shared.moments ∧
    Disarmed keeperId b ∧ Deaf Note keeperId b := by
  have reachable : Reachable [keeperId] leaverStart :=
    .add keeperId "engine" none true .start (by simp) (.edit (.push leaver) .empty)
  refine ⟨_, _, List.suffix_rfl, ?_⟩
  refine (stop_hook_disarmed_iff reachable 10 (.call 0 (.execute 0 none)) List.suffix_rfl).2.mpr ?_
  exact .inl (by decide)

/-- The handle of a command that waits is armed while its stop hook runs, and a signal from there lands. -/
theorem stop_hook_finds_keeper_armed :
    Reachable [keeperId] keeperWaiting ∧ ∃ b earlier,
      .called keeperId .stop 0 1 b :: earlier <:+
        (keeperWaiting.act 10 (.call 0 .stop)).2.shared.moments ∧
      b.isArmed ⟨keeperId, 1, 0⟩ = true ∧ ¬ (Disarmed keeperId b ∧ Deaf Note keeperId b) ∧
      .noted (.script .stop "keeper" [.flag true, .flag true, .flag false]) ∈
        (keeperWaiting.act 10 (.call 0 .stop)).2.shared.events := by
  have armed : keeperWaiting.shared.board.isArmed ⟨keeperId, 1, 0⟩ = true := rfl
  refine ⟨reachable_keeperWaiting, keeperWaiting.shared.board, keeperWaiting.shared.moments,
    ⟨[_, _], rfl⟩, armed, fun claim => ?_, by decide⟩
  rw [claim.1 _ rfl] at armed
  simp at armed

end Sequencer
