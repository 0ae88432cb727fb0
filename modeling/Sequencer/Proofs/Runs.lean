import Sequencer.Proofs.Engine.Strides
import Sequencer.Proofs.Histories

/-!
# Runs in a studio

However engines, hooks and hosts interact, the turns of a history tell of every run what has become of it,
jumps and callbacks are right, and commands are activated exactly where jumps went on.
-/

namespace Sequencer

variable {σ ν : Type}

/-! ## One engine -/

/-- The turns tell the stories of the engine's runs, they are right, and each activation follows a jump. -/
structure Machine.Charted (m : Machine σ ν) : Prop where
  chronicle : Chronicle m.engine.id m.engine.runCount (m.engine.run.map (·.onComplete)) m.shared.turns
  level : ∀ id, calls id m.shared.moments = goals id m.shared.turns
  right : ∀ turn ∈ m.shared.turns, turn.Right
  fired : firings m.shared.events = completed m.shared.turns

namespace Machine

variable {m m' : Machine σ ν} {target index : Nat}

theorem Charted.keep (h : m.Charted) (keeps : m.KeepsTurns m') : m'.Charted := by
  constructor
  · rw [keeps.id, keeps.runCount, keeps.onComplete, keeps.shared.turns]
    exact h.chronicle
  · intro id
    rw [keeps.shared.calls, keeps.shared.turns]
    exact h.level id
  · rw [keeps.shared.turns]
    exact h.right
  · rw [keeps.shared.firings, keeps.shared.turns]
    exact h.fired

theorem Charted.begin (h : m.Charted) (idle : m.engine.run = none) (start : Nat)
    (onComplete : Option (HostProgram ν Unit)) : (m.beginRun start onComplete).Charted := by
  have charted : (m.begun onComplete).Charted := by
    refine ⟨?_, h.level, ?_, h.fired⟩
    · have chronicle := h.chronicle
      rw [idle] at chronicle
      exact chronicle.begin onComplete
    · refine List.forall_mem_cons.mpr ⟨⟨?_, ?_⟩, h.right⟩
      · rintro _ _ _ _ _ ⟨⟩
      · rintro _ _ _ _ ⟨⟩
  exact charted.keep (m.keepsTurns_beginRun start onComplete)

theorem Charted.close {run : Run ν} (h : m.Charted) (stages : List (Turn ν)) (hr : m.engine.run = some run)
    (own : ∀ turn ∈ stages, ∀ number, turn.isStage m.engine.id number = true ↔ number = m.engine.runCount)
    (ends : Ended m.engine.id m.engine.runCount
      (stages ++ [.began m.engine.id m.engine.runCount run.onComplete]))
    (still : ∀ turn ∈ stages, ∀ id, turn.goal? id = none) (right : ∀ turn ∈ stages, turn.Right)
    (engine : m'.engine = { m.engine with run := none })
    (turns : m'.shared.turns = stages ++ m.shared.turns)
    (called : ∀ id, calls id m'.shared.moments = calls id m.shared.moments)
    (fired : firings m'.shared.events = completed stages ++ firings m.shared.events) : m'.Charted := by
  have chronicle := h.chronicle
  rw [hr] at chronicle
  refine ⟨?_, fun id => ?_, ?_, ?_⟩
  · rw [engine, turns]
    exact chronicle.finish own ends
  · have nowhere : stages.filterMap (Turn.goal? id) = [] :=
      List.filterMap_eq_nil_iff.mpr fun turn hm => still turn hm id
    rw [called, turns, goals, List.filterMap_append, nowhere]
    exact h.level id
  · rw [turns]
    exact List.forall_mem_append.mpr ⟨right, h.right⟩
  · rw [fired, turns, h.fired]
    exact List.filterMap_append.symm

theorem right_jump (coherent : m.engine.sequence.Coherent) (target : Nat) : (m.jump target).Right := by
  constructor
  · rintro _ _ _ _ _ ⟨⟩
    exact coherent.goesOn target
  · rintro _ _ _ _ ⟨⟩

theorem Stands.completion (h : m.Stands none) (disarmed : m.register.armed = none)
    (callback : HostProgram ν Unit) : ∃ found, found.AtEnd m.engine.id ∧
      m.completion callback = .completed m.engine.id m.engine.runCount callback found := by
  have board : m.enterIdle.shared.board = m.shared.board := board_tell ..
  have silent : (m.shared.board.register m.engine.id).armed = none := disarmed
  rw [Machine.completion, engine_enterIdle]
  refine ⟨_, ⟨rfl, fun listens => ?_, fun handle hh => ?_⟩, rfl⟩
  · have moments : m.enterIdle.shared.moments = .told (.runEnded m.engine.ref) :: m.shared.moments :=
      (moments_tell ..).trans (if_neg listens)
    have news : (Moment.told (.runEnded m.engine.ref) : Moment ν).heard? m.engine.id = some .ended :=
      if_pos rfl
    rw [moments, heard_cons, news]
    exact List.getLast?_concat
  · dsimp only
    rw [board, Switchboard.isArmed, hh, h.core.registered]
    simp [silent]

theorem Charted.abort (h : m.Charted) (executing : m.engine.isExecuting = true) :
    (m.turn (.aborted m.engine.id m.engine.runCount)).enterIdle.Charted := by
  obtain ⟨run, hr⟩ := Option.isSome_iff_exists.mp executing
  have keeps := keepsTurns_enterIdle (m.turn (.aborted m.engine.id m.engine.runCount))
  refine h.close [.aborted m.engine.id m.engine.runCount] hr ?_ (.aborted run.onComplete)
    ?_ ?_ (engine_enterIdle _) keeps.shared.turns keeps.shared.calls keeps.shared.firings
  · exact List.forall_mem_singleton.mpr fun _ => Turn.isStage_aborted
  · simp [Turn.goal?]
  · rw [List.forall_mem_singleton]
    constructor
    · rintro _ _ _ _ _ ⟨⟩
    · rintro _ _ _ _ ⟨⟩

theorem Charted.finish (h : m.Charted) (stands : m.Stands none) (executing : m.engine.isExecuting = true)
    (disarmed : m.register.armed = none) (hn : m.engine.sequence.nextRunnable target = none) :
    (m.turn (m.jump target)).finish.Charted := by
  obtain ⟨run, hr⟩ := Option.isSome_iff_exists.mp executing
  let turned := m.turn (m.jump target)
  have ends : m.jump target =
      .jumped m.engine.id m.engine.runCount target m.engine.sequence.outline none := by
    rw [jump, hn]
  have right : (m.jump target).Right := right_jump stands.core.coherent target
  have own : ∀ number, (m.jump target).isStage m.engine.id number = true ↔ number = m.engine.runCount :=
    fun number => ends ▸ Turn.isStage_jumped
  have still : ∀ id, (m.jump target).goal? id = none := by simp [ends, Turn.goal?]
  have keeps := turned.keepsTurns_enterIdle
  have engine := turned.engine_enterIdle
  have onComplete : turned.engine.run.bind (·.onComplete) = run.onComplete := by
    rw [show turned.engine.run = some run from hr]
    rfl
  cases hc : run.onComplete with
  | none =>
    -- The jump is the last stage of the run.
    have idle : turned.finish = turned.enterIdle := by rw [Machine.finish, onComplete, hc]
    have quiet : completed [m.jump target] = [] := by rw [ends]; rfl
    rw [idle]
    refine h.close [m.jump target] hr ?_ ?_ ?_ ?_ engine keeps.shared.turns keeps.shared.calls ?_
    · exact List.forall_mem_singleton.mpr own
    · rw [hc, ends]
      exact .exhausted target _
    · exact List.forall_mem_singleton.mpr still
    · exact List.forall_mem_singleton.mpr right
    · rw [quiet]
      exact keeps.shared.firings
  | some callback =>
    -- The callback is one stage more, and finds the run at its end.
    obtain ⟨found, atEnd, completes⟩ := (stands.turn (m.jump target)).completion disarmed callback
    have fires : completed [turned.completion callback, m.jump target] =
        [(turned.enterIdle.engine.id, turned.enterIdle.engine.runCount)] := by rw [ends]; rfl
    have charted : (turned.completing callback).Charted := by
      refine h.close [turned.completion callback, m.jump target] hr ?_ ?_ ?_ ?_ engine
        (congrArg (_ :: ·) keeps.shared.turns) keeps.shared.calls ?_
      · exact List.forall_mem_cons.mpr ⟨fun _ => completes ▸ Turn.isStage_completed,
          List.forall_mem_singleton.mpr own⟩
      · rw [completes, ends, hc]
        exact .completed callback target _ found
      · exact List.forall_mem_cons.mpr ⟨fun _ => rfl, List.forall_mem_singleton.mpr still⟩
      · refine List.forall_mem_cons.mpr ⟨?_, List.forall_mem_singleton.mpr right⟩
        rw [completes]
        constructor
        · rintro _ _ _ _ _ ⟨⟩
        · rintro _ _ _ _ ⟨⟩
          exact atEnd
      · rw [fires]
        exact congrArg (_ :: ·) keeps.shared.firings
    exact charted.keep (keepsTurns_finish (onComplete.trans hc))

theorem Charted.activate (h : m.Charted) (stands : m.Stands none)
    (hn : m.engine.sequence.nextRunnable target = some index) (name : String) :
    ((m.turn (m.jump target)).calling index name).Charted := by
  let turned := m.turn (m.jump target)
  have goes : m.jump target =
      .jumped m.engine.id m.engine.runCount target m.engine.sequence.outline (some index) := by
    rw [jump, hn]
  obtain ⟨before, ticket, keeps, called⟩ := turned.keepsTurns_calling index name
  have turns : (before.announce .execute index ticket).shared.turns =
      m.jump target :: m.shared.turns := keeps.shared.turns
  rw [called]
  refine ⟨?_, fun id => ?_, ?_, ?_⟩
  · show Chronicle before.engine.id before.engine.runCount (before.engine.run.map _) _
    rw [keeps.id, keeps.runCount, keeps.onComplete, turns]
    refine h.chronicle.skip [m.jump target] (List.forall_mem_singleton.mpr fun run => ?_)
    simp [goes, Turn.isStage]
  · rw [← called, calls_calling, called, turns, goals_cons, goes, ← h.level]
    rfl
  · rw [turns]
    exact List.forall_mem_cons.mpr ⟨right_jump stands.core.coherent target, h.right⟩
  · rw [turns, goes]
    exact keeps.shared.firings.trans h.fired

end Machine

theorem Stride.charted {m m' : Machine σ ν} (stride : Stride m m') (h : m.Charted) : m'.Charted := by
  cases stride with
  | keep keeps => exact h.keep keeps
  | begin start onComplete idle => exact h.begin idle start onComplete
  | abort executing => exact h.abort executing
  | activate target index name stands executing hn => exact h.activate stands hn name
  | finish target stands executing disarmed hn => exact h.finish stands executing disarmed hn

theorem Strides.charted {m m' : Machine σ ν} (strides : Strides m m') (h : m.Charted) : m'.Charted := by
  induction strides with
  | refl => exact h
  | tail _ stride ih => exact stride.charted ih

theorem Stride.adds {m m' : Machine σ ν} (stride : Stride m m') : m'.engine.id = m.engine.id ∧
    ∃ new, m'.shared.turns = new ++ m.shared.turns ∧ ∀ turn ∈ new, turn.engine = m.engine.id := by
  cases stride with
  | keep keeps => exact ⟨keeps.id, [], keeps.shared.turns, by simp⟩
  | begin start onComplete =>
    have keeps := m.keepsTurns_beginRun start onComplete
    exact ⟨keeps.id, [_], keeps.shared.turns, List.forall_mem_singleton.mpr rfl⟩
  | abort =>
    have keeps := (m.turn (.aborted m.engine.id m.engine.runCount)).keepsTurns_enterIdle
    exact ⟨keeps.id, [_], keeps.shared.turns, List.forall_mem_singleton.mpr rfl⟩
  | activate target index name =>
    obtain ⟨before, ticket, keeps, called⟩ := (m.turn (m.jump target)).keepsTurns_calling index name
    rw [called]
    exact ⟨keeps.id, [m.jump target], keeps.shared.turns, List.forall_mem_singleton.mpr rfl⟩
  | finish target =>
    let turned := m.turn (m.jump target)
    have keeps := turned.keepsTurns_enterIdle
    cases hc : turned.engine.run.bind (·.onComplete) with
    | none =>
      rw [Machine.finish, hc]
      exact ⟨keeps.id, [m.jump target], keeps.shared.turns, List.forall_mem_singleton.mpr rfl⟩
    | some callback =>
      have fired := Machine.keepsTurns_finish hc
      refine ⟨fired.id.trans keeps.id, [turned.completion callback, m.jump target], ?_, ?_⟩
      · exact fired.shared.turns.trans (congrArg (_ :: ·) keeps.shared.turns)
      · exact List.forall_mem_cons.mpr ⟨keeps.id, List.forall_mem_singleton.mpr rfl⟩

theorem Strides.adds {m m' : Machine σ ν} (strides : Strides m m') : m'.engine.id = m.engine.id ∧
    ∃ new, m'.shared.turns = new ++ m.shared.turns ∧ ∀ turn ∈ new, turn.engine = m.engine.id := by
  induction strides with
  | refl => exact ⟨rfl, [], rfl, by simp⟩
  | tail _ stride ih =>
    obtain ⟨id, new, turns, own⟩ := ih
    obtain ⟨id', new', turns', own'⟩ := stride.adds
    refine ⟨id'.trans id, new' ++ new, by rw [turns', turns, List.append_assoc], ?_⟩
    exact List.forall_mem_append.mpr ⟨fun turn hm => (own' turn hm).trans id, own⟩

/-! ## All engines -/

namespace Studio

variable {ids : List EngineId} {s : Studio σ ν} {number : Nat} {e : Engine σ ν}

/-- The turns of a studio are those of its engines, those that are gone included. -/
structure Charted (ids : List EngineId) (s : Studio σ ν) : Prop where
  present : ∀ number e, s.engine? number = some e →
    Chronicle e.id e.runCount (e.run.map (·.onComplete)) s.shared.turns
  stories : ∀ id run, Story id run (story id run s.shared.turns)
  level : ∀ id, calls id s.shared.moments = goals id s.shared.turns
  right : ∀ turn ∈ s.shared.turns, turn.Right
  fired : firings s.shared.events = completed s.shared.turns
  unused : ∀ turn ∈ s.shared.turns, turn.engine ∈ ids

namespace Charted

theorem machine (h : s.Charted ids) (he : s.engine? number = some e) :
    Machine.Charted ⟨e, s.shared⟩ :=
  ⟨h.present number e he, h.level, h.right, h.fired⟩

theorem keep {shared : Shared ν} (h : s.Charted ids) (keeps : s.shared.KeepsTurns shared) :
    Charted ids { s with shared } := by
  refine ⟨fun number e he => ?_, fun id run => ?_, fun id => ?_, ?_, ?_, ?_⟩
  · rw [keeps.turns]
    exact h.present number e he
  · rw [keeps.turns]
    exact h.stories id run
  · rw [keeps.calls, keeps.turns]
    exact h.level id
  · rw [keeps.turns]
    exact h.right
  · rw [keeps.firings, keeps.turns]
    exact h.fired
  · rw [keeps.turns]
    exact h.unused

theorem set (h : s.Charted ids) (sound : s.Sound ids) (he : s.engine? number = some e)
    {m : Machine σ ν} (strides : Strides ⟨e, s.shared⟩ m) :
    Charted ids { s with engines := s.engines.set number (some m.engine), shared := m.shared } := by
  have charted := Strides.charted strides (h.machine he)
  obtain ⟨same, new, turns, own⟩ := Strides.adds strides
  have aside : ∀ id, id ≠ e.id → ∀ turn ∈ new, ∀ run, turn.isStage id run = false :=
    fun id ne turn hm _ => turn.isStage_of_ne (own turn hm ▸ Ne.symm ne)
  refine ⟨fun n e' hn => ?_, fun id run => ?_, charted.level, charted.right,
    charted.fired, fun turn hm => ?_⟩
  · rcases engine?_set_some he hn with ⟨rfl, rfl⟩ | ⟨ne, hn⟩
    · exact charted.chronicle
    · rw [turns]
      exact (h.present n e' hn).skip new (aside e'.id fun heq => ne (sound.distinct n number e' e hn he heq))
  · by_cases heq : id = e.id
    · rw [heq, ← same]
      exact charted.chronicle.story run
    · rw [turns, story_append_of_not_isStage fun turn hm => aside id heq turn hm run]
      exact h.stories id run
  · rw [turns] at hm
    rcases List.mem_append.mp hm with hm | hm
    · rw [own turn hm]
      exact sound.known number e he
    · exact h.unused turn hm

theorem add (h : s.Charted ids) {id : EngineId} (fresh : id ∉ ids) (name : String)
    (sequence : Sequence σ) (listener : Option Listener) (diagnostics : Bool) :
    Charted (id :: ids) (s.add (.create id name sequence listener diagnostics)) := by
  refine ⟨fun n e hn => ?_, h.stories, h.level, h.right, h.fired,
    fun turn hm => .tail id (h.unused turn hm)⟩
  rcases engine?_add_some hn with ⟨-, rfl⟩ | hn
  · refine .empty fun turn hm heq => fresh ?_
    rw [show id = turn.engine from heq.symm]
    exact h.unused turn hm
  · exact h.present n e hn

theorem drop (h : s.Charted ids) (number : Nat) : (s.drop number).Charted ids := by
  rw [Studio.drop]
  split
  · exact h
  · next e he =>
    exact ⟨fun n e' hn => h.present n e' (engine?_set_none s.shared he hn).2, h.stories, h.level, h.right,
      h.fired, h.unused⟩

variable [Behaviour σ ν]

theorem edit (h : s.Charted ids) (sound : s.Sound ids) (number : Nat) (edit : Edit σ) :
    (s.edit number edit).2.Charted ids := by
  have edited : (s.withMachine number fun m => m.edit edit).2.Charted ids := by
    rw [withMachine]
    split
    · exact h
    · next e he => exact h.set sound he ((Strides.refl _).keep (.edit ⟨e, s.shared⟩ edit))
  rw [Studio.edit]
  split
  · next heq =>
    rw [heq] at edited
    exact ⟨edited.present, edited.stories, edited.level, edited.right, edited.fired,
      edited.unused⟩
  · exact edited

theorem act (h : s.Charted ids) (sound : s.Sound ids) (fuel : Nat) (act : HostAct σ ν) :
    (s.act fuel act).2.Charted ids := by
  cases act with
  | call number call =>
    rw [Studio.act, withMachine]
    cases he : s.engine? number with
    | none => exact h
    | some e => exact h.set sound he ((Strides.refl _).call (sound.machine he) fuel call)
  | edit number edit => exact h.edit sound number edit
  | drop number => exact h.drop number
  | fire name target =>
    rw [Studio.act, Studio.fire]
    exact h.keep ((Shared.KeepsTurns.refl s.shared).answer (.fire name target))

end Charted

theorem Sound.turns_act [Behaviour σ ν] (h : s.Sound ids) (fuel : Nat) (act : HostAct σ ν) :
    s.shared.turns <:+ (s.act fuel act).2.shared.turns := by
  cases act with
  | call number call =>
    rw [Studio.act, withMachine]
    cases he : s.engine? number with
    | none => exact List.suffix_rfl
    | some e =>
      obtain ⟨-, new, turns, -⟩ := Strides.adds ((Strides.refl _).call (h.machine he) fuel call)
      exact ⟨new, turns.symm⟩
  | edit number edit => exact ⟨[], congrArg Shared.turns (s.shared_edit number edit).symm⟩
  | drop number =>
    rw [Studio.act, Studio.drop]
    split <;> exact List.suffix_rfl
  | fire name target =>
    have keeps := (Shared.KeepsTurns.refl s.shared).answer (.fire name target)
    exact ⟨[], keeps.turns.symm⟩

end Studio

theorem Reachable.charted [Behaviour σ ν] {ids : List EngineId} {s : Studio σ ν}
    (h : Reachable ids s) : s.Charted ids := by
  induction h with
  | start =>
    refine ⟨fun _ _ he => ?_, fun _ _ => .unbegun, fun _ => rfl, ?_, rfl, ?_⟩
    · simp [Studio.engine?] at he
    · simp
    · simp
  | add id name listener diagnostics _ fresh _ ih => exact ih.add fresh name _ listener diagnostics
  | act fuel act reachable _ ih => exact ih.act reachable.sound fuel act

end Sequencer
