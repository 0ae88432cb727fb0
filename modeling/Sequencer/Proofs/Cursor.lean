import Sequencer.Proofs.Handles
import Sequencer.Proofs.Runs

/-!
# Where runs go

A run goes on at the first enabled action from the target of its jump on, and comes to its end if there is
none. Commands are activated there and nowhere else.
-/

namespace Sequencer

variable {σ ν : Type} {ids : List EngineId} {s : Studio σ ν}

/-- What a history says of jumps and activations. -/
structure JumpsRight (s : Shared ν) : Prop where
  goes : ∀ id run target outline next, .jumped id run target outline next ∈ s.turns →
    GoesOn outline target next
  /-- Engines activate commands where their jumps went on, in the same order. -/
  activates : ∀ id, calls id s.moments = goals id s.turns
  /-- What is activated is an enabled action, and nothing that could have run before it was passed over. -/
  called : ∀ id index ticket board, .called id .execute index ticket board ∈ s.moments →
    ∃ run target outline, .jumped id run target outline (some index) ∈ s.turns ∧
      outline[index]? = some (true, .action) ∧
      ∀ p, target ≤ p → p < index → outline[p]? ≠ some (true, .action)

/-- A run of the engine that is not in flight any more. -/
def Finished (e : Engine σ ν) (run : Nat) : Prop :=
  0 < run ∧ run ≤ e.runCount ∧ (run = e.runCount → e.run = none)

/-- Of the runs of an engine, those ended normally whose last jump had nowhere to go on. -/
structure EndsRight (e : Engine σ ν) (turns : List (Turn ν)) : Prop where
  finished : ∀ run, Finished e run →
    (.aborted e.id run ∉ turns ↔ ∃ target outline, .jumped e.id run target outline none ∈ turns)
  inFlight : e.isExecuting = true → .aborted e.id e.runCount ∉ turns ∧
    ∀ target outline, .jumped e.id e.runCount target outline none ∉ turns

theorem mem_calls {moments : List (Moment ν)} {id : EngineId} {index : Nat} {ticket : Ticket}
    {board : Switchboard} (h : .called id .execute index ticket board ∈ moments) :
    index ∈ calls id moments :=
  List.mem_filterMap.mpr ⟨_, h, if_pos rfl⟩

theorem mem_goals {turns : List (Turn ν)} {id : EngineId} {index : Nat} (h : index ∈ goals id turns) :
    ∃ run target outline, .jumped id run target outline (some index) ∈ turns := by
  obtain ⟨turn, hm, goal⟩ := List.mem_filterMap.mp h
  cases turn with
  | jumped engine run target outline next =>
    rw [Turn.goal?] at goal
    split at goal
    · next own =>
      subst own goal
      exact ⟨run, target, outline, hm⟩
    · simp at goal
  | _ => simp [Turn.goal?] at goal

theorem Studio.Charted.jumpsRight (h : s.Charted ids) : JumpsRight s.shared where
  goes id run target outline next hm := (h.right _ hm).goes id run target outline next rfl
  activates := h.level
  called id index ticket board hm := by
    have reached : index ∈ goals id s.shared.turns := by
      rw [← h.level]
      exact mem_calls hm
    obtain ⟨run, target, outline, jumped⟩ := mem_goals reached
    have least := (h.right _ jumped).goes id run target outline (some index) rfl
    refine ⟨run, target, outline, jumped, least.1.2, fun p from_target before runs => ?_⟩
    have le : index ≤ p := least.2 ⟨from_target, runs⟩
    omega

theorem Chronicle.endsRight {e : Engine σ ν} {turns : List (Turn ν)}
    (h : Chronicle e.id e.runCount (e.run.map (·.onComplete)) turns) : EndsRight e turns := by
  have aborted : ∀ run, .aborted e.id run ∈ Sequencer.story e.id run turns ↔ .aborted e.id run ∈ turns :=
    fun _ => mem_story (Turn.isStage_aborted.mpr rfl)
  have jumped : ∀ run target outline, Turn.jumped e.id run target outline none ∈
      Sequencer.story e.id run turns ↔ .jumped e.id run target outline none ∈ turns :=
    fun _ _ _ => mem_story (Turn.isStage_jumped.mpr rfl)
  constructor
  · rintro run ⟨pos, le, past⟩
    have ended := h.ended run pos le fun latest => by rw [past latest]; rfl
    rw [← aborted]
    simp only [← jumped]
    generalize Sequencer.story e.id run turns = stages at ended
    cases ended <;> simp
  · intro executing
    obtain ⟨run, hr⟩ := Option.isSome_iff_exists.mp executing
    have begun := h.begun run.onComplete (by rw [hr]; rfl)
    rw [← aborted]
    simp only [← jumped]
    rw [begun]
    simp

/-! ## The entries at positions -/

theorem Studio.Sound.core_act [Behaviour σ ν] (h : s.Sound ids) (fuel : Nat) (act : HostAct σ ν)
    {number : Nat} {e : Engine σ ν} (he : (s.act fuel act).2.engine? number = some e) :
    ∃ mark, e.Core mark (s.act fuel act).2.shared.board (s.act fuel act).2.shared.moments := by
  by_cases back : (s.act fuel act).1 = true
  · exact ⟨_, ((h.act fuel act back).rest number e he).core⟩
  · cases act with
    | call other call =>
      rw [Studio.act, withMachine] at he back ⊢
      cases hc : s.engine? other with
      | none => simp [hc] at back
      | some e' =>
        simp only [hc] at he ⊢
        rcases engine?_set_some hc he with ⟨rfl, rfl⟩ | ⟨ne, hn⟩
        · exact ⟨_, ((h.machine hc).call fuel call).stands.core⟩
        · have moves := (Moves.refl (⟨e', s.shared⟩ : Machine σ ν)).call fuel call
          have hne : e.id ≠ e'.id := fun heq => ne (h.distinct number other e e' hn hc heq)
          exact ⟨_, (moves.aside (Engine.AtRest.aside hne) (h.rest number e hn)).core⟩
    | edit | drop | fire => exact absurd rfl back

/--
Jumps, whatever a host does and has done: each goes on at the first enabled action from its target on,
commands are activated there only, runs end normally where there is none, and the hooks of a run that is in
flight are those of the entries at their positions.
-/
theorem cursor_rule [Behaviour σ ν] (h : Reachable ids s) (fuel : Nat) (act : HostAct σ ν) :
    JumpsRight (s.act fuel act).2.shared ∧
    ∀ number e, (s.act fuel act).2.engine? number = some e →
      EndsRight e (s.act fuel act).2.shared.turns ∧
      (e.isExecuting = true → ∀ index,
        Machine.hookTarget? ⟨e, (s.act fuel act).2.shared⟩ index =
          e.sequence.entries[index]?.map fun entry =>
            (entry, Machine.view ⟨e, (s.act fuel act).2.shared⟩ index)) := by
  have charted := h.charted.act h.sound fuel act
  refine ⟨charted.jumpsRight, fun number e he => ⟨(charted.present number e he).endsRight,
    fun executing index => ?_⟩⟩
  obtain ⟨mark, core⟩ := h.sound.core_act fuel act he
  exact Machine.hookTarget?_eq core.coherent (Bool.or_eq_false_iff.mp (core.fresh executing)).1

/-- A comment, and two keepers of which the host disables the first. -/
def keepersStart : Studio Cue Note :=
  let sequence := [Cue.makeComment "two keepers", keeper, keeper].foldl
    (fun s command => ((Edit.push command).apply s).2) {}
  Studio.add {} (.create keeperId "engine" sequence none true)

def keepersWaiting : Studio Cue Note := (keepersStart.act 10 (.call 0 (.setEnabled 1 false))).2

/-- A run from the start goes on at the second keeper. -/
theorem cursor_rule_keepers :
    let after := (keepersWaiting.act 10 (.call 0 (.execute 0 none))).2.shared
    calls keeperId after.moments = [2] ∧ goals keeperId after.turns = [2] ∧
      ∃ run target outline, .jumped keeperId run target outline (some 2) ∈ after.turns ∧
        outline[2]? = some (true, .action) ∧
        ∀ p, target ≤ p → p < 2 → outline[p]? ≠ some (true, .action) := by
  have built : Reachable [keeperId] keepersStart := by
    refine .add keeperId "engine" none true .start (by simp) ?_
    exact .edit (.push keeper) (.edit (.push keeper) (.edit (.push (Cue.makeComment "two keepers")) .empty))
  have reachable : Reachable [keeperId] keepersWaiting := .act 10 (.call 0 (.setEnabled 1 false)) built rfl
  obtain ⟨right, -⟩ := cursor_rule reachable 10 (.call 0 (.execute 0 none))
  refine ⟨rfl, rfl, ?_⟩
  exact right.called keeperId 2 1 _ List.mem_cons_self

end Sequencer
