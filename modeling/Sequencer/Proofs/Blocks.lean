import Sequencer.Proofs.Engine.Jumps
import Sequencer.Proofs.Handles
import Sequencer.Proofs.Scenes
import Sequencer.Proofs.Sequence.Brackets

/-!
# Blocks that are passed over

The end of a block is where its brackets match. A run that executes a block whose condition is false goes on
behind that end, and comes to its own end if the block has none.
-/

namespace Sequencer

namespace Machine

variable {m : Machine Cue Note} {index : Nat} {ticket : Ticket} {command : Command Cue}
  {result : HookResult Cue Note} {condition : Condition}

theorem Invokes.blocks_view {hook : Hook} (h : m.Invokes hook index ticket command result) :
    (m.view index).blocks = blocksOf m.engine.sequence.forms ∧
      m.engine.sequence.forms[index]? = some command.form := by
  have executing := isExecuting_of_active (e := m.engine) (by rw [h.active]; rfl)
  have fresh := (Bool.or_eq_false_iff.mp (h.stands.core.fresh executing)).2
  exact ⟨h.stands.core.coherent.blocks_eq fresh, h.stands.core.coherent.form_of_get? h.found⟩

theorem Invokes.passes_block (h : m.Invokes .execute index ticket command result)
    (state : command.state = .branch condition) (false_now : condition.value = false)
    (ready : (Point.hooked index ticket result).Ready) :
    ∃ left : Machine Cue Note, m.KeepsTurns left ∧ left.engine.isExecuting = true ∧
      left.register.pending = some (.to (Cue.behindBlock (m.view index))) ∧ (Point.loop left).Ready ∧
      left.engine.sequence.len = m.engine.sequence.len ∧
      ∀ fuel, (Point.hooked index ticket result).play fuel = (Point.loop left).play fuel := by
  obtain ⟨notes, passes, -⟩ := Cue.evaluates_branch (m.view index) condition
  rw [false_now, if_neg Bool.false_ne_true, ← state] at passes
  exact h.passes ready passes

theorem Invokes.behindBlock (h : m.Invokes .execute index ticket command result) (opens : command.opens = true) :
    FirstIn (closings m.engine.sequence.forms index) (m.view index).blockEnd? := by
  obtain ⟨blocks, found⟩ := h.blocks_view
  rw [View.blockEnd?, blocks]
  exact firstIn_end? found opens

/-- What blocks come to in an engine. -/
structure PassesBlocks (m : Machine Cue Note) : Prop where
  blocks : m.engine.sequence.indentationStale = false → m.engine.sequence.BlocksMatch
  /-- Each execute hook that a call calls is met on its way. -/
  met : ∀ fuel call index ticket board earlier, m.shared.moments <:+ earlier →
    .called m.engine.id .execute index ticket board :: earlier <:+ (m.reply fuel call).2.shared.moments →
    ∃ answer p there command result, m.opening call = some (answer, p) ∧
      p.Meets m there .execute index ticket command result ∧
      there.shared.moments = .called m.engine.id .execute index ticket board :: earlier
  /-- Where the run goes on if what is met there is a block whose condition is false. -/
  passed : ∀ call answer p there index ticket command result condition, m.opening call = some (answer, p) →
    p.Meets m there .execute index ticket command result →
    command.opens = true → command.state = .branch condition → condition.value = false →
    ∃ cost, ∀ left, let ended := m.reply (left + cost) call
      (∀ last, IsLeast (closings m.engine.sequence.forms index) last →
        FirstJump m.engine.id there.engine.runCount (last + 1) there.shared.turns ended.2.shared.turns) ∧
      (closings m.engine.sequence.forms index = ∅ → ended.1 = answer .settled ∧ ended.2.engine.state = .idle ∧
        LastJump m.engine.id there.engine.runCount m.engine.sequence.len there.shared.turns ended.2.shared.turns)

theorem AtRest.passesBlocks (h : m.AtRest) : m.PassesBlocks where
  blocks fresh := h.stands.core.coherent.blocksMatch fresh
  met fuel call index ticket board earlier since called := by
    obtain ⟨answer, p, there, command, result, opens, met, moments, -⟩ := h.meets fuel (by simp) since called
    exact ⟨answer, p, there, command, result, opens, met, moments⟩
  passed call answer p there index ticket command result condition opens met block state false_now := by
    obtain ⟨ready, cost, plays⟩ := met.reaches.plays (h.opening opens 0).1
    obtain ⟨left, keeps, executing, pending, ready, len, passed⟩ := met.invokes.passes_block state false_now ready
    have first := met.invokes.behindBlock block
    obtain ⟨coherent, forms⟩ := met.kept.forms h.stands.core.coherent
    rw [forms] at first
    have total : (there.view index).total = m.engine.sequence.len := met.kept.len h.stands.core.coherent
    have replies (fuel : Nat) : m.reply (fuel + (1 + cost)) call =
        (answer ((Point.loop left).play (fuel + 1)).1, ((Point.loop left).play (fuel + 1)).2) := by
      rw [← Nat.add_assoc, (h.opening opens _).2, plays, passed]
    refine ⟨1 + cost, fun fuel => ⟨fun last least => ?_, fun endless => ?_⟩⟩
    · -- The block ends, and the loop goes on behind its end.
      have target : Cue.behindBlock (there.view index) = last + 1 := by
        rw [Cue.behindBlock, first.eq_some_iff.mpr least]
      have jumps := ready.firstJump executing pending fuel
      rw [target, keeps.id, keeps.runCount, keeps.shared.turns, met.kept.id] at jumps
      rw [replies]
      exact jumps
    · -- Nothing closes the block, and the loop is sent behind the last command.
      have target : Cue.behindBlock (there.view index) = m.engine.sequence.len := by
        rw [Cue.behindBlock, first.eq_none_iff.mpr endless]
        exact total
      have beyond : left.engine.sequence.len ≤ Cue.behindBlock (there.view index) := by
        rw [target, len, ← total]
        exact Nat.le_refl _
      obtain ⟨settled, idle, jumps⟩ := Point.lastJump executing pending beyond fuel
      rw [target, keeps.id, keeps.runCount, keeps.shared.turns, met.kept.id] at jumps
      rw [replies, settled]
      exact ⟨rfl, by simp [Engine.state, Engine.isExecuting, idle], jumps⟩

end Machine

/-! ## The main result -/

/--
Blocks match as brackets do. However a sequence was built, if its indentation is fresh then the end of a block is
where a bracket counter says; and whatever a host does, a run goes on behind that end, or is over, when it executes a
block whose condition is false.
-/
theorem blocks_match : (∀ {σ : Type} (s : Sequence σ), s.Built → s.indentationStale = false → s.BlocksMatch) ∧
    ∀ ids (studio : Studio Cue Note) number e, Reachable ids studio → studio.engine? number = some e →
      Machine.PassesBlocks ⟨e, studio.shared⟩ :=
  ⟨fun _ built fresh => built.sound.coherent.blocksMatch fresh,
    fun _ _ _ _ reachable he => (reachable.sound.machine he).passesBlocks⟩

/--
A close that closes nothing, an else in a block (it closes one block and opens another, and is disabled), and a
block that is never closed.
-/
def crooked : Sequence Cue :=
  let others := { Cue.makeIf (.fixed true) with closes := true }
  let commands := [Cue.makeEnd, Cue.makeIf (.fixed true), Cue.makeSay "yes", others, Cue.makeSay "no", Cue.makeEnd,
    Cue.makeIf (.fixed false)]
  (((Edit.remove 2).apply (.ofCommands commands)).2.setEnabled 2 false).2.refresh

/-- A closed block and one that is never closed, both with false conditions. -/
def gates : Studio Cue Note :=
  Studio.add {} (.create keeperId "engine" (.ofCommands [Cue.makeIf (.fixed false), Cue.makeSay "inside",
    Cue.makeEnd, Cue.makeIf (.fixed false)]) (some .recorder) true)

theorem reachable_gates : Reachable [keeperId] gates :=
  .add keeperId "engine" (some .recorder) true .start (by simp) (Sequence.Built.ofCommands _)

theorem blocks_match_gates : (crooked.Built ∧ crooked.indentationStale = false ∧
    IsLeast (closings crooked.forms 1) 2 ∧ IsLeast (closings crooked.forms 2) 4 ∧ closings crooked.forms 5 = ∅) ∧
    ∃ e, gates.engine? 0 = some e ∧
      (∃ fuel, FirstJump keeperId 1 3 [.jumped keeperId 1 0 e.sequence.outline (some 0), .began keeperId 1 none]
        (Machine.reply ⟨e, gates.shared⟩ fuel (.execute 0 none)).2.shared.turns) ∧
      ∃ fuel, (Machine.reply ⟨e, gates.shared⟩ fuel (.execute 3 none)).2.engine.state = .idle := by
  have built : crooked.Built :=
    (((Sequence.Built.ofCommands _).edit (.remove 2)).edit (.setEnabled 2 false)).edit .refresh
  obtain ⟨sequences, engines⟩ := blocks_match
  have crossed := sequences crooked built rfl
  refine ⟨⟨built, rfl, (crossed.ends 1 ⟨_, rfl, rfl⟩ 2).mp rfl, (crossed.ends 2 ⟨_, rfl, rfl⟩ 4).mp rfl,
    (crossed.endless 5 ⟨_, rfl, rfl⟩).mp rfl⟩, ?_⟩
  let e := (gates.engine? 0).get rfl
  let m : Machine Cue Note := ⟨e, gates.shared⟩
  have he : gates.engine? 0 = some e := rfl
  have rest : m.AtRest := reachable_gates.sound.machine he
  have passes : m.PassesBlocks := engines [keeperId] gates 0 e reachable_gates he
  have matched := passes.blocks rfl
  refine ⟨e, he, ?_, ?_⟩
  · have opens : m.opening (.execute 0 none) = some (_, .loop (m.beginRun 0 none)) := rfl
    have goes : Point.Goes (m.beginRun 0 none) (m.beginRun 0 none).takeJump.2 (.to 0) 0 _ := ⟨rfl, rfl, rfl, rfl⟩
    have met := Point.Meets.of_goes .refl ((Moves.refl m).beginRun 0 none).kept (rest.opening opens 0).1 goes
    obtain ⟨cost, passed⟩ := passes.passed _ _ _ _ _ _ _ _ (.fixed false) opens met rfl rfl rfl
    exact ⟨_, (passed 0).1 2 ((matched.ends 0 ⟨_, rfl, rfl⟩ 2).mp rfl)⟩
  · have opens : m.opening (.execute 3 none) = some (_, .loop (m.beginRun 3 none)) := rfl
    have goes : Point.Goes (m.beginRun 3 none) (m.beginRun 3 none).takeJump.2 (.to 3) 3 _ := ⟨rfl, rfl, rfl, rfl⟩
    have met := Point.Meets.of_goes .refl ((Moves.refl m).beginRun 3 none).kept (rest.opening opens 0).1 goes
    obtain ⟨cost, passed⟩ := passes.passed _ _ _ _ _ _ _ _ (.fixed false) opens met rfl rfl rfl
    exact ⟨_, ((passed 0).2 ((matched.endless 3 ⟨_, rfl, rfl⟩).mp rfl)).2.1⟩

end Sequencer
