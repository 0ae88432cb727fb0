import Sequencer.Command.Cue
import Sequencer.Proofs.Engine.Jumps
import Sequencer.Proofs.Refusals

/-!
# One meaning for a label

The host that looks a key up, starts a run at it or redirects one to it, the hooks that look it up, and the
commands that jump to it: all get to the first label that has the key, whatever has been edited before.
-/

namespace Sequencer

variable {σ ν : Type}

/-! ## Jumps to a label -/

/-- What a jump to a label does when it is executed. Where there is no such label, it lets its command pass. -/
def gotoHook (key : String) (state : σ) (view : View) : HookProgram ν (σ × Except CommandError Unit) :=
  match view.findLabel? key with
  | some target => .ask (.signal target) fun _ => .done (state, .ok ())
  | none => .ask (.report (.gotoLabelMissing key view.index)) fun _ =>
    .ask (.signal (view.index + 1)) fun _ => .done (state, .ok ())

/-- The command is a jump to the first label with the key. -/
def Command.IsGoto [Behaviour σ ν] (c : Command σ) (key : String) : Prop :=
  ∀ view, Behaviour.execute c.state view = gotoHook key c.state view

theorem Cue.isGoto_makeGoto (key : String) : (makeGoto key).IsGoto key := by
  intro view
  show Cue.execute view (.goto key) = gotoHook key (.goto key) view
  rw [Cue.execute, gotoHook]
  cases view.findLabel? key <;> rfl

theorem passes_gotoHook (key : String) (state : σ) (view : View) :
    Passes (some ((view.findLabel? key).getD (view.index + 1))) (gotoHook (ν := ν) key state view) [] := by
  rw [gotoHook]
  cases view.findLabel? key with
  | some target => exact .signal (.done state)
  | none => exact .report (.signal (.done state))

/-! ## What the key comes to -/

/-- The reply of a call whose run goes well or fails in a command. -/
def Outcome.Runs {α : Type} (outcome : Outcome α) (value : α) : Prop :=
  outcome = .value value ∨ (∃ location source, outcome = .failed (.commandFailed location source)) ∨
    outcome = .outOfFuel

theorem Machine.Reports.runs {α : Type} {ended : Verdict × Machine σ ν} (h : Machine.Reports ended) (value : α) :
    (ended.1.outcome value).Runs value := by
  cases hv : ended.1 with
  | settled => exact .inl rfl
  | failed error =>
    obtain ⟨location, source, rfl⟩ := h.failed (congrArg (Verdict.outcome value) hv)
    exact .inr (.inl ⟨location, source, rfl⟩)
  | outOfFuel => exact .inr (.inr rfl)

namespace Machine

variable [Behaviour σ ν] {m : Machine σ ν} {key : String} {p : Option Nat}

/-- The key means `p`, and that is where everyone gets to with it. -/
structure LabelMeans (m : Machine σ ν) (key : String) (p : Option Nat) : Prop where
  host : m.engine.findLabel? key = p
  starts : m.engine.state = .idle → ∀ target, p = some target → ∀ fuel onComplete,
    let ended := m.executeLabel (fuel + 1) key onComplete
    ended.1.Runs .started ∧ FirstJump m.engine.id (m.engine.runCount + 1) target
      (.began m.engine.id (m.engine.runCount + 1) onComplete :: m.shared.turns) ended.2.shared.turns
  startsNot : p = none → ∀ fuel onComplete, let ended := m.executeLabel fuel key onComplete
    ended.1 = .value .labelNotFound ∧ m.refreshIfIdle.Untouched ended.2
  moves : m.engine.state = .executing → ∀ target, p = some target → ∀ fuel,
    let ended := m.redirectToLabel (fuel + 1) key
    ended.1.Runs (some target) ∧
      FirstJump m.engine.id m.engine.runCount target m.shared.turns ended.2.shared.turns
  movesNot : p = none → ∀ fuel, let ended := m.redirectToLabel fuel key
    ended.1 = .value none ∧ m.Untouched ended.2
  /-- Each hook that a call calls: what it finds, and where the run goes on from it if it is a jump. -/
  hooks : ∀ fuel call hook index ticket board earlier, hook ≠ .stop → m.shared.moments <:+ earlier →
    .called m.engine.id hook index ticket board :: earlier <:+ (m.reply fuel call).2.shared.moments →
    ∃ answer p₀ there command result, m.opening call = some (answer, p₀) ∧
      p₀.Meets m there hook index ticket command result ∧
      there.shared.moments = .called m.engine.id hook index ticket board :: earlier ∧
      (there.view index).findLabel? key = p ∧
      (hook = .execute → command.IsGoto key → ∃ cost, ∀ left,
        FirstJump m.engine.id there.engine.runCount (p.getD (index + 1)) there.shared.turns
          (m.reply (left + cost) call).2.shared.turns)

theorem AtRest.starts (h : m.AtRest) (idle : m.engine.state = .idle) {target : Nat}
    (means : m.engine.sequence.Means key (some target)) (fuel : Nat) (onComplete : Option (HostProgram ν Unit)) :
    let ended := m.executeLabel (fuel + 1) key onComplete
    ended.1.Runs .started ∧ FirstJump m.engine.id (m.engine.runCount + 1) target
      (.began m.engine.id (m.engine.runCount + 1) onComplete :: m.shared.turns) ended.2.shared.turns := by
  have tidied := m.keepsRunAndPast_refreshIfIdle
  have idle' : m.refreshIfIdle.engine.run = none := tidied.run.trans (Engine.state_idle.mp idle)
  have counted : m.refreshIfIdle.engine.runCount = m.engine.runCount := by
    rw [Machine.refreshIfIdle]
    split <;> rfl
  rcases h.executeLabel_cases (fuel + 1) key onComplete with ⟨nowhere, -⟩ | ⟨target', means', same⟩
  · exact absurd means.1 (nowhere ▸ Set.notMem_empty target)
  obtain rfl : target = target' := Option.some.inj (means.unique means')
  rcases m.refreshIfIdle.execute_cases (fuel + 1) target onComplete with ⟨executing, -⟩ | ⟨-, started⟩
  · simp [Engine.isExecuting, idle'] at executing
  let begun := m.refreshIfIdle.beginRun target onComplete
  -- The run begins with a jump to the label.
  have ready : (Point.loop begun).Ready := h.refreshIfIdle.enters_beginRun idle' target onComplete
  have pending : begun.register.pending = some (.to target) := congrArg Register.pending (register_setRegister _ _)
  have first := ready.firstJump (isExecuting_beginRun ..) pending fuel
  have keeps := keepsTurns_beginRun m.refreshIfIdle target onComplete
  have reports : Reports ((Point.loop begun).play (fuel + 1)) := Point.carries_reports.play ready trivial
  rw [same, started]
  refine ⟨reports.runs Launch.started, ?_⟩
  have begins : begun.shared.turns =
      .began m.engine.id (m.engine.runCount + 1) onComplete :: m.shared.turns := by
    rw [keeps.shared.turns]
    show .began m.refreshIfIdle.engine.id (m.refreshIfIdle.engine.runCount + 1) onComplete ::
      m.refreshIfIdle.shared.turns = _
    rw [tidied.id, counted, tidied.turns]
  rwa [begins, show begun.engine.id = m.engine.id from keeps.id.trans tidied.id,
    show begun.engine.runCount = m.engine.runCount + 1 from (runCount_beginRun ..).trans (by rw [counted])] at first

theorem AtRest.moves (h : m.AtRest) (executing : m.engine.state = .executing) {target : Nat}
    (means : m.engine.sequence.Means key (some target)) (fuel : Nat) :
    let ended := m.redirectToLabel (fuel + 1) key
    ended.1.Runs (some target) ∧
      FirstJump m.engine.id m.engine.runCount target m.shared.turns ended.2.shared.turns := by
  obtain ⟨run, hr⟩ := Option.isSome_iff_exists.mp (Engine.state_executing.mp executing)
  obtain ⟨ready, still⟩ := h.jumpTo hr target
  have inside : ¬ m.engine.sequence.len < target := by
    have bound := means.lt_length
    rw [← h.stands.core.coherent.len_eq] at bound
    omega
  have found : m.engine.findLabel? key = some target := (h.stands.core.coherent.means key).unique means
  let jumping := m.jumpTo run target
  have opens : m.opening (.redirectToLabel key) =
      some (fun verdict => .redirectedTo (verdict.outcome (some target)), .loop jumping) := by
    simp only [Machine.opening, found, hr, if_neg inside]
    rfl
  obtain ⟨ready, replies⟩ := h.opening opens (fuel + 1)
  have pending : jumping.register.pending = some (.to target) := congrArg Register.pending (register_setRegister _ _)
  have first := ready.firstJump still pending fuel
  have keeps := (KeepsTurns.refl m).jumpTo run target
  have reports : Reports ((Point.loop jumping).play (fuel + 1)) := Point.carries_reports.play ready trivial
  have outcome : (m.redirectToLabel (fuel + 1) key).1 =
      ((Point.loop jumping).play (fuel + 1)).1.outcome (some target) :=
    CallReply.redirectedTo.inj (congrArg Prod.fst replies)
  have left : (m.redirectToLabel (fuel + 1) key).2 = ((Point.loop jumping).play (fuel + 1)).2 :=
    congrArg Prod.snd replies
  rw [keeps.id, keeps.runCount, keeps.shared.turns] at first
  dsimp only
  rw [outcome, left]
  exact ⟨reports.runs (some target), first⟩

theorem Invokes.findLabel? {hook : Hook} {index : Nat} {ticket : Ticket} {command : Command σ}
    {result : HookResult σ ν} (h : m.Invokes hook index ticket command result) (key : String) :
    (m.view index).findLabel? key = m.engine.findLabel? key := by
  have executing := isExecuting_of_active (e := m.engine) (by rw [h.active]; rfl)
  have fresh := (Bool.or_eq_false_iff.mp (h.stands.core.fresh executing)).1
  rw [Engine.findLabel?, Sequence.findLabel?, if_neg (by simp [fresh])]
  rfl

theorem Invokes.gotos {index : Nat} {ticket : Ticket} {command : Command σ} {result : HookResult σ ν}
    (h : m.Invokes .execute index ticket command result) (goto : command.IsGoto key)
    (ready : (Point.hooked index ticket result).Ready) (fuel : Nat) :
    FirstJump m.engine.id m.engine.runCount ((m.engine.findLabel? key).getD (index + 1)) m.shared.turns
      ((Point.hooked index ticket result).play (fuel + 1)).2.shared.turns := by
  have passes := passes_gotoHook (ν := ν) key command.state (m.view index)
  rw [h.findLabel?, ← goto] at passes
  obtain ⟨left, keeps, executing, pending, ready, -, plays⟩ := h.passes ready passes
  have first := ready.firstJump executing pending fuel
  rw [keeps.id, keeps.runCount, keeps.shared.turns] at first
  rw [plays]
  exact first

theorem AtRest.labelMeans (h : m.AtRest) (means : m.engine.sequence.Means key p) : m.LabelMeans key p := by
  have found : m.engine.findLabel? key = p := (h.stands.core.coherent.means key).unique means
  refine ⟨found, ?_, ?_, ?_, ?_, ?_⟩
  · rintro idle target rfl fuel onComplete
    exact h.starts idle means fuel onComplete
  · rintro rfl fuel onComplete
    obtain ⟨refuses, -⟩ := h.refuses_executeLabel fuel key onComplete
    have refused := refuses.iff.mpr means
    exact ⟨refused, refuses.untouched refused⟩
  · rintro executing target rfl fuel
    exact h.moves executing means fuel
  · rintro rfl fuel
    obtain ⟨refuses, -⟩ := h.refuses_redirectToLabel fuel key
    have refused := refuses.iff.mpr means
    exact ⟨refused, refuses.untouched refused⟩
  · intro fuel call hook index ticket board earlier working since called
    obtain ⟨answer, p₀, there, command, result, opens, met, moments, cost, plays⟩ := h.meets fuel working since called
    have same : there.engine.findLabel? key = p :=
      (met.invokes.stands.core.coherent.means key).unique
        (means.of_forms (met.kept.forms h.stands.core.coherent).2)
    refine ⟨answer, p₀, there, command, result, opens, met, moments, (met.invokes.findLabel? key).trans same, ?_⟩
    rintro rfl goto
    obtain ⟨ready, -⟩ := met.reaches.plays (h.opening opens 0).1
    refine ⟨1 + cost, fun left => ?_⟩
    have first := met.invokes.gotos goto ready left
    rw [met.kept.id, same] at first
    rw [← Nat.add_assoc, plays]
    exact first

end Machine

/-! ## The main result -/

/--
One meaning for a label. Whatever the host has done before, and whatever it does next: everyone who asks for the
key gets to the first label that has it, and where no label has it, nothing begins and nothing moves.
-/
theorem label_meaning [Behaviour σ ν] {ids : List EngineId} {s : Studio σ ν} (h : Reachable ids s)
    {number : Nat} {e : Engine σ ν} (he : s.engine? number = some e) {key : String} {p : Option Nat}
    (means : e.sequence.Means key p) :
    Machine.LabelMeans ⟨e, s.shared⟩ key p ∧ ∀ other, (Cue.makeGoto other).IsGoto other :=
  ⟨(h.sound.machine he).labelMeans means, Cue.isGoto_makeGoto⟩

/-- A jump over a line to a label, whose key it gives in other letters. -/
def signpost : Studio Cue Note :=
  Studio.add {} (.create keeperId "engine"
    (.ofCommands [Cue.makeGoto "END", Cue.makeSay "skipped", Cue.makeLabel "End"]) (some .recorder) true)

theorem reachable_signpost : Reachable [keeperId] signpost :=
  .add keeperId "engine" (some .recorder) true .start (by simp) (Sequence.Built.ofCommands _)

theorem label_meaning_signpost : ∃ e, signpost.engine? 0 = some e ∧ e.findLabel? "end" = some 2 ∧
    FirstJump keeperId 1 2 [.began keeperId 1 none]
      (Machine.executeLabel ⟨e, signpost.shared⟩ 10 "end" none).2.shared.turns := by
  have he : signpost.engine? 0 = some _ := rfl
  have rest := reachable_signpost.sound.machine he
  have means : Sequence.Means _ "end" (some 2) := rest.stands.core.coherent.means "end"
  obtain ⟨right, -⟩ := label_meaning reachable_signpost he means
  exact ⟨_, he, right.host, (right.starts rfl 2 rfl 9 none).2⟩

end Sequencer
