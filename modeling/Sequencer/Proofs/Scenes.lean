import Sequencer.Command.Cue
import Sequencer.Proofs.Engine.Passing
import Sequencer.Proofs.Histories
import Sequencer.Proofs.Sequence.Accuracy

/-!
# Scenes

A script is flat, and its blocks are found by their indents. Where they are properly nested, the script is a
scene, and a run over it does what a recursive reading of the scene says.
-/

namespace Sequencer

/-! ## Conditions -/

/-- What the condition evaluates to next. -/
def Condition.value : Condition → Bool
  | .fixed value => value
  | .listed _ values => values.head?.getD false

/-- What is to be seen of one evaluation. Those of fixed conditions leave no trace. -/
def Condition.evaluations : Condition → List (String × Bool)
  | .fixed _ => []
  | .listed id values => [(id, values.head?.getD false)]

def Note.evaluation? : Note → Option (String × Bool)
  | .condition id value => some (id, value)
  | _ => none

/-- The conditions that have been evaluated and their values, the latest first. -/
def evaluations (events : List (Event Note)) : List (String × Bool) :=
  (notesOf events).filterMap Note.evaluation?

/-- The hook evaluates just these conditions, signals `goal`, and does nothing else to its engine. -/
def Evaluates (goal : Nat) (program : HookProgram Note (Cue × Except CommandError Unit))
    (evaluated : List (String × Bool)) : Prop :=
  ∃ notes, Passes (some goal) program notes ∧ notes.filterMap Note.evaluation? = evaluated

theorem Cue.evaluates_branch (view : View) (condition : Condition) :
    Evaluates (if condition.value then view.index + 1 else behindBlock view)
      (execute view (.branch condition)) condition.evaluations := by
  cases condition with
  | fixed value => exact ⟨[], .signal (.done _), rfl⟩
  | listed id values =>
    exact ⟨[.condition id (values.head?.getD false)], .note (.signal (.done _)), rfl⟩

theorem Cue.evaluates_blockEnd (view : View) :
    Evaluates (view.index + 1) (execute view .blockEnd) [] :=
  ⟨[], .signal (.done _), rfl⟩

/-! ## Scenes -/

/-- A command that only asks to go on with the next one, and succeeds. -/
structure SyncAction where
  command : Command Cue
  action : command.kind = .action
  flat : command.Flat
  continues : ∀ view, Evaluates (view.index + 1) (Cue.execute view command.state) []

/-- A comment, a label or a disabled command. -/
structure PassedOver where
  command : Command Cue
  enabled : Bool
  flat : command.Flat
  skipped : enabled = false ∨ command.kind ≠ .action

inductive Scene where
  | done
  | action (action : SyncAction) (rest : Scene)
  | passedOver (entry : PassedOver) (rest : Scene)
  | block (condition : Condition) (body rest : Scene)

namespace Scene

/-- The commands of the scene, and whether each is enabled. -/
def flatten : Scene → List (Command Cue × Bool)
  | done => []
  | action a rest => (a.command, true) :: rest.flatten
  | passedOver entry rest => (entry.command, entry.enabled) :: rest.flatten
  | block condition body rest =>
    (Cue.makeIf condition, true) :: body.flatten ++ (Cue.makeEnd, true) :: rest.flatten

def size (scene : Scene) : Nat := scene.flatten.length

/-- The positions of the commands that are executed, if the scene begins at `start`. -/
def visits (start : Nat) : Scene → List Nat
  | done => []
  | action _ rest => start :: rest.visits (start + 1)
  | passedOver _ rest => rest.visits (start + 1)
  | block condition body rest =>
    let last := start + 1 + body.size
    start :: (if condition.value then body.visits (start + 1) ++ [last] else []) ++
      rest.visits (last + 1)

/-- The conditions that are evaluated, in order. -/
def evaluations : Scene → List (String × Bool)
  | done => []
  | action _ rest | passedOver _ rest => rest.evaluations
  | block condition body rest =>
    condition.evaluations ++ (if condition.value then body.evaluations else []) ++ rest.evaluations

theorem nested (scene : Scene) : Nested (scene.flatten.map fun c => c.1.form) := by
  induction scene with
  | done => exact .nil
  | action a rest ih => exact .flat ⟨a.flat.opens, a.flat.closes⟩ ih
  | passedOver entry rest ih => exact .flat ⟨entry.flat.opens, entry.flat.closes⟩ ih
  | block condition body rest inner outer =>
    rw [flatten, List.map_append, List.map_cons, List.map_cons]
    exact .block ⟨rfl, rfl⟩ inner ⟨rfl, rfl⟩ outer

theorem size_block (condition : Condition) (body rest : Scene) :
    (block condition body rest).size = 1 + body.size + 1 + rest.size := by
  simp only [size, flatten, List.length_append, List.length_cons]
  omega

theorem visits_sorted (scene : Scene) (start : Nat) :
    (scene.visits start).Pairwise (· < ·) ∧
      ∀ p ∈ scene.visits start, start ≤ p ∧ p < start + scene.size := by
  induction scene generalizing start with
  | done => simp [visits]
  | action a rest ih =>
    obtain ⟨sorted, within⟩ := ih (start + 1)
    have size : (action a rest).size = rest.size + 1 := rfl
    refine ⟨List.pairwise_cons.mpr ⟨fun p hp => (within p hp).1, sorted⟩, fun p hp => ?_⟩
    rcases List.mem_cons.mp hp with rfl | hp
    · omega
    · have := within p hp
      omega
  | passedOver entry rest ih =>
    obtain ⟨sorted, within⟩ := ih (start + 1)
    have size : (passedOver entry rest).size = rest.size + 1 := rfl
    refine ⟨sorted, fun p hp => ?_⟩
    have := within p hp
    omega
  | block condition body rest inner outer =>
    obtain ⟨sorted_body, within_body⟩ := inner (start + 1)
    obtain ⟨sorted_rest, within_rest⟩ := outer (start + 1 + body.size + 1)
    have size := size_block condition body rest
    rw [visits]
    cases condition.value with
    | false =>
      refine ⟨List.pairwise_cons.mpr ⟨fun p hp => ?_, sorted_rest⟩, fun p hp => ?_⟩
      · have := within_rest p hp
        omega
      · rcases List.mem_cons.mp hp with rfl | hp
        · omega
        · have := within_rest p hp
          omega
    | true =>
      -- The body lies before its end, and that before the rest.
      simp only [if_true, List.cons_append, List.append_assoc, List.nil_append, List.pairwise_cons,
        List.pairwise_append, List.mem_append, List.mem_cons]
      grind

end Scene

/-! ## Playing -/

namespace Machine

variable {m m' : Machine Cue Note} {run p q : Nat} {evaluated : List (String × Bool)}

/-- The loop of a run goes on to `q`: it executes the commands at `visits`, one iteration for each. -/
structure Plays (run : Nat) (m m' : Machine Cue Note) (visits : List Nat)
    (evaluated : List (String × Bool)) (q : Nat) : Prop where
  loop : ∀ fuel, drive (fuel + visits.length) run m = drive fuel run m'
  poised : m'.Poised run q
  played : ∃ notes, m.Played m' visits notes q ∧ notes.filterMap Note.evaluation? = evaluated

theorem Plays.trans {m'' : Machine Cue Note} {visits visits' : List Nat}
    {evaluated' : List (String × Bool)} (h : Plays run m m' visits evaluated p)
    (h' : Plays run m' m'' visits' evaluated' q) (le : p ≤ q) :
    Plays run m m'' (visits ++ visits') (evaluated ++ evaluated') q where
  loop fuel := by
    rw [List.length_append, Nat.add_comm visits.length, ← Nat.add_assoc, h.loop, h'.loop]
  poised := h'.poised
  played := by
    obtain ⟨notes, played, rfl⟩ := h.played
    obtain ⟨notes', played', rfl⟩ := h'.played
    exact ⟨notes ++ notes', played.trans played' le, List.filterMap_append⟩

theorem Plays.ahead {visits : List Nat} (played : List (Command Cue × Bool))
    {rest : List (Command Cue × Bool)} (h : Plays run m m' visits evaluated q)
    (ahead : m.engine.sequence.script.drop p = played ++ rest) (length : q = p + played.length) :
    m'.engine.sequence.script.drop q = rest := by
  obtain ⟨notes, along, -⟩ := h.played
  rw [along.script, length, ← List.drop_drop, ahead, List.drop_left]

theorem Poised.plays (h : m.Poised run p) {c : Command Cue} {rest : List (Command Cue × Bool)}
    (ahead : m.engine.sequence.script.drop p = (c, true) :: rest) (action : c.kind = .action)
    (evaluates : Evaluates q (Cue.execute (m.view p) c.state) evaluated) (lt : p < q) :
    ∃ m', Plays run m m' [p] evaluated q := by
  obtain ⟨notes, passes, noted⟩ := evaluates
  have found : m.engine.sequence.script[p]? = some (c, true) := by
    rw [← List.head?_drop, ahead]
    rfl
  obtain ⟨m', loop, poised, played⟩ := h.step found action passes
  exact ⟨m', loop, poised, notes, played.mono lt, noted⟩

theorem Poised.behindBlock (h : m.Poised run p) {opener closer : Command Cue × Bool}
    {body rest : List (Command Cue × Bool)}
    (ahead : m.engine.sequence.script.drop p = opener :: body ++ closer :: rest)
    (opens : opener.1.Opener) (nested : Nested (body.map fun c => c.1.form)) (closes : closer.1.Closer) :
    Cue.behindBlock (m.view p) = p + 1 + body.length + 1 := by
  have core := h.ready.stands.core
  have fresh : m.engine.sequence.indentationStale = false :=
    (Bool.or_eq_false_iff.mp (core.fresh h.executing)).2
  let before := (m.engine.sequence.script.take p).map fun c => c.1.form
  have length : before.length = p := by
    have inside : p ≤ m.engine.sequence.script.length := by
      by_contra outside
      rw [List.drop_eq_nil_of_le (by omega)] at ahead
      simp at ahead
    simp [before, inside]
  have forms : m.engine.sequence.forms = before ++ opener.1.form :: body.map (fun c => c.1.form) ++
      closer.1.form :: rest.map fun c => c.1.form := by
    rw [Sequence.forms_eq_script]
    nth_rewrite 1 [← List.take_append_drop p m.engine.sequence.script]
    rw [List.map_append, ahead]
    simp [before]
  have closing : m.engine.sequence.layout.blocks.end? before.length =
      some (before.length + 1 + (body.map fun c => c.1.form).length) := by
    rw [core.coherent.blocks_eq fresh, forms]
    exact Nested.end?_blocksOf before _ ⟨opens.opens, opens.closes⟩ nested ⟨closes.opens, closes.closes⟩
  rw [length, List.length_map] at closing
  rw [Cue.behindBlock, show (m.view p).blockEnd? = _ from closing]

end Machine

/-- The loop plays a scene as it reads. -/
theorem Scene.plays (scene : Scene) {m : Machine Cue Note} {run p : Nat}
    {after : List (Command Cue × Bool)} (h : m.Poised run p)
    (ahead : m.engine.sequence.script.drop p = scene.flatten ++ after) :
    ∃ m', Machine.Plays run m m' (scene.visits p) scene.evaluations (p + scene.size) := by
  -- On the scene; the position and what stands behind are those of the part that is played next.
  induction scene generalizing m p after with
  | done => exact ⟨m, fun _ => rfl, h, [], .refl m p, rfl⟩
  | action a rest ih =>
    obtain ⟨m₁, first⟩ := h.plays ahead a.action (a.continues (m.view p)) (Nat.lt_succ_self p)
    obtain ⟨m₂, others⟩ := ih first.poised (first.ahead [_] ahead rfl)
    have size : p + (action a rest).size = p + 1 + rest.size := Nat.add_right_comm p rest.size 1
    rw [size]
    exact ⟨m₂, first.trans others (Nat.le_add_right _ _)⟩
  | passedOver entry rest ih =>
    have skipped : m.engine.sequence.outline[p]? ≠ some (true, .action) := by
      rw [Sequence.outline_eq_script, List.getElem?_map, ← List.head?_drop, ahead]
      rcases entry.skipped with disabled | inert
      · simp [flatten, disabled]
      · simp [flatten, inert]
    have behind : m.engine.sequence.script.drop (p + 1) = rest.flatten ++ after := by
      rw [← List.tail_drop, ahead]
      rfl
    have size : p + (passedOver entry rest).size = p + 1 + rest.size := Nat.add_right_comm p rest.size 1
    rw [size]
    exact ih (h.skip skipped) behind
  | block condition body rest inner outer =>
    let last := p + 1 + body.size
    have size : p + (block condition body rest).size = last + 1 + rest.size := by
      have := size_block condition body rest
      omega
    have flat : m.engine.sequence.script.drop p = (Cue.makeIf condition, true) :: body.flatten ++
        (Cue.makeEnd, true) :: (rest.flatten ++ after) := by
      rw [ahead, flatten]
      simp
    have branch := Cue.evaluates_branch (m.view p) condition
    rw [size, visits, evaluations]
    cases hv : condition.value with
    | false =>
      -- The condition sends the loop behind the end of the block.
      rw [hv, if_neg Bool.false_ne_true, h.behindBlock flat ⟨rfl, rfl⟩ body.nested ⟨rfl, rfl⟩] at branch
      rw [if_neg Bool.false_ne_true, if_neg Bool.false_ne_true, List.append_nil]
      obtain ⟨m₁, opened⟩ := h.plays (q := last + 1) flat rfl branch (by omega)
      have behind : m.engine.sequence.script.drop p =
          ((Cue.makeIf condition, true) :: body.flatten ++ [(Cue.makeEnd, true)]) ++
            (rest.flatten ++ after) := by
        rw [flat]
        simp
      obtain ⟨m₂, others⟩ := outer opened.poised (opened.ahead _ behind (by simp [last, Scene.size]; omega))
      exact ⟨m₂, opened.trans others (Nat.le_add_right _ _)⟩
    | true =>
      -- The loop goes through the body and its end, and then on to the rest.
      rw [hv, if_pos rfl] at branch
      rw [if_pos rfl, if_pos rfl]
      obtain ⟨m₁, opened⟩ := h.plays (q := p + 1) flat rfl branch (Nat.lt_succ_self p)
      have inside := opened.ahead [_] flat rfl
      obtain ⟨m₂, played⟩ := inner opened.poised inside
      have closer := played.ahead body.flatten inside rfl
      obtain ⟨m₃, closed⟩ := played.poised.plays (q := last + 1) closer rfl
        (Cue.evaluates_blockEnd (m₂.view last)) (Nat.lt_succ_self last)
      obtain ⟨m₄, others⟩ := outer closed.poised (closed.ahead [_] closer rfl)
      have entered := opened.trans (played.trans closed (Nat.le_succ last)) (by omega)
      rw [List.append_nil] at entered
      exact ⟨m₄, entered.trans others (Nat.le_add_right _ _)⟩

/-! ## Whole runs -/

/--
A run over a scene executes what the scene says, in order and nothing twice, and evaluates each condition it
gets to once. It needs no tick to come to its end.
-/
theorem structured_programs {ids : List EngineId} {s : Studio Cue Note} (h : Reachable ids s) {number : Nat}
    {e : Engine Cue Note} (he : s.engine? number = some e) (idle : e.state = .idle) (scene : Scene)
    (written : e.sequence.script = scene.flatten) {fuel : Nat}
    (enough : (scene.visits 0).length < fuel) :
    (scene.visits 0).Pairwise (· < ·) ∧
    ∃ m, Machine.execute ⟨e, s.shared⟩ fuel 0 none = (.value .started, m) ∧ m.engine.state = .idle ∧
      calls e.id m.shared.moments = (scene.visits 0).reverse ++ calls e.id s.shared.moments ∧
      evaluations m.shared.events = scene.evaluations.reverse ++ evaluations s.shared.events := by
  let m : Machine Cue Note := ⟨e, s.shared⟩
  have rest : m.AtRest := h.sound.machine he
  have still : ¬ m.engine.isExecuting = true := by
    intro executing
    simp [Engine.state, show e.isExecuting = true from executing] at idle
  obtain ⟨begun, id, quiet, called, noted, script⟩ :=
    rest.poised_beginRun (Machine.run_of_not_executing still) 0 none
  have ahead : (m.beginRun 0 none).engine.sequence.script.drop 0 = scene.flatten ++ [] := by
    rw [script, List.drop_zero, List.append_nil]
    exact written
  -- The scene is all there is, and so the run ends behind it.
  obtain ⟨m₁, played⟩ := scene.plays begun ahead
  obtain ⟨notes, along, evaluated⟩ := played.played
  have nothing : m₁.engine.sequence.nextRunnable (0 + scene.size) = none :=
    played.poised.ready.stands.core.coherent.nextRunnable_of_drop (played.ahead scene.flatten ahead rfl)
  obtain ⟨m₂, ended, gone, calls_kept, notes_kept⟩ :=
    played.poised.finish nothing (along.onComplete.trans quiet)
  have calls_along := along.calls
  rw [id] at calls_along
  rw [along.id, id] at calls_kept
  refine ⟨(scene.visits_sorted 0).1, m₂, ?_, ?_, ?_, ?_⟩
  · obtain ⟨left, rfl⟩ : ∃ left, fuel = left + 1 + (scene.visits 0).length :=
      ⟨fuel - (scene.visits 0).length - 1, by omega⟩
    have driven := (played.loop (left + 1)).trans (ended left)
    rw [← begun.current] at driven
    rw [Machine.execute, if_neg still, Machine.startRun, driven]
    rfl
  · rw [Engine.state, Engine.isExecuting, gone]
    rfl
  · rw [calls_kept, calls_along, called]
  · rw [evaluations, notes_kept, along.notes, noted, List.filterMap_append, List.filterMap_reverse,
      evaluated]
    rfl

/-! ## A scene with a block in a block -/

def spoken (line : String) : SyncAction where
  command := Cue.makeSay line
  action := rfl
  flat := ⟨rfl, rfl⟩
  continues _ := ⟨[], .report (.signal (.done _)), rfl⟩

/-- Signals twice, and notes down that the second signal was refused. -/
def eager : SyncAction where
  command := Cue.makeScripted .action false false
    { name := "eager", execute := [[.next, .next]], tick := [], stop := [] }
  action := rfl
  flat := ⟨rfl, rfl⟩
  continues _ := ⟨[.script .execute "eager" [.flag true, .flag false]],
    .signal (.again (.note (.done _))), rfl⟩

def remark : PassedOver := ⟨Cue.makeComment "it rains", true, ⟨rfl, rfl⟩, .inr (by simp [Cue.makeComment])⟩

def struck : PassedOver := ⟨Cue.makeWait 1 3, false, ⟨rfl, rfl⟩, .inl rfl⟩

def evening : Scene :=
  .action (spoken "dusk") (.block (.listed "rain" [true])
    (.passedOver remark (.block (.fixed false) (.action (spoken "thunder") .done) (.passedOver struck .done)))
    (.action eager .done))

/-- The commands of the scene, with a hole where one was cut. -/
def eveningSequence : Sequence Cue :=
  let written := Sequence.ofCommands (evening.flatten.map Prod.fst)
  let cut := ((Edit.remove 3).apply ((Edit.insert 3 (Cue.makeSay "cut")).apply written).2).2
  ((Edit.setEnabled 6 false).apply cut).2

def stageId : EngineId := ⟨3⟩

def stage : Studio Cue Note :=
  Studio.add {} (.create stageId "stage" eveningSequence (some .recorder) true)

theorem structured_programs_evening : ∃ e m, stage.engine? 0 = some e ∧
    e.sequence.slots.map (·.isSome) = [true, true, true, false, true, true, true, true, true, true] ∧
    Machine.execute ⟨e, stage.shared⟩ 6 0 none = (.value .started, m) ∧ m.engine.state = .idle ∧
    calls stageId m.shared.moments = [8, 7, 3, 1, 0] ∧ evaluations m.shared.events = [("rain", true)] := by
  have built : eveningSequence.Built :=
    (((Sequence.Built.ofCommands _).edit (.insert 3 _)).edit (.remove 3)).edit (.setEnabled 6 false)
  have reachable : Reachable [stageId] stage :=
    .add stageId "stage" (some .recorder) true .start (by simp) built
  obtain ⟨-, m, ran, idle, calls, evaluated⟩ :=
    structured_programs reachable (show stage.engine? 0 = some _ from rfl) rfl evening rfl
      (show 5 < 6 by decide)
  exact ⟨_, m, rfl, rfl, ran, idle, calls, evaluated⟩

end Sequencer
