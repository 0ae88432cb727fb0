import Sequencer.Proofs.Engine.RunLoop

/-!
# What a host can do keeps the invariant

Each operation takes an engine at rest to an engine at rest, if it comes back.
-/

namespace Sequencer

variable {σ ν : Type} {m : Machine σ ν}

/-! ## Calls as data -/

/-- What a host can do with one engine, edits of its sequence apart. -/
inductive Call (σ ν : Type) where
  | execute (start : Nat) (onComplete : Option (HostProgram ν Unit))
  | executeLabel (key : String) (onComplete : Option (HostProgram ν Unit))
  | tick
  | stop
  | redirect (index : Nat)
  | redirectToLabel (key : String)
  | setEnabled (index : Nat) (enabled : Bool)
  /-- While no run is in flight, the host may change the inner state of a command. -/
  | release (index : Nat) (state : σ)

def Verdict.isBack : Verdict → Bool
  | .settled | .failed _ => true
  | .outOfFuel => false

def Outcome.isBack {α : Type} : Outcome α → Bool
  | .value _ | .failed _ => true
  | .outOfFuel => false

/-- Makes the call, and says whether it came back. -/
def Machine.call [Behaviour σ ν] (m : Machine σ ν) (fuel : Nat) : Call σ ν → Bool × Machine σ ν
  | .execute start onComplete =>
    let (outcome, m) := m.execute fuel start onComplete
    (outcome.isBack, m)
  | .executeLabel key onComplete =>
    let (outcome, m) := m.executeLabel fuel key onComplete
    (outcome.isBack, m)
  | .tick =>
    let (verdict, m) := m.tick fuel
    (verdict.isBack, m)
  | .stop => (true, m.stop)
  | .redirect index =>
    let (outcome, m) := m.redirect fuel index
    (outcome.isBack, m)
  | .redirectToLabel key =>
    let (outcome, m) := m.redirectToLabel fuel key
    (outcome.isBack, m)
  | .setEnabled index enabled => (true, (m.setEnabled index enabled).2)
  | .release index state =>
    match m.editable with
    | .error _ => (true, m)
    | .ok sequence => (true, m.setSequence (sequence.setState index state))

theorem Moves.call [Behaviour σ ν] {o : Machine σ ν} (h : Moves o m) (fuel : Nat) (call : Call σ ν) :
    Moves o (m.call fuel call).2 := by
  cases call with
  | execute start onComplete => exact h.execute fuel start onComplete
  | executeLabel key onComplete => exact h.executeLabel fuel key onComplete
  | tick => exact h.tick fuel
  | stop => exact h.stop
  | redirect index => exact h.redirect fuel index
  | redirectToLabel key => exact h.redirectToLabel fuel key
  | setEnabled index enabled => exact h.setEnabled index enabled
  | release index state =>
    rw [Machine.call]
    split
    · exact h
    · next sequence editable =>
      rw [Machine.editable] at editable
      split at editable
      · simp at editable
      · obtain rfl : m.engine.sequence = sequence := Except.ok.inj editable
        exact h.update (Sequence.mild_setState state) index

theorem Engine.run_of_idle {e : Engine σ ν} (idle : e.isExecuting = false) : e.run = none := by
  rw [Engine.isExecuting] at idle
  simpa using idle

namespace Machine

/-! ## Coming back -/

/-- How a call is to leave the engine, depending on whether it came back. -/
def Leaves : Bool × Machine σ ν → Prop
  | (true, m) => m.AtRest
  | (false, m) => m.Stands m.engine.active

theorem Leaves.rest {left : Bool × Machine σ ν} (h : Leaves left) (back : left.1 = true) :
    left.2.AtRest := by
  obtain ⟨came, m⟩ := left
  cases came with
  | true => exact h
  | false => simp at back

theorem Leaves.stands {left : Bool × Machine σ ν} (h : Leaves left) :
    left.2.Stands left.2.engine.active := by
  obtain ⟨came, m⟩ := left
  cases came with
  | true => exact AtRest.stands h
  | false => exact h

theorem Ends.leaves {ended : Verdict × Machine σ ν} (h : Ends ended) :
    Leaves (ended.1.isBack, ended.2) := by
  obtain ⟨verdict, m⟩ := ended
  cases verdict <;> exact h

theorem Ends.outcome {α : Type} {value : α} {ended : Verdict × Machine σ ν} (h : Ends ended) :
    Leaves ((ended.1.outcome value).isBack, ended.2) := by
  obtain ⟨verdict, m⟩ := ended
  cases verdict <;> exact h

theorem AtRest.report (h : m.AtRest) (notice : Notice) : (m.report notice).AtRest :=
  ⟨⟨h.stands.core, h.stands.hears, h.stands.history⟩, h.settled⟩

theorem run_of_not_executing (h : ¬ m.engine.isExecuting = true) : m.engine.run = none :=
  Engine.run_of_idle (Bool.eq_false_of_not_eq_true h)

theorem AtRest.setSequence {s : Sequence σ} (h : m.AtRest) (idle : m.engine.run = none)
    (sound : s.Sound) (owner : s.owner = m.engine.sequence.owner) : (m.setSequence s).AtRest := by
  have core := h.stands.core
  have inactive : m.engine.active = none := by rw [Engine.active, idle]; rfl
  refine .of_idle ⟨⟨core.registered, core.ledger, sound.coherent, owner.trans core.owner, ?_,
    sound.marked, ?_, ?_⟩, h.stands.hears, h.stands.history⟩ (h.settled.idle idle)
  · intro executing
    rw [show (m.setSequence s).engine.isExecuting = m.engine.isExecuting from rfl, Engine.isExecuting,
      idle] at executing
    simp at executing
  · rw [show (m.setSequence s).engine.active = m.engine.active from rfl, inactive]
    simp
  · rw [show (m.setSequence s).engine.active = m.engine.active from rfl, inactive]
    simp

theorem AtRest.sound (h : m.AtRest) (idle : m.engine.run = none) : m.engine.sequence.Sound := by
  have stands := h.stands
  rw [show m.engine.active = none by rw [Engine.active, idle]; rfl] at stands
  exact ⟨stands.core.coherent, stands.core.marked⟩

theorem kept_edit (m : Machine σ ν) (edit : Edit σ) : (m.edit edit).2.shared = m.shared ∧
    (m.edit edit).2.engine.id = m.engine.id ∧ (m.edit edit).2.engine.listener = m.engine.listener := by
  rw [Machine.edit]
  split <;> exact ⟨rfl, rfl, rfl⟩

theorem AtRest.edit (h : m.AtRest) (edit : Edit σ) : (m.edit edit).2.AtRest := by
  rw [Machine.edit, editable]
  split
  · exact h
  · next sequence heq =>
    split at heq
    · simp at heq
    · next idle =>
      obtain rfl : m.engine.sequence = sequence := Except.ok.inj heq
      have idle := run_of_not_executing idle
      exact h.setSequence idle ((h.sound idle).edit edit) (Sequence.owner_edit edit)

theorem AtRest.refreshIfIdle (h : m.AtRest) : m.refreshIfIdle.AtRest := by
  rw [Machine.refreshIfIdle]
  split
  · next stale =>
    have idle : m.engine.run = none := run_of_not_executing (by simp_all)
    exact h.setSequence idle (h.sound idle).refresh rfl
  · exact h

variable [Behaviour σ ν]

/-! ## Operations -/

theorem AtRest.execute (h : m.AtRest) (fuel start : Nat) (onComplete : Option (HostProgram ν Unit)) :
    Leaves ((m.execute fuel start onComplete).1.isBack, (m.execute fuel start onComplete).2) := by
  rw [Machine.execute]
  split
  · exact h.report _
  · next idle => exact (h.startRun (run_of_not_executing idle) fuel start onComplete).outcome

theorem AtRest.executeLabel (h : m.AtRest) (fuel : Nat) (key : String)
    (onComplete : Option (HostProgram ν Unit)) :
    Leaves ((m.executeLabel fuel key onComplete).1.isBack, (m.executeLabel fuel key onComplete).2) := by
  rw [Machine.executeLabel]
  split
  · exact h.refreshIfIdle.report _
  · exact h.refreshIfIdle.execute fuel _ onComplete

theorem AtRest.tick (h : m.AtRest) (fuel : Nat) : Ends (m.tick fuel) := by
  rw [Machine.tick]
  split
  · next running =>
    rw [Bool.and_eq_true, Bool.not_eq_true'] at running
    obtain ⟨executing, sane⟩ := running
    split
    · next index ticket _ active armed =>
      obtain rfl : ticket = m.register.lastTicket := (h.stands.core.ledger.armed ticket armed).1
      have waiting := h.settled.waiting executing sane
      have counted := ((Moves.refl m).callTick index m.register.lastTicket).kept.runCount
      exact (h.stands.callTick waiting active).proceed counted (fun run m => (Moves.refl m).drive fuel run)
        fun run m hm => hm.drive fuel
    · exact (h.enters sane _).drive fuel
  · exact h

omit [Behaviour σ ν] in
theorem Stands.forceRun (h : m.Stands m.engine.active) (executing : m.engine.isExecuting = true)
    (jump : Jump) :
    let resolved := m.setRun (m.engine.run.map fun run => { run with faulted := false })
    let forced := resolved.setRegister (resolved.register.force jump)
    forced.Ready ∧ forced.engine.isExecuting = true := by
  intro resolved forced
  have active : resolved.engine.active = m.engine.active := active_setFaulted m false
  have still : resolved.engine.isExecuting = true := (isExecuting_setFaulted m false).trans executing
  have sane : resolved.engine.isFaulted = false := by
    obtain ⟨run, hr⟩ := Option.isSome_iff_exists.mp executing
    show ((m.engine.run.map _).map _).getD false = false
    rw [hr]
    rfl
  have stands : resolved.Stands resolved.engine.active := by rw [active]; exact h.setFaulted false
  refine ⟨⟨stands.force jump, .inr ⟨still, sane, ?_, ?_⟩⟩, still⟩
  all_goals
    rw [register_setRegister]
    rfl

theorem AtRest.jumpTo (h : m.AtRest) {run : Run ν} (hr : m.engine.run = some run) (index : Nat) :
    (m.jumpTo run index).Ready ∧ (m.jumpTo run index).engine.isExecuting = true := by
  have executing : m.engine.isExecuting = true := by rw [Engine.isExecuting, hr]; rfl
  rw [Machine.jumpTo]
  split
  · next active _ hactive =>
    have hi : m.engine.active = some active := by rw [Engine.active, hr]; exact hactive
    have interrupted := h.stands.interrupt h.settled hi
    have same : (m.interrupt active).engine.run = m.engine.run := run_interrupt m active
    have still : (m.interrupt active).engine.active = m.engine.active := by
      rw [Engine.active, Engine.active, same]
    rw [← still] at interrupted
    exact interrupted.forceRun (by rw [Engine.isExecuting, same]; exact executing) _
  · exact h.stands.forceRun executing _

theorem AtRest.redirect (h : m.AtRest) (fuel index : Nat) :
    Leaves ((m.redirect fuel index).1.isBack, (m.redirect fuel index).2) := by
  rw [Machine.redirect]
  split
  · exact h
  · next run hr =>
    dsimp only
    split
    · exact h
    · obtain ⟨ready, executing⟩ := h.jumpTo hr index
      have enters : Enters (m.jumpTo run index).engine.runCount (m.jumpTo run index) :=
        .inl ⟨executing, rfl, ready⟩
      exact (enters.drive fuel).outcome

theorem AtRest.redirectToLabel (h : m.AtRest) (fuel : Nat) (key : String) :
    Leaves ((m.redirectToLabel fuel key).1.isBack, (m.redirectToLabel fuel key).2) := by
  rw [Machine.redirectToLabel]
  split
  · exact h.report _
  · next target _ =>
    have redirected := h.redirect fuel target
    split <;> next heq => rwa [heq] at redirected

omit [Behaviour σ ν] in
theorem AtRest.setEnabled (h : m.AtRest) (index : Nat) (enabled : Bool) :
    (m.setEnabled index enabled).2.AtRest := by
  rw [Machine.setEnabled]
  split
  · next sequence heq =>
    obtain rfl : _ = sequence := congrArg Prod.snd heq
    exact ⟨h.stands.update (Sequence.mild_setEnabled enabled) index
      (h.stands.core.marked.update h.stands.core.coherent fun _ => rfl), h.settled⟩
  · exact h

theorem AtRest.call (h : m.AtRest) (fuel : Nat) (call : Call σ ν) : Leaves (m.call fuel call) := by
  cases call with
  | execute start onComplete => exact h.execute fuel start onComplete
  | executeLabel key onComplete => exact h.executeLabel fuel key onComplete
  | tick => exact (h.tick fuel).leaves
  | stop => exact h.stop.1
  | redirect index => exact h.redirect fuel index
  | redirectToLabel key => exact h.redirectToLabel fuel key
  | setEnabled index enabled => exact h.setEnabled index enabled
  | release index state =>
    rw [Machine.call, editable]
    split
    · exact h
    · next sequence heq =>
      split at heq
      · simp at heq
      · obtain rfl : m.engine.sequence = sequence := Except.ok.inj heq
        exact ⟨h.stands.setState index state, h.settled⟩

end Machine

end Sequencer
