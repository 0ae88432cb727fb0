import Sequencer.Proofs.Engine.Sturdiness

/-!
# Unbroken calls

A call into a sturdy engine at rest never breaks off, and leaves the engine sturdy. The induction is on fuel, beside
the one for the invariant of runs: that a hook finds its command, and that a superseded loop has nothing left to do,
is taken from there.
-/

namespace Sequencer

variable {σ ν : Type} [Behaviour σ ν]

namespace Machine

variable {m m' : Machine σ ν} {run : Nat}

/-! ## The run loop -/

/-- What a nested run has left is no business of the loop that its restart has superseded. -/
theorem AtRest.superseded (h : m.AtRest) (idle : m.engine.run = none) (later : run ≤ m.engine.runCount)
    {fuel start : Nat} (ended : Machine.drive fuel (m.beginRun start none).engine.runCount (m.beginRun start none) =
      (.settled, m')) : Enters run m' := by
  let begun := m.beginRun start none
  have rest := (h.enters_beginRun idle start none).drive fuel
  have counted := ((Moves.refl begun).drive fuel begun.engine.runCount).kept.runCount
  rw [ended] at rest counted
  rw [runCount_beginRun] at counted
  refine .inr ⟨fun same => ?_, rest⟩
  dsimp only at counted
  omega

theorem Resumes.strictProceed_eq {fuel : Nat} {ended : HookEnd × Machine σ ν} (h : Resumes ended)
    (sturdy : ended.2.Sturdy) (later : run ≤ ended.2.engine.runCount)
    (loop : ∀ (run : Nat) (m : Machine σ ν), Enters run m → m.Sturdy →
      strictDrive fuel run m = .ok (Machine.drive fuel run m) ∧ (Machine.drive fuel run m).2.Sturdy) :
    strictProceed (strictDrive fuel) run ended = .ok (Machine.proceed (Machine.drive fuel) run ended) ∧
      (Machine.proceed (Machine.drive fuel) run ended).2.Sturdy := by
  obtain ⟨ended, m⟩ := ended
  cases ended with
  | settled => exact loop run m (h.1.enters h.2 run) sturdy
  | failed error => exact ⟨rfl, sturdy⟩
  | restart start =>
    obtain ⟨begun, ready⟩ := sturdy.beginRun start none
    obtain ⟨same, nested⟩ := loop _ _ (h.1.enters_beginRun h.2 start none) ready
    rw [strictProceed, begun, Strict.bind_ok, same, Strict.bind_ok, Machine.proceed]
    rcases driven : Machine.drive fuel (m.beginRun start none).engine.runCount (m.beginRun start none)
      with ⟨verdict, m'⟩
    rw [driven] at nested
    cases verdict with
    | settled => exact loop run m' (h.1.superseded h.2 later driven) nested
    | failed | outOfFuel => exact ⟨rfl, nested⟩

theorem Enters.strictDrive_eq (h : Enters run m) (sturdy : m.Sturdy) (fuel : Nat) :
    strictDrive fuel run m = .ok (Machine.drive fuel run m) ∧ (Machine.drive fuel run m).2.Sturdy := by
  induction fuel generalizing run m with
  | zero => exact ⟨rfl, sturdy⟩
  | succ fuel ih =>
    rw [strictDrive, Machine.drive]
    by_cases same : (m.engine.isExecuting && m.engine.runCount == run) = true
    · rw [if_pos same, if_pos same]
      rw [Bool.and_eq_true, beq_iff_eq] at same
      obtain ⟨-, -, ready⟩ | ⟨other, -⟩ := h
      · have left := sturdy.takeJump
        have counted := (Moves.refl m).takeJump.kept.runCount
        rcases taken : m.takeJump with ⟨_ | jump, m'⟩
        · rw [taken] at left
          exact ⟨rfl, left⟩
        · rw [taken] at left counted
          -- The jump may lead anywhere; only what the scan finds is entered.
          obtain ⟨stands, between⟩ := ready.takeJump_some taken
          dsimp only
          rw [left.sequence.fits.strictNextRunnable_eq, Strict.bind_ok]
          cases next : m'.engine.sequence.nextRunnable jump.target with
          | none =>
            obtain ⟨same, ended⟩ := Sturdy.finish (m := m'.turn _) ⟨left.resumable, left.sequence⟩
            dsimp only
            rw [same]
            exact ⟨rfl, ended⟩
          | some index =>
            let turned := m'.turn (.jumped m'.engine.id run jump.target m'.engine.sequence.outline (some index))
            have runs := stands.core.coherent.action_of_nextRunnable next
            have stands : turned.Stands none := stands.turn _
            have activated := ((Moves.refl turned).activate index).kept.runCount
            have later : run ≤ (turned.activate index).2.engine.runCount :=
              (Nat.le_of_eq same.2.symm).trans (counted.trans activated)
            obtain ⟨same, hooked⟩ := stands.strictActivate_eq ⟨left.resumable, left.sequence⟩ between.1 runs
            dsimp only
            rw [same, Strict.bind_ok]
            exact (stands.activate between runs).strictProceed_eq hooked later fun run m => ih
      · exact absurd same other
    · rw [if_neg same, if_neg same]
      exact ⟨rfl, sturdy⟩

/-! ## What a host can do -/

theorem AtRest.strictExecute_eq (h : m.AtRest) (sturdy : m.Sturdy) (fuel start : Nat)
    (onComplete : Option (HostProgram ν Unit)) :
    m.strictExecute fuel start onComplete = .ok (m.execute fuel start onComplete) ∧
      (m.execute fuel start onComplete).2.Sturdy := by
  rw [strictExecute, Machine.execute]
  by_cases executing : m.engine.isExecuting = true
  · rw [if_pos executing, if_pos executing]
    exact ⟨rfl, sturdy.resumable, sturdy.sequence⟩
  · have enters := h.enters_beginRun (run_of_not_executing executing) start onComplete
    obtain ⟨begun, ready⟩ := sturdy.beginRun start onComplete
    obtain ⟨same, ended⟩ := enters.strictDrive_eq ready fuel
    rw [if_neg executing, if_neg executing, begun, Strict.bind_ok, same]
    exact ⟨rfl, ended⟩

omit [Behaviour σ ν] in
theorem Sturdy.refreshIfIdle (h : m.Sturdy) :
    m.strictFreshenIfIdle = .ok m.refreshIfIdle ∧ m.refreshIfIdle.Sturdy := by
  have refreshed := h.setSequence h.sequence.refresh
  rw [strictFreshenIfIdle, Machine.refreshIfIdle, h.strictFreshen_eq]
  cases m.engine.isExecuting with
  | true =>
    rw [Bool.not_true, Bool.and_false]
    exact ⟨rfl, h⟩
  | false =>
    rw [Bool.not_false, Bool.and_true]
    cases m.engine.sequence.needsRefresh with
    | true => exact ⟨rfl, refreshed⟩
    | false => exact ⟨rfl, h⟩

theorem AtRest.strictExecuteLabel_eq (h : m.AtRest) (sturdy : m.Sturdy) (fuel : Nat) (key : String)
    (onComplete : Option (HostProgram ν Unit)) :
    m.strictExecuteLabel fuel key onComplete = .ok (m.executeLabel fuel key onComplete) ∧
      (m.executeLabel fuel key onComplete).2.Sturdy := by
  obtain ⟨same, fresh⟩ := sturdy.refreshIfIdle
  rw [strictExecuteLabel, same, Strict.bind_ok, Machine.executeLabel]
  cases m.refreshIfIdle.engine.findLabel? key with
  | none => exact ⟨rfl, fresh.resumable, fresh.sequence⟩
  | some start => exact h.refreshIfIdle.strictExecute_eq fresh fuel start onComplete

theorem AtRest.strictTick_eq (h : m.AtRest) (sturdy : m.Sturdy) (fuel : Nat) :
    m.strictTick fuel = .ok (m.tick fuel) ∧ (m.tick fuel).2.Sturdy := by
  rw [strictTick, Machine.tick]
  by_cases ticks : (m.engine.isExecuting && !m.engine.isFaulted) = true
  · rw [if_pos ticks, if_pos ticks]
    rw [Bool.and_eq_true, Bool.not_eq_true'] at ticks
    obtain ⟨executing, sane⟩ := ticks
    -- Where no hook is to be polled, the tick only resumes the run.
    have on := (h.enters sane m.engine.runCount).strictDrive_eq sturdy fuel
    have waiting := h.settled.waiting executing sane
    cases m.register.pending with
    | some jump => exact on
    | none =>
      cases active : m.engine.active with
      | none => exact on
      | some index =>
        cases armed : m.register.armed with
        | none => exact on
        | some ticket =>
          obtain rfl : ticket = m.register.lastTicket := (h.stands.core.ledger.armed ticket armed).1
          obtain ⟨entry, view, target⟩ := exists_hookTarget h.stands.core.coherent (h.stands.core.fresh executing)
            (h.stands.core.acting index active)
          obtain ⟨same, polled⟩ := sturdy.callTick target m.register.lastTicket
          have counted := ((Moves.refl m).callTick index m.register.lastTicket).kept.runCount
          dsimp only
          rw [same, Strict.bind_ok]
          exact (h.stands.callTick waiting active).strictProceed_eq polled counted
            fun run m hm sturdy => hm.strictDrive_eq sturdy fuel
  · rw [if_neg ticks, if_neg ticks]
    exact ⟨rfl, sturdy⟩

omit [Behaviour σ ν] in
theorem Sturdy.forceRun (h : m.Sturdy) (jump : Jump) :
    let resolved := m.setRun (m.engine.run.map fun run => { run with faulted := false })
    (resolved.setRegister (resolved.register.force jump)).Sturdy := by
  intro resolved
  exact setRegister (m := resolved) ⟨h.resumable, h.sequence⟩ _

theorem Sturdy.jumpTo (h : m.Sturdy) (run : Run ν) (index : Nat) :
    m.strictJumpTo run index = .ok (m.jumpTo run index) ∧ (m.jumpTo run index).Sturdy := by
  rw [strictJumpTo, Machine.jumpTo]
  cases m.register.pending with
  | some jump => exact ⟨rfl, h.forceRun (.to index)⟩
  | none =>
    cases run.active with
    | none => exact ⟨rfl, h.forceRun (.to index)⟩
    | some active =>
      obtain ⟨same, interrupted⟩ := h.interrupt active
      dsimp only
      rw [same]
      exact ⟨rfl, interrupted.forceRun (.to index)⟩

theorem AtRest.strictRedirect_eq (h : m.AtRest) (sturdy : m.Sturdy) (fuel index : Nat) :
    m.strictRedirect fuel index = .ok (m.redirect fuel index) ∧ (m.redirect fuel index).2.Sturdy := by
  rw [strictRedirect, Machine.redirect]
  cases hr : m.engine.run with
  | none => exact ⟨rfl, sturdy⟩
  | some run =>
    dsimp only
    by_cases outside : m.engine.sequence.len < index
    · rw [if_pos outside, if_pos outside]
      exact ⟨rfl, sturdy⟩
    · obtain ⟨ready, executing⟩ := h.jumpTo hr index
      obtain ⟨jumped, left⟩ := sturdy.jumpTo run index
      have enters : Enters (m.jumpTo run index).engine.runCount (m.jumpTo run index) := .inl ⟨executing, rfl, ready⟩
      obtain ⟨same, ended⟩ := enters.strictDrive_eq left fuel
      rw [if_neg outside, if_neg outside, jumped, Strict.bind_ok, same]
      exact ⟨rfl, ended⟩

theorem AtRest.strictRedirectToLabel_eq (h : m.AtRest) (sturdy : m.Sturdy) (fuel : Nat) (key : String) :
    m.strictRedirectToLabel fuel key = .ok (m.redirectToLabel fuel key) ∧
      (m.redirectToLabel fuel key).2.Sturdy := by
  rw [strictRedirectToLabel, Machine.redirectToLabel]
  cases m.engine.findLabel? key with
  | none => exact ⟨rfl, sturdy.resumable, sturdy.sequence⟩
  | some target =>
    obtain ⟨same, ended⟩ := h.strictRedirect_eq sturdy fuel target
    dsimp only
    rw [same]
    rcases redirected : m.redirect fuel target with ⟨outcome, m'⟩
    rw [redirected] at ended
    cases outcome with
    | value | failed | outOfFuel => exact ⟨rfl, ended⟩

omit [Behaviour σ ν] in
theorem Sturdy.setEnabled (h : m.Sturdy) (index : Nat) (enabled : Bool) : (m.setEnabled index enabled).2.Sturdy := by
  rw [Machine.setEnabled]
  split
  · next sequence heq =>
    obtain rfl : _ = sequence := congrArg Prod.snd heq
    exact h.setSequence (h.sequence.update index _)
  · exact h

theorem AtRest.strictReply_eq (h : m.AtRest) (sturdy : m.Sturdy) (fuel : Nat) (call : Call σ ν) :
    m.strictReply fuel call = .ok (m.reply fuel call) ∧ (m.reply fuel call).2.Sturdy := by
  cases call with
  | execute start onComplete =>
    obtain ⟨same, ended⟩ := h.strictExecute_eq sturdy fuel start onComplete
    rw [strictReply, same]
    exact ⟨rfl, ended⟩
  | executeLabel key onComplete =>
    obtain ⟨same, ended⟩ := h.strictExecuteLabel_eq sturdy fuel key onComplete
    rw [strictReply, same]
    exact ⟨rfl, ended⟩
  | tick =>
    obtain ⟨same, ended⟩ := h.strictTick_eq sturdy fuel
    rw [strictReply, same]
    exact ⟨rfl, ended⟩
  | stop =>
    obtain ⟨same, ended⟩ := sturdy.stop
    rw [strictReply, same]
    exact ⟨rfl, ended⟩
  | redirect index =>
    obtain ⟨same, ended⟩ := h.strictRedirect_eq sturdy fuel index
    rw [strictReply, same]
    exact ⟨rfl, ended⟩
  | redirectToLabel key =>
    obtain ⟨same, ended⟩ := h.strictRedirectToLabel_eq sturdy fuel key
    rw [strictReply, same]
    exact ⟨rfl, ended⟩
  | setEnabled index enabled => exact ⟨rfl, sturdy.setEnabled index enabled⟩
  | release index state =>
    refine ⟨rfl, ?_⟩
    rw [Machine.reply, editable]
    split
    · exact sturdy
    · next sequence heq =>
      split at heq
      · cases heq
      · obtain rfl : m.engine.sequence = sequence := Except.ok.inj heq
        exact sturdy.setState index state

end Machine

end Sequencer
