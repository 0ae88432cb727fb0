import Sequencer.Proofs.Engine.Activation

/-!
# The run loop keeps the invariant

A call that comes back leaves the engine at rest. The induction is on fuel; a call that runs out of it
leaves the engine between two commands.
-/

namespace Sequencer

variable {σ ν : Type}

namespace Machine

variable {m : Machine σ ν} {run : Nat}

/-- What the loop of `run` finds: that run, ready to go on, or else an engine that it is to leave alone. -/
def Enters (run : Nat) (m : Machine σ ν) : Prop :=
  (m.engine.isExecuting = true ∧ m.engine.runCount = run ∧ m.Ready) ∨
  (¬ (m.engine.isExecuting = true ∧ m.engine.runCount = run) ∧ m.AtRest)

/-- How a call comes back. -/
def Ends : Verdict × Machine σ ν → Prop
  | (.outOfFuel, m) => m.Stands m.engine.active
  | (.settled, m) | (.failed _, m) => m.AtRest

theorem Enters.stands (h : Enters run m) : m.Stands m.engine.active := by
  rcases h with ⟨-, -, ready⟩ | ⟨-, rest⟩
  · exact ready.stands
  · exact rest.stands

theorem AtRest.ready (h : m.AtRest) (executing : m.engine.isExecuting = true)
    (sane : m.engine.isFaulted = false) : m.Ready :=
  ⟨h.stands, .inl (h.settled.waiting executing sane)⟩

theorem AtRest.enters (h : m.AtRest) (sane : m.engine.isFaulted = false) (run : Nat) : Enters run m := by
  by_cases same : m.engine.isExecuting = true ∧ m.engine.runCount = run
  · exact .inl ⟨same.1, same.2, h.ready same.1 sane⟩
  · exact .inr ⟨same, h⟩

theorem runCount_beginRun (m : Machine σ ν) (start : Nat) (onComplete : Option (HostProgram ν Unit)) :
    (m.beginRun start onComplete).engine.runCount = m.engine.runCount + 1 := by
  rw [beginRun, setRegister, engine_tell]
  rfl

theorem isExecuting_beginRun (m : Machine σ ν) (start : Nat)
    (onComplete : Option (HostProgram ν Unit)) :
    (m.beginRun start onComplete).engine.isExecuting = true := by
  rw [beginRun, setRegister, engine_tell]
  rfl

theorem AtRest.enters_beginRun (h : m.AtRest) (idle : m.engine.run = none) (start : Nat)
    (onComplete : Option (HostProgram ν Unit)) :
    Enters (m.beginRun start onComplete).engine.runCount (m.beginRun start onComplete) :=
  .inl ⟨isExecuting_beginRun m start onComplete, rfl, h.beginRun idle start onComplete⟩

/-! ## The loop -/

section Proceed

variable {loop : Nat → Machine σ ν → Verdict × Machine σ ν}

/-- A run that a restart has superseded is over by the time its loop goes on. -/
theorem Resumes.proceed {ended : HookEnd × Machine σ ν} (h : Resumes ended)
    (later : run ≤ ended.2.engine.runCount) (moves : ∀ run m, Moves m (loop run m).2)
    (ends : ∀ run m, Enters run m → Ends (loop run m)) : Ends (Machine.proceed loop run ended) := by
  obtain ⟨ended, m⟩ := ended
  cases ended with
  | settled => exact ends run m (h.1.enters h.2 run)
  | failed error => exact h
  | restart start =>
    have nested := ends _ _ (h.1.enters_beginRun h.2 start none)
    have counted := (moves (m.beginRun start none).engine.runCount (m.beginRun start none)).kept.runCount
    rw [runCount_beginRun] at nested counted
    rw [Machine.proceed, runCount_beginRun]
    split
    · next m' heq =>
      rw [heq] at nested counted
      refine ends run m' (.inr ⟨fun same => ?_, nested⟩)
      dsimp only at later counted
      omega
    · exact nested

end Proceed

variable [Behaviour σ ν]

theorem Enters.drive (h : Enters run m) (fuel : Nat) : Ends (Machine.drive fuel run m) := by
  -- On the fuel; a loop whose run has been superseded leaves the engine as it is.
  induction fuel generalizing run m with
  | zero => exact h.stands
  | succ fuel ih =>
    rw [Machine.drive]
    split
    · next same =>
      rw [Bool.and_eq_true, beq_iff_eq] at same
      obtain ⟨-, -, ready⟩ | ⟨other, -⟩ := h
      · split
        · next m' taken => exact ready.takeJump_none taken
        · next jump m' taken =>
          obtain ⟨stands, between⟩ := ready.takeJump_some taken
          have counted := (Moves.refl m).takeJump.kept.runCount
          rw [taken] at counted
          let turned := m'.turn (.jumped m'.engine.id run jump.target m'.engine.sequence.outline
            (m'.engine.sequence.nextRunnable jump.target))
          have stands : turned.Stands none := stands.turn _
          dsimp only
          split
          · exact stands.finish between.1 between.2.2.1
          · next index hn =>
            have runs := stands.core.coherent.action_of_nextRunnable hn
            have activated := ((Moves.refl turned).activate index).kept.runCount
            have entered : turned.engine.runCount = m'.engine.runCount := rfl
            refine (stands.activate between runs).proceed ?_ (fun run m => (Moves.refl m).drive fuel run)
              fun run m hm => ih hm
            dsimp only at counted
            omega
      · exact absurd same other
    · next other =>
      rw [Bool.and_eq_true, beq_iff_eq] at other
      obtain ⟨executing, same, -⟩ | ⟨-, rest⟩ := h
      · exact absurd ⟨executing, same⟩ other
      · exact rest

theorem AtRest.startRun (h : m.AtRest) (idle : m.engine.run = none) (fuel start : Nat)
    (onComplete : Option (HostProgram ν Unit)) : Ends (m.startRun fuel start onComplete) :=
  (h.enters_beginRun idle start onComplete).drive fuel

end Machine

end Sequencer
