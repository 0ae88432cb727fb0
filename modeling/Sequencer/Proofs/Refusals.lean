import Sequencer.Proofs.Sequence.Labels
import Sequencer.Proofs.Sequence.Editing
import Sequencer.Proofs.Sequence.Likeness
import Sequencer.Proofs.Superseding

/-!
# Refusals

Each call says exactly in which states it refuses, and a call that refuses leaves everything as it was. What
the host offered with it is dropped.
-/

namespace Sequencer

variable {σ ν : Type}

namespace Engine

variable {e : Engine σ ν}

theorem state_executing : e.state = .executing ↔ e.isExecuting = true := by
  rw [state]
  split <;> simp_all

theorem state_idle : e.state = .idle ↔ e.run = none := by
  rw [state, isExecuting]
  cases e.run <;> simp

end Engine

theorem Verdict.value_of_outcome {α : Type} {value value' : α} {verdict : Verdict}
    (h : verdict.outcome value = .value value') : value = value' := by
  cases verdict with
  | settled => exact Outcome.value.inj h
  | failed | outOfFuel => simp [Verdict.outcome] at h

namespace Machine

variable {m : Machine σ ν} {fuel : Nat}

/-! ## What each call comes to -/

theorem isExecuting_refreshIfIdle : m.refreshIfIdle.engine.isExecuting = m.engine.isExecuting := by
  rw [refreshIfIdle]
  split <;> rfl

theorem forms_refreshIfIdle : m.refreshIfIdle.engine.sequence.forms = m.engine.sequence.forms := by
  rw [refreshIfIdle]
  split
  · exact Sequence.forms_refresh
  · rfl

theorem AtRest.means_refreshIfIdle (h : m.AtRest) (key : String) :
    m.engine.sequence.Means key (m.refreshIfIdle.engine.findLabel? key) :=
  (h.refreshIfIdle.stands.core.coherent.means key).of_forms forms_refreshIfIdle.symm

theorem Reports.failed {α : Type} {ended : Verdict × Machine σ ν} (h : Reports ended) {value : α}
    {error : EngineError} (failed : ended.1.outcome value = .failed error) :
    ∃ location source, error = .commandFailed location source := by
  obtain ⟨verdict, m⟩ := ended
  cases verdict with
  | failed =>
    obtain ⟨-, index, source, -, rfl⟩ := h
    exact ⟨_, source, (Outcome.failed.inj failed).symm⟩
  | settled | outOfFuel => simp [Verdict.outcome] at failed

section Calls

variable [Behaviour σ ν]

theorem AtRest.redirect_cases (h : m.AtRest) (fuel index : Nat) :
    (m.engine.run = none ∧ m.redirect fuel index = (.failed (.notExecuting m.engine.name), m)) ∨
    (m.engine.isExecuting = true ∧ m.engine.sequence.len < index ∧
      m.redirect fuel index = (.failed (.indexOutOfRange index m.engine.sequence.len), m)) ∨
    (m.engine.isExecuting = true ∧ index ≤ m.engine.sequence.len ∧ ∃ ended, Reports ended ∧
      m.redirect fuel index = (ended.1.outcome (), ended.2)) := by
  cases hr : m.engine.run with
  | none => exact .inl ⟨rfl, by rw [Machine.redirect, hr]⟩
  | some run =>
    have executing : m.engine.isExecuting = true := by rw [Engine.isExecuting, hr]; rfl
    by_cases beyond : m.engine.sequence.len < index
    · refine .inr (.inl ⟨executing, beyond, ?_⟩)
      simp only [Machine.redirect, hr, if_pos beyond]
    · obtain ⟨ready, still⟩ := h.jumpTo hr index
      refine .inr (.inr ⟨executing, Nat.le_of_not_lt beyond, (Point.loop (m.jumpTo run index)).play fuel,
        Point.carries_reports.play (.inl ⟨still, rfl, ready⟩) trivial, ?_⟩)
      simp only [Machine.redirect, hr, if_neg beyond]
      rfl

theorem AtRest.redirectToLabel_cases (h : m.AtRest) (fuel : Nat) (key : String) :
    (m.engine.sequence.labelsWith key = ∅ ∧ m.redirectToLabel fuel key =
      (.value none, m.report (.redirectLabelMissing m.engine.name key))) ∨
    ∃ target, m.engine.sequence.Means key (some target) ∧
      ((m.engine.run = none ∧ m.redirectToLabel fuel key = (.failed (.notExecuting m.engine.name), m)) ∨
      (m.engine.isExecuting = true ∧ ∃ ended, Reports ended ∧
        m.redirectToLabel fuel key = (ended.1.outcome (some target), ended.2))) := by
  have means := h.stands.core.coherent.means key
  rw [Machine.redirectToLabel, Engine.findLabel?]
  cases found : m.engine.sequence.findLabel? key with
  | none =>
    rw [found] at means
    exact .inl ⟨means, rfl⟩
  | some target =>
    rw [found] at means
    refine .inr ⟨target, means, ?_⟩
    have bound := means.lt_length
    rw [← h.stands.core.coherent.len_eq] at bound
    rcases h.redirect_cases fuel target with ⟨idle, same⟩ | ⟨-, beyond, -⟩ | ⟨executing, -, ended, reports, same⟩
    · exact .inl ⟨idle, by simp only [same]⟩
    · omega
    · refine .inr ⟨executing, ended, reports, ?_⟩
      simp only [same]
      obtain ⟨verdict, m'⟩ := ended
      cases verdict <;> rfl

theorem execute_cases (m : Machine σ ν) (fuel start : Nat) (onComplete : Option (HostProgram ν Unit)) :
    (m.engine.isExecuting = true ∧ m.execute fuel start onComplete =
      (.value .rejected, m.report (.runIgnored m.engine.name start m.engine.active))) ∨
    (m.engine.run = none ∧ m.execute fuel start onComplete =
      ((m.startRun fuel start onComplete).1.outcome .started, (m.startRun fuel start onComplete).2)) := by
  rw [Machine.execute]
  split
  · next executing => exact .inl ⟨executing, rfl⟩
  · next idle => exact .inr ⟨run_of_not_executing idle, rfl⟩

theorem AtRest.executeLabel_cases (h : m.AtRest) (fuel : Nat) (key : String)
    (onComplete : Option (HostProgram ν Unit)) :
    (m.engine.sequence.labelsWith key = ∅ ∧ m.executeLabel fuel key onComplete =
      (.value .labelNotFound, m.refreshIfIdle.report (.startLabelMissing m.refreshIfIdle.engine.name key))) ∨
    ∃ target, m.engine.sequence.Means key (some target) ∧
      m.executeLabel fuel key onComplete = m.refreshIfIdle.execute fuel target onComplete := by
  have means := h.means_refreshIfIdle key
  rw [Machine.executeLabel]
  cases found : m.refreshIfIdle.engine.findLabel? key with
  | none =>
    rw [found] at means
    exact .inl ⟨means, rfl⟩
  | some target =>
    rw [found] at means
    exact .inr ⟨target, means, rfl⟩

end Calls

/-! ## Leaving everything as it was -/

/-- Nothing has changed, and nothing has happened but that something was reported. -/
def Untouched (m m' : Machine σ ν) : Prop := ∃ notices, m' = { m with shared := { m.shared with notices } }

theorem Untouched.refl (m : Machine σ ν) : m.Untouched m := ⟨m.shared.notices, rfl⟩

theorem untouched_report (m : Machine σ ν) (notice : Notice) : m.Untouched (m.report notice) := ⟨_, rfl⟩

/-- At most the caches of the sequence have been brought up to date, and only if they were out of date. -/
structure Refreshed (m m' : Machine σ ν) : Prop where
  machine : m' = m ∨ m.engine.state = .idle ∧ m.engine.sequence.needsRefresh = true ∧
    m' = m.setSequence m.engine.sequence.refresh
  entries : m'.engine.sequence.entries.map Entry.bare = m.engine.sequence.entries.map Entry.bare

theorem refreshed_refreshIfIdle (m : Machine σ ν) : m.Refreshed m.refreshIfIdle := by
  rw [refreshIfIdle]
  split
  · next stale =>
    rw [Bool.and_eq_true, Bool.not_eq_true'] at stale
    refine ⟨.inr ⟨Engine.state_idle.mpr (Engine.run_of_idle stale.2), stale.1, rfl⟩, ?_⟩
    exact (Sequence.map_entries_refreshIndentation _ fun _ _ => rfl).trans
      (Sequence.map_entries_refreshIndices _ fun _ _ _ => rfl)
  · exact ⟨.inl rfl, rfl⟩

/-- A call gives the reply `refusal` exactly in these states, and then leaves everything as it was. -/
structure Refuses {α : Type} (m : Machine σ ν) (ended : α × Machine σ ν) (refusal : α) (states : Prop) : Prop where
  iff : ended.1 = refusal ↔ states
  untouched : ended.1 = refusal → m.Untouched ended.2

section Refuses

variable {α : Type} {ended : α × Machine σ ν} {refusal : α} {states : Prop}

theorem Refuses.always (same : ended.1 = refusal) (hs : states) (untouched : m.Untouched ended.2) :
    m.Refuses ended refusal states :=
  ⟨⟨fun _ => hs, fun _ => same⟩, fun _ => untouched⟩

theorem Refuses.never (other : ended.1 ≠ refusal) (hs : ¬ states) : m.Refuses ended refusal states :=
  ⟨⟨fun he => absurd he other, fun there => absurd there hs⟩, fun he => absurd he other⟩

end Refuses

/-- In which states each call refuses, and that it does nothing then. -/
structure RefusesRight [Behaviour σ ν] (m : Machine σ ν) (fuel : Nat) : Prop where
  rejected : ∀ start onComplete, m.Refuses (m.execute fuel start onComplete) (.value .rejected)
    (m.engine.state = .executing)
  refreshed : m.Refreshed m.refreshIfIdle
  labelNotFound : ∀ key onComplete, m.refreshIfIdle.Refuses (m.executeLabel fuel key onComplete)
    (.value .labelNotFound) (m.engine.sequence.labelsWith key = ∅)
  labelRejected : ∀ key onComplete, m.refreshIfIdle.Refuses (m.executeLabel fuel key onComplete)
    (.value .rejected) ((m.engine.sequence.labelsWith key).Nonempty ∧ m.engine.state = .executing)
  /-- The callback that comes with a refused call makes no difference. -/
  offered : ∀ start key onComplete other,
    (m.engine.state = .executing → m.execute fuel start other = m.execute fuel start onComplete) ∧
    (m.engine.sequence.labelsWith key = ∅ ∨ m.engine.state = .executing →
      m.executeLabel fuel key other = m.executeLabel fuel key onComplete)
  notExecuting : ∀ index, m.Refuses (m.redirect fuel index) (.failed (.notExecuting m.engine.name))
    (m.engine.state = .idle)
  outOfRange : ∀ index, m.Refuses (m.redirect fuel index)
    (.failed (.indexOutOfRange index m.engine.sequence.len))
    (m.engine.state = .executing ∧ m.engine.sequence.len < index)
  noLabel : ∀ key, m.Refuses (m.redirectToLabel fuel key) (.value none) (m.engine.sequence.labelsWith key = ∅)
  labelNotExecuting : ∀ key, m.Refuses (m.redirectToLabel fuel key) (.failed (.notExecuting m.engine.name))
    ((m.engine.sequence.labelsWith key).Nonempty ∧ m.engine.state = .idle)
  setEnabled : ∀ index enabled, m.Refuses (m.setEnabled index enabled)
    (.error (.indexOutOfRange index m.engine.sequence.len)) (m.engine.sequence.len ≤ index)
  busy : ∀ edit, m.Refuses (m.edit edit) (.error (.busy m.engine.name)) (m.engine.state = .executing)
  editable : m.editable = .error (.busy m.engine.name) ↔ m.engine.state = .executing
  /-- These are all the errors there are, apart from those of commands. -/
  errors : ∀ error,
    (∀ index, (m.redirect fuel index).1 = .failed error → error = .notExecuting m.engine.name ∨
      error = .indexOutOfRange index m.engine.sequence.len ∨
      ∃ location source, error = .commandFailed location source) ∧
    (∀ key, (m.redirectToLabel fuel key).1 = .failed error → error = .notExecuting m.engine.name ∨
      ∃ location source, error = .commandFailed location source) ∧
    (∀ index enabled, (m.setEnabled index enabled).1 = .error error →
      error = .indexOutOfRange index m.engine.sequence.len) ∧
    (∀ edit, (m.edit edit).1 = .error error → error = .busy m.engine.name)
  stop : m.engine.state = .idle → m.stop = m
  tick : m.engine.state = .idle ∨ m.engine.isFaulted = true → m.tick fuel = (.settled, m)

/-! ## Each call -/

section Calls

variable [Behaviour σ ν]

theorem refuses_execute (m : Machine σ ν) (fuel start : Nat) (onComplete : Option (HostProgram ν Unit)) :
    m.Refuses (m.execute fuel start onComplete) (.value .rejected) (m.engine.state = .executing) := by
  rcases m.execute_cases fuel start onComplete with ⟨executing, same⟩ | ⟨idle, same⟩
  · rw [same, Engine.state_executing]
    exact ⟨by simp [executing], fun _ => untouched_report ..⟩
  · have idle := Engine.state_idle.mpr idle
    have started : (m.startRun fuel start onComplete).1.outcome Launch.started ≠ .value .rejected :=
      fun he => by simpa using Verdict.value_of_outcome he
    rw [same]
    exact ⟨by simp [started, idle], fun he => absurd he started⟩

theorem AtRest.refuses_executeLabel (h : m.AtRest) (fuel : Nat) (key : String)
    (onComplete : Option (HostProgram ν Unit)) :
    m.refreshIfIdle.Refuses (m.executeLabel fuel key onComplete) (.value .labelNotFound)
      (m.engine.sequence.labelsWith key = ∅) ∧
    m.refreshIfIdle.Refuses (m.executeLabel fuel key onComplete) (.value .rejected)
      ((m.engine.sequence.labelsWith key).Nonempty ∧ m.engine.state = .executing) := by
  rcases h.executeLabel_cases fuel key onComplete with ⟨nowhere, same⟩ | ⟨target, means, same⟩
  · rw [same, nowhere]
    exact ⟨.always rfl rfl (untouched_report ..), .never (by simp) (by simp)⟩
  · have there : (m.engine.sequence.labelsWith key).Nonempty := ⟨target, means.1⟩
    have state : m.refreshIfIdle.engine.state = m.engine.state := by
      rw [Engine.state, Engine.state, isExecuting_refreshIfIdle]
    have rejected := m.refreshIfIdle.refuses_execute fuel target onComplete
    have found : (m.refreshIfIdle.execute fuel target onComplete).1 ≠ .value .labelNotFound := by
      rcases m.refreshIfIdle.execute_cases fuel target onComplete with ⟨-, same⟩ | ⟨-, same⟩
      · simp [same]
      · rw [same]
        exact fun he => by simpa using Verdict.value_of_outcome he
    rw [same]
    refine ⟨.never found there.ne_empty, ?_, rejected.untouched⟩
    rw [rejected.iff, state, and_iff_right there]

theorem AtRest.refuses_redirect (h : m.AtRest) (fuel index : Nat) :
    m.Refuses (m.redirect fuel index) (.failed (.notExecuting m.engine.name)) (m.engine.state = .idle) ∧
    m.Refuses (m.redirect fuel index) (.failed (.indexOutOfRange index m.engine.sequence.len))
      (m.engine.state = .executing ∧ m.engine.sequence.len < index) ∧
    ∀ error, (m.redirect fuel index).1 = .failed error → error = .notExecuting m.engine.name ∨
      error = .indexOutOfRange index m.engine.sequence.len ∨
      ∃ location source, error = .commandFailed location source := by
  rcases h.redirect_cases fuel index with ⟨idle, same⟩ | ⟨executing, beyond, same⟩ |
    ⟨executing, inside, ended, reports, same⟩
  · have state := Engine.state_idle.mpr idle
    rw [same]
    exact ⟨.always rfl state (.refl m), .never (by simp) (by simp [state]),
      fun error he => .inl (Outcome.failed.inj he).symm⟩
  · have state := Engine.state_executing.mpr executing
    rw [same]
    exact ⟨.never (by simp) (by simp [state]), .always rfl ⟨state, beyond⟩ (.refl m),
      fun error he => .inr (.inl (Outcome.failed.inj he).symm)⟩
  · have state := Engine.state_executing.mpr executing
    rw [same]
    exact ⟨.never (fun he => by simpa using reports.failed he) (by simp [state]),
      .never (fun he => by simpa using reports.failed he) (by omega),
      fun error he => .inr (.inr (reports.failed he))⟩

theorem AtRest.refuses_redirectToLabel (h : m.AtRest) (fuel : Nat) (key : String) :
    m.Refuses (m.redirectToLabel fuel key) (.value none) (m.engine.sequence.labelsWith key = ∅) ∧
    m.Refuses (m.redirectToLabel fuel key) (.failed (.notExecuting m.engine.name))
      ((m.engine.sequence.labelsWith key).Nonempty ∧ m.engine.state = .idle) ∧
    ∀ error, (m.redirectToLabel fuel key).1 = .failed error → error = .notExecuting m.engine.name ∨
      ∃ location source, error = .commandFailed location source := by
  rcases h.redirectToLabel_cases fuel key with ⟨nowhere, same⟩ | ⟨target, means, ⟨idle, same⟩ |
    ⟨executing, ended, reports, same⟩⟩
  · rw [same]
    exact ⟨.always rfl nowhere (untouched_report ..), .never (by simp) (by simp [nowhere]),
      fun error he => by simp at he⟩
  all_goals have there : (m.engine.sequence.labelsWith key).Nonempty := ⟨target, means.1⟩
  · rw [same]
    exact ⟨.never (by simp) there.ne_empty,
      .always rfl ⟨there, Engine.state_idle.mpr idle⟩ (.refl m),
      fun error he => .inl (Outcome.failed.inj he).symm⟩
  · have state := Engine.state_executing.mpr executing
    rw [same]
    exact ⟨.never (fun he => by simpa using Verdict.value_of_outcome he) there.ne_empty,
      .never (fun he => by simpa using reports.failed he) (by simp [state]),
      fun error he => .inr (reports.failed he)⟩

end Calls

theorem AtRest.refuses_setEnabled (h : m.AtRest) (index : Nat) (enabled : Bool) :
    m.Refuses (m.setEnabled index enabled) (.error (.indexOutOfRange index m.engine.sequence.len))
      (m.engine.sequence.len ≤ index) ∧
    ∀ error, (m.setEnabled index enabled).1 = .error error →
      error = .indexOutOfRange index m.engine.sequence.len := by
  have coherent := h.stands.core.coherent
  by_cases beyond : m.engine.sequence.len ≤ index
  · have same : m.setEnabled index enabled = (.error (.indexOutOfRange index m.engine.sequence.len), m) := by
      rw [Machine.setEnabled, coherent.editsRight.setEnabledBeyond index enabled beyond]
    rw [same]
    exact ⟨.always rfl beyond (.refl m), fun error he => (Except.error.inj he).symm⟩
  · obtain ⟨found, -⟩ := coherent.editsRight.setEnabled index enabled (Nat.lt_of_not_le beyond)
    have done : (m.setEnabled index enabled).1 = .ok () := by
      rw [Machine.setEnabled]
      split
      · rfl
      · next heq => simp [heq] at found
    exact ⟨.never (by simp [done]) beyond, fun error he => by simp [done] at he⟩

theorem refuses_edit (m : Machine σ ν) (edit : Edit σ) :
    m.Refuses (m.edit edit) (.error (.busy m.engine.name)) (m.engine.state = .executing) ∧
    ∀ error, (m.edit edit).1 = .error error → error = .busy m.engine.name := by
  rw [Engine.state_executing, Machine.edit, Machine.editable]
  by_cases executing : m.engine.isExecuting = true
  · rw [if_pos executing]
    exact ⟨.always rfl executing (.refl m), fun error he => (Except.error.inj he).symm⟩
  · rw [if_neg executing]
    exact ⟨.never (by simp) executing, fun error he => by simp at he⟩

theorem AtRest.refusesRight [Behaviour σ ν] (h : m.AtRest) (fuel : Nat) : m.RefusesRight fuel where
  rejected := m.refuses_execute fuel
  refreshed := m.refreshed_refreshIfIdle
  labelNotFound key onComplete := (h.refuses_executeLabel fuel key onComplete).1
  labelRejected key onComplete := (h.refuses_executeLabel fuel key onComplete).2
  offered start key onComplete other := by
    refine ⟨fun busy => ?_, fun refused => ?_⟩
    · rw [Engine.state_executing] at busy
      rw [Machine.execute, if_pos busy, Machine.execute, if_pos busy]
    · rw [Machine.executeLabel, Machine.executeLabel]
      have means := h.means_refreshIfIdle key
      cases found : m.refreshIfIdle.engine.findLabel? key with
      | none => rfl
      | some start =>
        rw [found] at means
        rcases refused with nowhere | busy
        · exact absurd means.1 (nowhere ▸ Set.notMem_empty start)
        · rw [Engine.state_executing, ← isExecuting_refreshIfIdle] at busy
          dsimp only
          rw [Machine.execute, if_pos busy, Machine.execute, if_pos busy]
  notExecuting index := (h.refuses_redirect fuel index).1
  outOfRange index := (h.refuses_redirect fuel index).2.1
  noLabel key := (h.refuses_redirectToLabel fuel key).1
  labelNotExecuting key := (h.refuses_redirectToLabel fuel key).2.1
  setEnabled index enabled := (h.refuses_setEnabled index enabled).1
  busy edit := (m.refuses_edit edit).1
  editable := by
    rw [Engine.state_executing, Machine.editable]
    split <;> simp_all
  errors error := ⟨fun index => (h.refuses_redirect fuel index).2.2 error,
    fun key => (h.refuses_redirectToLabel fuel key).2.2 error,
    fun index enabled => (h.refuses_setEnabled index enabled).2 error,
    fun edit => (m.refuses_edit edit).2 error⟩
  stop idle := by rw [Machine.stop, Engine.state_idle.mp idle]
  tick asleep := by
    rw [Machine.tick, if_neg]
    rintro running
    rw [Bool.and_eq_true, Bool.not_eq_true'] at running
    rcases asleep with idle | faulted
    · simp [Engine.state_executing.mpr running.1] at idle
    · simp [running.2] at faulted

end Machine

/-! ## The main result -/

/--
Refusals. Whatever the host has done before, each call refuses in exactly the states in which it should, whether
a fault is to be resolved or a signal has landed; and then nothing changes, nothing happens, and no callback is
kept that came with the call.
-/
theorem refusals_exact [Behaviour σ ν] {ids : List EngineId} {s : Studio σ ν} (h : Reachable ids s)
    {number : Nat} {e : Engine σ ν} (he : s.engine? number = some e) (fuel : Nat) :
    Machine.RefusesRight ⟨e, s.shared⟩ fuel :=
  (h.sound.machine he).refusesRight fuel

/-- A callback that comes too late. -/
def late : HostProgram Note Unit := HostProgram.note (.completed "late" none)

/-- While the keeper waits, a second run and a jump behind the end are refused, and the keeper waits on. -/
theorem refusals_exact_keeper : ∃ e, keeperWaiting.engine? 0 = some e ∧
    let m : Machine Cue Note := ⟨e, keeperWaiting.shared⟩
    (m.execute 10 0 (some late)).1 = .value .rejected ∧
    m.Untouched (m.execute 10 0 (some late)).2 ∧
    (m.redirect 10 2).1 = .failed (.indexOutOfRange 2 1) ∧ m.Untouched (m.redirect 10 2).2 := by
  have he : keeperWaiting.engine? 0 = some _ := rfl
  have right := refusals_exact reachable_keeperWaiting he 10
  have rejected := right.rejected 0 (some late)
  exact ⟨_, he, rfl, rejected.untouched rfl, rfl, (right.outOfRange 2).untouched rfl⟩

end Sequencer
