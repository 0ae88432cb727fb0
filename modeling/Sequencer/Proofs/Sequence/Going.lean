import Mathlib.Order.Bounds.Basic
import Sequencer.Proofs.Sequence.Built

/-!
# Where a run goes on

A run that is to go on at a position goes on at the first enabled action from there on. The scan that finds
it passes over everything else, and does not stop early.
-/

namespace Sequencer

variable {σ : Type}

/-- The positions of enabled actions from `target` on. -/
def runnableFrom (outline : List (Bool × Kind)) (target : Nat) : Set Nat :=
  {p | target ≤ p ∧ outline[p]? = some (true, .action)}

/-- A jump goes on at the first enabled action from its target on, and nowhere if there is none. -/
def GoesOn (outline : List (Bool × Kind)) (target : Nat) : Option Nat → Prop
  | some p => IsLeast (runnableFrom outline target) p
  | none => runnableFrom outline target = ∅

section GoesOn

variable {outline : List (Bool × Kind)} {target : Nat} {next next' : Option Nat}

theorem GoesOn.unique (h : GoesOn outline target next) (h' : GoesOn outline target next') :
    next = next' := by
  cases next with
  | none =>
    cases next' with
    | none => rfl
    | some p => exact absurd h'.1 (h ▸ Set.notMem_empty p)
  | some p =>
    cases next' with
    | none => exact absurd h.1 (h' ▸ Set.notMem_empty p)
    | some q => exact congrArg some (IsLeast.unique h h')

theorem GoesOn.eq_none_iff (h : GoesOn outline target next) :
    next = none ↔ runnableFrom outline target = ∅ := by
  constructor
  · rintro rfl
    exact h
  · intro nothing
    exact h.unique nothing

theorem runnableFrom_succ (skipped : outline[target]? ≠ some (true, .action)) :
    runnableFrom outline target = runnableFrom outline (target + 1) := by
  ext p
  constructor
  · rintro ⟨le, runs⟩
    refine ⟨Nat.lt_of_le_of_ne le fun heq => skipped ?_, runs⟩
    rw [heq, runs]
  · rintro ⟨lt, runs⟩
    exact ⟨Nat.le_of_succ_le lt, runs⟩

end GoesOn

namespace Sequence

variable {s s' : Sequence σ} {p cursor count target : Nat}

theorem skipFrom_some (h : s.skipFrom cursor count = some p) :
    cursor ≤ p ∧ s.isSkipped p = false ∧ ∀ q, cursor ≤ q → q < p → s.isSkipped q = true := by
  induction count generalizing cursor with
  | zero => simp [skipFrom] at h
  | succ count ih =>
    rw [skipFrom] at h
    split at h
    · next skipped =>
      obtain ⟨le, runs, passed⟩ := ih h
      refine ⟨by omega, runs, fun q hq lt => ?_⟩
      rcases Nat.eq_or_lt_of_le hq with rfl | hq
      · exact skipped
      · exact passed q hq lt
    · next runs =>
      obtain rfl : cursor = p := Option.some.inj h
      refine ⟨Nat.le_refl _, by simpa using runs, fun q hq lt => ?_⟩
      omega

theorem skipFrom_none (h : s.skipFrom cursor count = none) :
    ∀ q, cursor ≤ q → q < cursor + count → s.isSkipped q = true := by
  induction count generalizing cursor with
  | zero =>
    intro q hq lt
    omega
  | succ count ih =>
    rw [skipFrom] at h
    split at h
    · next skipped =>
      intro q hq lt
      rcases Nat.eq_or_lt_of_le hq with rfl | hq
      · exact skipped
      · exact ih h q hq (by omega)
    · simp at h

theorem Coherent.isSkipped_eq_false (h : s.Coherent) :
    s.isSkipped p = false ↔ s.outline[p]? = some (true, .action) := by
  rw [isSkipped, h.entry?_eq, outline, List.getElem?_map]
  cases s.entries[p]? with
  | none => simp
  | some e =>
    rw [Option.map_some, Option.map_some, Option.getD_some, Entry.isSkipped]
    cases e.enabled <;> cases hk : e.command.kind <;> simp [Kind.isInert]

theorem Coherent.isSkipped_of_len_le (h : s.Coherent) (hp : s.len ≤ p) : s.isSkipped p = true := by
  rw [h.len_eq] at hp
  rw [isSkipped, h.entry?_eq, List.getElem?_eq_none hp]
  rfl

theorem Coherent.goesOn (h : s.Coherent) (target : Nat) :
    GoesOn s.outline target (s.nextRunnable target) := by
  rw [nextRunnable]
  cases hs : s.skipFrom target (s.len - target) with
  | some p =>
    obtain ⟨le, runs, passed⟩ := skipFrom_some hs
    refine ⟨⟨le, h.isSkipped_eq_false.mp runs⟩, fun q hq => ?_⟩
    obtain ⟨from_target, enabled⟩ := hq
    by_contra before
    have skipped := passed q from_target (by omega)
    rw [h.isSkipped_eq_false.mpr enabled] at skipped
    simp at skipped
  | none =>
    refine Set.eq_empty_of_forall_notMem fun q hq => ?_
    obtain ⟨from_target, enabled⟩ := hq
    have runs := h.isSkipped_eq_false.mpr enabled
    by_cases inside : q < s.len
    · rw [skipFrom_none hs q from_target (by omega)] at runs
      simp at runs
    · rw [h.isSkipped_of_len_le (by omega)] at runs
      simp at runs

theorem Coherent.action_of_nextRunnable (h : s.Coherent) (hp : s.nextRunnable target = some p) :
    ∃ form, s.forms[p]? = some form ∧ form.kind = .action := by
  have goes := h.goesOn target
  rw [hp] at goes
  have enabled : s.outline[p]? = some (true, .action) := goes.1.2
  rw [outline, List.getElem?_map] at enabled
  obtain ⟨e, he, action⟩ := Option.map_eq_some_iff.mp enabled
  refine ⟨e.command.form, ?_, congrArg Prod.snd action⟩
  rw [forms, List.getElem?_map, he]
  rfl

/-! ## From one position to the next -/

theorem nextRunnable_congr (h : s.Coherent) (h' : s'.Coherent) (same : s'.outline = s.outline)
    (target : Nat) : s'.nextRunnable target = s.nextRunnable target :=
  (h'.goesOn target).unique (same ▸ h.goesOn target)

theorem Coherent.nextRunnable_of_runs (h : s.Coherent) (runs : s.outline[p]? = some (true, .action)) :
    s.nextRunnable p = some p :=
  (h.goesOn p).unique ⟨⟨Nat.le_refl p, runs⟩, fun _ hq => hq.1⟩

theorem Coherent.nextRunnable_of_skipped (h : s.Coherent) (skipped : s.outline[p]? ≠ some (true, .action)) :
    s.nextRunnable p = s.nextRunnable (p + 1) := by
  refine (h.goesOn p).unique ?_
  have goes := h.goesOn (p + 1)
  unfold GoesOn at goes ⊢
  rw [runnableFrom_succ skipped]
  exact goes

/-! ## Scripts -/

/-- The commands in order, and whether each is enabled. -/
def script (s : Sequence σ) : List (Command σ × Bool) := s.entries.map fun e => (e.command, e.enabled)

theorem outline_eq_script : s.outline = s.script.map fun c => (c.2, c.1.kind) := by
  rw [outline, script, List.map_map]
  rfl

theorem forms_eq_script : s.forms = s.script.map fun c => c.1.form := by
  rw [forms, script, List.map_map]
  rfl

theorem entry_of_script {c : Command σ} {enabled : Bool} (found : s.script[p]? = some (c, enabled)) :
    ∃ entry, s.entries[p]? = some entry ∧ entry.command = c ∧ entry.enabled = enabled := by
  rw [script, List.getElem?_map] at found
  obtain ⟨entry, here, same⟩ := Option.map_eq_some_iff.mp found
  obtain ⟨rfl, rfl⟩ := Prod.mk.inj same
  exact ⟨entry, here, rfl, rfl⟩

theorem outline_of_script {c : Command σ} {enabled : Bool} (found : s.script[p]? = some (c, enabled)) :
    s.outline[p]? = some (enabled, c.kind) := by
  rw [outline_eq_script, List.getElem?_map, found, Option.map_some]

theorem script_setExecuting (h : s.Coherent) (executing : Bool) :
    (s.setExecuting p executing).script = s.script :=
  map_entries_update _ h fun _ => rfl

theorem script_refresh : s.refresh.script = s.script :=
  (map_entries_refreshIndentation _ fun _ _ => rfl).trans (map_entries_refreshIndices _ fun _ _ _ => rfl)

theorem Coherent.nextRunnable_of_drop (h : s.Coherent) (nothing : s.script.drop p = []) :
    s.nextRunnable p = none := by
  rw [(h.goesOn p).eq_none_iff, Set.eq_empty_iff_forall_notMem]
  rintro q ⟨le, runs⟩
  have short := List.drop_eq_nil_iff.mp nothing
  rw [outline_eq_script, List.getElem?_map, List.getElem?_eq_none (Nat.le_trans short le)] at runs
  simp at runs

end Sequence

end Sequencer
