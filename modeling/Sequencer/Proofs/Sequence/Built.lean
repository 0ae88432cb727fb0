import Sequencer.Proofs.Sequence.Caches

/-!
# Sequences that a host can build

A host builds sequences by editing them. Such a sequence has right caches, and none of its commands is
marked as executing: only an engine marks commands, and no more than one at a time.
-/

namespace Sequencer

variable {σ : Type}

namespace Sequence

variable {s : Sequence σ} {p i : Nat} {change : Entry σ → Entry σ} {active : Option Nat}

/-! ## Facts about entries that changes leave alone -/

theorem map_entries_update {β : Type} (f : Entry σ → β) (h : s.Coherent)
    (same : ∀ e, f (change e) = f e) : (s.update p change).entries.map f = s.entries.map f := by
  rw [h.entries_update]
  apply List.ext_getElem?
  intro q
  rw [List.getElem?_map, List.getElem?_map, List.getElem?_modify]
  cases s.entries[q]? with
  | none => rfl
  | some e => by_cases hq : p = q <;> simp [hq, same]

theorem map_entries_refreshIndices {β : Type} (f : Entry σ → β)
    (same : ∀ (e : Entry σ) position owner, f { e with position, owner } = f e) :
    s.refreshIndices.entries.map f = s.entries.map f := by
  have number : ∀ (slots : Slots σ) start,
      (Slots.entries (Slots.numberFrom s.owner start slots)).map f = (Slots.entries slots).map f := by
    intro slots
    induction slots with
    | nil => intro start; rfl
    | cons s rest ih => intro start; cases s <;> simp [Slots.numberFrom, ih, same]
  exact number s.slots 0

theorem map_entries_refreshIndentation {β : Type} (f : Entry σ → β)
    (same : ∀ (e : Entry σ) indent, f { e with indent } = f e) :
    s.refreshIndentation.entries.map f = s.entries.map f := by
  have indent : ∀ (slots : Slots σ) depth,
      (Slots.entries (Slots.indentFrom depth slots)).map f = (Slots.entries slots).map f := by
    intro slots
    induction slots with
    | nil => intro depth; rfl
    | cons s rest ih => intro depth; cases s <;> simp [Slots.indentFrom, ih, same]
  exact indent s.slots 0

/-! ## Forms -/

theorem forms_update (h : s.Coherent) (mild : Mild change) : (s.update p change).forms = s.forms :=
  map_entries_update _ h mild.form

theorem forms_refresh : s.refresh.forms = s.forms :=
  (map_entries_refreshIndentation _ fun _ _ => rfl).trans (map_entries_refreshIndices _ fun _ _ _ => rfl)

theorem Coherent.len_eq_forms (h : s.Coherent) : s.len = s.forms.length := by
  rw [h.len_eq, forms, List.length_map]

theorem Coherent.form_of_get? (h : s.Coherent) {c : Command σ} (hc : s.get? p = some c) :
    s.forms[p]? = some c.form := by
  rw [h.get?_eq] at hc
  rw [forms, List.getElem?_map]
  cases he : s.entries[p]? with
  | none => simp [he] at hc
  | some e => simp_all

/-! ## Marks -/

theorem marked_congr {s' : Sequence σ}
    (h : s'.entries.map (·.executing) = s.entries.map (·.executing)) (hs : s.Marked active) :
    s'.Marked active := by
  intro q e he
  have hq := congrArg (·[q]?) h
  simp only [List.getElem?_map, he, Option.map_some] at hq
  obtain ⟨e', he', hm⟩ := Option.map_eq_some_iff.mp hq.symm
  rw [← hm]
  exact hs q e' he'

theorem Marked.refreshIndices (h : s.Marked active) : s.refreshIndices.Marked active :=
  marked_congr (map_entries_refreshIndices _ fun _ _ _ => rfl) h

theorem Marked.refreshIndentation (h : s.Marked active) : s.refreshIndentation.Marked active :=
  marked_congr (map_entries_refreshIndentation _ fun _ _ => rfl) h

theorem Marked.refresh (h : s.Marked active) : s.refresh.Marked active :=
  h.refreshIndices.refreshIndentation

theorem Marked.update (h : s.Marked active) (hs : s.Coherent)
    (same : ∀ e, (change e).executing = e.executing) : (s.update p change).Marked active :=
  marked_congr (map_entries_update _ hs same) h

theorem Marked.clear (h : s.Marked (some i)) (hs : s.Coherent) : (s.setExecuting i false).Marked none := by
  intro q e he
  rw [setExecuting, hs.entries_update, List.getElem?_modify] at he
  obtain ⟨e', he', rfl⟩ := Option.map_eq_some_iff.mp he
  have := h q e' he'
  by_cases hq : i = q <;> simp_all

theorem Marked.set (h : s.Marked none) (hs : s.Coherent) : (s.setExecuting i true).Marked (some i) := by
  intro q e he
  rw [setExecuting, hs.entries_update, List.getElem?_modify] at he
  obtain ⟨e', he', rfl⟩ := Option.map_eq_some_iff.mp he
  have := h q e' he'
  by_cases hq : i = q <;> simp_all

/-! ## Building -/

/-- What a host can make of an empty sequence. A host may also have a command release what it holds. -/
inductive Built : Sequence σ → Prop where
  | empty : Built {}
  | edit {s : Sequence σ} (edit : Edit σ) : Built s → Built (edit.apply s).2
  | release {s : Sequence σ} (position : Nat) (state : σ) : Built s → Built (s.setState position state)
  | adopt {s : Sequence σ} (owner : EngineId) : Built s → Built (s.adopt owner)

/-- Right caches, and nothing marked. -/
structure Sound (s : Sequence σ) : Prop where
  coherent : s.Coherent
  marked : s.Marked none

theorem Sound.of_stale (indices : s.indicesStale = true) (indentation : s.indentationStale = true)
    (h : ∀ e ∈ s.entries, e.executing = false) : s.Sound := by
  refine ⟨.of_stale indices indentation, ?_⟩
  intro p e he
  simp [h e (List.mem_of_getElem? he)]

theorem Sound.not_executing (h : s.Sound) : ∀ e ∈ s.entries, e.executing = false := by
  intro e he
  obtain ⟨p, hp⟩ := List.mem_iff_getElem?.mp he
  have := h.marked p e hp
  simp_all

theorem mild_setEnabled (enabled : Bool) : Mild fun e : Entry σ => { e with enabled } :=
  ⟨fun _ _ _ => rfl, fun _ _ => rfl, fun _ => rfl⟩

theorem mild_setExecuting (executing : Bool) : Mild fun e : Entry σ => { e with executing } :=
  ⟨fun _ _ _ => rfl, fun _ _ => rfl, fun _ => rfl⟩

theorem mild_setState (state : σ) :
    Mild fun e : Entry σ => { e with command := { e.command with state } } :=
  ⟨fun _ _ _ => rfl, fun _ _ => rfl, fun _ => rfl⟩

theorem Sound.push (h : s.Sound) (c : Command σ) : (s.push c).Sound := by
  refine .of_stale rfl rfl fun e he => ?_
  simp only [Sequence.push, markStale, entries, Slots.entries_append, List.mem_append] at he
  rcases he with he | he
  · exact h.not_executing e he
  · simp_all [Entry.fresh]

theorem Sound.pushHole (h : s.Sound) : s.pushHole.Sound := by
  refine .of_stale rfl rfl fun e he => h.not_executing e ?_
  simpa [Sequence.pushHole, markStale, entries] using he

theorem Sound.insert (h : s.Sound) (slot : Nat) (c : Command σ) : (s.insert slot c).Sound := by
  refine .of_stale rfl rfl fun e he => ?_
  simp only [Sequence.insert, markStale, entries, Slots.entries, List.mem_filterMap, id,
    exists_eq_right] at he
  rcases (List.mem_insertIdx (Nat.min_le_right slot s.slotCount)).mp he with he | he
  · cases he; rfl
  · exact h.not_executing e (by simpa [entries, Slots.entries] using he)

theorem Sound.remove (h : s.Sound) (p : Nat) : (s.remove p).2.Sound := by
  rw [Sequence.remove]
  split
  · exact h
  · refine .of_stale rfl rfl fun e he => h.not_executing e ?_
    simp only [markStale, entries, Slots.entries, List.mem_filterMap, id, exists_eq_right] at he ⊢
    rcases List.mem_or_eq_of_mem_set he with he | he
    · exact he
    · cases he

theorem Sound.purgeHoles (h : s.Sound) : s.purgeHoles.2.Sound := by
  simp only [Sequence.purgeHoles]
  split
  · exact h
  · refine .of_stale rfl rfl fun e he => h.not_executing e ?_
    simpa [markStale, entries, Slots.entries] using he

theorem Sound.setEnabled (h : s.Sound) (p : Nat) (enabled : Bool) : (s.setEnabled p enabled).2.Sound :=
  ⟨h.coherent.update (mild_setEnabled enabled) p, h.marked.update h.coherent fun _ => rfl⟩

theorem Sound.setState (h : s.Sound) (p : Nat) (state : σ) : (s.setState p state).Sound :=
  ⟨h.coherent.update (mild_setState state) p, h.marked.update h.coherent fun _ => rfl⟩

theorem Sound.refresh (h : s.Sound) : s.refresh.Sound := ⟨h.coherent.refresh, h.marked.refresh⟩

theorem Sound.move (h : s.Sound) (p slot : Nat) : ((Edit.move p slot).apply s).2.Sound := by
  have hr := h.remove p
  simp only [Edit.apply]
  split
  · next hs => rwa [hs] at hr
  · next c _ hs =>
    rw [hs] at hr
    exact hr.insert slot c

theorem Sound.edit (h : s.Sound) (edit : Edit σ) : (edit.apply s).2.Sound := by
  cases edit with
  | push c => exact h.push c
  | pushHole => exact h.pushHole
  | insert slot c => exact h.insert slot c
  | remove p => exact h.remove p
  | move p slot => exact h.move p slot
  | purgeHoles => exact h.purgeHoles
  | refresh => exact h.refresh
  | refreshIndices => exact ⟨h.coherent.refreshIndices, h.marked.refreshIndices⟩
  | refreshIndentation => exact ⟨h.coherent.refreshIndentation, h.marked.refreshIndentation⟩
  | setEnabled p enabled => exact h.setEnabled p enabled

theorem Built.sound (h : s.Built) : s.Sound := by
  induction h with
  | empty => exact ⟨⟨fun _ => rfl, fun _ => rfl⟩, by intro p e he; simp [entries] at he⟩
  | edit edit _ ih => exact ih.edit edit
  | release p state _ ih => exact ih.setState p state
  | adopt owner _ ih => exact ⟨ih.coherent.adopt owner, ih.marked⟩

/-! ## Owners and places -/

@[simp]
theorem owner_update : (s.update p change).owner = s.owner := by
  rw [Sequence.update]; split <;> rfl

@[simp]
theorem needsRefresh_update : (s.update p change).needsRefresh = s.needsRefresh := by
  rw [Sequence.update]; split <;> rfl

@[simp]
theorem layout_update : (s.update p change).layout = s.layout := by
  rw [Sequence.update]; split <;> rfl

theorem len_update : (s.update p change).len = s.len := by
  rw [Sequence.update]
  split
  · rfl
  · next slot _ =>
    have entries : (Slots.entries (Slots.update slot change s.slots)).length =
        (Slots.entries s.slots).length := by
      rw [← Slots.length_positionsFrom 0, Slots.positionsFrom_update, Slots.length_positionsFrom]
    simp only [len, entries]

theorem owner_remove (p : Nat) : (s.remove p).2.owner = s.owner := by
  rw [remove]; split <;> rfl

theorem owner_edit (edit : Edit σ) : (edit.apply s).2.owner = s.owner := by
  cases edit with
  | remove p => exact owner_remove p
  | purgeHoles => simp only [Edit.apply, purgeHoles]; split <;> rfl
  | move p slot =>
    have hr := owner_remove (s := s) p
    simp only [Edit.apply]
    split
    all_goals
      next hs =>
      rw [hs] at hr
      exact hr
  | setEnabled p enabled => exact owner_update
  | _ => rfl

theorem Coherent.placed (h : s.Coherent) (fresh : s.indicesStale = false) {e : Entry σ}
    (he : s.entries[p]? = some e) : e.position = p ∧ e.owner = s.owner := by
  -- Numbering gives each entry its position and its owner.
  have number : ∀ (slots : Slots σ) start q e,
      (Slots.entries (Slots.numberFrom s.owner start slots))[q]? = some e →
        e.position = start + q ∧ e.owner = s.owner := by
    intro slots
    induction slots with
    | nil => intro start q e he; simp [Slots.numberFrom] at he
    | cons s rest ih =>
      intro start q e he
      cases s with
      | none => exact ih start q e he
      | some e' =>
        cases q with
        | zero =>
          simp only [Slots.numberFrom, Slots.entries_some, List.getElem?_cons_zero] at he
          cases he
          simp
        | succ q =>
          have := ih (start + 1) q e he
          exact ⟨by omega, this.2⟩
  have hs := congrArg (·.slots) (h.indices fresh)
  rw [entries, ← hs] at he
  have := number s.slots 0 p e he
  exact ⟨by omega, this.2⟩

end Sequence

end Sequencer
