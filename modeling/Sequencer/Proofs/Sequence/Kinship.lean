import Sequencer.Proofs.Sequence.Editing
import Sequencer.Proofs.Sequence.Labels
import Sequencer.Proofs.Sequence.Likeness
import Sequencer.Proofs.Sequence.Nesting

/-!
# Sequences that differ in their holes

Two sequences are kin if the same entries are in them in the same order, wherever the holes are and whatever is
stale. Nothing that goes by position or by label tells them apart.
-/

namespace Sequencer

variable {σ : Type}

namespace Sequence

/-! ## What does not depend on holes -/

/-- The entries without what a refresh writes into them. -/
def plain (s : Sequence σ) : List (Entry σ) := s.entries.map Entry.bare

/-- What a hook is to see at `index`, told from the entries alone. -/
def sight (s : Sequence σ) (index : Nat) : View := ⟨index, s.entries.length, ⟨s.labelled⟩, blocksOf s.forms⟩

variable {s s' : Sequence σ} {p : Nat} {change : Entry σ → Entry σ}

theorem script_eq_plain : s.script = s.plain.map fun e => (e.command, e.enabled) := by
  rw [plain, List.map_map]
  rfl

theorem forms_eq_plain : s.forms = s.plain.map (·.command.form) := by
  rw [plain, List.map_map]
  rfl

theorem plain_congr {active : Option Nat} (same : s.script = s'.script) (marked : s.Marked active)
    (marked' : s'.Marked active) : s.plain = s'.plain := by
  refine List.ext_getElem? fun p => ?_
  have there := congrArg (·[p]?) same
  simp only [script, List.getElem?_map] at there
  rw [plain, plain, List.getElem?_map, List.getElem?_map]
  cases he : s.entries[p]? with
  | none => cases he' : s'.entries[p]? <;> simp_all
  | some e =>
    cases he' : s'.entries[p]? with
    | none => simp [he, he'] at there
    | some e' =>
      obtain ⟨command, enabled⟩ : e.command = e'.command ∧ e.enabled = e'.enabled := by
        simpa [he, he'] using there
      have executing : e.executing = e'.executing :=
        Bool.eq_iff_iff.mpr ((marked p e he).trans (marked' p e' he').symm)
      simp [Entry.bare, command, enabled, executing]

theorem sight_congr (same : s.forms = s'.forms) : s.sight = s'.sight := by
  have labels : ∀ s : Sequence σ, s.labelled = s.forms.zipIdx.filterMap fun (form, p) =>
      form.kind.labelKey?.map fun key => (Text.lowercase key, p) := by
    intro s
    rw [forms, List.zipIdx_map, List.filterMap_map]
    rfl
  have lengths : s.entries.length = s'.entries.length := by
    simpa [forms] using congrArg List.length same
  funext index
  rw [sight, sight, labels, labels, same, lengths]

namespace Coherent

theorem get?_eq_plain (h : s.Coherent) (p : Nat) : s.get? p = s.plain[p]?.map (·.command) := by
  rw [h.get?_eq, plain, List.getElem?_map, Option.map_map]
  rfl

/-- With fresh caches, a hook sees nothing of the holes. -/
theorem view_eq (h : s.Coherent) (fresh : s.needsRefresh = false) (index : Nat) :
    ⟨index, s.len, s.layout.labels, s.layout.blocks⟩ = s.sight index := by
  obtain ⟨indices, indentation⟩ := Bool.or_eq_false_iff.mp fresh
  have labels : s.layout.labels = ⟨s.labelled⟩ := congrArg LabelIndex.mk (h.indicesRight indices).labels
  rw [sight, h.len_eq, labels, h.blocks_eq indentation]

theorem target?_eq (h : s.Coherent) (fresh : s.needsRefresh = false) (index : Nat) :
    s.target? index = s.plain[index]?.map fun e => (e.command, s.sight index) := by
  have slot : s.layout.slotOf index = Slots.slotOf s.slots index := by
    rw [← h.slotOf_eq, slotOf, if_neg (by simp [(Bool.or_eq_false_iff.mp fresh).1])]
  rw [target?, slot, Slots.slotOf_bind, h.view_eq fresh, plain, List.getElem?_map, Option.map_map]
  rfl

theorem plain_update (h : s.Coherent) (commutes : ∀ e, (change e).bare = change e.bare) (p : Nat) :
    (s.update p change).plain = s.plain.modify p change := by
  rw [plain, h.entries_update, plain]
  refine List.ext_getElem? fun q => ?_
  simp only [List.getElem?_map, List.getElem?_modify]
  cases s.entries[q]? with
  | none => rfl
  | some e =>
    by_cases here : p = q
    · simp [here, commutes]
    · simp [here]

theorem remove_fst (h : s.Coherent) (p : Nat) : (s.remove p).1 = s.plain[p]?.map (·.command) := by
  rw [← h.get?_eq_plain, get?, entry?, Sequence.remove]
  cases s.slotOf p with
  | none => rfl
  | some slot => rfl

theorem plain_remove (h : s.Coherent) (p : Nat) : (s.remove p).2.plain = s.plain.eraseIdx p := by
  rw [Sequence.remove, h.slotOf_eq, plain, plain, List.eraseIdx_map]
  cases found : Slots.slotOf s.slots p with
  | none =>
    have beyond := List.eraseIdx_of_length_le (Slots.slotOf_eq_none.mp found)
    exact congrArg (List.map Entry.bare) beyond.symm
  | some slot => exact congrArg (List.map Entry.bare) (Slots.entries_set_none found)

theorem edit (h : s.Coherent) (edit : Edit σ) : (edit.apply s).2.Coherent := by
  have removed : ∀ p, (s.remove p).2.Coherent := by
    intro p
    rw [Sequence.remove]
    split
    · exact h
    · exact .of_stale rfl rfl
  cases edit with
  | push | pushHole | insert => exact .of_stale rfl rfl
  | remove p => exact removed p
  | move p slot =>
    have left := removed p
    rw [Edit.apply]
    split
    · next heq => rwa [heq] at left
    · exact .of_stale rfl rfl
  | purgeHoles =>
    rw [Edit.apply, purgeHoles_eq]
    dsimp only
    split
    · exact h
    · exact .of_stale rfl rfl
  | refresh => exact h.refresh
  | refreshIndices => exact h.refreshIndices
  | refreshIndentation => exact h.refreshIndentation
  | setEnabled p enabled => exact h.update (mild_setEnabled enabled) p

end Coherent

end Sequence

/-! ## Edits, by what they speak of -/

/-- Edits of the holes and the caches. -/
def Edit.isTidying : Edit σ → Bool
  | .pushHole | .purgeHoles | .refresh | .refreshIndices | .refreshIndentation => true
  | .push _ | .insert .. | .remove _ | .move .. | .setEnabled .. => false

/-- Edits that go by slot. -/
def Edit.isBySlot : Edit σ → Bool
  | .insert .. | .move .. => true
  | .push _ | .remove _ | .setEnabled .. | .pushHole | .purgeHoles | .refresh | .refreshIndices
  | .refreshIndentation => false

theorem Edit.plain_tidying {edit : Edit σ} (h : edit.isTidying = true) (s : Sequence σ) :
    (edit.apply s).2.plain = s.plain := by
  have indices : ∀ s : Sequence σ, s.refreshIndices.plain = s.plain :=
    fun _ => Sequence.map_entries_refreshIndices _ fun _ _ _ => rfl
  have indentation : ∀ s : Sequence σ, s.refreshIndentation.plain = s.plain :=
    fun _ => Sequence.map_entries_refreshIndentation _ fun _ _ => rfl
  cases edit with
  | pushHole =>
    rw [Sequence.plain, Sequence.plain]
    simp [Edit.apply, Sequence.entries, Sequence.pushHole, Sequence.markStale]
  | purgeHoles =>
    rw [Edit.apply, Sequence.purgeHoles_eq]
    dsimp only
    split
    · rfl
    · exact congrArg (List.map Entry.bare) Slots.entries_filter
  | refresh => exact (indentation s.refreshIndices).trans (indices s)
  | refreshIndices => exact indices s
  | refreshIndentation => exact indentation s
  | push | insert | remove | move | setEnabled => simp [Edit.isTidying] at h

/-! ## Kinship -/

namespace Sequence

/-- The same entries in the same order. While they are `busy` with a run, no cache is stale. -/
structure Kin (busy : Prop) (s s' : Sequence σ) : Prop where
  coherent : s.Coherent
  coherent' : s'.Coherent
  plain : s.plain = s'.plain
  fresh : busy → s.needsRefresh = false ∧ s'.needsRefresh = false

namespace Kin

variable {busy : Prop} {s s' : Sequence σ} (h : s.Kin busy s')

include h

theorem symm : s'.Kin busy s := ⟨h.coherent', h.coherent, h.plain.symm, fun hb => (h.fresh hb).symm⟩

theorem mono {busy' : Prop} (fewer : busy' → busy) : s.Kin busy' s' :=
  { h with fresh := fun hb => h.fresh (fewer hb) }

theorem script : s.script = s'.script := by rw [script_eq_plain, script_eq_plain, h.plain]

theorem forms : s.forms = s'.forms := by rw [forms_eq_plain, forms_eq_plain, h.plain]

theorem len : s.len = s'.len := by rw [h.coherent.len_eq_forms, h.coherent'.len_eq_forms, h.forms]

theorem get? (p : Nat) : s.get? p = s'.get? p := by
  rw [h.coherent.get?_eq_plain, h.coherent'.get?_eq_plain, h.plain]

theorem findLabel? (key : String) : s.findLabel? key = s'.findLabel? key :=
  (h.coherent.means key).unique ((h.coherent'.means key).of_forms h.forms)

theorem nextRunnable (target : Nat) : s.nextRunnable target = s'.nextRunnable target := by
  refine nextRunnable_congr h.coherent' h.coherent ?_ target
  rw [outline_eq_script, outline_eq_script, h.script]

theorem update {change : Entry σ → Entry σ} (mild : Mild change) (commutes : ∀ e, (change e).bare = change e.bare)
    (p : Nat) : (s.update p change).Kin busy (s'.update p change) where
  coherent := h.coherent.update mild p
  coherent' := h.coherent'.update mild p
  plain := by rw [h.coherent.plain_update commutes, h.coherent'.plain_update commutes, h.plain]
  fresh hb := by
    rw [needsRefresh_update, needsRefresh_update]
    exact h.fresh hb

theorem tidied : s.tidied.Kin True s'.tidied := by
  have tidies : ∀ {s : Sequence σ}, s.Coherent →
      s.tidied.Coherent ∧ s.tidied.plain = s.plain ∧ s.tidied.needsRefresh = false := by
    intro s hs
    rw [Sequence.tidied]
    split
    · have plain : s.refresh.plain = s.plain := Edit.plain_tidying (show Edit.isTidying .refresh = true from rfl) s
      exact ⟨hs.refresh, plain, rfl⟩
    · next fresh => exact ⟨hs, rfl, Bool.eq_false_of_not_eq_true fresh⟩
  obtain ⟨coherent, plain, fresh⟩ := tidies h.coherent
  obtain ⟨coherent', plain', fresh'⟩ := tidies h.coherent'
  exact ⟨coherent, coherent', plain.trans (h.plain.trans plain'.symm), fun _ => ⟨fresh, fresh'⟩⟩

/-! ## Edits of kin -/

theorem edit {edit : Edit σ} (position : edit.isBySlot = false) (visible : edit.isTidying = false) :
    (edit.apply s).1 = (edit.apply s').1 ∧ (edit.apply s).2.Kin False (edit.apply s').2 := by
  suffices same : (edit.apply s).1 = (edit.apply s').1 ∧ (edit.apply s).2.plain = (edit.apply s').2.plain from
    ⟨same.1, h.coherent.edit edit, h.coherent'.edit edit, same.2, False.elim⟩
  cases edit with
  | push c =>
    refine ⟨rfl, ?_⟩
    have pushed : ∀ s : Sequence σ, (s.push c).plain = s.plain ++ [Entry.fresh c] := by
      intro s
      simp [Sequence.plain, entries, push, markStale, Entry.bare, Entry.fresh]
    exact (pushed s).trans ((congrArg (· ++ _) h.plain).trans (pushed s').symm)
  | remove p =>
    have removed : (s.remove p).1 = (s'.remove p).1 := by
      rw [h.coherent.remove_fst, h.coherent'.remove_fst, h.plain]
    refine ⟨congrArg EditReply.removed removed, ?_⟩
    show (s.remove p).2.plain = (s'.remove p).2.plain
    rw [h.coherent.plain_remove, h.coherent'.plain_remove, h.plain]
  | setEnabled p enabled =>
    have found := congrArg Option.isSome (h.get? p)
    rw [Sequence.get?, Sequence.get?, Option.isSome_map, Option.isSome_map] at found
    exact ⟨congrArg EditReply.found found, (h.update (mild_setEnabled enabled) (fun _ => rfl) p).plain⟩
  | insert | move => simp [Edit.isBySlot] at position
  | pushHole | purgeHoles | refresh | refreshIndices | refreshIndentation => simp [Edit.isTidying] at visible

theorem tidy {edit : Edit σ} (tidying : edit.isTidying = true) : (edit.apply s).2.Kin False s' :=
  ⟨h.coherent.edit edit, h.coherent', (Edit.plain_tidying tidying s).trans h.plain, False.elim⟩

end Kin

end Sequence

/-- Kinship is a likeness. -/
def Likeness.kin : Likeness σ where
  Holds busy s s' := s.Kin busy s'
  mono h := h.mono
  len h := h.len
  get? h := h.get?
  findLabel? h := h.findLabel?
  nextRunnable h := h.nextRunnable
  target? h index := by
    obtain ⟨fresh, fresh'⟩ := h.fresh trivial
    rw [h.coherent.target?_eq fresh, h.coherent'.target?_eq fresh', h.plain, Sequence.sight_congr h.forms]
  setExecuting h p executing := h.update (Sequence.mild_setExecuting executing) (fun _ => rfl) p
  setState h p state := h.update (Sequence.mild_setState state) (fun _ => rfl) p
  setEnabled h p enabled := h.update (Sequence.mild_setEnabled enabled) (fun _ => rfl) p
  tidied h := h.tidied

end Sequencer
