import Mathlib.Data.List.Perm.Basic
import Sequencer.Proofs.Sequence.Accuracy
import Sequencer.Proofs.Sequence.Going

/-!
# Edits of the list of commands

What an edit does to the commands in order, wherever the holes are and whether or not the caches are stale.
However many edits are made, no command gets lost, comes twice or changes its place among the others.
-/

namespace Sequencer

variable {σ : Type}

/-! ## Edits of the slots -/

namespace Slots

variable {slots : Slots σ} {p slot : Nat}

theorem entries_set_none (h : slotOf slots p = some slot) :
    entries (slots.set slot none) = (entries slots).eraseIdx p := by
  obtain ⟨front, e, back, rfl, rfl, rfl⟩ := exists_of_slotOf h
  simp [List.eraseIdx_append_of_length_le]

theorem entries_insertIdx (e : Entry σ) (h : slot ≤ slots.length) :
    entries (slots.insertIdx slot (some e)) =
      (entries slots).insertIdx ((slots.take slot).countP Option.isSome) e := by
  induction slots generalizing slot with
  | nil =>
    obtain rfl : slot = 0 := Nat.le_zero.mp h
    rfl
  | cons s rest ih =>
    cases slot with
    | zero => simp
    | succ slot => cases s <;> simp [ih (Nat.le_of_succ_le_succ h)]

theorem entries_filter : entries (slots.filter (·.isSome)) = entries slots := by
  induction slots with
  | nil => rfl
  | cons s rest ih => cases s <;> simp [ih]

theorem length_filter : (slots.filter (·.isSome)).length = (entries slots).length := by
  induction slots with
  | nil => rfl
  | cons s rest ih => cases s <;> simp [ih]

theorem length_eq : slots.length = (entries slots).length + slots.countP Option.isNone := by
  induction slots with
  | nil => rfl
  | cons s rest ih => cases s <;> simp <;> omega

end Slots

/-! ## Edits of a sequence -/

namespace Sequence

variable {s : Sequence σ} {p : Nat}

/-- What edits do, seen through the commands in order. -/
structure EditsRight (s : Sequence σ) : Prop where
  len : s.len = s.script.length
  push : ∀ c, (s.push c).script = s.script ++ [(c, true)] ∧ (s.push c).slotCount = s.slotCount + 1
  pushHole : s.pushHole.script = s.script ∧ s.pushHole.slotCount = s.slotCount + 1
  insert : ∀ slot c, (s.insert slot c).slotCount = s.slotCount + 1 ∧ (s.insert slot c).script =
    s.script.insertIdx ((s.slots.take (min slot s.slotCount)).countP Option.isSome) (c, true)
  remove : ∀ p c enabled, s.script[p]? = some (c, enabled) → (s.remove p).1 = some c ∧
    (s.remove p).2.script = s.script.eraseIdx p ∧ (s.remove p).2.slotCount = s.slotCount
  removeBeyond : ∀ p, s.len ≤ p → s.remove p = (none, s)
  purgeHoles : s.purgeHoles.1 = s.slots.countP Option.isNone ∧ s.purgeHoles.2.script = s.script ∧
    s.purgeHoles.2.slotCount = s.purgeHoles.2.len
  setEnabled : ∀ p enabled, p < s.len → (s.setEnabled p enabled).1 = true ∧
    (s.setEnabled p enabled).2.script = s.script.modify p (fun c => (c.1, enabled)) ∧
    (s.setEnabled p enabled).2.slotCount = s.slotCount
  setEnabledBeyond : ∀ p enabled, s.len ≤ p → s.setEnabled p enabled = (false, s)
  refresh : s.refresh.script = s.script
  refreshIndices : s.refreshIndices.script = s.script
  refreshIndentation : s.refreshIndentation.script = s.script
  adopt : ∀ owner, (s.adopt owner).script = s.script

theorem script_congr {s' : Sequence σ} (h : s'.entries = s.entries) : s'.script = s.script := by
  rw [script, script, h]

theorem script_refreshIndices : s.refreshIndices.script = s.script :=
  map_entries_refreshIndices _ fun _ _ _ => rfl

theorem script_refreshIndentation : s.refreshIndentation.script = s.script :=
  map_entries_refreshIndentation _ fun _ _ => rfl

theorem script_push (c : Command σ) : (s.push c).script = s.script ++ [(c, true)] := by
  simp [script, entries, push, markStale, Entry.fresh]

theorem script_insert (slot : Nat) (c : Command σ) : (s.insert slot c).script =
    s.script.insertIdx ((s.slots.take (min slot s.slotCount)).countP Option.isSome) (c, true) := by
  have inserted : (s.insert slot c).entries = s.entries.insertIdx
      ((s.slots.take (min slot s.slotCount)).countP Option.isSome) (Entry.fresh c) :=
    Slots.entries_insertIdx _ (Nat.min_le_right slot s.slotCount)
  rw [script, inserted, List.map_insertIdx]
  rfl

theorem Coherent.slotOf_eq_none (h : s.Coherent) : s.slotOf p = none ↔ s.len ≤ p := by
  rw [h.slotOf_eq, Slots.slotOf_eq_none, h.len_eq]
  rfl

theorem Coherent.remove (h : s.Coherent) {c : Command σ} {enabled : Bool}
    (found : s.script[p]? = some (c, enabled)) : (s.remove p).1 = some c ∧
      (s.remove p).2.script = s.script.eraseIdx p ∧ (s.remove p).2.slotCount = s.slotCount := by
  obtain ⟨e, he, rfl, rfl⟩ := entry_of_script found
  rw [entries, ← Slots.slotOf_bind] at he
  obtain ⟨slot, hs, hslot⟩ := Option.bind_eq_some_iff.mp he
  rw [Sequence.remove, h.slotOf_eq, hs]
  refine ⟨by simp only [hslot, Option.map_some], ?_, List.length_set⟩
  rw [script, script, List.eraseIdx_map]
  exact congrArg (List.map _) (Slots.entries_set_none hs)

theorem purgeHoles_eq : s.purgeHoles = (s.slots.countP Option.isNone,
    if s.slots.countP Option.isNone = 0 then s
    else { s with slots := s.slots.filter (·.isSome) }.markStale) := by
  have holes : s.slotCount - (s.slots.filter (·.isSome)).length = s.slots.countP Option.isNone := by
    rw [slotCount, Slots.length_filter, Slots.length_eq, Nat.add_sub_cancel_left]
  simp only [purgeHoles, holes]

theorem script_purgeHoles : s.purgeHoles.2.script = s.script := by
  rw [purgeHoles_eq]
  dsimp only
  split
  · rfl
  · exact script_congr Slots.entries_filter

theorem Coherent.slotCount_purgeHoles (h : s.Coherent) :
    s.purgeHoles.2.slotCount = s.purgeHoles.2.len := by
  rw [purgeHoles_eq]
  dsimp only
  split
  · next none_left =>
    rw [h.len_eq, slotCount, Slots.length_eq, none_left]
    rfl
  · exact Slots.length_filter.trans (congrArg List.length Slots.entries_filter.symm)

theorem Coherent.setEnabled (h : s.Coherent) (enabled : Bool) (hp : p < s.len) :
    (s.setEnabled p enabled).1 = true ∧
      (s.setEnabled p enabled).2.script = s.script.modify p (fun c => (c.1, enabled)) ∧
      (s.setEnabled p enabled).2.slotCount = s.slotCount := by
  refine ⟨?_, ?_, ?_⟩
  · rw [h.len_eq] at hp
    rw [Sequence.setEnabled, h.entry?_eq, List.getElem?_eq_getElem hp]
    rfl
  · rw [Sequence.setEnabled, script, h.entries_update, script]
    apply List.ext_getElem?
    intro q
    simp only [List.getElem?_map, List.getElem?_modify]
    by_cases hq : p = q <;> simp [hq, Function.comp_def]
  · rw [Sequence.setEnabled, Sequence.update]
    split
    · rfl
    · exact List.length_modify ..

theorem Coherent.editsRight (h : s.Coherent) : s.EditsRight where
  len := by rw [h.len_eq, script, List.length_map]
  push c := ⟨script_push c, List.length_append⟩
  pushHole := ⟨by simp [script, entries, Sequence.pushHole, markStale], List.length_append⟩
  insert slot c := by
    refine ⟨?_, script_insert slot c⟩
    exact List.length_insertIdx_of_le_length (Nat.min_le_right slot s.slotCount) ..
  remove p c enabled found := h.remove found
  removeBeyond p hp := by rw [Sequence.remove, h.slotOf_eq_none.mpr hp]
  purgeHoles := ⟨by rw [purgeHoles_eq], script_purgeHoles, h.slotCount_purgeHoles⟩
  setEnabled p enabled hp := h.setEnabled enabled hp
  setEnabledBeyond p enabled hp := by
    rw [Sequence.setEnabled, Sequence.update, entry?, h.slotOf_eq_none.mpr hp]
    rfl
  refresh := script_refresh
  refreshIndices := script_refreshIndices
  refreshIndentation := script_refreshIndentation
  adopt _ := rfl

end Sequence

/-! ## Many edits -/

/-- Makes edits one after another, and collects what they answer. -/
def Edit.applyAll (s : Sequence σ) : List (Edit σ) → List (EditReply σ) × Sequence σ
  | [] => ([], s)
  | edit :: edits =>
    let (reply, s) := edit.apply s
    let (replies, s) := applyAll s edits
    (reply :: replies, s)

/-- The commands that an edit puts in. -/
def Edit.given : Edit σ → EditReply σ → List (Command σ)
  | .push c, _ | .insert _ c, _ => [c]
  | .move .., .moved command => command.toList
  | _, _ => []

/-- The commands that an edit takes out. -/
def EditReply.taken : EditReply σ → List (Command σ)
  | .removed command | .moved command => command.toList
  | .done | .purged _ | .found _ => []

def givenAll (edits : List (Edit σ)) (replies : List (EditReply σ)) : List (Command σ) :=
  (edits.zip replies).flatMap fun (edit, reply) => edit.given reply

def takenAll (replies : List (EditReply σ)) : List (Command σ) := replies.flatMap (·.taken)

/-- The commands in order. -/
def Sequence.commands (s : Sequence σ) : List (Command σ) := s.script.map Prod.fst

open List in
/--
What has become of the commands `before`. Those that stayed are in the same order, the others were taken out;
what has been added was given, and what was given without being there any more was taken out again.
-/
def Balanced (before after given taken : List (Command σ)) : Prop :=
  ∃ stayed lost added passing, stayed <+ before ∧ stayed <+ after ∧ before ~ stayed ++ lost ∧
    after ~ stayed ++ added ∧ given ~ added ++ passing ∧ taken ~ lost ++ passing

open List in
theorem sublist_eraseIdx_cases {α : Type} {part whole : List α} {c : α} {p : Nat} (sub : part <+ whole)
    (found : whole[p]? = some c) : part <+ whole.eraseIdx p ∨
      ∃ rest, rest <+ part ∧ rest <+ whole.eraseIdx p ∧ part ~ c :: rest := by
  induction sub generalizing p with
  | slnil => simp at found
  | @cons part whole a sub ih =>
    cases p with
    | zero => exact .inl sub
    | succ p =>
      rcases ih (by simpa using found) with still | ⟨rest, in_part, in_whole, perm⟩
      · exact .inl (still.cons a)
      · exact .inr ⟨rest, in_part, in_whole.cons a, perm⟩
  | @cons_cons part whole a sub ih =>
    cases p with
    | zero =>
      obtain rfl : a = c := by simpa using found
      exact .inr ⟨part, sublist_cons_self a part, sub, .refl _⟩
    | succ p =>
      rcases ih (by simpa using found) with still | ⟨rest, in_part, in_whole, perm⟩
      · exact .inl (still.cons_cons a)
      · exact .inr ⟨a :: rest, in_part.cons_cons a, in_whole.cons_cons a, (perm.cons a).trans (.swap c a rest)⟩

namespace Balanced

open List

variable {before after after' given taken : List (Command σ)} {c : Command σ} {p : Nat}

theorem refl (commands : List (Command σ)) : Balanced commands commands [] [] :=
  ⟨commands, [], [], [], .refl _, .refl _, by simp, by simp, by simp, by simp⟩

theorem perm {given' taken' : List (Command σ)} (h : Balanced before after given taken)
    (hg : given' ~ given) (ht : taken' ~ taken) : Balanced before after given' taken' := by
  obtain ⟨stayed, lost, added, passing, here, there, hb, ha, hg', ht'⟩ := h
  exact ⟨stayed, lost, added, passing, here, there, hb, ha, hg.trans hg', ht.trans ht'⟩

theorem give (h : Balanced before after given taken) (more : after <+ after') (perm : after' ~ c :: after) :
    Balanced before after' (c :: given) taken := by
  obtain ⟨stayed, lost, added, passing, here, there, hb, ha, hg, ht⟩ := h
  refine ⟨stayed, lost, c :: added, passing, here, there.trans more, hb, ?_, hg.cons c, ht⟩
  exact perm.trans ((ha.cons c).trans perm_middle.symm)

theorem take (h : Balanced before after given taken) (found : after[p]? = some c) :
    Balanced before (after.eraseIdx p) given (c :: taken) := by
  obtain ⟨stayed, lost, added, passing, here, there, hb, ha, hg, ht⟩ := h
  have erased : c :: after.eraseIdx p ~ after := by
    obtain ⟨hp, rfl⟩ := List.getElem?_eq_some_iff.mp found
    exact getElem_cons_eraseIdx_perm hp
  rcases sublist_eraseIdx_cases there found with still | ⟨rest, in_stayed, in_after, perm⟩
  · -- The command had been given before.
    obtain ⟨others, ho⟩ := still.exists_perm_append
    have swapped : added ~ c :: others := by
      refine (perm_append_left_iff stayed).mp ?_
      exact ha.symm.trans (erased.symm.trans ((ho.cons c).trans perm_middle.symm))
    refine ⟨stayed, lost, others, c :: passing, here, still, hb, ho, ?_, ?_⟩
    · exact hg.trans ((swapped.append_right passing).trans perm_middle.symm)
    · exact (ht.cons c).trans perm_middle.symm
  · refine ⟨rest, c :: lost, added, passing, in_stayed.trans here, in_after, ?_, ?_, hg, ht.cons c⟩
    · exact hb.trans ((perm.append_right lost).trans perm_middle.symm)
    · exact (perm_cons c).mp (erased.trans (ha.trans (perm.append_right added)))

end Balanced

namespace Sequence

variable {s : Sequence σ} {before given taken : List (Command σ)} {p : Nat}

theorem commands_congr {s' : Sequence σ} (h : s'.script = s.script) : s'.commands = s.commands := by
  rw [commands, commands, h]

theorem balanced_insert (h : Balanced before s.commands given taken) (slot : Nat) (c : Command σ) :
    Balanced before (s.insert slot c).commands (c :: given) taken := by
  have inserted : (s.insert slot c).commands =
      s.commands.insertIdx ((s.slots.take (min slot s.slotCount)).countP Option.isSome) c := by
    rw [commands, script_insert, List.map_insertIdx]
    rfl
  have bound : (s.slots.take (min slot s.slotCount)).countP Option.isSome ≤ s.commands.length := by
    have sub := (List.take_sublist (min slot s.slotCount) s.slots).countP_le (p := Option.isSome)
    rw [List.countP_eq_length_filter (l := s.slots), Slots.length_filter] at sub
    rwa [commands, script, List.length_map, List.length_map]
  rw [inserted]
  exact h.give (List.sublist_insertIdx ..) (List.perm_insertIdx c _ bound)

theorem Coherent.balanced_remove (hs : s.Coherent) (h : Balanced before s.commands given taken) (p : Nat) :
    Balanced before (s.remove p).2.commands given ((s.remove p).1.toList ++ taken) := by
  cases found : s.script[p]? with
  | none =>
    have beyond : s.len ≤ p := by
      rw [hs.editsRight.len]
      exact List.getElem?_eq_none_iff.mp found
    rw [hs.editsRight.removeBeyond p beyond]
    exact h
  | some c =>
    obtain ⟨removed, script, -⟩ := hs.remove found
    have erased : (s.remove p).2.commands = s.commands.eraseIdx p := by
      rw [commands, script, commands, List.eraseIdx_map]
    rw [removed, erased]
    exact h.take (by rw [commands, List.getElem?_map, found]; rfl)

theorem Sound.balanced_edit (hs : s.Sound) (h : Balanced before s.commands given taken) (edit : Edit σ) :
    Balanced before (edit.apply s).2.commands (edit.given (edit.apply s).1 ++ given)
      ((edit.apply s).1.taken ++ taken) := by
  have right := hs.coherent.editsRight
  cases edit with
  | push c =>
    have pushed : (s.push c).commands = s.commands ++ [c] := by
      rw [commands, (right.push c).1, List.map_append]
      rfl
    show Balanced before (s.push c).commands (c :: given) taken
    rw [pushed]
    exact h.give (List.sublist_append_left ..) (List.perm_append_singleton c s.commands)
  | insert slot c => exact balanced_insert h slot c
  | remove p => exact hs.coherent.balanced_remove h p
  | move p slot =>
    -- A move takes a command out and puts it back, if there is one.
    have removed := hs.coherent.balanced_remove h p
    rw [Edit.apply]
    split
    · next heq =>
      rw [heq] at removed
      exact removed
    · next c s' heq =>
      rw [heq] at removed
      exact balanced_insert removed slot c
  | setEnabled p enabled =>
    have same : (s.setEnabled p enabled).2.commands = s.commands := by
      by_cases inside : p < s.len
      · rw [commands, (right.setEnabled p enabled inside).2.1, commands]
        apply List.ext_getElem?
        intro q
        simp only [List.getElem?_map, List.getElem?_modify]
        by_cases hq : p = q <;> simp [hq, Function.comp_def]
      · rw [right.setEnabledBeyond p enabled (Nat.le_of_not_lt inside)]
    show Balanced before (s.setEnabled p enabled).2.commands given taken
    rwa [same]
  | pushHole => exact commands_congr right.pushHole.1 ▸ h
  | purgeHoles => exact commands_congr right.purgeHoles.2.1 ▸ h
  | refresh => exact commands_congr right.refresh ▸ h
  | refreshIndices => exact commands_congr right.refreshIndices ▸ h
  | refreshIndentation => exact commands_congr right.refreshIndentation ▸ h

theorem Sound.balanced_edits (hs : s.Sound) (h : Balanced before s.commands given taken) (edits : List (Edit σ)) :
    Balanced before (Edit.applyAll s edits).2.commands (givenAll edits (Edit.applyAll s edits).1 ++ given)
      (takenAll (Edit.applyAll s edits).1 ++ taken) := by
  induction edits generalizing s given taken with
  | nil => exact h
  | cons edit edits ih =>
    obtain ⟨reply, s', hr⟩ : ∃ reply s', edit.apply s = (reply, s') := ⟨_, _, rfl⟩
    have edited := hs.balanced_edit h edit
    have sound := hs.edit edit
    rw [hr] at edited sound
    have rest := ih sound edited
    simp only [Edit.applyAll, hr, givenAll, takenAll, List.zip_cons_cons, List.flatMap_cons, List.append_assoc]
    exact rest.perm (List.perm_append_comm_assoc ..) (List.perm_append_comm_assoc ..)

/--
Edits are edits of the list of commands, stale caches or not, and however many there are, no command is lost,
comes twice or changes its place among the others.
-/
theorem edits_refine_list (h : s.Built) : s.EditsRight ∧ ∀ edits, Balanced s.commands
    (Edit.applyAll s edits).2.commands (givenAll edits (Edit.applyAll s edits).1)
    (takenAll (Edit.applyAll s edits).1) := by
  refine ⟨h.sound.coherent.editsRight, fun edits => ?_⟩
  have balanced := h.sound.balanced_edits (.refl s.commands) edits
  rwa [List.append_nil, List.append_nil] at balanced

/-- A sequence with a hole, and with caches that are out of date. -/
def untidy : Sequence Unit :=
  let commands : List (Command Unit) := [
    { name := "one", state := () }, { name := "two", state := () }, { name := "three", state := () }]
  ((Edit.remove 1).apply (ofCommands commands).refresh).2.push { name := "four", state := () }

theorem edits_refine_list_untidy : untidy.Built ∧ untidy.needsRefresh = true ∧
    (untidy.remove 1).2.script.map (·.1.name) = ["one", "four"] ∧
    (untidy.setEnabled 2 false).2.script.map (·.2) = [true, true, false] ∧
    (untidy.insert 2 { name := "five", state := () }).script.map (·.1.name) = ["one", "five", "three", "four"] ∧
    Balanced untidy.commands (Edit.applyAll untidy [.remove 2, .purgeHoles]).2.commands []
      [{ name := "four", state := () }] := by
  have built : untidy.Built := (((Built.ofCommands _).edit .refresh).edit (.remove 1)).edit (.push _)
  obtain ⟨right, balanced⟩ := edits_refine_list built
  refine ⟨built, rfl, ?_, ?_, ?_, ?_⟩
  · rw [(right.remove 1 { name := "three", state := () } true rfl).2.1]
    rfl
  · rw [(right.setEnabled 2 false (by decide)).2.1]
    rfl
  · rw [(right.insert 2 _).2]
    rfl
  · exact balanced [.remove 2, .purgeHoles]

end Sequence

end Sequencer
