import Mathlib.Data.List.InsertIdx
import Sequencer.Command.Behaviour
import Sequencer.Proofs.Sequence.Caches

/-!
# Sequences that are alike

Two sequences are alike if they differ at most in who owns them. Every look-up finds the same in both, and
every change keeps them alike.
-/

namespace Sequencer

variable {σ : Type}

/-! ## What likeness leaves out -/

def Entry.anonymous (e : Entry σ) : Entry σ := { e with owner := none }

theorem Entry.command_anonymous (e : Entry σ) : e.anonymous.command = e.command := rfl

namespace Slots

/-! ### What depends on the commands only -/

section Commands

variable {change : Entry σ → Entry σ} (same : ∀ e, (change e).command = e.command)

theorem positionsFrom_map (change : Entry σ → Entry σ) (slots : Slots σ) (p : Nat) :
    positionsFrom p (slots.map (Option.map change)) = positionsFrom p slots := by
  induction slots generalizing p with
  | nil => rfl
  | cons slot rest ih =>
    cases slot with
    | none => exact ih (p + 1)
    | some entry => exact congrArg (p :: ·) (ih (p + 1))

include same

theorem labelsFrom_map (slots : Slots σ) (p : Nat) :
    labelsFrom p (slots.map (Option.map change)) = labelsFrom p slots := by
  induction slots generalizing p with
  | nil => rfl
  | cons slot rest ih =>
    cases slot with
    | none => exact ih p
    | some entry => simp only [List.map_cons, Option.map_some, labelsFrom, same, ih]

theorem indentsFrom_map (slots : Slots σ) (depth : Nat) :
    indentsFrom depth (slots.map (Option.map change)) = indentsFrom depth slots := by
  induction slots generalizing depth with
  | nil => rfl
  | cons slot rest ih =>
    cases slot with
    | none => exact ih depth
    | some entry => simp only [List.map_cons, Option.map_some, indentsFrom, same, ih]

theorem closesOf_map (slots : Slots σ) : closesOf (slots.map (Option.map change)) = closesOf slots := by
  induction slots with
  | nil => rfl
  | cons slot rest ih =>
    cases slot with
    | none => exact ih
    | some entry =>
      show (change entry).command.closes :: closesOf (rest.map (Option.map change)) =
        entry.command.closes :: closesOf rest
      rw [same, ih]

end Commands

/-! ### Without owners -/

def anonymous (slots : Slots σ) : Slots σ := slots.map (Option.map Entry.anonymous)

variable {slots : Slots σ} {p : Nat}

theorem getElem?_anonymous : (anonymous slots)[p]? = slots[p]?.map (Option.map Entry.anonymous) :=
  List.getElem?_map

theorem entries_anonymous (slots : Slots σ) : entries (anonymous slots) = (entries slots).map Entry.anonymous := by
  rw [entries, anonymous, List.filterMap_map, entries, List.map_filterMap]
  rfl

theorem slotOf_anonymous (slots : Slots σ) (p : Nat) : slotOf (anonymous slots) p = slotOf slots p := by
  induction slots generalizing p with
  | nil => rfl
  | cons slot rest ih =>
    cases slot with
    | none => exact congrArg _ (ih p)
    | some entry =>
      cases p with
      | zero => rfl
      | succ p => exact congrArg _ (ih p)

theorem findLabel?_anonymous (slots : Slots σ) (key : String) :
    findLabel? key (anonymous slots) = findLabel? key slots := by
  rw [findLabel?, entries_anonymous, List.findIdx?_map]
  rfl

theorem update_anonymous {change : Entry σ → Entry σ} (commutes : ∀ e, (change e).anonymous = change e.anonymous)
    (p : Nat) : anonymous (update p change slots) = update p change (anonymous slots) := by
  refine List.ext_getElem? fun q => ?_
  simp only [anonymous, update, List.getElem?_map, List.getElem?_modify]
  cases slots[q]? with
  | none => rfl
  | some slot =>
    split
    · cases slot with
      | none => rfl
      | some entry => exact congrArg (some ∘ some) (commutes entry)
    · rfl

theorem numberFrom_anonymous (slots : Slots σ) (owner : Option EngineId) (p : Nat) :
    anonymous (numberFrom owner p slots) = numberFrom none p (anonymous slots) := by
  induction slots generalizing p with
  | nil => rfl
  | cons slot rest ih =>
    cases slot with
    | none => exact congrArg _ (ih p)
    | some entry => exact congrArg _ (ih (p + 1))

theorem indentFrom_anonymous (slots : Slots σ) (depth : Nat) :
    anonymous (indentFrom depth slots) = indentFrom depth (anonymous slots) := by
  induction slots generalizing depth with
  | nil => rfl
  | cons slot rest ih =>
    cases slot with
    | none => exact congrArg _ (ih depth)
    | some entry => exact congrArg _ (ih _)

/-! ### Without what a refresh writes -/

end Slots

/-- The entry without what the next refresh writes into it. -/
def Entry.bare (e : Entry σ) : Entry σ := { command := e.command, enabled := e.enabled, executing := e.executing }

namespace Slots

def bare (slots : Slots σ) : Slots σ := slots.map (Option.map Entry.bare)

theorem bare_anonymous (slots : Slots σ) : bare (anonymous slots) = bare slots := by
  rw [bare, bare, anonymous, List.map_map]
  refine congrArg (List.map · slots) (funext fun slot => ?_)
  cases slot <;> rfl

theorem placed_bare (slots : Slots σ) (p depth : Nat) :
    indentFrom depth (numberFrom none p (bare slots)) = indentFrom depth (numberFrom none p slots) := by
  induction slots generalizing p depth with
  | nil => rfl
  | cons slot rest ih =>
    cases slot with
    | none => exact congrArg (List.cons none) (ih p depth)
    | some entry => exact congrArg (List.cons _) (ih (p + 1) _)

end Slots

namespace Sequence

def anonymous (s : Sequence σ) : Sequence σ := { s with slots := Slots.anonymous s.slots, owner := none }

variable {s : Sequence σ}

theorem len_anonymous (s : Sequence σ) : s.anonymous.len = s.len := by
  rw [len, len, anonymous, Slots.entries_anonymous, List.length_map]

theorem slotOf_anonymous (s : Sequence σ) (p : Nat) : s.anonymous.slotOf p = s.slotOf p := by
  rw [slotOf, slotOf, anonymous, Slots.slotOf_anonymous]

theorem entry?_anonymous (s : Sequence σ) (p : Nat) : s.anonymous.entry? p = (s.entry? p).map Entry.anonymous := by
  unfold entry?
  rw [slotOf_anonymous]
  cases s.slotOf p with
  | none => rfl
  | some slot =>
    show (Slots.anonymous s.slots)[slot]?.bind id = (s.slots[slot]?.bind id).map Entry.anonymous
    rw [Slots.getElem?_anonymous]
    cases s.slots[slot]? <;> rfl

theorem findLabel?_anonymous (s : Sequence σ) (key : String) : s.anonymous.findLabel? key = s.findLabel? key := by
  rw [findLabel?, findLabel?, anonymous, Slots.findLabel?_anonymous]

theorem nextRunnable_anonymous (s : Sequence σ) (target : Nat) :
    s.anonymous.nextRunnable target = s.nextRunnable target := by
  have skipped : ∀ p, s.anonymous.isSkipped p = s.isSkipped p := by
    intro p
    rw [isSkipped, isSkipped, entry?_anonymous]
    cases s.entry? p <;> rfl
  have skips : ∀ count p, s.anonymous.skipFrom p count = s.skipFrom p count := by
    intro count
    induction count with
    | zero => exact fun _ => rfl
    | succ count ih =>
      intro p
      rw [skipFrom, skipFrom, skipped, ih]
  rw [nextRunnable, nextRunnable, len_anonymous, skips]

theorem update_anonymous {change : Entry σ → Entry σ} (commutes : ∀ e, (change e).anonymous = change e.anonymous)
    (p : Nat) : (s.update p change).anonymous = s.anonymous.update p change := by
  rw [update, update, slotOf_anonymous]
  split
  · rfl
  · next slot _ => exact congrArg (fun slots => { s.anonymous with slots }) (Slots.update_anonymous commutes slot)

theorem refreshIndices_anonymous (s : Sequence σ) : s.refreshIndices.anonymous = s.anonymous.refreshIndices := by
  have positions := Slots.positionsFrom_map Entry.anonymous s.slots 0
  have labels := Slots.labelsFrom_map Entry.command_anonymous s.slots 0
  simp only [anonymous, refreshIndices, Slots.numberFrom_anonymous]
  rw [Slots.anonymous, positions, labels]

theorem refreshIndentation_anonymous (s : Sequence σ) :
    s.refreshIndentation.anonymous = s.anonymous.refreshIndentation := by
  have indents := Slots.indentsFrom_map Entry.command_anonymous s.slots 0
  have closes := Slots.closesOf_map Entry.command_anonymous s.slots
  simp only [anonymous, refreshIndentation, Slots.indentFrom_anonymous]
  rw [Slots.anonymous, indents, closes]

/-! ## Likeness -/

/-- The sequences differ at most in who owns them and their entries. -/
def Alike (s s' : Sequence σ) : Prop := s.anonymous = s'.anonymous

namespace Alike

variable {s' : Sequence σ} (h : s.Alike s')

include h

theorem stale : s.indicesStale = s'.indicesStale ∧ s.indentationStale = s'.indentationStale :=
  have indices : s.anonymous.indicesStale = s'.anonymous.indicesStale := congrArg Sequence.indicesStale h
  have indentation : s.anonymous.indentationStale = s'.anonymous.indentationStale :=
    congrArg Sequence.indentationStale h
  ⟨indices, indentation⟩

theorem needsRefresh : s.needsRefresh = s'.needsRefresh := by
  rw [Sequence.needsRefresh, Sequence.needsRefresh, h.stale.1, h.stale.2]

theorem layout : s.layout = s'.layout :=
  have same : s.anonymous.layout = s'.anonymous.layout := congrArg Sequence.layout h
  same

theorem slots : Slots.anonymous s.slots = Slots.anonymous s'.slots :=
  have same : s.anonymous.slots = s'.anonymous.slots := congrArg Sequence.slots h
  same

theorem len : s.len = s'.len := by rw [← s.len_anonymous, h, s'.len_anonymous]

theorem slotOf (p : Nat) : s.slotOf p = s'.slotOf p := by rw [← s.slotOf_anonymous, h, s'.slotOf_anonymous]

theorem slotCount : s.slotCount = s'.slotCount := by
  have length := congrArg List.length h.slots
  rwa [Slots.anonymous, Slots.anonymous, List.length_map, List.length_map] at length

theorem findLabel? (key : String) : s.findLabel? key = s'.findLabel? key := by
  rw [← s.findLabel?_anonymous, h, s'.findLabel?_anonymous]

theorem nextRunnable (target : Nat) : s.nextRunnable target = s'.nextRunnable target := by
  rw [← s.nextRunnable_anonymous, h, s'.nextRunnable_anonymous]

theorem entry? (p : Nat) : (s.entry? p).map Entry.anonymous = (s'.entry? p).map Entry.anonymous := by
  rw [← s.entry?_anonymous, h, s'.entry?_anonymous]

theorem get? (p : Nat) : s.get? p = s'.get? p := by
  have commands : ∀ s : Sequence σ, s.get? p = ((s.entry? p).map Entry.anonymous).map (·.command) := by
    intro s
    rw [Sequence.get?, Option.map_map]
    rfl
  rw [commands, commands, h.entry?]

/-! ## Changes -/

theorem update (change : Entry σ → Entry σ) (commutes : ∀ e, (change e).anonymous = change e.anonymous)
    (p : Nat) : (s.update p change).Alike (s'.update p change) := by
  rw [Alike, update_anonymous commutes, h, update_anonymous commutes]

theorem setExecuting (p : Nat) (executing : Bool) :
    (s.setExecuting p executing).Alike (s'.setExecuting p executing) :=
  h.update (fun e => { e with executing }) (fun _ => rfl) p

theorem setState (p : Nat) (state : σ) : (s.setState p state).Alike (s'.setState p state) :=
  h.update (fun e => { e with command := { e.command with state } }) (fun _ => rfl) p

theorem setEnabled (p : Nat) (enabled : Bool) : (s.setEnabled p enabled).1 = (s'.setEnabled p enabled).1 ∧
    (s.setEnabled p enabled).2.Alike (s'.setEnabled p enabled).2 := by
  refine ⟨?_, h.update (fun e => { e with enabled }) (fun _ => rfl) p⟩
  have found := congrArg Option.isSome (h.entry? p)
  rwa [Option.isSome_map, Option.isSome_map] at found

theorem refreshIndices : s.refreshIndices.Alike s'.refreshIndices := by
  rw [Alike, refreshIndices_anonymous, h, refreshIndices_anonymous]

theorem refreshIndentation : s.refreshIndentation.Alike s'.refreshIndentation := by
  rw [Alike, refreshIndentation_anonymous, h, refreshIndentation_anonymous]

theorem refresh : s.refresh.Alike s'.refresh := h.refreshIndices.refreshIndentation

omit h in
theorem anonymous_of_fresh (hs : s.Coherent) (fresh : s.needsRefresh = false) :
    s.anonymous = Sequence.refresh { slots := Slots.bare s.slots } := by
  obtain ⟨indices, indentation⟩ := Bool.or_eq_false_iff.mp fresh
  have fixed : s.refresh = s := by rw [Sequence.refresh, hs.indices indices, hs.indentation indentation]
  have written : s.anonymous = s.anonymous.refresh := by
    rw [Sequence.refresh, ← refreshIndices_anonymous, ← refreshIndentation_anonymous]
    exact (congrArg Sequence.anonymous fixed).symm
  have bare := Slots.bare_anonymous s.slots
  have kept : ∀ e : Entry σ, e.bare.command = e.command := fun _ => rfl
  rw [written]
  simp only [Sequence.anonymous, Sequence.refresh, Sequence.refreshIndices, Sequence.refreshIndentation,
    Slots.indentsFrom_numberFrom, Slots.closesOf_numberFrom]
  rw [← bare, Slots.placed_bare]
  rw [Slots.bare, Slots.positionsFrom_map, Slots.labelsFrom_map kept, Slots.indentsFrom_map kept,
    Slots.closesOf_map kept]

omit h in
theorem of_bare (hs : s.Coherent) (hs' : s'.Coherent) (fresh : s.needsRefresh = false)
    (fresh' : s'.needsRefresh = false) (same : Slots.bare s.slots = Slots.bare s'.slots) : s.Alike s' := by
  rw [Alike, anonymous_of_fresh hs fresh, anonymous_of_fresh hs' fresh', same]

theorem restock {slots slots' : Slots σ} (same : Slots.anonymous slots = Slots.anonymous slots') :
    ({ s with slots } : Sequence σ).markStale.Alike ({ s' with slots := slots' } : Sequence σ).markStale := by
  have layout := h.layout
  obtain ⟨slots₁, layout₁, owner₁, indices₁, indentation₁⟩ := s
  obtain ⟨slots₂, layout₂, owner₂, indices₂, indentation₂⟩ := s'
  obtain rfl : layout₁ = layout₂ := layout
  exact congrArg (fun slots => (⟨slots, layout₁, none, true, true⟩ : Sequence σ)) same

theorem push (command : Command σ) : (s.push command).Alike (s'.push command) := by
  refine h.restock ?_
  simp only [Slots.anonymous, List.map_append]
  exact congrArg (· ++ _) h.slots

theorem pushHole : s.pushHole.Alike s'.pushHole := by
  refine h.restock ?_
  simp only [Slots.anonymous, List.map_append]
  exact congrArg (· ++ _) h.slots

theorem insert (slot : Nat) (command : Command σ) : (s.insert slot command).Alike (s'.insert slot command) := by
  rw [Sequence.insert, Sequence.insert, h.slotCount]
  refine h.restock ?_
  simp only [Slots.anonymous, List.map_insertIdx]
  exact congrArg (List.insertIdx · _ _) h.slots

theorem remove (p : Nat) : (s.remove p).1 = (s'.remove p).1 ∧ (s.remove p).2.Alike (s'.remove p).2 := by
  rw [Sequence.remove, Sequence.remove, h.slotOf]
  split
  · exact ⟨rfl, h⟩
  · next slot _ =>
    refine ⟨?_, h.restock ?_⟩
    · have commands : ∀ slots : Slots σ, slots[slot]?.join.map (·.command) =
          (Slots.anonymous slots)[slot]?.join.map (·.command) := by
        intro slots
        rw [Slots.getElem?_anonymous]
        cases slots[slot]? with
        | none => rfl
        | some slot => cases slot <;> rfl
      refine (commands s.slots).trans ?_
      rw [h.slots]
      exact (commands s'.slots).symm
    · simp only [Slots.anonymous, List.map_set]
      exact congrArg (List.set · _ _) h.slots

theorem purgeHoles : s.purgeHoles.1 = s'.purgeHoles.1 ∧ s.purgeHoles.2.Alike s'.purgeHoles.2 := by
  have kept : Slots.anonymous (s.slots.filter (·.isSome)) = Slots.anonymous (s'.slots.filter (·.isSome)) := by
    have filtered : ∀ slots : Slots σ, Slots.anonymous (slots.filter (·.isSome)) =
        (Slots.anonymous slots).filter (·.isSome) := by
      intro slots
      rw [Slots.anonymous, Slots.anonymous, List.filter_map]
      congr 2
      funext slot
      exact Option.isSome_map.symm
    rw [filtered, filtered, h.slots]
  have length := congrArg List.length kept
  rw [Slots.anonymous, Slots.anonymous, List.length_map, List.length_map] at length
  rw [Sequence.purgeHoles, Sequence.purgeHoles, h.slotCount, length]
  refine ⟨rfl, ?_⟩
  dsimp only
  split
  · exact h
  · exact h.restock kept

theorem edit (edit : Edit σ) :
    (edit.apply s).1 = (edit.apply s').1 ∧ (edit.apply s).2.Alike (edit.apply s').2 := by
  cases edit with
  | push command => exact ⟨rfl, h.push command⟩
  | pushHole => exact ⟨rfl, h.pushHole⟩
  | insert slot command => exact ⟨rfl, h.insert slot command⟩
  | remove position => exact (h.remove position).imp_left (congrArg EditReply.removed)
  | move position slot =>
    obtain ⟨same, alike⟩ := h.remove position
    rw [Edit.apply, Edit.apply]
    generalize s.remove position = removed at same alike
    generalize s'.remove position = removed' at same alike
    obtain ⟨command, s⟩ := removed
    obtain ⟨command', s'⟩ := removed'
    obtain rfl : command = command' := same
    cases command with
    | none => exact ⟨rfl, alike⟩
    | some command => exact ⟨rfl, alike.insert slot command⟩
  | purgeHoles => exact h.purgeHoles.imp_left (congrArg EditReply.purged)
  | refresh => exact ⟨rfl, h.refresh⟩
  | refreshIndices => exact ⟨rfl, h.refreshIndices⟩
  | refreshIndentation => exact ⟨rfl, h.refreshIndentation⟩
  | setEnabled position enabled => exact (h.setEnabled position enabled).imp_left (congrArg EditReply.found)

end Alike

/-! ## What engines need of a likeness -/

/-- The sequence as a run begins on it. -/
def tidied (s : Sequence σ) : Sequence σ := if s.needsRefresh then s.refresh else s

/-- The command that the caches place at `index`, and what its hooks see. -/
def target? (s : Sequence σ) (index : Nat) : Option (Command σ × View) :=
  ((s.layout.slotOf index).bind fun slot => s.slots[slot]?.join).map fun entry =>
    (entry.command, ⟨index, s.len, s.layout.labels, s.layout.blocks⟩)

theorem Alike.target? {s' : Sequence σ} (h : s.Alike s') (index : Nat) : s.target? index = s'.target? index := by
  have commands : ∀ s : Sequence σ, s.target? index =
      ((s.layout.slotOf index).bind fun slot => (Slots.anonymous s.slots)[slot]?.join).map fun entry =>
        (entry.command, ⟨index, s.len, s.layout.labels, s.layout.blocks⟩) := by
    intro s
    rw [Sequence.target?]
    cases s.layout.slotOf index with
    | none => rfl
    | some slot =>
      simp only [Option.bind_some, Slots.getElem?_anonymous]
      rcases s.slots[slot]? with _ | _ | entry <;> rfl
  rw [commands, commands, h.slots, h.layout, h.len]

theorem Alike.tidied {s' : Sequence σ} (h : s.Alike s') : s.tidied.Alike s'.tidied := by
  rw [Sequence.tidied, Sequence.tidied, ← h.needsRefresh]
  split
  · exact h.refresh
  · exact h

end Sequence

/--
A likeness of sequences in which engines find the same, and which they keep. More may be asked while the engine
is `busy` with a run.
-/
structure Likeness (σ : Type) where
  Holds : Prop → Sequence σ → Sequence σ → Prop
  mono : ∀ {busy busy' : Prop} {s s' : Sequence σ}, Holds busy s s' → (busy' → busy) → Holds busy' s s'
  len : ∀ {busy : Prop} {s s' : Sequence σ}, Holds busy s s' → s.len = s'.len
  get? : ∀ {busy : Prop} {s s' : Sequence σ}, Holds busy s s' → ∀ p, s.get? p = s'.get? p
  findLabel? : ∀ {busy : Prop} {s s' : Sequence σ}, Holds busy s s' → ∀ key, s.findLabel? key = s'.findLabel? key
  nextRunnable : ∀ {busy : Prop} {s s' : Sequence σ}, Holds busy s s' → ∀ target,
    s.nextRunnable target = s'.nextRunnable target
  target? : ∀ {s s' : Sequence σ}, Holds True s s' → ∀ index, s.target? index = s'.target? index
  setExecuting : ∀ {busy : Prop} {s s' : Sequence σ}, Holds busy s s' → ∀ p executing,
    Holds busy (s.setExecuting p executing) (s'.setExecuting p executing)
  setState : ∀ {busy : Prop} {s s' : Sequence σ}, Holds busy s s' → ∀ p state,
    Holds busy (s.setState p state) (s'.setState p state)
  setEnabled : ∀ {busy : Prop} {s s' : Sequence σ}, Holds busy s s' → ∀ p enabled,
    Holds busy (s.setEnabled p enabled).2 (s'.setEnabled p enabled).2
  tidied : ∀ {busy : Prop} {s s' : Sequence σ}, Holds busy s s' → Holds True s.tidied s'.tidied

def Likeness.alike : Likeness σ where
  Holds _ s s' := s.Alike s'
  mono h _ := h
  len h := h.len
  get? h := h.get?
  findLabel? h := h.findLabel?
  nextRunnable h := h.nextRunnable
  target? h := h.target?
  setExecuting h := h.setExecuting
  setState h := h.setState
  setEnabled h p enabled := (h.setEnabled p enabled).2
  tidied h := h.tidied

end Sequencer
