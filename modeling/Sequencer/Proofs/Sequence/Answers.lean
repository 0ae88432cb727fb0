import Sequencer.Proofs.Sequence.Editing
import Sequencer.Proofs.Sequence.Labels

/-!
# Look-ups and stale caches

What a sequence answers about an entry is what a scan of its slots finds, and what an edit by position changes
is what that scan comes to. So nothing of it depends on which caches are stale.
-/

namespace Sequencer

variable {σ : Type}

/-- What can be asked about the entries of a sequence, by position and by key. -/
@[ext]
structure Answers (σ : Type) where
  len : Nat
  isEmpty : Bool
  slotOf : Nat → Option Nat
  get? : Nat → Option (Command σ)
  enabled? : Nat → Option Bool
  findLabel? : String → Option Nat

def Sequence.answers (s : Sequence σ) : Answers σ where
  len := s.len
  isEmpty := s.isEmpty
  slotOf := s.slotOf
  get? := s.get?
  enabled? p := (s.entry? p).map (·.enabled)
  findLabel? := s.findLabel?

/-- Whether the command is a label with the key, whatever the case of its letters. -/
def Command.isLabel (c : Command σ) (key : String) : Bool :=
  match c.kind.labelKey? with
  | some candidate => Text.lowercase candidate = Text.lowercase key
  | none => false

namespace Slots

variable {slots slots' : Slots σ} {p slot : Nat}

/-- Nothing is in a hole, or behind the last slot. -/
def entryIn (slots : Slots σ) (slot : Nat) : Option (Entry σ) := (slots[slot]?).join

/-- The answers of a scan: an entry's position is the number of taken slots in front of it. -/
def answers (slots : Slots σ) : Answers σ where
  len := slots.countP Option.isSome
  isEmpty := slots.all Option.isNone
  slotOf p := (occupied slots)[p]?
  get? p := ((occupied slots)[p]?.bind (entryIn slots)).map (·.command)
  enabled? p := ((occupied slots)[p]?.bind (entryIn slots)).map (·.enabled)
  findLabel? key := (occupied slots).findIdx? fun slot => (entryIn slots slot).any (·.command.isLabel key)

/-! ## The taken slots and what is in them -/

theorem occupied_eq : occupied slots = positionsFrom 0 slots :=
  ((positionsFrom_eq 0).trans (List.map_id' _)).symm

theorem getElem?_occupied : (occupied slots)[p]? = slotOf slots p := by
  rw [occupied_eq, getElem?_positionsFrom]
  exact Option.map_id'

theorem entryIn_occupied : (occupied slots)[p]?.bind (entryIn slots) = (entries slots)[p]? := by
  rw [getElem?_occupied]
  exact slotOf_bind

theorem map_entryIn : (occupied slots).map (entryIn slots) = (entries slots).map some := by
  apply List.ext_getElem?
  intro p
  rw [List.getElem?_map, List.getElem?_map, ← entryIn_occupied]
  cases here : (occupied slots)[p]? with
  | none => rfl
  | some slot =>
    -- A slot that is taken has an entry in it.
    have taken : (slots[slot]?).join.isSome :=
      (List.mem_filter.mp (List.mem_of_getElem? here)).2
    obtain ⟨e, he⟩ := Option.isSome_iff_exists.mp taken
    simp [entryIn, he]

theorem countP_isSome : slots.countP Option.isSome = (entries slots).length := by
  rw [List.countP_eq_length_filter, length_filter]

theorem all_isNone : slots.all Option.isNone = ((entries slots).length == 0) := by
  induction slots with
  | nil => rfl
  | cons s rest ih => cases s <;> simp [ih]

theorem findIdx?_occupied (key : String) :
    ((occupied slots).findIdx? fun slot => (entryIn slots slot).any (·.command.isLabel key)) =
      findLabel? key slots := by
  have taken : (occupied slots).map (entryIn slots) = (entries slots).map some := map_entryIn
  have through := congrArg (List.findIdx? (·.any (·.command.isLabel key))) taken
  rw [List.findIdx?_map, List.findIdx?_map] at through
  exact through

theorem answers_congr (taken : occupied slots' = occupied slots)
    (same : (entries slots').map (fun e => (e.command, e.enabled)) =
      (entries slots).map fun e => (e.command, e.enabled)) :
    answers slots' = answers slots := by
  have entries (p : Nat) : (entries slots')[p]?.map (fun e => (e.command, e.enabled)) =
      (entries slots)[p]?.map fun e => (e.command, e.enabled) := by
    rw [← List.getElem?_map, same, List.getElem?_map]
  have length : slots'.countP Option.isSome = slots.countP Option.isSome := by
    rw [countP_isSome, countP_isSome, ← length_occupied, taken, length_occupied]
  -- Each answer is read off the slots that are taken, or off the entries in them.
  apply Answers.ext
  · exact length
  · show slots'.all _ = slots.all _
    rw [all_isNone, all_isNone, ← countP_isSome, length, countP_isSome]
  · show (fun p => (occupied slots')[p]?) = fun p => (occupied slots)[p]?
    rw [taken]
  · funext p
    have command := congrArg (Option.map Prod.fst) (entries p)
    rw [Option.map_map, Option.map_map] at command
    show Option.map _ _ = Option.map _ _
    rw [entryIn_occupied, entryIn_occupied]
    exact command
  · funext p
    have enabled := congrArg (Option.map Prod.snd) (entries p)
    rw [Option.map_map, Option.map_map] at enabled
    show Option.map _ _ = Option.map _ _
    rw [entryIn_occupied, entryIn_occupied]
    exact enabled
  · funext key
    have labels := congrArg (List.findIdx? fun c => c.1.isLabel key) same
    rw [List.findIdx?_map, List.findIdx?_map] at labels
    show List.findIdx? _ _ = List.findIdx? _ _
    rw [findIdx?_occupied, findIdx?_occupied]
    exact labels

theorem modify_eq_set {e : Entry σ} (change : Entry σ → Entry σ) (here : slots[slot]? = some (some e)) :
    update slot change slots = slots.set slot (some (change e)) := by
  rw [update, List.modify_eq_set_getElem?, here]
  rfl

end Slots

namespace Sequence

variable {s : Sequence σ} {p : Nat}

/-! ## Asking -/

theorem Coherent.answers_eq (h : s.Coherent) : s.answers = Slots.answers s.slots := by
  have entry (p : Nat) : s.entry? p = (Slots.occupied s.slots)[p]?.bind (Slots.entryIn s.slots) := by
    rw [h.entry?_eq, Slots.entryIn_occupied]
    rfl
  apply Answers.ext
  · exact h.len_eq.trans Slots.countP_isSome.symm
  · show (s.len == 0) = _
    rw [h.len_eq]
    exact Slots.all_isNone.symm
  · funext p
    exact (h.slotOf_eq p).trans Slots.getElem?_occupied.symm
  · funext p
    exact congrArg (Option.map _) (entry p)
  · funext p
    exact congrArg (Option.map _) (entry p)
  · funext key
    exact (h.findLabel?_eq key).trans (Slots.findIdx?_occupied key).symm

theorem answers_refreshIndices (h : s.Coherent) : s.refreshIndices.answers = s.answers := by
  have taken : Slots.occupied s.refreshIndices.slots = Slots.occupied s.slots := by
    rw [Slots.occupied_eq, Slots.occupied_eq]
    exact Slots.positionsFrom_numberFrom s.owner 0 0
  rw [h.refreshIndices.answers_eq, h.answers_eq]
  exact Slots.answers_congr taken script_refreshIndices

theorem answers_refreshIndentation (h : s.Coherent) : s.refreshIndentation.answers = s.answers := by
  have taken : Slots.occupied s.refreshIndentation.slots = Slots.occupied s.slots := by
    rw [Slots.occupied_eq, Slots.occupied_eq]
    exact Slots.positionsFrom_indentFrom 0 0
  rw [h.refreshIndentation.answers_eq, h.answers_eq]
  exact Slots.answers_congr taken script_refreshIndentation

theorem answers_refresh (h : s.Coherent) : s.refresh.answers = s.answers :=
  (answers_refreshIndentation h.refreshIndices).trans (answers_refreshIndices h)

/-- The sequence, made to look through its slots. -/
def uncached (s : Sequence σ) : Sequence σ := { s with indicesStale := true }

theorem Coherent.uncached (h : s.Coherent) : s.uncached.Coherent where
  indices stale := by simp [Sequence.uncached] at stale
  indentation fresh := by
    have refreshed := h.indentation fresh
    simp only [Sequence.refreshIndentation, Sequence.mk.injEq, Sequence.uncached] at refreshed ⊢
    grind

theorem answers_uncached (h : s.Coherent) : s.uncached.answers = s.answers := by
  rw [h.uncached.answers_eq, h.answers_eq]
  rfl

/-! ## Editing -/

/--
The edits at `position` are about the entry in the given slot: they take out or change that one, and nothing
else. Without a slot they change nothing and say so.
-/
def Addresses (s : Sequence σ) (position : Nat) : (slot : Option Nat) → Prop
  | none => s.remove position = (none, s) ∧ (∀ enabled, s.setEnabled position enabled = (false, s)) ∧
      ∀ state, s.setState position state = s
  | some slot => ∃ e, s.slots[slot]? = some (some e) ∧
      s.remove position = (some e.command, { s with slots := s.slots.set slot none }.markStale) ∧
      (∀ enabled, s.setEnabled position enabled =
        (true, { s with slots := s.slots.set slot (some { e with enabled }) })) ∧
      ∀ state, s.setState position state =
        { s with slots := s.slots.set slot (some { e with command := { e.command with state } }) }

theorem addresses_slotOf (h : s.Coherent) (p : Nat) : s.Addresses p (s.slotOf p) := by
  have found : s.entry? p = (s.slotOf p).bind fun slot => (s.slots[slot]?).join := rfl
  cases here : s.slotOf p with
  | none =>
    rw [here, Option.bind_none] at found
    refine ⟨by rw [remove, here], fun enabled => ?_, fun state => ?_⟩
    · rw [setEnabled, found, update, here]
      rfl
    · rw [setState, update, here]
  | some slot =>
    have taken : slot ∈ Slots.occupied s.slots := by
      rw [h.slotOf_eq, ← Slots.getElem?_occupied] at here
      exact List.mem_of_getElem? here
    obtain ⟨e, he⟩ := Option.isSome_iff_exists.mp (List.mem_filter.mp taken).2
    have inSlot : s.slots[slot]? = some (some e) := Option.join_eq_some_iff.mp he
    have changed (change : Entry σ → Entry σ) :
        s.update p change = { s with slots := s.slots.set slot (some (change e)) } := by
      rw [update, here]
      exact congrArg (fun slots => { s with slots }) (Slots.modify_eq_set change inSlot)
    rw [here, Option.bind_some, he] at found
    refine ⟨e, inSlot, ?_, fun enabled => ?_, fun state => changed _⟩
    · rw [remove, here]
      simp only [he, Option.map_some]
    · rw [setEnabled, found, changed]
      rfl

/--
However a sequence was edited and refreshed, its answers are those of a scan of its slots, its edits go where
that scan does, and no refresh makes a difference; nor would it make one to scan in place of looking into the
caches.
-/
theorem answers_scan (h : s.Built) : s.answers = Slots.answers s.slots ∧
    (∀ p, s.Addresses p ((Slots.answers s.slots).slotOf p)) ∧
    s.refresh.answers = s.answers ∧ s.refreshIndices.answers = s.answers ∧
    s.refreshIndentation.answers = s.answers ∧ s.uncached.answers = s.answers := by
  have coherent := h.sound.coherent
  refine ⟨coherent.answers_eq, fun p => ?_, answers_refresh coherent, answers_refreshIndices coherent,
    answers_refreshIndentation coherent, answers_uncached coherent⟩
  rw [← coherent.answers_eq]
  exact addresses_slotOf coherent p

/-- A hole, two labels with one key, and a command that the cached positions do not know of yet. -/
def scattered : Sequence Unit :=
  let commands : List (Command Unit) := [
    { name := "note", kind := .comment, state := () },
    { name := "first", kind := .label "Here", state := () },
    { name := "one", state := () },
    { name := "second", kind := .label "HERE", state := () }]
  (((Edit.remove 0).apply (ofCommands commands)).2.refresh.push { name := "two", state := () }).refreshIndentation

theorem answers_scan_scattered : scattered.Built ∧ scattered.indicesStale = true ∧
    scattered.layout.len = 3 ∧ scattered.answers.len = 4 ∧
    (scattered.answers.get? 3).map (·.name) = some "two" ∧ scattered.answers.get? maxIndex = none ∧
    scattered.answers.findLabel? "here" = some 0 ∧
    scattered.Addresses 1 (some 2) ∧ scattered.Addresses 4 none ∧
    scattered.refresh.answers = scattered.answers := by
  have built : scattered.Built :=
    ((((Built.ofCommands _).edit (.remove 0)).edit .refresh).edit (.push _)).edit .refreshIndentation
  obtain ⟨answers, edits, refreshed, -⟩ := answers_scan built
  refine ⟨built, rfl, rfl, ?_, ?_, ?_, ?_, edits 1, edits 4, refreshed⟩
  all_goals
    rw [answers]
    decide +kernel

end Sequence

end Sequencer
