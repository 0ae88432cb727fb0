import Mathlib.Order.Bounds.Image
import Sequencer.Proofs.Sequence.Accuracy
import Sequencer.Proofs.Sequence.Nesting

/-!
# Blocks as brackets

The end of a block is found by comparing indents, and indents do not get below zero. All the same it is where a
bracket counter says it is, whatever else stands in the sequence: closes that close nothing, blocks that are
never closed, and commands that close one block and open another.
-/

namespace Sequencer

variable {σ : Type}

/-! ## The first position of a set -/

/-- The least of the positions, and nothing if there is none. -/
def FirstIn (positions : Set Nat) : Option Nat → Prop
  | some p => IsLeast positions p
  | none => positions = ∅

namespace FirstIn

variable {positions : Set Nat} {first : Option Nat}

theorem shift (h : FirstIn positions first) (count : Nat) :
    FirstIn ((· + count) '' positions) (first.map (· + count)) := by
  cases first with
  | none => exact (congrArg _ h).trans (Set.image_empty _)
  | some p => exact Monotone.map_isLeast (fun _ _ le => Nat.add_le_add_right le count) h

theorem eq_some_iff (h : FirstIn positions first) {p : Nat} : first = some p ↔ IsLeast positions p := by
  constructor
  · rintro rfl
    exact h
  · intro least
    cases first with
    | none => exact absurd least.1 (h ▸ Set.notMem_empty p)
    | some p' => exact congrArg some (IsLeast.unique h least)

theorem eq_none_iff (h : FirstIn positions first) : first = none ↔ positions = ∅ := by
  constructor
  · rintro rfl
    exact h
  · intro none_left
    cases first with
    | none => rfl
    | some p => exact absurd h.1 (none_left ▸ Set.notMem_empty p)

end FirstIn

/-! ## Counting brackets -/

/-- The bracket counter behind a command: a close counts down, then an open counts up. It may get below zero. -/
def Command.count (c : Command σ) (counter : Int) : Int :=
  counter - (if c.closes then 1 else 0) + if c.opens then 1 else 0

/-- Which of the commands bring the counter to zero with their close. -/
def zeroes (counter : Int) (commands : List (Command σ)) : Set Nat :=
  {k | ∃ c, commands[k]? = some c ∧ c.closes = true ∧
    (commands.take k).foldl (fun counter c => c.count counter) counter - 1 = 0}

/-- The positions behind `p` at which a close brings the counter to zero, if it is one behind `p`. -/
def closings (commands : List (Command σ)) (p : Nat) : Set Nat :=
  {q | p < q ∧ ∃ c, commands[q]? = some c ∧ c.closes = true ∧
    ((commands.take q).drop (p + 1)).foldl (fun counter c => c.count counter) 1 - 1 = 0}

section Counting

variable {commands : List (Command σ)} {c : Command σ} {counter : Int} {depth n p : Nat}

theorem zeroes_cons (rest : List (Command σ)) (other : ¬ (c.closes = true ∧ counter = 1)) :
    zeroes counter (c :: rest) = (· + 1) '' zeroes (c.count counter) rest := by
  ext k
  cases k with
  | zero =>
    simp only [zeroes, Set.mem_ofPred_eq, List.getElem?_cons_zero, List.take_zero, List.foldl_nil,
      Option.some.injEq, exists_eq_left', Set.mem_image, Nat.succ_ne_zero, and_false, exists_false, iff_false]
    exact fun h => other ⟨h.1, by omega⟩
  | succ k => simp [zeroes]

theorem closings_eq : closings commands p = (· + (p + 1)) '' zeroes 1 (commands.drop (p + 1)) := by
  ext q
  constructor
  · rintro ⟨behind, c, found, closes, zero⟩
    obtain ⟨k, rfl⟩ := Nat.exists_eq_add_of_lt behind
    refine ⟨k, ⟨c, ?_, closes, ?_⟩, by dsimp only; omega⟩
    · rw [List.getElem?_drop, ← found]
      congr 1
      omega
    · rwa [List.drop_take, show p + k + 1 - (p + 1) = k from by omega] at zero
  · rintro ⟨k, ⟨c, found, closes, zero⟩, rfl⟩
    refine ⟨Nat.lt_of_lt_of_le (Nat.lt_succ_self p) (Nat.le_add_left _ k), c, ?_, closes, ?_⟩
    · rw [List.getElem?_drop, Nat.add_comm] at found
      exact found
    · rwa [List.drop_take, Nat.add_sub_cancel]

/-! ## Indents of what is inside -/

/--
A command inside a block of depth `depth`, with `n` blocks open in between, either closes that block or lies
deeper and leaves it open.
-/
theorem Command.inside (c : Command σ) (depth n : Nat) :
    (c.closes = true ∧ n = 0 ∧ c.indentIn (depth + n + 1) = depth) ∨
    (¬ (c.closes = true ∧ n = 0) ∧ depth < c.indentIn (depth + n + 1) ∧
      ∃ n', c.depthAfter (depth + n + 1) = depth + n' + 1 ∧ c.count (n + 1) = n' + 1) := by
  cases hc : c.closes with
  | false =>
    have same : c.indentIn (depth + n + 1) = depth + n + 1 := by simp [indentIn, hc]
    refine .inr ⟨by simp, by omega, if c.opens then n + 1 else n, ?_, ?_⟩
    · cases ho : c.opens
      · simp [depthAfter, indentIn, hc, ho]
      · simp [depthAfter, indentIn, hc, ho]
        omega
    · cases ho : c.opens <;> simp [count, hc, ho]
  | true =>
    cases n with
    | zero => exact .inl ⟨rfl, rfl, by simp [indentIn, hc]⟩
    | succ n =>
      refine .inr ⟨by simp, by simp [indentIn, hc], if c.opens then n + 1 else n, ?_, ?_⟩
      · cases ho : c.opens
        · simp [depthAfter, indentIn, hc, ho]
          omega
        · simp [depthAfter, indentIn, hc, ho]
      · cases ho : c.opens <;> simp [count, hc, ho]

/-- The first command that lies no deeper than the block is the close that the counter tells, and lies as deep. -/
theorem findIdx?_indentsAlong (depth n : Nat) (commands : List (Command σ)) :
    let found := (indentsAlong (depth + n + 1) commands).findIdx? (· ≤ depth)
    FirstIn (zeroes (n + 1) commands) found ∧
      ∀ k, found = some k → (indentsAlong (depth + n + 1) commands)[k]? = some depth := by
  induction commands generalizing n with
  | nil => exact ⟨Set.eq_empty_of_forall_notMem fun k hk => by simp [zeroes] at hk, by simp [indentsAlong]⟩
  | cons c rest ih =>
    dsimp only
    rw [indentsAlong, List.findIdx?_cons]
    rcases c.inside depth n with ⟨closes, rfl, indent⟩ | ⟨other, deeper, n', after, counted⟩
    · -- This command closes the block.
      rw [indent, if_pos (by simp)]
      refine ⟨⟨⟨c, rfl, closes, by simp⟩, fun k _ => Nat.zero_le k⟩, ?_⟩
      rintro k ⟨⟩
      rfl
    · -- The block is still open behind it, and n' others in it.
      obtain ⟨first, level⟩ := ih n'
      have open_yet : ¬ (c.closes = true ∧ (n : Int) + 1 = 1) := fun h => other ⟨h.1, by omega⟩
      rw [if_neg (by simpa using deeper), after, zeroes_cons rest open_yet, counted]
      refine ⟨first.shift 1, ?_⟩
      rintro k hk
      obtain ⟨k, found, rfl⟩ := Option.map_eq_some_iff.mp hk
      rw [List.getElem?_cons_succ]
      exact level k found

/-! ## The end of a block -/

theorem indents_behind (found : commands[p]? = some c) (opens : c.opens = true) :
    ∃ depth, (indentsAlong 0 commands)[p]? = some depth ∧
      (indentsAlong 0 commands).drop (p + 1) = indentsAlong (depth + 1) (commands.drop (p + 1)) := by
  obtain ⟨inside, rfl⟩ := List.getElem?_eq_some_iff.mp found
  let before := commands.take p
  let depth := commands[p].indentIn (depthBehind 0 before)
  have after : commands[p].depthAfter (depthBehind 0 before) = depth + 1 := by
    rw [Command.depthAfter, if_pos opens]
  have split : indentsAlong 0 commands =
      indentsAlong 0 before ++ depth :: indentsAlong (depth + 1) (commands.drop (p + 1)) := by
    rw [← after]
    conv_lhs => rw [← List.take_append_drop p commands, List.drop_eq_getElem_cons inside]
    exact indentsAlong_append _
  have length : (indentsAlong 0 before).length = p := by
    rw [length_indentsAlong, List.length_take, Nat.min_eq_left (Nat.le_of_lt inside)]
  refine ⟨depth, ?_, ?_⟩
  · rw [split, List.getElem?_append_right (Nat.le_of_eq length), length, Nat.sub_self, List.getElem?_cons_zero]
  · rw [split, ← List.drop_drop, List.drop_append_of_le_length (Nat.le_of_eq length.symm),
      List.drop_of_length_le (Nat.le_of_eq length)]
    rfl

theorem end?_of_opens (found : commands[p]? = some c) (opens : c.opens = true) :
    ∃ depth, (indentsAlong 0 commands)[p]? = some depth ∧
      (indentsAlong 0 commands).drop (p + 1) = indentsAlong (depth + 1) (commands.drop (p + 1)) ∧
      (blocksOf commands).end? p =
        ((indentsAlong (depth + 1) (commands.drop (p + 1))).findIdx? (· ≤ depth)).map (· + (p + 1)) := by
  obtain ⟨depth, here, behind⟩ := indents_behind found opens
  obtain ⟨first, -⟩ := findIdx?_indentsAlong depth 0 (commands.drop (p + 1))
  refine ⟨depth, here, behind, ?_⟩
  rw [Blocks.end?, blocksOf, here, Option.bind_eq_bind, Option.bind_some, behind]
  cases hk : (indentsAlong (depth + 1) (commands.drop (p + 1))).findIdx? (· ≤ depth) with
  | none => rfl
  | some k =>
    rw [Nat.add_zero, hk] at first
    obtain ⟨⟨c', last, closes, -⟩, -⟩ := first
    have closing : (commands.map (·.closes))[p + 1 + k]? = some true := by
      rw [List.getElem?_map, ← List.getElem?_drop, last, Option.map_some, closes]
    rw [Option.bind_some, if_pos closing, Nat.add_comm (p + 1) k]
    rfl

theorem firstIn_end? (found : commands[p]? = some c) (opens : c.opens = true) :
    FirstIn (closings commands p) ((blocksOf commands).end? p) := by
  obtain ⟨depth, -, -, ends⟩ := end?_of_opens found opens
  obtain ⟨first, -⟩ := findIdx?_indentsAlong depth 0 (commands.drop (p + 1))
  rw [closings_eq, ends]
  exact first.shift (p + 1)

theorem indents_of_end? (found : commands[p]? = some c) (opens : c.opens = true) {q : Nat}
    (ends : (blocksOf commands).end? p = some q) :
    p < q ∧ ∃ depth, (indentsAlong 0 commands)[p]? = some depth ∧ (indentsAlong 0 commands)[q]? = some depth ∧
      ∀ r, p < r → r < q → ∃ deeper, (indentsAlong 0 commands)[r]? = some deeper ∧ depth < deeper := by
  obtain ⟨depth, here, behind, first⟩ := end?_of_opens found opens
  obtain ⟨-, level⟩ := findIdx?_indentsAlong depth 0 (commands.drop (p + 1))
  obtain ⟨k, hk, rfl⟩ := Option.map_eq_some_iff.mp (first.symm.trans ends)
  have beyond (i : Nat) : (indentsAlong 0 commands)[i + (p + 1)]? =
      (indentsAlong (depth + 1) (commands.drop (p + 1)))[i]? := by
    rw [← behind, List.getElem?_drop, Nat.add_comm]
  refine ⟨by omega, depth, here, (beyond k).trans (level k hk), fun r after before => ?_⟩
  obtain ⟨i, rfl⟩ := Nat.exists_eq_add_of_le' (Nat.succ_le_of_lt after)
  obtain ⟨inside, -, passed⟩ := List.findIdx?_eq_some_iff_getElem.mp hk
  have short : i < k := by omega
  refine ⟨_, (beyond i).trans (List.getElem?_eq_getElem (Nat.lt_trans short inside)), ?_⟩
  simpa using passed i short

theorem exists_end? (found : commands[p]? = some c) (opens : c.opens = true) {q outer inner : Nat} (lt : p < q)
    (here : (indentsAlong 0 commands)[p]? = some inner) (there : (indentsAlong 0 commands)[q]? = some outer)
    (le : outer ≤ inner) : ∃ last, (blocksOf commands).end? p = some last := by
  obtain ⟨depth, same, behind, first⟩ := end?_of_opens found opens
  obtain rfl : inner = depth := Option.some.inj (here.symm.trans same)
  obtain ⟨i, rfl⟩ := Nat.exists_eq_add_of_le (Nat.succ_le_of_lt lt)
  have member : outer ∈ indentsAlong (inner + 1) (commands.drop (p + 1)) := by
    rw [← behind]
    exact List.mem_of_getElem? (List.getElem?_drop.trans there)
  cases hk : (indentsAlong (inner + 1) (commands.drop (p + 1))).findIdx? (· ≤ inner) with
  | none =>
    have passed := List.findIdx?_eq_none_iff.mp hk outer member
    simp [le] at passed
  | some k => exact ⟨k + (p + 1), by rw [first, hk]; rfl⟩

end Counting

/-! ## Blocks in a sequence -/

namespace Sequence

variable {s : Sequence σ} {p q : Nat}

/-- The command at `p` opens a block. -/
def OpensAt (s : Sequence σ) (p : Nat) : Prop := ∃ c, s.get? p = some c ∧ c.opens = true

/-- Blocks end where a bracket counter says, and lie within one another or apart. -/
structure BlocksMatch (s : Sequence σ) : Prop where
  ends : ∀ p, s.OpensAt p → ∀ q, s.blockEnd? p = some q ↔ IsLeast (closings s.forms p) q
  endless : ∀ p, s.OpensAt p → (s.blockEnd? p = none ↔ closings s.forms p = ∅)
  level : ∀ p q, s.OpensAt p → s.blockEnd? p = some q → ∃ depth,
    s.layout.indentOf p = some depth ∧ s.layout.indentOf q = some depth ∧
      ∀ r, p < r → r < q → ∃ deeper, s.layout.indentOf r = some deeper ∧ depth < deeper
  distinct : ∀ p p' q, s.OpensAt p → s.OpensAt p' → s.blockEnd? p = some q → s.blockEnd? p' = some q → p = p'
  within : ∀ p q r, s.OpensAt p → s.blockEnd? p = some q → s.OpensAt r → p < r → r < q →
    ∃ last, s.blockEnd? r = some last ∧ r < last ∧ last < q

theorem Coherent.blocksMatch (h : s.Coherent) (fresh : s.indentationStale = false) : s.BlocksMatch := by
  have blocks := h.blocks_eq fresh
  have opener : ∀ {p}, s.OpensAt p → ∃ c, s.forms[p]? = some c ∧ c.opens = true := by
    rintro p ⟨c, found, opens⟩
    exact ⟨c.form, h.form_of_get? found, opens⟩
  have first : ∀ {p}, s.OpensAt p → FirstIn (closings s.forms p) (s.blockEnd? p) := by
    intro p hp
    obtain ⟨c, found, opens⟩ := opener hp
    rw [blockEnd?, blocks]
    exact firstIn_end? found opens
  have level : ∀ {p q}, s.OpensAt p → s.blockEnd? p = some q → p < q ∧ ∃ depth,
      s.layout.indentOf p = some depth ∧ s.layout.indentOf q = some depth ∧
        ∀ r, p < r → r < q → ∃ deeper, s.layout.indentOf r = some deeper ∧ depth < deeper := by
    intro p q hp ends
    obtain ⟨c, found, opens⟩ := opener hp
    rw [blockEnd?, blocks] at ends
    simp only [Layout.indentOf, blocks]
    exact indents_of_end? found opens ends
  -- The end of a block lies further out than what is inside, so no inner block has the same end.
  have apart : ∀ {p r q}, s.OpensAt p → s.OpensAt r → p < r → s.blockEnd? p = some q →
      s.blockEnd? r ≠ some q := by
    intro p r q hp hr lt ends ends'
    obtain ⟨-, depth, -, at_end, deeper⟩ := level hp ends
    obtain ⟨lt', inner, at_opener, at_end', -⟩ := level hr ends'
    obtain ⟨inner', at_opener', outside⟩ := deeper r lt lt'
    obtain rfl := Option.some.inj (at_opener.symm.trans at_opener')
    obtain rfl := Option.some.inj (at_end.symm.trans at_end')
    exact Nat.lt_irrefl _ outside
  refine ⟨fun p hp q => (first hp).eq_some_iff, fun p hp => (first hp).eq_none_iff,
    fun p q hp ends => (level hp ends).2, ?_, ?_⟩
  · intro p p' q hp hp' ends ends'
    rcases Nat.lt_trichotomy p p' with lt | same | lt
    · exact absurd ends' (apart hp hp' lt ends)
    · exact same
    · exact absurd ends (apart hp' hp lt ends')
  · intro p q r hp ends hr after before
    obtain ⟨-, depth, -, at_end, deeper⟩ := level hp ends
    obtain ⟨inner, at_opener, outside⟩ := deeper r after before
    obtain ⟨last, ends'⟩ : ∃ last, s.blockEnd? r = some last := by
      obtain ⟨c, found, opens⟩ := opener hr
      rw [Layout.indentOf, blocks] at at_opener at_end
      rw [blockEnd?, blocks]
      exact exists_end? found opens before at_opener at_end (Nat.le_of_lt outside)
    refine ⟨last, ends', (level hr ends').1, ?_⟩
    rcases Nat.lt_trichotomy last q with lt | rfl | lt
    · exact lt
    · exact absurd ends' (apart hp hr after ends)
    · -- The end of the outer block would lie inside the inner one.
      obtain ⟨-, inner', at_opener', -, deeper'⟩ := level hr ends'
      obtain ⟨outer, at_end', inside⟩ := deeper' q before lt
      obtain rfl := Option.some.inj (at_opener.symm.trans at_opener')
      obtain rfl := Option.some.inj (at_end.symm.trans at_end')
      omega

end Sequence

end Sequencer
