import Sequencer.Proofs.Sequence.Built

/-!
# Blocks within blocks

In a sequence whose blocks are properly nested, nothing inside a block lies as far out as the commands that
open and close it. So the end of a block is found where it is.
-/

namespace Sequencer

variable {σ : Type}

/-- How deep each command lies, if `depth` blocks are open in front of the first. -/
def indentsAlong (depth : Nat) : List (Command σ) → List Nat
  | [] => []
  | c :: rest => c.indentIn depth :: indentsAlong (c.depthAfter depth) rest

/-- How many blocks are open behind the commands. -/
def depthBehind (depth : Nat) : List (Command σ) → Nat
  | [] => depth
  | c :: rest => depthBehind (c.depthAfter depth) rest

section Along

variable {commands : List (Command σ)} {depth : Nat}

theorem length_indentsAlong : (indentsAlong depth commands).length = commands.length := by
  induction commands generalizing depth with
  | nil => rfl
  | cons c rest ih => simp [indentsAlong, ih]

theorem indentsAlong_append (more : List (Command σ)) : indentsAlong depth (commands ++ more) =
    indentsAlong depth commands ++ indentsAlong (depthBehind depth commands) more := by
  induction commands generalizing depth with
  | nil => rfl
  | cons c rest ih => simp [indentsAlong, depthBehind, ih]

theorem depthBehind_append (more : List (Command σ)) :
    depthBehind depth (commands ++ more) = depthBehind (depthBehind depth commands) more := by
  induction commands generalizing depth with
  | nil => rfl
  | cons c rest ih => exact ih

end Along

/-! ## Proper nesting -/

structure Command.Flat (c : Command σ) : Prop where
  opens : c.opens = false
  closes : c.closes = false

structure Command.Opener (c : Command σ) : Prop where
  opens : c.opens = true
  closes : c.closes = false

structure Command.Closer (c : Command σ) : Prop where
  opens : c.opens = false
  closes : c.closes = true

namespace Command

variable {c : Command σ} {depth : Nat}

theorem Flat.indentIn (h : c.Flat) : c.indentIn depth = depth := by
  simp [Command.indentIn, h.closes]

theorem Flat.depthAfter (h : c.Flat) : c.depthAfter depth = depth := by
  simp [Command.depthAfter, h.opens, h.indentIn]

theorem Opener.indentIn (h : c.Opener) : c.indentIn depth = depth := by
  simp [Command.indentIn, h.closes]

theorem Opener.depthAfter (h : c.Opener) : c.depthAfter depth = depth + 1 := by
  simp [Command.depthAfter, h.opens, h.indentIn]

theorem Closer.indentIn (h : c.Closer) : c.indentIn (depth + 1) = depth := by
  simp [Command.indentIn, h.closes]

theorem Closer.depthAfter (h : c.Closer) : c.depthAfter (depth + 1) = depth := by
  simp [Command.depthAfter, h.opens, h.indentIn]

end Command

/-- Every block that is opened is closed, and no other. -/
inductive Nested : List (Command σ) → Prop where
  | nil : Nested []
  | flat {c : Command σ} {rest : List (Command σ)} : c.Flat → Nested rest → Nested (c :: rest)
  | block {opener closer : Command σ} {body rest : List (Command σ)} : opener.Opener → Nested body →
    closer.Closer → Nested rest → Nested (opener :: body ++ closer :: rest)

namespace Nested

variable {commands : List (Command σ)}

theorem depthBehind (h : Nested commands) (depth : Nat) : depthBehind depth commands = depth := by
  induction h generalizing depth with
  | nil => rfl
  | flat flat _ ih => rw [Sequencer.depthBehind, flat.depthAfter, ih]
  | block opener _ closer _ inner outer =>
    rw [List.cons_append, Sequencer.depthBehind, depthBehind_append, opener.depthAfter, inner,
      Sequencer.depthBehind, closer.depthAfter, outer]

theorem le_indent (h : Nested commands) (depth : Nat) :
    ∀ indent ∈ indentsAlong depth commands, depth ≤ indent := by
  induction h generalizing depth with
  | nil => simp [indentsAlong]
  | flat flat _ ih =>
    rw [indentsAlong, flat.depthAfter, flat.indentIn]
    exact List.forall_mem_cons.mpr ⟨Nat.le_refl depth, ih depth⟩
  | block opener body closer _ inner outer =>
    rw [List.cons_append, indentsAlong, indentsAlong_append, indentsAlong, opener.depthAfter,
      body.depthBehind, closer.depthAfter, opener.indentIn, closer.indentIn]
    refine List.forall_mem_cons.mpr ⟨Nat.le_refl depth, List.forall_mem_append.mpr ⟨?_, ?_⟩⟩
    · exact fun indent hi => Nat.le_of_succ_le (inner (depth + 1) indent hi)
    · exact List.forall_mem_cons.mpr ⟨Nat.le_refl depth, outer depth⟩

end Nested

/-! ## Finding the end of a block -/

/-- The blocks of commands in a row. -/
def blocksOf (commands : List (Command σ)) : Blocks :=
  ⟨indentsAlong 0 commands, commands.map (·.closes)⟩

theorem Nested.end?_blocksOf (before rest : List (Command σ)) {body : List (Command σ)}
    {opener closer : Command σ} (opens : opener.Opener) (nested : Nested body) (closes : closer.Closer) :
    (blocksOf (before ++ opener :: body ++ closer :: rest)).end? before.length =
      some (before.length + 1 + body.length) := by
  let depth := Sequencer.depthBehind 0 before
  -- The body lies one deeper than the commands around it.
  have indents : indentsAlong 0 (before ++ opener :: body ++ closer :: rest) =
      indentsAlong 0 before ++ depth :: (indentsAlong (depth + 1) body ++ depth ::
        indentsAlong depth rest) := by
    rw [List.append_assoc, indentsAlong_append, List.cons_append, indentsAlong, indentsAlong_append,
      indentsAlong, opens.depthAfter, nested.depthBehind, closes.depthAfter, opens.indentIn,
      closes.indentIn]
  have length : (indentsAlong 0 before).length = before.length := length_indentsAlong
  have outside : (indentsAlong (depth + 1) body).findIdx? (· ≤ depth) = none := by
    refine List.findIdx?_eq_none_iff.mpr fun indent hi => ?_
    have inside := nested.le_indent (depth + 1) indent hi
    simp
    omega
  -- So the closer is the first one that lies no deeper than the opener.
  have found : (indentsAlong (depth + 1) body ++ depth :: indentsAlong depth rest).findIdx? (· ≤ depth) =
      some body.length := by
    rw [List.findIdx?_append, outside, length_indentsAlong]
    simp [List.findIdx?_cons]
  have inside : (before ++ opener :: body).length = before.length + 1 + body.length := by
    simp only [List.length_append, List.length_cons]
    omega
  have closing : (before ++ opener :: body ++ closer :: rest)[before.length + 1 + body.length]? =
      some closer := by
    rw [← inside, List.getElem?_append_right (Nat.le_refl _), Nat.sub_self, List.getElem?_cons_zero]
  have here : (indentsAlong 0 before ++ depth :: (indentsAlong (depth + 1) body ++ depth ::
      indentsAlong depth rest))[before.length]? = some depth := by
    rw [← length, List.getElem?_append_right (Nat.le_refl _), Nat.sub_self, List.getElem?_cons_zero]
  have behind : (indentsAlong 0 before ++ depth :: (indentsAlong (depth + 1) body ++ depth ::
      indentsAlong depth rest)).drop (before.length + 1) =
        indentsAlong (depth + 1) body ++ depth :: indentsAlong depth rest := by
    rw [← length, ← List.drop_drop, List.drop_left]
    rfl
  simp only [Blocks.end?, blocksOf, indents, here, behind, found, List.getElem?_map, closing,
    Option.bind_eq_bind, Option.bind_some, Option.map_some, closes.closes, if_true]

namespace Sequence

variable {s : Sequence σ}

theorem Coherent.blocks_eq (h : s.Coherent) (fresh : s.indentationStale = false) :
    s.layout.blocks = blocksOf s.forms := by
  have indents : ∀ (slots : Slots σ) depth, Slots.indentsFrom depth slots =
      indentsAlong depth ((Slots.entries slots).map (·.command.form)) := by
    intro slots
    induction slots with
    | nil => intro depth; rfl
    | cons slot rest ih =>
      intro depth
      cases slot with
      | none => exact ih depth
      | some e => exact congrArg (e.command.indentIn depth :: ·) (ih _)
  have refreshed := congrArg (·.layout.blocks) (h.indentation fresh)
  rw [← refreshed, blocksOf, forms, List.map_map]
  exact congrArg (fun along => (⟨along, _⟩ : Blocks)) (indents s.slots 0)

end Sequence

end Sequencer
