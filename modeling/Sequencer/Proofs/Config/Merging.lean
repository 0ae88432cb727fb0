import Sequencer.Proofs.Config.Paths

/-!
# Merging a table

Keys count in lowercase. Where no two keys coincide, each entry of a table is merged by itself.
-/

namespace Sequencer

/-! ## Keys as they count -/

namespace Table

variable {α : Type}

/-- The pairs with their keys in lowercase. -/
def folded (pairs : List (String × α)) : List (String × α) := pairs.map fun pair => (Text.lowercase pair.1, pair.2)

/-- No two keys coincide up to case. -/
def Distinct (pairs : List (String × α)) : Prop := ((folded pairs).map Prod.fst).Nodup

theorem find?_of_not_mem {key : String} {pairs : List (String × α)} (h : key ∉ pairs.map Prod.fst) :
    find? key pairs = none := by
  induction pairs with
  | nil => rfl
  | cons pair rest ih =>
    rw [List.map_cons, List.mem_cons, not_or] at h
    rw [find?, if_neg (Ne.symm h.1), ih h.2]

theorem find?_folded_cons (key name : String) (value : α) (rest : List (String × α)) :
    find? key (folded ((name, value) :: rest)) =
      if Text.lowercase name = key then some value else find? key (folded rest) := rfl

theorem Distinct.find?_tail {name key : String} {value : α} {rest : List (String × α)}
    (h : Distinct ((name, value) :: rest)) (own : Text.lowercase name = key) : find? key (folded rest) = none := by
  subst own
  exact find?_of_not_mem (List.nodup_cons.mp h).1

theorem Distinct.tail {pair : String × α} {rest : List (String × α)} (h : Distinct (pair :: rest)) : Distinct rest :=
  (List.nodup_cons.mp h).2

end Table

namespace Setting

theorem find?_ofEntries (key : String) (entries : List (String × Toml)) :
    Table.find? key (Table.folded (ofEntries entries)) = (Table.find? key (Table.folded entries)).map ofToml := by
  induction entries with
  | nil => rfl
  | cons entry rest ih =>
    rw [ofEntries, Table.find?_folded_cons, Table.find?_folded_cons, ih]
    split <;> rfl

theorem distinct_ofEntries {entries : List (String × Toml)} (h : Table.Distinct entries) :
    Table.Distinct (ofEntries entries) := by
  have keys : ∀ entries : List (String × Toml),
      (Table.folded (ofEntries entries)).map Prod.fst = (Table.folded entries).map Prod.fst := by
    intro entries
    induction entries with
    | nil => rfl
    | cons entry rest ih => exact congrArg (Text.lowercase entry.1 :: ·) ih
  rw [Table.Distinct, keys]
  exact h

/-! ## Merging a table -/

section Merging

variable {k : Knob} {name : String} {old new : Setting} {incoming into : List (String × Setting)}

theorem mergeKey_table
    (h : ∀ found, Table.find? (Text.lowercase name) into = some found → ∃ entries, found = .table entries) :
    mergeKey name (.table incoming) into = Table.upsert (Text.lowercase name)
      (.table (mergeEntries incoming ((Table.find? (Text.lowercase name) into).getD .empty).entries)) into := by
  rw [mergeKey]
  cases there : Table.find? (Text.lowercase name) into with
  | none => cases incoming <;> rfl
  | some found =>
    obtain ⟨entries, rfl⟩ := h found there
    cases incoming <;> rfl

theorem mergeKey_fresh (fresh : Table.find? (Text.lowercase name) into = none) (value : Setting) :
    ∃ merged, mergeKey name value into = Table.upsert (Text.lowercase name) merged into ∧
      ∀ k : Knob, k.read? merged = k.read? value := by
  cases value with
  | table incoming =>
    -- What comes of a table is not the table itself, but no knob reads either.
    refine ⟨_, mergeKey_table (by simp [fresh]), fun k => ?_⟩
    rw [Knob.read?_table, Knob.read?_table]
  | _ => exact ⟨_, mergeKey_of_leaf (by simp) name into, fun _ => rfl⟩

theorem find?_mergeKey_of_ne {key : String} (other : Text.lowercase name ≠ key) (value : Setting) :
    Table.find? key (mergeKey name value into) = Table.find? key into := by
  obtain ⟨merged, same⟩ := mergeKey_eq name value into
  rw [same, Table.find?_upsert, if_neg other.symm]

theorem find?_mergeEntries_of_none {key : String} (absent : Table.find? key (Table.folded incoming) = none) :
    Table.find? key (mergeEntries incoming into) = Table.find? key into := by
  induction incoming generalizing into with
  | nil => rw [mergeEntries]
  | cons entry rest ih =>
    obtain ⟨name, value⟩ := entry
    rw [Table.find?_folded_cons] at absent
    by_cases own : Text.lowercase name = key
    · simp [own] at absent
    · rw [if_neg own] at absent
      rw [mergeEntries, ih absent, find?_mergeKey_of_ne own]

theorem settle?_mergeEntries (distinct : Table.Distinct incoming) (unset : Table.find? k.key into = none) :
    k.settle? (Table.find? k.key (mergeEntries incoming into)) =
      k.settle? (Table.find? k.key (Table.folded incoming)) := by
  induction incoming generalizing into with
  | nil => rw [mergeEntries, unset]; rfl
  | cons entry rest ih =>
    obtain ⟨name, value⟩ := entry
    rw [mergeEntries, Table.find?_folded_cons]
    by_cases own : Text.lowercase name = k.key
    · obtain ⟨merged, same, reads⟩ := mergeKey_fresh (own ▸ unset) value
      rw [find?_mergeEntries_of_none (distinct.find?_tail own), same, own, Table.find?_upsert, if_pos rfl, if_pos rfl]
      exact reads k
    · rw [if_neg own]
      exact ih distinct.tail (by rw [find?_mergeKey_of_ne own, unset])

theorem Sectioned.assign_table (h : old.Sectioned) (own : Text.lowercase name = k.table)
    (assigned : assign? (.table incoming) (pathOf name) old = some new) :
    new.Sectioned ∧ ∀ other : Knob, new.at? other = if other.table = k.table
      then Table.find? other.key (mergeEntries incoming ((Table.find? k.table old.entries).getD .empty).entries)
      else old.at? other := by
  rw [pathOf_of_lowercase own, assign?, mergeKey_table (own ▸ h.sections k), own] at assigned
  obtain rfl := Option.some.inj assigned
  exact h.put_table k.table _

end Merging

end Setting

end Sequencer
