import Sequencer.Config.Load
import Sequencer.Proofs.Toml.Integers

/-!
# Where the values of a configuration come from

However files and variables are merged, the values in the tree of settings are values that have been given, and the
numbers of a configuration are read from these.
-/

namespace Sequencer

theorem Binary.toNatClamped_le (limit : Nat) (value : Binary) : value.toNatClamped limit ≤ limit := by
  unfold toNatClamped
  split
  · exact Nat.zero_le _
  · exact Nat.zero_le _
  · exact Nat.zero_le _
  · exact Nat.le_refl _
  · exact Nat.min_le_left ..

namespace Setting

/-! ## Leaves -/

mutual

/-- The values in a setting that are neither lists nor tables. -/
def leaves : Setting → List Setting
  | .list items => leavesOfItems items
  | .table entries => leavesOfEntries entries
  | .empty => [.empty]
  | .bool value => [.bool value]
  | .integer value => [.integer value]
  | .float value => [.float value]
  | .text value => [.text value]

def leavesOfItems : List Setting → List Setting
  | [] => []
  | item :: rest => item.leaves ++ leavesOfItems rest

def leavesOfEntries : List (String × Setting) → List Setting
  | [] => []
  | (_, value) :: rest => value.leaves ++ leavesOfEntries rest

end

/-- All leaves have the property. -/
def Every (P : Setting → Prop) (s : Setting) : Prop := ∀ leaf ∈ s.leaves, P leaf

variable {P : Setting → Prop} {s value old new : Setting} {elements changed : List Setting}
  {pairs : List (String × Setting)}

theorem every_empty : Every P .empty ↔ P .empty := by
  rw [Every, leaves, List.forall_mem_singleton]

theorem every_items : (∀ leaf ∈ leavesOfItems elements, P leaf) ↔ ∀ item ∈ elements, item.Every P := by
  induction elements with
  | nil => simp [leavesOfItems]
  | cons item rest ih => rw [leavesOfItems, List.forall_mem_append, List.forall_mem_cons, ih, Every]

theorem every_entries : (∀ leaf ∈ leavesOfEntries pairs, P leaf) ↔ Table.Holds (Every P) pairs := by
  induction pairs with
  | nil => simp [leavesOfEntries, Table.Holds]
  | cons entry rest ih =>
    rw [leavesOfEntries, List.forall_mem_append, ih, Table.Holds, Table.Holds, List.forall_mem_cons]
    rfl

theorem every_list : Every P (.list elements) ↔ ∀ item ∈ elements, item.Every P := by
  rw [Every, leaves, every_items]

theorem every_table : Every P (.table pairs) ↔ Table.Holds (Every P) pairs := by
  rw [Every, leaves, every_entries]

theorem Every.entries (h : s.Every P) : Table.Holds (Every P) s.entries := by
  cases s with
  | table entries => exact every_table.mp h
  | _ => exact Table.holds_nil _

theorem Every.items (h : s.Every P) : ∀ item ∈ s.items, item.Every P := by
  cases s with
  | list items => exact every_list.mp h
  | _ => exact fun _ there => nomatch there

/-! ## Merging -/

mutual

theorem every_mergeKey (key : String) (value : Setting) {into : List (String × Setting)}
    (h : Table.Holds (Every P) into) (given : value.Every P) : Table.Holds (Every P) (mergeKey key value into) := by
  cases value with
  | table incoming =>
    have target : ((Table.find? (Text.lowercase key) into).getD (.table [])).Every P := by
      cases found : Table.find? (Text.lowercase key) into with
      | none => exact every_table.mpr (Table.holds_nil _)
      | some there => exact h.find? found
    rw [mergeKey]
    refine h.upsert ?_
    split
    · exact target
    · exact every_table.mpr (every_mergeEntries incoming target.entries (every_table.mp given))
  | empty | bool | integer | float | text | list => exact h.upsert given

theorem every_mergeEntries (incoming : List (String × Setting)) {into : List (String × Setting)}
    (h : Table.Holds (Every P) into) (given : Table.Holds (Every P) incoming) :
    Table.Holds (Every P) (mergeEntries incoming into) := by
  cases incoming with
  | nil => exact h
  | cons entry rest =>
    obtain ⟨key, value⟩ := entry
    obtain ⟨first, others⟩ := List.forall_mem_cons.mp given
    exact every_mergeEntries rest (every_mergeKey key value h first) others

end

theorem every_changeItem? {subscript : Int} {change : Setting → Option Setting} (empty : P .empty)
    (keeps : ∀ item new, item.Every P → change item = some new → new.Every P) (h : ∀ item ∈ elements, item.Every P)
    (same : changeItem? subscript change elements = some changed) : ∀ item ∈ changed, item.Every P := by
  obtain ⟨position, -, same⟩ := Option.bind_eq_some_iff.mp same
  obtain ⟨item, there, same⟩ := Option.bind_eq_some_iff.mp same
  obtain rfl := Option.some.inj same
  have grown : ∀ item ∈ elements ++ List.replicate (position + 1 - elements.length) .empty, item.Every P :=
    List.forall_mem_append.mpr ⟨h, fun item hm => List.eq_of_mem_replicate hm ▸ every_empty.mpr empty⟩
  have before : ((elements ++ List.replicate (position + 1 - elements.length) Setting.empty)[position]?.getD
      .empty).Every P := by
    cases found : (elements ++ List.replicate (position + 1 - elements.length) Setting.empty)[position]? with
    | none => exact every_empty.mpr empty
    | some item => exact grown item (List.mem_of_getElem? found)
  intro other hm
  rcases List.mem_or_eq_of_mem_set hm with hm | rfl
  · exact grown other hm
  · exact keeps _ _ before there

theorem every_assign? (empty : P .empty) (given : value.Every P) {path : List Step} (h : old.Every P)
    (assigned : assign? value path old = some new) : new.Every P := by
  induction path generalizing old new with
  | nil => exact Option.some.inj assigned ▸ given
  | cons step path ih =>
    cases step with
    | index subscript =>
      obtain ⟨items, changed, same⟩ := Option.bind_eq_some_iff.mp assigned
      obtain rfl := Option.some.inj same
      exact every_list.mpr (every_changeItem? empty (fun _ _ => ih) h.items changed)
    | key name =>
      cases path with
      | nil => exact Option.some.inj assigned ▸ every_table.mpr (every_mergeKey name value h.entries given)
      | cons step path =>
        obtain ⟨inner, deeper, same⟩ := Option.bind_eq_some_iff.mp assigned
        obtain rfl := Option.some.inj same
        refine every_table.mpr (h.entries.upsert (ih ?_ deeper))
        cases found : Table.find? (Text.lowercase name) old.entries with
        | none => exact every_empty.mpr empty
        | some there => exact h.entries.find? found

/-! ## Numbers -/

/-- Integers that are small enough for a file. -/
def Fits : Setting → Prop
  | .integer value => value < Word.signedLimit
  | _ => True

/-- A text or a float: a value of which not every number is small enough for a file. -/
def isLoose : Setting → Bool
  | .text _ | .float _ => true
  | _ => false

theorem Fits.natural? {n : Nat} (fits : s.Fits) (h : s.natural? = some n) :
    n < Word.limit ∧ (Word.signedLimit ≤ n → s.isLoose = true) := by
  have flag : ∀ value : Bool, value.toNat < Word.signedLimit := by decide
  have room : Word.signedLimit < Word.limit := by decide
  cases s with
  | empty | list | table => cases h
  | bool value =>
    obtain rfl := Option.some.inj h
    exact ⟨Nat.lt_trans (flag value) room, fun large => absurd (flag value) (by omega)⟩
  | integer value =>
    rw [Setting.natural?] at h
    split at h
    · obtain rfl := Option.some.inj h
      have small : value < Word.signedLimit := fits
      omega
    · cases h
  | float value =>
    obtain rfl := Option.some.inj h
    -- A float is clamped to what 64 bits hold.
    have clamped := value.toNatClamped_le (Word.limit - 1)
    exact ⟨by omega, fun _ => rfl⟩
  | text value =>
    refine ⟨?_, fun _ => rfl⟩
    rw [Setting.natural?] at h
    split at h
    · obtain rfl := Option.some.inj h
      exact Nat.lt_trans (flag _) room
    · obtain ⟨n, -, bounded⟩ := Option.bind_eq_some_iff.mp h
      rw [Word.unsigned?] at bounded
      split at bounded
      · next small => exact Option.some.inj bounded ▸ small
      · cases bounded

theorem mem_leaves_of_natural? {n : Nat} (h : s.natural? = some n) : s ∈ s.leaves := by
  cases s with
  | empty | list | table => cases h
  | bool | integer | float | text => exact List.mem_singleton.mpr rfl

mutual

theorem fits_ofToml (value : Toml) (h : value.Sized) : (ofToml value).Every Fits := by
  cases value with
  | list items =>
    cases h with
    | list there => exact every_list.mpr (fits_ofItems items there)
  | table entries =>
    cases h with
    | table there => exact every_table.mpr (fits_ofEntries entries there)
  | integer value =>
    cases h with
    | integer small => exact List.forall_mem_singleton.mpr small
  | text | float | bool | moment => exact List.forall_mem_singleton.mpr trivial

theorem fits_ofItems (items : List Toml) (h : ∀ item ∈ items, item.Sized) :
    ∀ item ∈ ofItems items, item.Every Fits := by
  cases items with
  | nil => exact fun _ there => nomatch there
  | cons item rest =>
    exact List.forall_mem_cons.mpr
      ⟨fits_ofToml item (h _ (.head _)), fits_ofItems rest fun item there => h item (.tail _ there)⟩

theorem fits_ofEntries (entries : List (String × Toml)) (h : Table.Holds Toml.Sized entries) :
    Table.Holds (Every Fits) (ofEntries entries) := by
  cases entries with
  | nil => exact Table.holds_nil _
  | cons entry rest =>
    obtain ⟨key, value⟩ := entry
    exact List.forall_mem_cons.mpr
      ⟨fits_ofToml value (h _ (.head _)), fits_ofEntries rest fun entry there => h entry (.tail _ there)⟩

end

theorem fits_ofVariable (text : String) : (ofVariable text).Every Fits := by
  rw [ofVariable]
  split
  · exact List.forall_mem_singleton.mpr trivial
  · exact List.forall_mem_singleton.mpr trivial
  · split
    · next value read =>
      obtain ⟨n, -, bounded⟩ := Option.bind_eq_some_iff.mp read
      exact List.forall_mem_singleton.mpr (Toml.lt_of_signed? bounded)
    · split <;> exact List.forall_mem_singleton.mpr trivial

end Setting

/-! ## Layers -/

namespace ConfigSource

open Setting

variable {P : Setting → Prop} {s : ConfigSource} {env : Texts} {entries : List (String × Toml)} {tree new : Setting}
  {layer : Layer}

/-- The values that a file and the variables under the prefix give. -/
def given (s : ConfigSource) (entries : List (String × Toml)) (env : Texts) : List Setting :=
  leavesOfEntries (fileLayer entries) ++ leavesOfEntries (s.variableLayer env)

theorem every_addLayer? (empty : P .empty) (given : Table.Holds (Every P) layer) (h : tree.Every P)
    (added : addLayer? tree layer = some new) : new.Every P := by
  induction layer generalizing tree with
  | nil => exact Option.some.inj added ▸ h
  | cons setting rest ih =>
    obtain ⟨first, others⟩ := List.forall_mem_cons.mp given
    obtain ⟨mid, assigned, added⟩ := Option.bind_eq_some_iff.mp added
    exact ih others (every_assign? empty first h assigned) added

theorem every_tree? (empty : P .empty) (given : ∀ leaf ∈ s.given entries env, P leaf)
    (h : s.tree? entries env = some tree) : tree.Every P := by
  obtain ⟨file, named⟩ := List.forall_mem_append.mp given
  obtain ⟨base, below, above⟩ := Option.bind_eq_some_iff.mp h
  have bare : (Setting.table []).Every P := every_table.mpr (Table.holds_nil _)
  exact every_addLayer? empty (every_entries.mp named)
    (every_addLayer? empty (every_entries.mp file) bare below) above

theorem fits_given (env : Texts) (sized : Table.Holds Toml.Sized entries) :
    ∀ leaf ∈ s.given entries env, leaf.Fits := by
  refine List.forall_mem_append.mpr ⟨every_entries.mpr (fits_ofEntries entries sized), every_entries.mpr ?_⟩
  intro setting there
  obtain ⟨v, -, named⟩ := List.mem_filterMap.mp there
  obtain ⟨name, -, rfl⟩ := Option.map_eq_some_iff.mp named
  exact fits_ofVariable v.2

end ConfigSource

/-! ## Records -/

/-- The numbers of a configuration. -/
def Config.numbers (c : Config) : List Nat := c.driver.tickInterval :: c.driver.maxTicks.toList

namespace Setting

variable {P : Setting → Prop} {s : Setting} {c : Config}

theorem Every.fields? {keys : List String} {fields : List (Option Setting)} (h : s.Every P)
    (found : s.fields? keys = some fields) : ∀ value, some value ∈ fields → value.Every P := by
  intro value there
  cases s with
  | table entries =>
    obtain rfl := Option.some.inj found
    obtain ⟨key, -, found⟩ := List.mem_map.mp there
    exact h.entries.find? found
  | list items =>
    obtain rfl := Option.some.inj found
    obtain ⟨i, -, found⟩ := List.mem_map.mp there
    exact h.items value (List.mem_of_getElem? found)
  | empty | bool | integer | float | text => cases found

theorem Every.natural? {n : Nat} (h : s.Every P) (read : s.natural? = some n) :
    ∃ leaf, P leaf ∧ leaf.natural? = some n :=
  ⟨s, h s (mem_leaves_of_natural? read), read⟩

theorem read_of_optional? {α : Type} {read : Setting → Option α} {value : α}
    (h : optional? read s = some (some value)) : read s = some value := by
  unfold optional? at h
  split at h
  · cases h
  · obtain ⟨found, there, same⟩ := Option.map_eq_some_iff.mp h
    exact there.trans same

theorem Every.driver? {driver : DriverConfig} (h : s.Every P) (read : s.driver? = some driver) :
    ∀ n ∈ ({ driver } : Config).numbers, n = 16 ∨ ∃ leaf, P leaf ∧ leaf.natural? = some n := by
  obtain ⟨fields, found, read⟩ := Option.bind_eq_some_iff.mp read
  split at read
  · next interval maxTicks =>
    have inside := h.fields? found
    obtain ⟨pause, first, read⟩ := Option.bind_eq_some_iff.mp read
    obtain ⟨budget, second, read⟩ := Option.bind_eq_some_iff.mp read
    obtain rfl := Option.some.inj read
    refine List.forall_mem_cons.mpr ⟨?_, fun n there => .inr ?_⟩
    · cases interval with
      | none => exact .inl (Option.some.inj first).symm
      | some value => exact .inr ((inside value (.head _)).natural? first)
    · obtain rfl := Option.mem_toList.mp there
      cases maxTicks with
      | none => cases second
      | some value => exact (inside value (.tail _ (.head _))).natural? (read_of_optional? second)
  · cases read

/-- A number of a configuration is read from a leaf of the tree, unless it is the interval that is set by default. -/
theorem Every.config? (h : s.Every P) (read : s.config? = some c) :
    ∀ n ∈ c.numbers, n = 16 ∨ ∃ leaf, P leaf ∧ leaf.natural? = some n := by
  obtain ⟨fields, found, read⟩ := Option.bind_eq_some_iff.mp read
  split at read
  · next engine driver logging =>
    obtain ⟨_, -, read⟩ := Option.bind_eq_some_iff.mp read
    obtain ⟨settled, first, read⟩ := Option.bind_eq_some_iff.mp read
    obtain ⟨_, -, read⟩ := Option.bind_eq_some_iff.mp read
    obtain rfl := Option.some.inj read
    cases driver with
    | none =>
      obtain rfl := Option.some.inj first
      exact List.forall_mem_cons.mpr ⟨.inl rfl, fun _ there => nomatch there⟩
    | some value => exact (h.fields? found value (.tail _ (.head _))).driver? first
  · cases read

end Setting

end Sequencer
