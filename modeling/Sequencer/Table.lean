/-!
# Tables

Values under keys, in the order in which the keys were first put.
-/

namespace Sequencer

structure Table (κ α : Type) where
  pairs : List (κ × α) := []

namespace Table

variable {κ α : Type} [DecidableEq κ]

def keys (t : Table κ α) : List κ := t.pairs.map Prod.fst

/-- The value under `key` in a list of pairs; of several, the first. -/
def find? (key : κ) : List (κ × α) → Option α
  | [] => none
  | (k, a) :: rest => if k = key then some a else find? key rest

def get? (t : Table κ α) (key : κ) : Option α := find? key t.pairs

/-- Replaces the first pair under `key`, or adds one at the end. -/
def upsert (key : κ) (value : α) : List (κ × α) → List (κ × α)
  | [] => [(key, value)]
  | (k, a) :: rest => if k = key then (key, value) :: rest else (k, a) :: upsert key value rest

def put (t : Table κ α) (key : κ) (value : α) : Table κ α := ⟨upsert key value t.pairs⟩

def erase (t : Table κ α) (key : κ) : Table κ α := ⟨t.pairs.filter fun pair => pair.1 ≠ key⟩

/-! ## What a look-up finds -/

theorem find?_upsert (key other : κ) (value : α) (pairs : List (κ × α)) :
    find? other (upsert key value pairs) = if other = key then some value else find? other pairs := by
  induction pairs with
  | nil => simp [upsert, find?, eq_comm]
  | cons pair rest ih =>
    obtain ⟨k, a⟩ := pair
    simp only [upsert]
    split
    · next h => subst h; simp only [find?]; split <;> simp_all [eq_comm]
    · next h => simp only [find?, ih]; split <;> simp_all

theorem upsert_find? {key : κ} {value : α} {pairs : List (κ × α)} (h : find? key pairs = some value) :
    upsert key value pairs = pairs := by
  induction pairs with
  | nil => simp [find?] at h
  | cons pair rest ih =>
    obtain ⟨k, a⟩ := pair
    rw [find?] at h
    rw [upsert]
    split
    · next hk => simp_all
    · next hk => rw [ih (by simpa [hk] using h)]

/-- All the values have the property. -/
def Holds (P : α → Prop) (pairs : List (κ × α)) : Prop := ∀ pair ∈ pairs, P pair.2

omit [DecidableEq κ] in
theorem holds_nil (P : α → Prop) : Holds P ([] : List (κ × α)) := fun _ there => nomatch there

theorem Holds.find? {P : α → Prop} {key : κ} {value : α} {pairs : List (κ × α)} (h : Holds P pairs)
    (found : find? key pairs = some value) : P value := by
  induction pairs with
  | nil => cases found
  | cons pair rest ih =>
    rw [Table.find?] at found
    split at found
    · obtain rfl := Option.some.inj found
      exact h pair (.head _)
    · exact ih (fun other there => h other (.tail _ there)) found

theorem Holds.upsert {P : α → Prop} {key : κ} {value : α} {pairs : List (κ × α)} (h : Holds P pairs) (new : P value) :
    Holds P (upsert key value pairs) := by
  induction pairs with
  | nil => exact List.forall_mem_singleton.mpr new
  | cons pair rest ih =>
    obtain ⟨first, others⟩ := List.forall_mem_cons.mp h
    rw [Table.upsert]
    split
    · exact List.forall_mem_cons.mpr ⟨new, others⟩
    · exact List.forall_mem_cons.mpr ⟨first, ih others⟩

theorem put_get? {t : Table κ α} {key : κ} {value : α} (h : t.get? key = some value) :
    t.put key value = t := by
  rw [put, upsert_find? h]

theorem put_put (t : Table κ α) (key : κ) (first second : α) : (t.put key first).put key second = t.put key second := by
  obtain ⟨pairs⟩ := t
  show Table.mk (upsert key second (upsert key first pairs)) = Table.mk (upsert key second pairs)
  congr 1
  induction pairs with
  | nil => simp [upsert]
  | cons pair rest ih =>
    obtain ⟨k, a⟩ := pair
    rw [upsert, upsert]
    split
    · simp [upsert]
    · next other => rw [upsert, if_neg other, ih]

theorem get?_put (t : Table κ α) (key other : κ) (value : α) :
    (t.put key value).get? other = if other = key then some value else t.get? other :=
  find?_upsert key other value t.pairs

theorem get?_erase (t : Table κ α) (key other : κ) :
    (t.erase key).get? other = if other = key then none else t.get? other := by
  obtain ⟨pairs⟩ := t
  simp only [get?, erase]
  induction pairs with
  | nil => simp [find?]
  | cons pair rest ih =>
    obtain ⟨k, a⟩ := pair
    by_cases hk : k = key
    · subst hk
      rw [List.filter_cons_of_neg (by simp), ih]
      by_cases ho : other = k
      · simp [ho]
      · simp [find?, ho, Ne.symm ho]
    · rw [List.filter_cons_of_pos (by simp [hk])]
      simp only [find?, ih]
      by_cases ho : k = other
      · subst ho; simp [hk]
      · simp [ho]

end Table

end Sequencer
