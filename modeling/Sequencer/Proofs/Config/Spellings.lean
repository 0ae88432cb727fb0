import Sequencer.Config.Merge
import Sequencer.Proofs.Toml.Lines

/-!
# What a variable is written as

A variable that reads as a boolean or as a number is kept as that. Where a text is asked for, it is spelled anew.
-/

namespace Sequencer

/-! ## Digits -/

namespace Toml

variable {c : Char} {ds : List Char}

theorem exists_digitChar (digit : Text.isDigit c = true) :
    ∃ d < 10, c.toNat - '0'.toNat = d ∧ Nat.digitChar d = c := by
  have bounds : 48 ≤ c.toNat ∧ c.toNat ≤ 57 := by
    simpa [Text.isDigit, Char.le_def, UInt32.le_iff_toNat_le] using digit
  obtain ⟨d, same⟩ := Nat.exists_eq_add_of_le bounds.1
  have small : d < 10 := by omega
  have table : ∀ d < 10, Nat.digitChar d = Char.ofNat (48 + d) := by decide
  refine ⟨d, small, ?_, ?_⟩
  · rw [same]
    exact Nat.add_sub_cancel_left 48 d
  · rw [table d small, ← same, Char.ofNat_toNat]

theorem toDigits_foldl {front : Nat} (pos : 0 < front) (digits : ∀ c ∈ ds, Text.isDigit c = true) :
    Nat.toDigits 10 ((ds.map fun c => c.toNat - '0'.toNat).foldl (fun n d => 10 * n + d) front) =
      Nat.toDigits 10 front ++ ds := by
  induction ds generalizing front with
  | nil => simp
  | cons c ds ih =>
    obtain ⟨first, others⟩ := List.forall_mem_cons.mp digits
    obtain ⟨d, small, same, char⟩ := exists_digitChar first
    rw [List.map_cons, List.foldl_cons, same, ih (by omega) others,
      ← Nat.toDigits_append_toDigits (by decide) pos small, Nat.toDigits_of_lt_base small, char, List.append_assoc,
      List.singleton_append]

/-- Digits are those of their number, unless they begin with a zero that means nothing. -/
theorem toDigits_decimal_iff (digits : AreDigits ds) :
    Nat.toDigits 10 (Text.decimal ds) = ds ↔ ds = ['0'] ∨ ds.head? ≠ some '0' := by
  refine ⟨fun same => ?_, ?_⟩
  · by_cases zero : Text.decimal ds = 0
    · rw [zero] at same
      exact .inl same.symm
    · right
      rw [← same]
      exact head?_toDigits (Nat.pos_of_ne_zero zero)
  · rintro (rfl | head)
    · rfl
    · obtain ⟨c, rest, rfl⟩ := List.exists_cons_of_ne_nil digits.nonempty
      obtain ⟨first, others⟩ := List.forall_mem_cons.mp digits.digits
      obtain ⟨d, small, same, char⟩ := exists_digitChar first
      have pos : 0 < d := by
        refine Nat.pos_of_ne_zero fun zero => head ?_
        rw [List.head?_cons, ← char, zero]
        rfl
      rw [Text.decimal, Text.ofDigits, List.map_cons, List.foldl_cons, same, Nat.mul_zero, Nat.zero_add,
        toDigits_foldl pos others, Nat.toDigits_of_lt_base small, char, List.singleton_append]

end Toml

/-! ## Whole numbers -/

namespace Decimal

variable {cs : List Char} {text : String} {n : Nat} {value : Int}

theorem natural?_eq_some (h : natural? cs = some n) : Toml.AreDigits cs ∧ Text.decimal cs = n := by
  rw [natural?] at h
  split at h
  · cases h
  · next fine =>
    simp only [Bool.or_eq_true, not_or, List.isEmpty_iff, Bool.not_eq_true', Bool.not_eq_false, List.all_eq_true] at fine
    exact ⟨⟨fine.2, fine.1⟩, Option.some.inj h⟩

/-- A whole number as it is written: no plus, and no zero in front of other digits or behind a minus. -/
def IsPlain (text : String) : Prop :=
  text = "0" ∨ (text.toList.head? ≠ some '+' ∧ (splitSign text.toList).2.head? ≠ some '0')

theorem toList_toString_natCast (n : Nat) : (toString (n : Int)).toList = Nat.toDigits 10 n :=
  String.toList_ofList

theorem toList_toString_neg (pos : 0 < n) : (toString (-(n : Int))).toList = '-' :: Nat.toDigits 10 n := by
  obtain ⟨m, rfl⟩ := Nat.exists_eq_succ_of_ne_zero pos.ne'
  exact String.toList_append.trans (congrArg ('-' :: ·) String.toList_ofList)

theorem signed64?_eq_some (h : signed64? text = some value) : Toml.AreDigits (splitSign text.toList).2 ∧
    value = if (splitSign text.toList).1 then -(Text.decimal (splitSign text.toList).2 : Int)
      else Text.decimal (splitSign text.toList).2 := by
  obtain ⟨n, read, signed⟩ := Option.bind_eq_some_iff.mp h
  obtain ⟨digits, rfl⟩ := natural?_eq_some read
  refine ⟨digits, ?_⟩
  change Word.signed? (splitSign text.toList).1 (Text.decimal (splitSign text.toList).2) = some value at signed
  rw [Word.signed?] at signed
  split at signed <;> split at signed <;> simp_all

theorem splitSign_cases (cs : List Char) : (∃ rest, cs = '-' :: rest ∧ splitSign cs = (true, rest)) ∨
    (∃ rest, cs = '+' :: rest ∧ splitSign cs = (false, rest)) ∨
      (cs.head? ≠ some '+' ∧ splitSign cs = (false, cs)) := by
  rw [splitSign.eq_def]
  split
  · exact .inl ⟨_, rfl, rfl⟩
  · exact .inr (.inl ⟨_, rfl, rfl⟩)
  · next plus => exact .inr (.inr ⟨fun first => plus _ (List.head?_eq_some_iff.mp first).choose_spec, rfl⟩)

theorem toString_signed64? (h : signed64? text = some value) : toString value = text ↔ IsPlain text := by
  obtain ⟨digits, rfl⟩ := signed64?_eq_some h
  have zero : text = "0" ↔ text.toList = ['0'] :=
    ⟨fun same => by rw [same]; rfl, fun same => String.toList_injective same⟩
  rw [IsPlain, zero, ← String.toList_inj]
  generalize text.toList = cs at digits
  have written := Toml.toDigits_decimal_iff digits
  rcases splitSign_cases cs with ⟨rest, rfl, parts⟩ | ⟨rest, rfl, parts⟩ | ⟨plus, parts⟩
  · simp only [parts, if_true] at digits written ⊢
    by_cases none : Text.decimal rest = 0
    · -- Behind a minus there is a zero, which is written without one.
      have head : rest.head? = some '0' := by
        refine Classical.byContradiction fun other => other ?_
        rw [← written.mpr (.inr other), none]
        rfl
      have other : (toString (0 : Int)).toList ≠ '-' :: rest := fun same =>
        absurd (List.cons.inj same).1 (by decide)
      simpa [none, head] using other
    · have behind : rest ≠ ['0'] := by
        rintro rfl
        exact none rfl
      rw [toList_toString_neg (Nat.pos_of_ne_zero none), List.cons_inj_right, written]
      simp [behind]
  · simp only [parts, Bool.false_eq_true, if_false] at digits written ⊢
    rw [toList_toString_natCast]
    have plus : Nat.toDigits 10 (Text.decimal rest) ≠ '+' :: rest := fun same =>
      (Toml.areDigits_toDigits _).notMem (c := '+') (by decide) (same ▸ List.mem_cons_self)
    simp [plus]
  · simp only [parts, Bool.false_eq_true, if_false] at digits written ⊢
    rw [toList_toString_natCast, written]
    simp [plus]

end Decimal

/-! ## Visible texts -/

namespace Text

variable {c : Char} {text : String}

theorem allBlank_of_digit (there : c ∈ text.toList) (digit : isDigit c = true) : allBlank text = false := by
  obtain ⟨d, small, -, rfl⟩ := Toml.exists_digitChar digit
  have visible : ∀ d < 10, isBlank (Nat.digitChar d) = false := by decide
  refine Bool.eq_false_iff.mpr fun blank => ?_
  rw [allBlank, List.all_eq_true] at blank
  exact Bool.eq_false_iff.mp (visible d small) (blank _ there)

theorem allBlank_of_areDigits {ds : List Char} (digits : Toml.AreDigits ds) (within : ∀ c ∈ ds, c ∈ text.toList) :
    allBlank text = false := by
  obtain ⟨c, there⟩ := List.exists_mem_of_ne_nil ds digits.nonempty
  exact allBlank_of_digit (within c there) (digits.digits c there)

theorem allBlank_toString (value : Int) : allBlank (toString value) = false := by
  obtain ⟨n, rfl | rfl⟩ := value.eq_nat_or_neg
  · refine allBlank_of_areDigits (Toml.areDigits_toDigits n) fun c there => ?_
    rwa [Decimal.toList_toString_natCast]
  · rcases Nat.eq_zero_or_pos n with rfl | pos
    · decide
    · refine allBlank_of_areDigits (Toml.areDigits_toDigits n) fun c there => ?_
      rw [Decimal.toList_toString_neg pos]
      exact .tail _ there

end Text

namespace Binary

theorem exists_digit_positional (digits : Nat) (exponent : Int) :
    ∃ c ∈ (positional digits exponent).toList, Text.isDigit c = true := by
  have written := Toml.areDigits_toDigits digits
  rw [positional]
  split
  · obtain ⟨c, there⟩ := List.exists_mem_of_ne_nil _ written.nonempty
    exact ⟨c, by rw [String.toList_ofList]; exact List.mem_append_left _ there, written.digits c there⟩
  · -- The zeros in front leave at least one digit before the point.
    extract_lets places padded whole
    have long : places < padded.length := by
      simp only [padded, List.length_append, List.length_replicate]
      omega
    have every : ∀ c ∈ padded, Text.isDigit c = true := by
      refine List.forall_mem_append.mpr ⟨fun c there => ?_, written.digits⟩
      rw [List.eq_of_mem_replicate there]
      rfl
    have first : 0 < whole.length := by
      rw [List.length_take]
      omega
    obtain ⟨c, there⟩ := List.exists_mem_of_length_pos first
    refine ⟨c, ?_, every c (List.mem_of_mem_take there)⟩
    split
    · rwa [String.toList_ofList]
    · rw [String.toList_ofList]
      exact List.mem_append_left _ there

theorem allBlank_toText (value : Binary) : Text.allBlank value.toText = false := by
  rw [toText.eq_def]
  split
  · decide
  · next negative => cases negative <;> decide
  · next negative _ => cases negative <;> decide
  · obtain ⟨c, there, digit⟩ := exists_digit_positional (shortest _ _).1 (shortest _ _).2
    refine Text.allBlank_of_digit ?_ digit
    rw [String.toList_append]
    exact List.mem_append_right _ there

end Binary

/-! ## Variables -/

namespace Setting

/-- The variable is spelled as the value is that it reads as. -/
def IsSpelled (text : String) : Prop :=
  match ofVariable text with
  | .bool _ => text = "true" ∨ text = "false"
  | .integer _ => Decimal.IsPlain text
  | .float value => value.toText = text
  | _ => True

/-- Every variable has a text, which is its own exactly if it is spelled like that, and not blank if its own is not. -/
theorem text?_ofVariable (text : String) : ∃ written, (ofVariable text).text? = some written ∧
    (written = text ↔ IsSpelled text) ∧ (Text.allBlank text = false → Text.allBlank written = false) := by
  rw [IsSpelled, ofVariable]
  split
  · next lower =>
    have other : text ≠ "false" := by
      rintro rfl
      exact absurd lower (by decide +kernel)
    exact ⟨"true", rfl, by simp [other, eq_comm], fun _ => by decide⟩
  · next lower =>
    have other : text ≠ "true" := by
      rintro rfl
      exact absurd lower (by decide +kernel)
    exact ⟨"false", rfl, by simp [other, eq_comm], fun _ => by decide⟩
  · split
    · next value read => exact ⟨_, rfl, Decimal.toString_signed64? read, fun _ => Text.allBlank_toString value⟩
    · split
      · next value read => exact ⟨_, rfl, .rfl, fun _ => value.allBlank_toText⟩
      · exact ⟨text, rfl, by simp, id⟩

theorem isSpelled_iff {text : String} : (ofVariable text).text? = some text ↔ IsSpelled text := by
  obtain ⟨written, reads, spelled, -⟩ := text?_ofVariable text
  rw [reads, ← spelled, Option.some.injEq]

instance (text : String) : Decidable (IsSpelled text) := decidable_of_iff _ isSpelled_iff

/-- Words and numbers as they are written, against other ways to write the same. -/
example : (["debug", "true", "-40", "0", "2.5", "inf"].map fun text => decide (IsSpelled text)) =
    List.replicate 6 true := by decide +kernel

example : (["True", "007", "+5", "-0", "1e3", "2.50", "Infinity"].map fun text => decide (IsSpelled text)) =
    List.replicate 7 false := by decide +kernel

end Setting

end Sequencer
