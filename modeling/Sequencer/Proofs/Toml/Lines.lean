import Mathlib.Data.List.TakeWhile
import Sequencer.Config.Render
import Sequencer.Proofs.Toml.Strings
import Sequencer.Toml.Reader

/-!
# Lines read back as they were written

A line with a key and a value that reads back makes one pair. Numbers in decimal digits are integers, and neither
floats nor moments.
-/

namespace Sequencer.Toml

variable {c : Char} {cs rest word ds : List Char}

/-! ## Numbers -/

structure AreDigits (ds : List Char) : Prop where
  digits : ∀ c ∈ ds, Text.isDigit c = true
  nonempty : ds ≠ []

theorem AreDigits.notMem (h : AreDigits ds) (other : Text.isDigit c = false) : c ∉ ds := fun hc => by
  simp [h.digits c hc] at other

theorem areDigits_toDigits (n : Nat) : AreDigits (Nat.toDigits 10 n) where
  digits c hc := by
    have digit := Nat.isDigit_of_mem_toDigits (by decide) (by decide) hc
    simpa [Char.isDigit, Text.isDigit, Char.le_def] using digit
  nonempty := Nat.toDigits_ne_nil

theorem decimal_toDigits (n : Nat) : Text.decimal (Nat.toDigits 10 n) = n := by
  rw [Text.decimal, Text.ofDigits, List.foldl_map]
  exact Nat.ofDigitChars_ten_toDigits

theorem head?_toDigits {n : Nat} (pos : 0 < n) : (Nat.toDigits 10 n).head? ≠ some '0' := by
  induction n using Nat.strongRecOn with
  | _ n ih =>
    by_cases small : n < 10
    · rw [Nat.toDigits_of_lt_base small]
      simp only [List.head?_cons, ne_eq, Option.some.injEq, Nat.digitChar_eq_zero]
      omega
    · rw [Nat.toDigits_of_base_le (by decide) (by omega)]
      have head := ih (n / 10) (by omega) (by omega)
      cases digits : Nat.toDigits 10 (n / 10) with
      | nil => exact absurd digits Nat.toDigits_ne_nil
      | cons d ds =>
        rw [digits] at head
        exact head

theorem digits?_of_areDigits (h : AreDigits ds) : digits? Text.isDigit ds = some ds := by
  induction ds with
  | nil => exact absurd rfl h.nonempty
  | cons d ds ih =>
    have digit := h.digits d List.mem_cons_self
    cases ds with
    | nil => simp [digits?, digit]
    | cons e es =>
      have rest : AreDigits (e :: es) := ⟨fun c hc => h.digits c (List.mem_cons_of_mem d hc), by simp⟩
      have single : e ≠ '_' := by
        rintro rfl
        exact rest.notMem (c := '_') (by decide) List.mem_cons_self
      simp [digits?, digit, ih rest, single]

theorem whole?_toDigits (n : Nat) : whole? (Nat.toDigits 10 n) = some (Nat.toDigits 10 n) := by
  rw [whole?, digits?_of_areDigits (areDigits_toDigits n)]
  by_cases zero : n = 0
  · subst zero
    rfl
  · have head := head?_toDigits (Nat.pos_of_ne_zero zero)
    split
    · next heq =>
      rw [Option.some.inj heq] at head
      simp at head
    · rfl

theorem splitSign_of_areDigits (h : AreDigits ds) : splitSign ds = (false, ds) := by
  unfold splitSign
  split
  · exact absurd List.mem_cons_self (h.notMem (c := '-') (by decide))
  · exact absurd List.mem_cons_self (h.notMem (c := '+') (by decide))
  · rfl

theorem magnitude?_of_areDigits (h : AreDigits ds) : magnitude? ds = none := by
  unfold magnitude?
  split
  · exact absurd (by simp) (h.notMem (c := 'x') (by decide))
  · exact absurd (by simp) (h.notMem (c := 'o') (by decide))
  · exact absurd (by simp) (h.notMem (c := 'b') (by decide))
  · rfl

theorem integer?_toDigits {n : Nat} (small : n < Word.signedLimit) : integer? (Nat.toDigits 10 n) = some (n : Int) := by
  have digits := areDigits_toDigits n
  rw [integer?, magnitude?_of_areDigits digits, splitSign_of_areDigits digits]
  simp [whole?_toDigits, decimal_toDigits, Word.signed?, small]

theorem momentText?_of_areDigits (h : AreDigits ds) : momentText? ds = none := by
  have date : readDate ds = none := by
    unfold readDate
    split
    · exact absurd (by simp) (h.notMem (c := '-') (by decide))
    · rfl
  have time : readTime ds = none := by
    unfold readTime
    split
    · exact absurd (by simp) (h.notMem (c := ':') (by decide))
    · rfl
  rw [momentText?, date, time]
  rfl

theorem splitAt?_of_forall {p : Char → Bool} (h : ∀ c ∈ cs, p c = false) : splitAt? p cs = (cs, none) := by
  have all : cs.dropWhile (fun c => !p c) = [] := by
    rw [List.dropWhile_eq_nil_iff]
    exact fun c hc => by simp [h c hc]
  rw [splitAt?, all]

theorem float?_of_areDigits (h : AreDigits ds) : float? ds = none := by
  -- Digits alone have no exponent and no fraction, and spell no name.
  have mantissa : splitAt? (fun c => decide (c = 'e') || decide (c = 'E')) ds = (ds, none) := by
    refine splitAt?_of_forall fun c hc => ?_
    have lower : c ≠ 'e' := fun heq => h.notMem (c := 'e') (by decide) (heq ▸ hc)
    have upper : c ≠ 'E' := fun heq => h.notMem (c := 'E') (by decide) (heq ▸ hc)
    simp [lower, upper]
  have fraction : splitAt? (fun c => decide (c = '.')) ds = (ds, none) := by
    refine splitAt?_of_forall fun c hc => ?_
    have point : c ≠ '.' := fun heq => h.notMem (c := '.') (by decide) (heq ▸ hc)
    simp [point]
  have infinite : ds ≠ "inf".toList := by
    rintro rfl
    exact h.notMem (c := 'i') (by decide) (by decide)
  have nothing : ds ≠ "nan".toList := by
    rintro rfl
    exact h.notMem (c := 'n') (by decide) (by decide)
  have decimal : decimal? false ds = none := by
    rw [decimal?, mantissa]
    dsimp only
    rw [fraction]
    rfl
  rw [float?, splitSign_of_areDigits h]
  dsimp only
  rw [if_neg infinite, if_neg nothing, decimal]
  rfl

theorem scalar?_toDigits {n : Nat} (small : n < Word.signedLimit) :
    scalar? (Nat.toDigits 10 n) = some (.integer n) := by
  have digits := areDigits_toDigits n
  have yes : Nat.toDigits 10 n ≠ "true".toList := fun heq =>
    digits.notMem (c := 't') (by decide) (heq ▸ by decide)
  have no : Nat.toDigits 10 n ≠ "false".toList := fun heq =>
    digits.notMem (c := 'f') (by decide) (heq ▸ by decide)
  rw [scalar?, if_neg yes, if_neg no, momentText?_of_areDigits digits, float?_of_areDigits digits]
  dsimp only
  rw [integer?_toDigits small]
  rfl

/-! ## Values -/

/-- The value is read back where it stands at the end of a line. -/
structure Reads (written : List Char) (value : Toml) : Prop where
  value : ∀ fuel depth rest, readValue (fuel + 1) depth (written ++ '\n' :: rest) = some (value, '\n' :: rest)
  unspaced : ∀ rest, skipSpace (written ++ rest) = written ++ rest

theorem skipSpace_cons (other : isSpace c = false) (rest : List Char) : skipSpace (c :: rest) = c :: rest :=
  List.dropWhile_cons_of_neg (by simp [other])

theorem readScalar_word {value : Toml} (chars : ∀ c ∈ word, isWordChar c = true) (reads : scalar? word = some value)
    (rest : List Char) : readScalar (word ++ '\n' :: rest) = some (value, '\n' :: rest) := by
  have split : Text.readWhile isWordChar (word ++ '\n' :: rest) = (word, '\n' :: rest) := by
    have stop : isWordChar '\n' = false := by decide
    simp [Text.readWhile, List.takeWhile_append_of_pos chars, List.dropWhile_append_of_pos chars, stop]
  have taken : readWord (word ++ '\n' :: rest) = (word, '\n' :: rest) := by
    rw [readWord, split]
    rfl
  rw [readScalar, taken]
  dsimp only
  rw [reads]
  rfl

theorem Reads.of_word {value : Toml} (nonempty : word ≠ []) (chars : ∀ c ∈ word, isWordChar c = true)
    (reads : scalar? word = some value) : Reads word value := by
  obtain ⟨c, behind, rfl⟩ := List.exists_cons_of_ne_nil nonempty
  have first := chars c List.mem_cons_self
  have other : ∀ d, isWordChar d = false → c ≠ d := by
    rintro d not rfl
    simp [first] at not
  have scalar := readScalar_word chars reads
  constructor
  · intro fuel depth rest
    have double := other '"' (by decide)
    have single := other '\'' (by decide)
    have bracket := other '[' (by decide)
    have brace := other '\x7b' (by decide)
    rw [List.cons_append, readValue.eq_6 _ _ _ (by simp [double]) (by simp [single]) (by simp [bracket])
      (by simp [brace])]
    exact scalar rest
  · have blank : isSpace c = false := by
      simp [isSpace, other ' ' (by decide), other '\t' (by decide)]
    exact fun rest => skipSpace_cons blank _

theorem reads_toDigits {n : Nat} (small : n < Word.signedLimit) : Reads (Nat.toDigits 10 n) (.integer n) := by
  have digits := areDigits_toDigits n
  refine .of_word digits.nonempty (fun c hc => ?_) (scalar?_toDigits small)
  have digit : c.isDigit = true := by simpa [Char.isDigit, Text.isDigit, Char.le_def] using digits.digits c hc
  simp [isWordChar, Char.isAlphanum, digit]

theorem reads_bool (b : Bool) : Reads (toString b).toList (.bool b) := by
  cases b with
  | true => exact .of_word (List.cons_ne_nil _ _) (List.all_eq_true.1 rfl) rfl
  | false => exact .of_word (List.cons_ne_nil _ _) (List.all_eq_true.1 rfl) rfl

theorem reads_writeText (cs : List Char) : Reads (writeText cs) (.text (String.ofList cs)) := by
  have read : ∀ rest, readText (writeText cs ++ '\n' :: rest) = some (cs, '\n' :: rest) := fun rest =>
    readText_writeText cs (by simp [Apart]) (by simp [Apart])
  have quoted : ∃ behind, writeText cs = '"' :: behind ∨ writeText cs = '\'' :: behind := by
    rw [writeText]
    cases formFor cs with
    | basic | longBasic => exact ⟨_, .inl rfl⟩
    | literal | longLiteral => exact ⟨_, .inr rfl⟩
  obtain ⟨behind, quoted | quoted⟩ := quoted
  all_goals
    rw [quoted] at read ⊢
    constructor
    · intro fuel depth rest
      rw [List.cons_append, readValue, ← List.cons_append, read]
      rfl
    · exact fun rest => skipSpace_cons (by decide) _

/-! ## Statements -/

theorem readStatements_cons {fuel : Nat} {cs rest rest' : List Char} {statement : Option Statement} (nonempty : cs ≠ [])
    (reads : readStatement (skipSpace cs) = some (statement, rest)) (ends : endLine rest = some rest') :
    readStatements (fuel + 1) cs = (readStatements fuel rest').map (statement.toList ++ ·) := by
  rw [readStatements.eq_3 _ _ (fun empty => nonempty empty), reads]
  simp only [Option.bind_eq_bind, Option.bind_some, ends]
  cases readStatements fuel rest' <;> rfl

theorem endLine_newline (rest : List Char) : endLine ('\n' :: rest) = some rest := by
  rw [endLine, skipSpace_cons (by decide)]
  rfl

structure IsBare (key : String) : Prop where
  chars : key.toList.all isBareKeyChar = true
  nonempty : key.toList.isEmpty = false

theorem IsBare.mem {key : String} (h : IsBare key) (hc : c ∈ key.toList) : isBareKeyChar c = true :=
  List.all_eq_true.1 h.chars c hc

theorem IsBare.first {key : String} (h : IsBare key) : ∃ c behind, key.toList = c :: behind ∧
    ∀ d, isBareKeyChar d = false → c ≠ d := by
  obtain ⟨c, behind, first⟩ := List.exists_cons_of_ne_nil (List.isEmpty_eq_false_iff.1 h.nonempty)
  refine ⟨c, behind, first, ?_⟩
  rintro d not rfl
  simp [h.mem (first ▸ List.mem_cons_self)] at not

theorem isSpace_of_ne (h : ∀ d, isBareKeyChar d = false → c ≠ d) : isSpace c = false := by
  simp [isSpace, h ' ' (by decide), h '\t' (by decide)]

theorem readKeyPart_bare {key : String} (h : IsBare key) (stop : isBareKeyChar c = false) (behind : List Char) :
    readKeyPart (key.toList ++ c :: behind) = some (key, c :: behind) := by
  obtain ⟨first, others, begins, other⟩ := h.first
  have split : Text.readWhile isBareKeyChar (key.toList ++ c :: behind) = (key.toList, c :: behind) := by
    simp [Text.readWhile, List.takeWhile_append_of_pos fun _ => h.mem, List.dropWhile_append_of_pos fun _ => h.mem, stop]
  unfold readKeyPart
  split
  · next heq =>
    rw [begins] at heq
    exact absurd (List.cons.inj heq).1 (other '"' (by decide))
  · next heq =>
    rw [begins] at heq
    exact absurd (List.cons.inj heq).1 (other '\'' (by decide))
  · rw [split]
    dsimp only
    rw [h.nonempty, String.ofList_toList]
    rfl

theorem skipSpace_bare {key : String} (h : IsBare key) (behind : List Char) :
    skipSpace (key.toList ++ behind) = key.toList ++ behind := by
  obtain ⟨first, others, begins, other⟩ := h.first
  rw [begins]
  exact skipSpace_cons (isSpace_of_ne other) _

theorem readKey_bare {key : String} (h : IsBare key) (stop : isBareKeyChar c = false)
    (single : ∀ more, skipSpace (c :: cs) ≠ '.' :: more) (parts : Nat) :
    readKey (parts + 1) (key.toList ++ c :: cs) = some (([], key), skipSpace (c :: cs)) := by
  rw [readKey, skipSpace_bare h, readKeyPart_bare h stop]
  simp only [Option.bind_eq_bind, Option.bind_some]

theorem readPair_bare {key : String} {written : List Char} {value : Toml} (h : IsBare key) (reads : Reads written value)
    (rest : List Char) : readPair (key.toList ++ ' ' :: '=' :: ' ' :: (written ++ '\n' :: rest)) =
      some (.pair [] key value, '\n' :: rest) := by
  have gap : skipSpace (' ' :: (written ++ '\n' :: rest)) = written ++ '\n' :: rest := reads.unspaced _
  have assigned : skipSpace (' ' :: '=' :: ' ' :: (written ++ '\n' :: rest)) =
      '=' :: ' ' :: (written ++ '\n' :: rest) := rfl
  have expected : Text.expect? ['='] ('=' :: ' ' :: (written ++ '\n' :: rest)) =
      some (' ' :: (written ++ '\n' :: rest)) := rfl
  rw [readPair, show maxParts - 1 = 78 + 1 from rfl, readKey_bare h (by decide) (by simp [assigned])]
  simp only [Option.bind_eq_bind, Option.bind_some, assigned, expected, gap, reads.value]

theorem readStatements_line {key : String} {written : List Char} {value : Toml} (h : IsBare key)
    (reads : Reads written value) (fuel : Nat) (rest : List Char) :
    readStatements (fuel + 1) (Config.line key written ++ rest) =
      (readStatements fuel rest).map (.pair [] key value :: ·) := by
  have shape : Config.line key written ++ rest = key.toList ++ ' ' :: '=' :: ' ' :: (written ++ '\n' :: rest) := by
    simp [Config.line]
  obtain ⟨c, behind, first, other⟩ := h.first
  have pair := readPair_bare h reads rest
  have read : readStatement (skipSpace (key.toList ++ ' ' :: '=' :: ' ' :: (written ++ '\n' :: rest))) =
      some (some (.pair [] key value), '\n' :: rest) := by
    rw [first, List.cons_append] at pair ⊢
    rw [skipSpace_cons (isSpace_of_ne other), readStatement.eq_7 _ (by simp) (by simp [other '\n' (by decide)])
      (by simp [other '\r' (by decide)]) (by simp [other '#' (by decide)]) (by simp [other '[' (by decide)])
      (by simp [other '[' (by decide)]), pair]
    rfl
  rw [shape]
  exact readStatements_cons (by simp) read (endLine_newline rest)

theorem readStatements_header {key : String} (h : IsBare key) (fuel : Nat) (rest : List Char) :
    readStatements (fuel + 1) ('[' :: (key.toList ++ ']' :: '\n' :: rest)) =
      (readStatements fuel rest).map (.table [] key :: ·) := by
  have closed : skipSpace (']' :: '\n' :: rest) = ']' :: '\n' :: rest := rfl
  have expected : Text.expect? [']'] (']' :: '\n' :: rest) = some ('\n' :: rest) := rfl
  have table : readKey (maxParts - 1) (key.toList ++ ']' :: '\n' :: rest) = some (([], key), ']' :: '\n' :: rest) := by
    rw [show maxParts - 1 = 78 + 1 from rfl, readKey_bare h (by decide) (by simp [closed]), closed]
  have filled : '[' :: (key.toList ++ ']' :: '\n' :: rest) ≠ [] := by simp
  have read : readStatement (skipSpace ('[' :: (key.toList ++ ']' :: '\n' :: rest))) =
      some (some (.table [] key), '\n' :: rest) := by
    obtain ⟨first, others, begins, other⟩ := h.first
    have single : ∀ more, key.toList ++ ']' :: '\n' :: rest ≠ '[' :: more := by
      simp [begins, other '[' (by decide)]
    rw [skipSpace_cons (by decide), readStatement.eq_6 _ single, table]
    simp only [Option.bind_eq_bind, Option.bind_some, expected]
  exact readStatements_cons filled read (endLine_newline rest)

theorem readStatements_blank (fuel : Nat) (rest : List Char) :
    readStatements (fuel + 1) ('\n' :: rest) = readStatements fuel rest := by
  have filled : '\n' :: rest ≠ [] := by simp
  rw [readStatements_cons filled rfl (endLine_newline rest)]
  cases readStatements fuel rest <;> rfl

end Sequencer.Toml
