import Mathlib.Order.Basic
import Sequencer.Toml.Text

/-!
# Strings read back as they were written

Whichever of the four forms a text is written in, what is read back is the text. Where quotes stand at the end of a
long form, the closing quotes come right behind them, and the run of quotes is cut at the right place.
-/

namespace Sequencer.Toml

variable {c : Char} {cs rest written : List Char}

/-! ## One character -/

/-- What may stand for a character in a basic string. -/
inductive Spells (c : Char) : List Char → Prop where
  | plain : isPlain c = true → c ≠ '"' → c ≠ '\\' → Spells c [c]
  | short (e : Char) : escaped? e = some c → Spells c ['\\', e]
  | coded (p q r s : Char) : coded? [p, q, r, s] = some c → Spells c ['\\', 'u', p, q, r, s]

theorem Spells.head (h : Spells c written) :
    ∃ d behind, written = d :: behind ∧ d ≠ '"' ∧ d ≠ '\n' ∧ d ≠ '\r' := by
  cases h with
  | plain plain quote =>
    refine ⟨c, [], rfl, quote, ?_, ?_⟩
    · rintro rfl
      simp [isPlain] at plain
    · rintro rfl
      simp [isPlain] at plain
  | short e => exact ⟨'\\', _, rfl, by decide⟩
  | coded p q r s => exact ⟨'\\', _, rfl, by decide⟩

theorem coded?_fourDigits : ∀ n < 128, coded? (fourDigits n) = some (Char.ofNat n) := by decide +kernel

theorem toNat_lt_of_not_isPlain (h : isPlain c = false) : c.toNat < 128 := by
  simp only [isPlain, Bool.or_eq_false_iff, Bool.and_eq_false_iff, decide_eq_false_iff_not] at h
  omega

theorem escapeChar_spells (other : c ≠ '"') : Spells c (escapeChar c) := by
  unfold escapeChar
  split
  case h_7 backslash =>
    split
    · next plain => exact .plain plain other backslash
    · next control =>
      rw [Bool.not_eq_true] at control
      have coded := coded?_fourDigits c.toNat (toNat_lt_of_not_isPlain control)
      rw [Char.ofNat_toNat] at coded
      exact .coded _ _ _ _ coded
  all_goals exact .short _ rfl

theorem of_escaped? {e : Char} (h : escaped? e = some c) :
    e ≠ 'u' ∧ e ≠ 'U' ∧ isSpace e = false ∧ e ≠ '\n' ∧ e ≠ '\r' := by
  unfold escaped? at h
  split at h
  case h_8 => simp at h
  all_goals decide

theorem readBasic_spells (h : Spells c written) (rest : List Char) :
    readBasic (written ++ rest) = consRead c (readBasic rest) := by
  cases h with
  | plain plain quote backslash => simp [readBasic, plain, backslash]
  | short e escaped =>
    obtain ⟨lower, upper, -⟩ := of_escaped? escaped
    simp [readBasic, lower, upper, escaped]
  | coded p q r s coded => simp [readBasic, coded]

theorem restIsBlank_cons (space : isSpace c = false) (newline : c ≠ '\n') (ret : c ≠ '\r') :
    restIsBlank (c :: rest) = false := by
  rw [restIsBlank, List.dropWhile_cons_of_neg (by simp [space])]
  split
  · next heq => exact absurd (List.cons.inj heq).1 newline
  · next heq => exact absurd (List.cons.inj heq).1 ret
  · rfl

theorem readLongBasic_spells (h : Spells c written) (rest : List Char) :
    readLongBasic false (written ++ rest) = consRead c (readLongBasic false rest) := by
  cases h with
  | plain plain quote backslash =>
    have ret : c ≠ '\r' := by
      rintro rfl
      simp [isPlain] at plain
    simp [readLongBasic, plain, quote, backslash, ret]
  | short e escaped =>
    obtain ⟨lower, upper, space, newline, ret⟩ := of_escaped? escaped
    simp [readLongBasic, lower, upper, escaped, restIsBlank_cons space newline ret]
  | coded p q r s coded => simp [readLongBasic, coded]

/-! ## Strings of one line -/

theorem readBasic_escapeBasic (cs rest : List Char) :
    readBasic (escapeBasic cs ++ '"' :: rest) = some (cs, rest) := by
  induction cs with
  | nil => simp [escapeBasic, readBasic]
  | cons c cs ih =>
    by_cases quote : c = '"'
    · subst quote
      have spells : Spells '"' ['\\', '"'] := .short '"' rfl
      have read := readBasic_spells spells (escapeBasic cs ++ '"' :: rest)
      rw [ih] at read
      exact read
    · rw [escapeBasic.eq_3 c cs quote, List.append_assoc, readBasic_spells (escapeChar_spells quote), ih]
      rfl

theorem readLiteral_append (plain : ∀ c ∈ cs, isPlain c = true) (unquoted : '\'' ∉ cs) (rest : List Char) :
    readLiteral (cs ++ '\'' :: rest) = some (cs, rest) := by
  induction cs with
  | nil => simp [readLiteral]
  | cons c cs ih =>
    rw [List.forall_mem_cons] at plain
    rw [List.mem_cons, not_or] at unquoted
    rw [List.cons_append, readLiteral, if_pos plain.1, ih plain.2 unquoted.2]
    · rfl
    · exact fun quote => unquoted.1 quote.symm

/-! ## Strings of several lines -/

/-- No quote stands behind the closing quotes. -/
def Apart (quote : Char) (rest : List Char) : Prop := rest.head? ≠ some quote

theorem readLongBasic_quote (open_ : ¬ ['"', '"'] <+: rest) :
    readLongBasic false ('"' :: rest) = consRead '"' (readLongBasic false rest) := by
  have two : ∀ behind, rest = '"' :: '"' :: behind → False := by
    rintro behind rfl
    exact open_ ⟨behind, rfl⟩
  rw [readLongBasic.eq_9 false '"' rest (fun _ _ => two _) (fun _ _ => two _) (fun _ _ => two _) (by simp) (by simp)
    (by simp) (by simp)]
  rfl

theorem readLongBasic_close (apart : Apart '"' rest) :
    readLongBasic false ('"' :: '"' :: '"' :: rest) = some ([], rest) ∧
    readLongBasic false ('"' :: '"' :: '"' :: '"' :: rest) = some (['"'], rest) ∧
    readLongBasic false ('"' :: '"' :: '"' :: '"' :: '"' :: rest) = some (['"', '"'], rest) := by
  cases rest with
  | nil => simp [readLongBasic]
  | cons d rest =>
    have other : d ≠ '"' := fun heq => apart (congrArg some heq)
    simp [readLongBasic, other]

theorem escapeLong_head (run : Nat) (h : c ≠ '"' ∨ run = 2) (cs : List Char) :
    ∃ d behind, escapeLong run (c :: cs) = d :: behind ∧ d ≠ '"' := by
  by_cases quote : c = '"'
  · subst quote
    obtain rfl : run = 2 := h.resolve_left (by simp)
    exact ⟨'\\', _, by rw [escapeLong, if_pos rfl], by decide⟩
  · by_cases newline : c = '\n'
    · subst newline
      exact ⟨'\n', _, by rw [escapeLong], by decide⟩
    · obtain ⟨d, behind, shape, other, -⟩ := (escapeChar_spells quote).head
      exact ⟨d, _, by rw [escapeLong.eq_4 _ _ _ quote newline, shape]; rfl, other⟩

theorem not_quotes_of_head {d : Char} {quote : Char} (h : d ≠ quote) (behind : List Char) :
    ¬ [quote, quote] <+: d :: behind ∧ ¬ [quote, quote] <+: quote :: d :: behind := by
  constructor
  · rintro ⟨_, heq⟩
    exact h (List.cons.inj heq).1.symm
  · rintro ⟨_, heq⟩
    exact h (List.cons.inj (List.cons.inj heq).2).1.symm

/-- At most two quotes stand in a row, those in front included, and so the closing quotes are found. -/
theorem readLongBasic_escapeLong (run : Nat) (few : run ≤ 2) (cs : List Char) (apart : Apart '"' rest) :
    readLongBasic false (escapeLong run cs ++ '"' :: '"' :: '"' :: rest) = some (cs, rest) := by
  induction cs generalizing run with
  | nil => exact (readLongBasic_close apart).1
  | cons c cs ih =>
    by_cases quote : c = '"'
    · subst quote
      by_cases third : run = 2
      · subst third
        have spells : Spells '"' ['\\', '"'] := .short '"' rfl
        have read := readLongBasic_spells spells (escapeLong 0 cs ++ '"' :: '"' :: '"' :: rest)
        rw [ih 0 (Nat.zero_le 2)] at read
        rw [escapeLong, if_pos rfl]
        exact read
      · have next := ih (run + 1) (by omega)
        rw [escapeLong, if_neg third, List.cons_append]
        -- Where the text ends in quotes, they and the closing quotes are read at once.
        cases cs with
        | nil => exact (readLongBasic_close apart).2.1
        | cons d ds =>
          by_cases single : d ≠ '"' ∨ run + 1 = 2
          · obtain ⟨first, behind, shape, other⟩ := escapeLong_head (run + 1) single ds
            rw [readLongBasic_quote, next]
            · rfl
            · rw [shape]
              exact (not_quotes_of_head other _).1
          · obtain ⟨rfl, first⟩ : d = '"' ∧ run + 1 ≠ 2 := by simpa using single
            cases ds with
            | nil =>
              rw [escapeLong, if_neg first]
              exact (readLongBasic_close apart).2.2
            | cons d ds =>
              obtain ⟨third, behind, shape, other⟩ := escapeLong_head (c := d) (run + 2) (.inr (by omega)) ds
              rw [readLongBasic_quote, next]
              · rfl
              · rw [escapeLong, if_neg first, shape]
                exact (not_quotes_of_head other _).2
    · have next := ih 0 (Nat.zero_le 2)
      by_cases newline : c = '\n'
      · subst newline
        rw [escapeLong, List.cons_append]
        simp [readLongBasic, next, consRead]
      · rw [escapeLong.eq_4 _ _ _ quote newline, List.append_assoc,
          readLongBasic_spells (escapeChar_spells quote), next]
        rfl

theorem readLongLiteral_quote (open_ : ¬ ['\'', '\''] <+: rest) :
    readLongLiteral ('\'' :: rest) = consRead '\'' (readLongLiteral rest) := by
  have two : ∀ behind, rest = '\'' :: '\'' :: behind → False := by
    rintro behind rfl
    exact open_ ⟨behind, rfl⟩
  rw [readLongLiteral.eq_6 '\'' rest (fun _ _ => two _) (fun _ _ => two _) (fun _ _ => two _) (by simp)]
  rfl

theorem readLongLiteral_close (apart : Apart '\'' rest) :
    readLongLiteral ('\'' :: '\'' :: '\'' :: rest) = some ([], rest) ∧
    readLongLiteral ('\'' :: '\'' :: '\'' :: '\'' :: rest) = some (['\''], rest) ∧
    readLongLiteral ('\'' :: '\'' :: '\'' :: '\'' :: '\'' :: rest) = some (['\'', '\''], rest) := by
  cases rest with
  | nil => simp [readLongLiteral]
  | cons d rest =>
    have other : d ≠ '\'' := fun heq => apart (congrArg some heq)
    simp [readLongLiteral, other]

theorem le_longestRun (c : Char) (run : Nat) (cs : List Char) : run ≤ longestRun c run cs := by
  induction cs generalizing run with
  | nil => exact Nat.le_refl run
  | cons d cs ih =>
    rw [longestRun]
    split
    · exact Nat.le_trans (Nat.le_succ run) (ih (run + 1))
    · exact Nat.le_max_left ..

theorem notMem_of_longestRun {run : Nat} (h : longestRun c run cs = 0) : c ∉ cs := by
  induction cs generalizing run with
  | nil => simp
  | cons d cs ih =>
    rw [longestRun] at h
    split at h
    · have := le_longestRun c (run + 1) cs
      omega
    · next other =>
      rw [List.mem_cons, not_or]
      exact ⟨Ne.symm other, ih (Nat.max_eq_zero_iff.mp h).2⟩

theorem readLongLiteral_append {run : Nat} (few : longestRun '\'' run cs ≤ 2)
    (plain : ∀ c ∈ cs, isPlain c = true ∨ c = '\n') (apart : Apart '\'' rest) :
    readLongLiteral (cs ++ '\'' :: '\'' :: '\'' :: rest) = some (cs, rest) := by
  induction cs generalizing run with
  | nil => exact (readLongLiteral_close apart).1
  | cons c cs ih =>
    rw [List.forall_mem_cons] at plain
    rw [longestRun] at few
    by_cases quote : c = '\''
    · subst quote
      rw [if_pos rfl] at few
      have next := ih few plain.2
      -- Where the text ends in quotes, they and the closing quotes are read at once.
      rcases cs with _ | ⟨d, _ | ⟨e, es⟩⟩
      · exact (readLongLiteral_close apart).2.1
      · by_cases single : d = '\''
        · subst single
          exact (readLongLiteral_close apart).2.2
        · have read := readLongLiteral_quote (not_quotes_of_head single ('\'' :: '\'' :: '\'' :: rest)).1
          exact read.trans (congrArg (consRead '\'') next)
      · have single : d ≠ '\'' ∨ e ≠ '\'' := by
          by_contra both
          obtain ⟨rfl, rfl⟩ : d = '\'' ∧ e = '\'' := by simpa using both
          rw [longestRun, if_pos rfl, longestRun, if_pos rfl] at few
          have := le_longestRun '\'' (run + 1 + 1 + 1) es
          omega
        have open_ : ¬ ['\'', '\''] <+: d :: e :: es ++ '\'' :: '\'' :: '\'' :: rest := by
          rintro ⟨_, heq⟩
          obtain ⟨first, behind⟩ := List.cons.inj heq
          obtain ⟨second, -⟩ := List.cons.inj behind
          simp [← first, ← second] at single
        refine (readLongLiteral_quote open_).trans ?_
        rw [next]
        rfl
    · rw [if_neg quote] at few
      have next := ih (Nat.le_trans (Nat.le_max_right ..) few) plain.2
      have ret : c ≠ '\r' := by
        rintro rfl
        simp [isPlain] at plain
      rw [List.cons_append, readLongLiteral.eq_6 _ _ (by simp [quote]) (by simp [quote]) (by simp [quote])
        (by simp [ret]), next, if_pos (by simpa using plain.1)]
      rfl

/-! ## All forms -/

/-- What a form can hold as it is. -/
def Form.Holds (cs : List Char) : Form → Prop
  | .basic | .longBasic => True
  | .literal => (∀ c ∈ cs, isPlain c = true) ∧ '\'' ∉ cs
  | .longLiteral => (∀ c ∈ cs, isPlain c = true ∨ c = '\n') ∧ longestRun '\'' 0 cs ≤ 2

theorem formFor_holds (cs : List Char) : (formFor cs).Holds cs := by
  have plain : ∀ c ∈ cs, (cs.any fun c => !isPlain c && c ≠ '\n') = false → isPlain c = true ∨ c = '\n' := by
    intro c hc controls
    have := List.any_eq_false.mp controls c hc
    simp only [Bool.and_eq_true, Bool.not_eq_true', decide_eq_true_eq, not_and, Decidable.not_not] at this
    by_cases h : isPlain c = true
    · exact .inl h
    · exact .inr (this (by simpa using h))
  rw [formFor]
  split
  · trivial
  split
  · next literal =>
    simp only [Bool.and_eq_true, Bool.not_eq_true', decide_eq_true_eq] at literal
    obtain ⟨⟨controls, singles⟩, lines⟩ := literal
    refine ⟨fun c hc => (plain c hc controls).resolve_right ?_, notMem_of_longestRun singles⟩
    rintro rfl
    simp [hc] at lines
  split
  · trivial
  split
  · next longLiteral =>
    simp only [Bool.and_eq_true, Bool.not_eq_true', decide_eq_true_eq] at longLiteral
    exact ⟨fun c hc => plain c hc longLiteral.1, longLiteral.2⟩
  split
  · trivial
  · trivial

theorem dropFirstBreak_firstBreak {text : List Char}
    (h : '\n' ∉ cs → text.head? ≠ some '\n' ∧ text.head? ≠ some '\r') :
    dropFirstBreak (firstBreak cs ++ text) = text := by
  rw [firstBreak]
  split
  · rfl
  · next unbroken =>
    obtain ⟨newline, ret⟩ := h (by simpa using unbroken)
    rw [List.nil_append]
    unfold dropFirstBreak
    split
    · exact absurd rfl newline
    · exact absurd rfl ret
    · rfl

theorem readText_basic (cs : List Char) (apart : Apart '"' rest) :
    readText ('"' :: (escapeBasic cs ++ '"' :: rest)) = some (cs, rest) := by
  have read : readShort ('"' :: (escapeBasic cs ++ '"' :: rest)) = some (cs, rest) := readBasic_escapeBasic cs rest
  have short : ¬ ['"', '"'] <+: escapeBasic cs ++ '"' :: rest := by
    rintro ⟨behind, heq⟩
    cases cs with
    | nil =>
      obtain ⟨-, heq⟩ := List.cons.inj heq
      exact apart (by rw [← heq]; rfl)
    | cons c cs =>
      by_cases quote : c = '"'
      · subst quote
        exact absurd (List.cons.inj heq).1 (by decide)
      · obtain ⟨d, tail, shape, other, -⟩ := (escapeChar_spells quote).head
        rw [escapeBasic.eq_3 c cs quote, shape] at heq
        exact other (List.cons.inj heq).1.symm
  rw [readText.eq_3 _ (fun behind heq => short ⟨behind, (List.cons.inj heq).2.symm⟩) (by simp), read]

theorem readText_literal (plain : ∀ c ∈ cs, isPlain c = true) (unquoted : '\'' ∉ cs) (apart : Apart '\'' rest) :
    readText ('\'' :: (cs ++ '\'' :: rest)) = some (cs, rest) := by
  have read : readShort ('\'' :: (cs ++ '\'' :: rest)) = some (cs, rest) := readLiteral_append plain unquoted rest
  have short : ¬ ['\'', '\''] <+: cs ++ '\'' :: rest := by
    rintro ⟨behind, heq⟩
    cases cs with
    | nil =>
      obtain ⟨-, heq⟩ := List.cons.inj heq
      exact apart (by rw [← heq]; rfl)
    | cons c cs =>
      obtain ⟨rfl, -⟩ := List.cons.inj heq
      simp at unquoted
  rw [readText.eq_3 _ (by simp) (fun behind heq => short ⟨behind, (List.cons.inj heq).2.symm⟩), read]

theorem readText_longBasic (cs : List Char) (apart : Apart '"' rest) :
    readText ('"' :: '"' :: '"' :: (firstBreak cs ++ (escapeLong 0 cs ++ '"' :: '"' :: '"' :: rest))) =
      some (cs, rest) := by
  have dropped : dropFirstBreak (firstBreak cs ++ (escapeLong 0 cs ++ '"' :: '"' :: '"' :: rest)) =
      escapeLong 0 cs ++ '"' :: '"' :: '"' :: rest := by
    refine dropFirstBreak_firstBreak fun unbroken => ?_
    cases cs with
    | nil => simp [escapeLong]
    | cons c cs =>
      by_cases quote : c = '"'
      · subst quote
        simp [escapeLong]
      · have newline : c ≠ '\n' := fun heq => unbroken (heq ▸ List.mem_cons_self)
        obtain ⟨d, tail, shape, -, newline', ret⟩ := (escapeChar_spells quote).head
        rw [escapeLong.eq_4 _ _ _ quote newline, shape]
        simp [newline', ret]
  rw [readText, dropped, readLongBasic_escapeLong 0 (Nat.zero_le 2) cs apart]

theorem readText_longLiteral (few : longestRun '\'' 0 cs ≤ 2) (plain : ∀ c ∈ cs, isPlain c = true ∨ c = '\n')
    (apart : Apart '\'' rest) :
    readText ('\'' :: '\'' :: '\'' :: (firstBreak cs ++ (cs ++ '\'' :: '\'' :: '\'' :: rest))) = some (cs, rest) := by
  have dropped : dropFirstBreak (firstBreak cs ++ (cs ++ '\'' :: '\'' :: '\'' :: rest)) =
      cs ++ '\'' :: '\'' :: '\'' :: rest := by
    refine dropFirstBreak_firstBreak fun unbroken => ?_
    cases cs with
    | nil => simp
    | cons c cs =>
      have newline : c ≠ '\n' := fun heq => unbroken (heq ▸ List.mem_cons_self)
      have ret : c ≠ '\r' := by
        rintro rfl
        simp [isPlain] at plain
      simp [newline, ret]
  rw [readText, dropped, readLongLiteral_append few plain apart]

/-- Whatever the text, it is read back from the form in which it is written. -/
theorem readText_writeText (cs : List Char) (double : Apart '"' rest) (single : Apart '\'' rest) :
    readText (writeText cs ++ rest) = some (cs, rest) := by
  have holds := formFor_holds cs
  rw [writeText]
  cases form : formFor cs with
  | basic =>
    rw [writeForm, List.cons_append, List.cons_append, List.append_assoc]
    exact readText_basic cs double
  | literal =>
    rw [form] at holds
    rw [writeForm, List.cons_append, List.cons_append, List.append_assoc]
    exact readText_literal holds.1 holds.2 single
  | longBasic =>
    simp only [writeForm, List.cons_append, List.append_assoc]
    exact readText_longBasic cs double
  | longLiteral =>
    rw [form] at holds
    simp only [writeForm, List.cons_append, List.append_assoc]
    exact readText_longLiteral holds.2 holds.1 single

end Sequencer.Toml
