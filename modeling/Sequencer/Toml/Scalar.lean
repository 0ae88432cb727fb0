import Sequencer.Toml.Moment
import Sequencer.Word

/-!
# Plain TOML values

Booleans, integers, floats and moments: everything that is written as one word.
-/

namespace Sequencer.Toml

/-! ## Digits -/

/-- Digits of one kind; a single underscore may stand between two of them. -/
def digits? (p : Char → Bool) : List Char → Option (List Char)
  | [] => none
  | [c] => if p c then some [c] else none
  | c :: '_' :: rest => if p c then (digits? p rest).map (c :: ·) else none
  | c :: rest => if p c then (digits? p rest).map (c :: ·) else none

/-- A whole number without a leading zero. -/
def whole? (cs : List Char) : Option (List Char) :=
  match digits? Text.isDigit cs with
  | some ('0' :: _ :: _) => none
  | digits => digits

def splitSign : List Char → Bool × List Char
  | '-' :: rest => (true, rest)
  | '+' :: rest => (false, rest)
  | cs => (false, cs)

/-! ## Integers -/

/-- Digits of a base other than ten. -/
def inBase? (base : Nat) (cs : List Char) : Option Nat := do
  let isDigit := fun c => match Text.hexDigit? c with
    | some d => d < base
    | none => false
  let digits ← digits? isDigit cs
  (digits.mapM Text.hexDigit?).map (Text.ofDigits base)

def magnitude? : List Char → Option Nat
  | '0' :: 'x' :: rest => inBase? 16 rest
  | '0' :: 'o' :: rest => inBase? 8 rest
  | '0' :: 'b' :: rest => inBase? 2 rest
  | _ => none

/-- Integers of 64 bits. -/
def integer? (cs : List Char) : Option Int :=
  match magnitude? cs with
  | some n => Word.signed? false n
  | none => do
    let (negative, rest) := splitSign cs
    let digits ← whole? rest
    Word.signed? negative (Text.decimal digits)

/-! ## Floats -/

/-- What is in front of the first character that satisfies `p`, and what is behind it. -/
def splitAt? (p : Char → Bool) (cs : List Char) : List Char × Option (List Char) :=
  match cs.dropWhile fun c => !p c with
  | [] => (cs, none)
  | _ :: rest => (cs.takeWhile fun c => !p c, some rest)

def exponent? : Option (List Char) → Option Int
  | none => some 0
  | some cs => do
    let (negative, rest) := splitSign cs
    let n := Text.decimal (← digits? Text.isDigit rest)
    some (if negative then -(n : Int) else n)

/-- A decimal with a fraction or an exponent. -/
def decimal? (negative : Bool) (cs : List Char) : Option Decimal := do
  let (mantissa, exponent) := splitAt? (fun c => c = 'e' || c = 'E') cs
  let (whole, fraction) := splitAt? (· = '.') mantissa
  if exponent.isNone && fraction.isNone then none
  let whole ← whole? whole
  let fraction ← match fraction with
    | none => some []
    | some cs => digits? Text.isDigit cs
  let exponent ← exponent? exponent
  some ⟨negative, Text.decimal (whole ++ fraction), exponent - fraction.length⟩

/-- A positive decimal that is too large is refused. -/
def float? (cs : List Char) : Option Binary :=
  let (negative, rest) := splitSign cs
  if rest = "inf".toList then some (.infinite negative)
  else if rest = "nan".toList then some .nan
  else
    match (decimal? negative rest).map Binary.ofDecimal with
    | some (.infinite false) => none
    | value => value

/-! ## Words -/

/-- The characters that plain values are made of. -/
def isWordChar (c : Char) : Bool :=
  c.isAlphanum || c = '_' || c = '+' || c = '-' || c = '.' || c = ':'

def scalar? (word : List Char) : Option Toml :=
  if word = "true".toList then some (.bool true)
  else if word = "false".toList then some (.bool false)
  else
    match momentText? word with
    | some literal => some (.moment literal)
    | none =>
      match float? word with
      | some value => some (.float value)
      | none => (integer? word).map .integer

/-- Takes a word; a date takes a time with it that follows behind one blank. -/
def readWord (cs : List Char) : List Char × List Char :=
  let (word, rest) := Text.readWhile isWordChar cs
  match rest with
  | ' ' :: rest' =>
    let (time, rest'') := Text.readWhile isWordChar rest'
    if ((readDate word).map fun r => r.2.isEmpty).getD false && (readTime time).isSome then
      (word ++ ' ' :: time, rest'')
    else (word, rest)
  | rest => (word, rest)

def readScalar : Text.Reader Toml := fun cs =>
  let (word, rest) := readWord cs
  (scalar? word).map fun value => (value, rest)

end Sequencer.Toml
