import Sequencer.Toml.Basic
import Sequencer.Text.Reading

/-!
# Dates and times

A moment is a date, a time or both, and what has both may say how far it is from universal time. It is
written as one word, or in the same form as a string in a table that stands for it.
-/

namespace Sequencer.Toml

/-! ## Dates -/

/-- Two digits within bounds. -/
def twoDigits? (low high : Nat) (a b : Char) : Option Nat :=
  if Text.isDigit a && Text.isDigit b then
    let n := Text.decimal [a, b]
    if low ≤ n ∧ n ≤ high then some n else none
  else none

def isLeapYear (year : Nat) : Bool := year % 4 = 0 && (year % 100 ≠ 0 || year % 400 = 0)

def daysIn (year month : Nat) : Nat :=
  if month = 2 then if isLeapYear year then 29 else 28
  else if month = 4 ∨ month = 6 ∨ month = 9 ∨ month = 11 then 30
  else 31

/-- A date, and what is behind it. -/
def readDate : Text.Reader (List Char)
  | a :: b :: c :: d :: '-' :: m :: n :: '-' :: x :: y :: rest => do
    if !(List.all [a, b, c, d] Text.isDigit) then none
    let month ← twoDigits? 1 12 m n
    let day ← twoDigits? 1 31 x y
    if daysIn (Text.decimal [a, b, c, d]) month < day then none
    some ([a, b, c, d, '-', m, n, '-', x, y], rest)
  | _ => none

/-! ## Times -/

/-- A fraction of a second counts up to nine places, and its trailing zeros do not count. -/
def fraction (digits : List Char) : List Char :=
  match ((digits.take 9).reverse.dropWhile (· = '0')).reverse with
  | [] => []
  | digits => '.' :: digits

/-- A time, and what is behind it. -/
def readTime : Text.Reader (List Char)
  | a :: b :: ':' :: c :: d :: ':' :: e :: f :: rest => do
    let _ ← twoDigits? 0 23 a b
    let _ ← twoDigits? 0 59 c d
    let _ ← twoDigits? 0 60 e f
    let time := [a, b, ':', c, d, ':', e, f]
    match rest with
    | '.' :: rest =>
      let (digits, rest) := Text.readWhile Text.isDigit rest
      if digits.isEmpty then none else some (time ++ fraction digits, rest)
    | rest => some (time, rest)
  | _ => none

/-- The distance from universal time; zero counts as positive. -/
def offset? : List Char → Option (List Char)
  | [] => some []
  | ['Z'] | ['z'] => some ['Z']
  | [sign, a, b, ':', c, d] => do
    if sign ≠ '+' ∧ sign ≠ '-' then none
    let hours ← twoDigits? 0 23 a b
    let minutes ← twoDigits? 0 59 c d
    some ((if hours = 0 ∧ minutes = 0 then '+' else sign) :: [a, b, ':', c, d])
  | _ => none

/-- A time of a day, perhaps with an offset. -/
def timeOfDay? (cs : List Char) : Option (List Char) := do
  let (time, rest) ← readTime cs
  some (time ++ (← offset? rest))

/-! ## Moments -/

/-- A moment, as it is written out. -/
def momentText? (cs : List Char) : Option String := do
  match readDate cs with
  | none =>
    let (time, rest) ← readTime cs
    if rest.isEmpty then some (String.ofList time) else none
  | some (date, []) => some (String.ofList date)
  | some (date, mark :: rest) =>
    if mark = 'T' ∨ mark = 't' ∨ mark = ' ' then
      some (String.ofList (date ++ 'T' :: (← timeOfDay? rest)))
    else none

/-! ## Tables for moments -/

/-- A table whose first key this is stands for the moment under it. -/
def momentKey : String := "$__toml_private_datetime"

/-- The moment under the key: a string that reads as one. -/
def asMoment? : Toml → Option Toml
  | .text value => (momentText? value.toList).map .moment
  | _ => none

mutual

/-- The value with moments in place of the tables that stand for them; their other entries do not count. -/
def withMoments? : Toml → Option Toml
  | .list items => (itemsWithMoments? items).map .list
  | .table [] => some (.table [])
  | .table ((key, value) :: rest) =>
    if key = momentKey then asMoment? value
    else (entriesWithMoments? ((key, value) :: rest)).map .table
  | value => some value

def itemsWithMoments? : List Toml → Option (List Toml)
  | [] => some []
  | item :: rest => do some ((← withMoments? item) :: (← itemsWithMoments? rest))

def entriesWithMoments? : List (String × Toml) → Option (List (String × Toml))
  | [] => some []
  | (key, value) :: rest => do some ((key, ← withMoments? value) :: (← entriesWithMoments? rest))

end

end Sequencer.Toml
