import Sequencer.Config.Basic
import Sequencer.Decimal.Reading
import Sequencer.Decimal.Shortest
import Sequencer.Text.Lowercase
import Sequencer.Table

/-!
# Settings

Values as files and variables give them, before it is known what they are for, and how they convert.
-/

namespace Sequencer

inductive Setting where
  | empty
  | bool (value : Bool)
  | integer (value : Int)
  | float (value : Binary)
  | text (value : String)
  | list (items : List Setting)
  | table (entries : List (String × Setting))

namespace Setting

/-! ## Conversions -/

/-- The words for yes and no, in any case. -/
def word? (s : String) : Option Bool :=
  match Text.lowercase s with
  | "true" | "on" | "yes" => some true
  | "false" | "off" | "no" => some false
  | _ => none

def bool? : Setting → Option Bool
  | .bool value => some value
  | .integer value => some (value != 0)
  | .float value => some (!value.isZero)
  | .text "1" => some true
  | .text "0" => some false
  | .text value => word? value
  | .empty | .list _ | .table _ => none

/-- Numbers of 64 bits. -/
def natural? : Setting → Option Nat
  | .bool value => some value.toNat
  | .integer value => if 0 ≤ value then some value.toNat else none
  | .float value => some (value.toNatClamped (Word.limit - 1))
  | .text value =>
    match word? value with
    | some value => some value.toNat
    | none => Decimal.unsigned64? value
  | .empty | .list _ | .table _ => none

def text? : Setting → Option String
  | .text value => some value
  | .bool value => some (toString value)
  | .integer value => some (toString value)
  | .float value => some value.toText
  | .empty | .list _ | .table _ => none

/-! ## Tables -/

def entries : Setting → List (String × Setting)
  | .table entries => entries
  | _ => []

def items : Setting → List Setting
  | .list items => items
  | _ => []

/-- The fields of a record by their keys; a list gives them in order, and what it has more is left. -/
def fields? (keys : List String) : Setting → Option (List (Option Setting))
  | .table entries => some (keys.map fun key => Table.find? key entries)
  | .list items => some ((List.range keys.length).map fun i => items[i]?)
  | _ => none

/-! ## Records -/

/-- A field that is not there has its default. -/
def orDefault {α : Type} (standard : α) (read : Setting → Option α) : Option Setting → Option α
  | none => some standard
  | some value => read value

def optional? {α : Type} (read : Setting → Option α) : Setting → Option (Option α)
  | .empty => some none
  | value => (read value).map some

def engine? (s : Setting) : Option EngineConfig := do
  let standard : EngineConfig := {}
  match ← s.fields? ["diagnostics"] with
  | [diagnostics] => some ⟨← orDefault standard.diagnostics bool? diagnostics⟩
  | _ => none

def driver? (s : Setting) : Option DriverConfig := do
  let standard : DriverConfig := {}
  match ← s.fields? ["tick_interval_ms", "max_ticks"] with
  | [interval, maxTicks] =>
    some ⟨← orDefault standard.tickInterval natural? interval,
      ← orDefault standard.maxTicks (optional? natural?) maxTicks⟩
  | _ => none

def logging? (s : Setting) : Option LoggingConfig := do
  let standard : LoggingConfig := {}
  match ← s.fields? ["filter"] with
  | [filter] => some ⟨← orDefault standard.filter text? filter⟩
  | _ => none

def config? (s : Setting) : Option Config := do
  match ← s.fields? ["engine", "driver", "logging"] with
  | [engine, driver, logging] =>
    some ⟨← orDefault {} engine? engine, ← orDefault {} driver? driver,
      ← orDefault {} logging? logging⟩
  | _ => none

end Setting

end Sequencer
