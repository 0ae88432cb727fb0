import Sequencer.Json.Basic
import Sequencer.Word

/-!
# Records in JSON

A record is an object with known keys, or a list of its fields in order.
-/

namespace Sequencer.Json

/-- The field under `key`. Other keys do not matter, but this one may not be there twice. -/
def field? (key : String) (members : List (String × Json)) : Option (Option Json) :=
  match members.filter fun member => member.1 = key with
  | [] => some none
  | [(_, value)] => some (some value)
  | _ => none

/-- The fields of a record by their keys. A list may be short, but not long. -/
def fields? (keys : List String) : Json → Option (List (Option Json))
  | .object members => keys.mapM fun key => field? key members
  | .list items =>
    if items.length ≤ keys.length then
      some (items.map some ++ List.replicate (keys.length - items.length) none)
    else none
  | _ => none

/-! ## Plain values -/

def bool? : Json → Option Bool
  | .bool value => some value
  | _ => none

def text? : Json → Option String
  | .text value => some value
  | _ => none

/-- Numbers of 64 bits. -/
def natural? : Json → Option Nat
  | .natural value => Word.unsigned? value
  | _ => none

/-- A value that may be absent. -/
def optional? {α : Type} (read : Json → Option α) : Json → Option (Option α)
  | .null => some none
  | value => (read value).map some

/-! ## Fields -/

/-- A field that has to be there. -/
def required? {α : Type} (read : Json → Option α) : Option Json → Option α
  | none => none
  | some value => read value

/-- A field with a default. -/
def withDefault? {α : Type} (standard : α) (read : Json → Option α) : Option Json → Option α
  | none => some standard
  | some value => read value

def ofOption {α : Type} (write : α → Json) : Option α → Json
  | none => .null
  | some value => write value

end Sequencer.Json
