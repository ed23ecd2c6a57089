import Gatehouse.Json.Basic
import Gatehouse.Text.Decimal

/-! # Records as JSON

A record is written as an object, or as an array of its fields in order. Unknown members of an
object are passed over; a field that stands there twice is refused.
-/

namespace Gatehouse.Json

open Gatehouse.Text

/-- The values of the named fields, `none` for those left out. An array may leave out fields at its
end as long as it has `required` of them. -/
def fields? (names : List String) (required : Nat) : Json → Option (List (Option Json))
  | .object members =>
    names.mapM fun name =>
      match values name members with
      | [] => some none
      | [v] => some (some v)
      | _ => none
  | .array items =>
    if required ≤ items.length ∧ items.length ≤ names.length then
      some (items.map some ++ List.replicate (names.length - items.length) none)
    else none
  | _ => none

/-- An integer below 2^32, written as digits alone. -/
def word? : Json → Option Nat
  | .number lexeme => (numeral? lexeme.toList).filter (· < UInt32.size)
  | _ => none

def nullable? {α : Type} (read? : Json → Option α) : Json → Option (Option α)
  | .null => some none
  | v => (read? v).map some

/-- The name of a choice: a string, or the only member of an object, with the value null. -/
def choice? : Json → Option String
  | .string s => some s
  | .object [(s, .null)] => some s
  | _ => none

/-- A field that may be left out, in which case it has a default. -/
def orDefault? {α : Type} (read? : Json → Option α) (default : α) : Option Json → Option α
  | none => some default
  | some v => read? v

end Gatehouse.Json
