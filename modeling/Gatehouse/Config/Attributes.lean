import Gatehouse.Error
import Gatehouse.Text.Blank
import Gatehouse.Text.Decimal

/-! # Attribute maps

Configuration as deployment descriptors write it: names with string values. White space around a
value does not count, and a value of white space alone counts as absent.
-/

namespace Gatehouse

abbrev Attributes := List (String × String)

namespace Attributes

/-- The trimmed value of an attribute, unless it is absent or blank. -/
def chars? (attributes : Attributes) (name : String) : Option (List Char) :=
  ((attributes.lookup name).map fun v => Text.trim v.toList).filter (!·.isEmpty)

def string? (attributes : Attributes) (name : String) : Option String :=
  (attributes.chars? name).map String.ofList

/-- A boolean attribute: anything but `false`, `f` and `0`, in either case, is true. -/
def bool (attributes : Attributes) (name : String) (default : Bool) : Bool :=
  match attributes.chars? name with
  | none => default
  | some value =>
    let value := String.ofList (value.map Char.toLower)
    value ≠ "false" && value ≠ "f" && value ≠ "0"

/-- An integer attribute below 2^32: digits, with an optional plus sign. -/
def word? (attributes : Attributes) (name : String) : Except Error (Option Nat) :=
  match attributes.chars? name with
  | none => .ok none
  | some value =>
    match Text.bounded? UInt32.size value with
    | some n => .ok (some n)
    | none => .error (.configuration (.notAnInteger name (String.ofList value)))

end Attributes

end Gatehouse
