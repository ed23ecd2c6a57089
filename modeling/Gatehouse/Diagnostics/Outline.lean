import Gatehouse.Text.Quoted

/-! # Outlines

The shape of a value as diagnostics show it, and its text on one line. An outline may leave fields
of a record out; two dots then stand for them.
-/

namespace Gatehouse

inductive Outline where
  /-- A text without quotes: a number, a truth value, an instant. -/
  | plain (text : String)
  | quoted (text : String)
  | absent
  | present (value : Outline)
  | list (items : List Outline)
  | record (name : String) (fields : List (String × Outline)) (complete : Bool)

namespace Outline

/-- An optional text in quotes. -/
def ofString? : Option String → Outline
  | none => absent
  | some s => present (quoted s)

/-- The fields of a record between its braces. -/
def join (complete : Bool) (fields : List String) : String :=
  ", ".intercalate (if complete then fields else fields ++ [".."])

mutual
def text : Outline → String
  | plain text => text
  | quoted text => Text.quoted text
  | absent => "None"
  | present value => "Some(" ++ value.text ++ ")"
  | list items => "[" ++ ", ".intercalate (texts items) ++ "]"
  | record name fields complete => name ++ " \x7b " ++ join complete (fieldTexts fields) ++ " \x7d"

def texts : List Outline → List String
  | [] => []
  | item :: items => item.text :: texts items

def fieldTexts : List (String × Outline) → List String
  | [] => []
  | (name, value) :: fields => (name ++ ": " ++ value.text) :: fieldTexts fields
end

end Outline

end Gatehouse
