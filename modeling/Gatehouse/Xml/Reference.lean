import Gatehouse.Bytes.Hex
import Gatehouse.Text.Decimal

/-! # Entity and character references

Replacing references by the characters that they stand for. There are the five predefined entities
and the numeric references in decimal and hexadecimal form; anything else after an ampersand is
refused.
-/

namespace Gatehouse.Xml

open Gatehouse.Text

/-- The character with a code point, if it is a character and not U+0000. -/
def characterAt? (n : Nat) : Option Char :=
  if n ≠ 0 ∧ n.isValidChar then some (Char.ofNat n) else none

def hexNumeral? (s : List Char) : Option Nat :=
  if s.isEmpty then none else (s.mapM Hex.digit?).map (ofDigits 16)

/-- What a reference stands for, given what is between the ampersand and the semicolon. -/
def referent? (name : List Char) : Option Char :=
  match name with
  | ['l', 't'] => some '<'
  | ['g', 't'] => some '>'
  | ['a', 'm', 'p'] => some '&'
  | ['a', 'p', 'o', 's'] => some '\''
  | ['q', 'u', 'o', 't'] => some '"'
  | '#' :: 'x' :: ds => hexNumeral? ds >>= characterAt?
  | '#' :: ds => numeral? ds >>= characterAt?
  | _ => none

/-- Resolves the references in a text. Within a reference, `reading` holds the characters since
its ampersand, last one first. -/
def resolveFrom (reading : Option (List Char)) : List Char → Option (List Char)
  | [] => if reading.isNone then some [] else none
  | c :: rest =>
    match reading with
    | none =>
      if c = '&' then resolveFrom (some []) rest
      else (resolveFrom none rest).map (c :: ·)
    | some name =>
      if c = ';' then
        (referent? name.reverse).bind fun r => (resolveFrom none rest).map (r :: ·)
      else if c = '&' then none
      else resolveFrom (some (c :: name)) rest

/-- Replaces every reference in a text, or refuses one that stands for nothing. -/
def resolve? (s : List Char) : Option (List Char) :=
  resolveFrom none s

theorem resolve?_append_left {lead s : List Char} (plain : '&' ∉ lead) :
    resolve? (lead ++ s) = (resolve? s).map (lead ++ ·) := by
  induction lead with
  | nil => simp
  | cons c lead ih =>
    rw [List.mem_cons, not_or] at plain
    rw [resolve?, List.cons_append, resolveFrom]
    simp only [if_neg (Ne.symm plain.1)]
    rw [← resolve?, ih plain.2, Option.map_map]
    rfl

theorem resolveFrom_unclosed {name s : List Char} (unclosed : ';' ∉ s) :
    resolveFrom (some name) s = none := by
  induction s generalizing name with
  | nil => rfl
  | cons c s ih =>
    rw [List.mem_cons, not_or] at unclosed
    simp only [resolveFrom, if_neg (Ne.symm unclosed.1), ih unclosed.2, ite_self]

theorem resolveFrom_append_right {reading : Option (List Char)} {s trail : List Char}
    (plain : '&' ∉ trail) (unclosed : ';' ∉ trail) :
    resolveFrom reading (s ++ trail) = (resolveFrom reading s).map (· ++ trail) := by
  induction s generalizing reading with
  | nil =>
    cases reading with
    | none => simpa [resolve?, resolveFrom] using @resolve?_append_left trail [] plain
    | some name => simp [resolveFrom, resolveFrom_unclosed unclosed]
  | cons c s ih =>
    cases reading with
    | none =>
      simp only [List.cons_append, resolveFrom, ih]
      split
      · rfl
      · rw [Option.map_map, Option.map_map]
        rfl
    | some name =>
      simp only [List.cons_append, resolveFrom, ih]
      split
      · rw [Option.map_bind]
        simp only [Option.map_map, Function.comp_def, List.cons_append]
      · split
        · rfl
        · rfl

theorem resolve?_append_right {s trail : List Char} (plain : '&' ∉ trail)
    (unclosed : ';' ∉ trail) : resolve? (s ++ trail) = (resolve? s).map (· ++ trail) :=
  resolveFrom_append_right plain unclosed

end Gatehouse.Xml
