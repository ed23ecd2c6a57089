import Gatehouse.Text.Blank
import Gatehouse.Time.Rfc3339

/-! # Timestamps read leniently

The same parts in the same order as a strict timestamp, with fewer demands on their form: white
space may stand before every number, before the marks between them and around the offset, numbers
may lack leading zeros, the year may carry a sign, and the offset may be written `UTC` or without a
colon. Every strict timestamp is read as it is read strictly.
-/

namespace Gatehouse.Lenient

open Gatehouse.Text Gatehouse.Rfc3339

def skipBlank (s : List Char) : List Char :=
  s.dropWhile isBlank

/-- One to `width` digits. -/
def upTo? (width : Nat) (s : List Char) : Option (Nat × List Char) :=
  let ds := (s.take width).takeWhile fun c => (digit? c).isSome
  (numeral? ds).map fun n => (n, s.drop ds.length)

/-- A year: at most four digits, or a sign and any number of digits. -/
def year? (s : List Char) : Option (Int × List Char) :=
  match s with
  | '-' :: rest => (upTo? rest.length rest).map fun (n, rest) => (-(n : Int), rest)
  | '+' :: rest => (upTo? rest.length rest).map fun (n, rest) => ((n : Int), rest)
  | s => (upTo? 4 s).map fun (n, rest) => ((n : Int), rest)

/-- A mark between two numbers and the number after it. -/
def markedNumber? (mark : Char) (s : List Char) : Option (Nat × List Char) :=
  (expect? mark (skipBlank s)).bind fun rest => upTo? 2 (skipBlank rest)

/-- Two digits, the first below `limit`. -/
def pair? (limit : Nat) (s : List Char) : Option (Nat × List Char) :=
  (fixed? 2 s).filter fun (n, _) => n < limit * 10

/-- An offset in minutes and what follows it. -/
def offset? (s : List Char) : Option (Int × List Char) :=
  if (s.take 3).map Char.toLower = ['u', 't', 'c'] then some (0, s.drop 3)
  else match s with
    | [] => none
    | sign :: rest =>
      if sign = 'Z' ∨ sign = 'z' then some (0, rest)
      else do
        let (hours, rest) ← pair? 10 rest
        let (minutes, rest) ← pair? 6 (rest.dropWhile fun c => c = ':' || isBlank c)
        let offset : Int := hours * 60 + minutes
        if sign = '+' then return (offset, rest)
        else if isMinus sign then return (-offset, rest)
        else none

def reading? (s : List Char) : Option Reading := do
  let (year, s) ← year? (skipBlank s)
  let (month, s) ← markedNumber? '-' s
  let (day, s) ← markedNumber? '-' s
  let s ← (expect? 'T' s <|> expect? 't' s) <|> expect? ' ' s
  let (hour, s) ← upTo? 2 (skipBlank s)
  let (minute, s) ← markedNumber? ':' s
  let (second, s) ← markedNumber? ':' s
  let (nano, s) ← fraction? s
  let (offset, s) ← offset? (skipBlank s)
  if (skipBlank s).isEmpty then
    return ⟨⟨year, month, day⟩, hour, minute, second, nano, offset⟩
  else none

/-- The instant that a leniently written timestamp denotes. -/
def read? (s : String) : Option Instant :=
  reading? s.toList >>= Reading.toInstant?

end Gatehouse.Lenient
