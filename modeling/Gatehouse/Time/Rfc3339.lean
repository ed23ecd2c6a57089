import Gatehouse.Text.Decimal
import Gatehouse.Time.Calendar
import Gatehouse.Time.Instant

/-! # RFC 3339 timestamps

Writing gives UTC with the letter Z and the fewest of 0, 3, 6 or 9 digits of fraction that lose
nothing. Reading takes a full date, the letter T in either case or a space, a full time, any number
of digits of fraction (those after the ninth are dropped) and an offset with minutes. A second
numbered 60 is a leap second at the end of its minute, whichever minute it is.
-/

namespace Gatehouse.Rfc3339

open Gatehouse.Text

/-- A date and a time of day, as written on a clock that is ahead of UTC by `offset` minutes. -/
structure Reading where
  date : Date
  hour : Nat
  minute : Nat
  second : Nat
  nano : Nat
  offset : Int
  deriving Repr

/-- The instant of a reading, if there is such a date and such a time of day. -/
def Reading.toInstant? (r : Reading) : Option Instant :=
  if r.date.isValid && r.hour < 24 && r.minute < 60 && r.second ≤ 60 &&
      -1440 < r.offset && r.offset < 1440 then
    let minute := r.date.toDays * 1440 + r.hour * 60 + r.minute - r.offset
    if h : r.nano < 1000000000 then
      if r.second = 60 then some ⟨minute * 60 + 59, r.nano + 1000000000, by omega, by omega⟩
      else some ⟨minute * 60 + r.second, r.nano, by omega, by omega⟩
    else none
  else none

/-- Exactly `width` digits. -/
def fixed? : Nat → List Char → Option (Nat × List Char)
  | width, s =>
    let ds := s.take width
    if ds.length = width then (numeral? ds).map fun n => (n, s.drop width) else none

def expect? (c : Char) : List Char → Option (List Char)
  | [] => none
  | d :: rest => if c = d then some rest else none

/-- The nanoseconds of a fraction's digits. -/
def nanosOfDigits (ds : List Char) : Option Nat :=
  (numeral? (ds.take 9)).map (· * Nat.pow 10 (9 - (ds.take 9).length))

def fraction? (s : List Char) : Option (Nat × List Char) :=
  match s with
  | '.' :: rest =>
    let ds := rest.takeWhile fun c => (digit? c).isSome
    (nanosOfDigits ds).map fun n => (n, rest.dropWhile fun c => (digit? c).isSome)
  | s => some (0, s)

/-- Whether a character is a minus sign: the hyphen of ASCII or U+2212. -/
def isMinus (c : Char) : Bool :=
  c = '-' || c = Char.ofNat 0x2212

/-- An offset from UTC in minutes, which ends the text. -/
def offset? (s : List Char) : Option Int := do
  match s with
  | ['Z'] => return 0
  | ['z'] => return 0
  | sign :: rest =>
    let (hours, rest) ← fixed? 2 rest
    let rest ← expect? ':' rest
    let (minutes, rest) ← fixed? 2 rest
    if minutes < 60 && rest.isEmpty then
      let offset : Int := hours * 60 + minutes
      if sign = '+' then return offset
      else if isMinus sign then return -offset
      else none
    else none
  | [] => none

/-- Reads a whole text as a timestamp's parts. -/
def reading? (s : List Char) : Option Reading := do
  let (year, s) ← fixed? 4 s
  let s ← expect? '-' s
  let (month, s) ← fixed? 2 s
  let s ← expect? '-' s
  let (day, s) ← fixed? 2 s
  let s ← (expect? 'T' s <|> expect? 't' s) <|> expect? ' ' s
  let (hour, s) ← fixed? 2 s
  let s ← expect? ':' s
  let (minute, s) ← fixed? 2 s
  let s ← expect? ':' s
  let (second, s) ← fixed? 2 s
  let (nano, s) ← fraction? s
  let offset ← offset? s
  return ⟨⟨year, month, day⟩, hour, minute, second, nano, offset⟩

def readChars (s : List Char) : Option Instant :=
  reading? s >>= Reading.toInstant?

/-- The instant that a timestamp denotes. -/
def read? (s : String) : Option Instant :=
  readChars s.toList

/-- The year, with a sign where it does not have four digits. -/
def writeYear (year : Int) : List Char :=
  let n := year.toNat
  if 0 ≤ year ∧ year ≤ 9999 then padded 4 n
  else
    let ds := digits year.natAbs
    (if year < 0 then '-' else '+') :: List.replicate (4 - ds.length) '0' ++ ds

/-- The fraction of a second, nothing if it is zero. -/
def writeFraction (nano : Nat) : List Char :=
  if nano = 0 then []
  else if nano % 1000000 = 0 then '.' :: padded 3 (nano / 1000000)
  else if nano % 1000 = 0 then '.' :: padded 6 (nano / 1000)
  else '.' :: padded 9 nano

def writeChars (t : Instant) : List Char :=
  let date := Date.ofDays (t.second / 86400)
  let time := (t.second % 86400).toNat
  let second := time % 60 + if t.isLeap then 1 else 0
  let nano := if t.isLeap then t.nano - 1000000000 else t.nano
  writeYear date.year ++ '-' :: padded 2 date.month ++ '-' :: padded 2 date.day ++ 'T' ::
    padded 2 (time / 3600) ++ ':' :: padded 2 (time / 60 % 60) ++ ':' :: padded 2 second ++
    writeFraction nano ++ ['Z']

def write (t : Instant) : String :=
  String.ofList (writeChars t)

end Gatehouse.Rfc3339
