import Gatehouse.Proofs.Text.Decimal
import Gatehouse.Proofs.Time.Calendar
import Gatehouse.Time.Lenient

/-! # Timestamps read back

A timestamp as it is written reads leniently as the instant that it was written for, whatever its
year, its fraction and whether it lies in a leap second.
-/

namespace Gatehouse.Lenient

open Gatehouse.Text Gatehouse.Rfc3339

variable {ds rest : List Char} {width n : Nat} {c : Char}

theorem isBlank_of_isDigit (h : c.isDigit) : isBlank c = false := by
  have range : 48 ≤ c.toNat ∧ c.toNat ≤ 57 := by
    simpa [Char.le_def, UInt32.le_iff_toNat_le] using isDigit_iff.1 h
  simp only [isBlank, Bool.or_eq_false_iff, Bool.and_eq_false_iff, decide_eq_false_iff_not,
    beq_eq_false_iff_ne]
  omega

theorem skipBlank_cons (h : isBlank c = false) : skipBlank (c :: rest) = c :: rest := by
  simp [skipBlank, h]

theorem skipBlank_digits (ne : ds ≠ []) (h : ∀ c ∈ ds, c.isDigit) :
    skipBlank (ds ++ rest) = ds ++ rest := by
  cases ds with
  | nil => exact absurd rfl ne
  | cons c ds => exact skipBlank_cons (isBlank_of_isDigit (h c (by simp)))

theorem takeWhile_digits (h : ∀ c ∈ ds, c.isDigit) (stop : ∀ c ∈ rest.head?, c.isDigit = false) :
    ((ds ++ rest).takeWhile fun c => (digit? c).isSome) = ds ∧
      ((ds ++ rest).dropWhile fun c => (digit? c).isSome) = rest := by
  have all : ∀ c ∈ ds, (digit? c).isSome = true := by
    intro c hc
    rw [digit?_isSome, h c hc]
  rw [List.takeWhile_append_of_pos all, List.dropWhile_append_of_pos all]
  cases rest with
  | nil => simp
  | cons c rest => simp [digit?_isSome, stop c (by simp)]

/-- Digits are read up to the width allowed, or to where they end. -/
theorem upTo?_append (rest : List Char) (h : ∀ c ∈ ds, c.isDigit) (room : ds.length ≤ width)
    (stop : ds.length = width ∨ ∀ c ∈ rest.head?, c.isDigit = false) :
    upTo? width (ds ++ rest) = (numeral? ds).map (·, rest) := by
  have taken : (((ds ++ rest).take width).takeWhile fun c => (digit? c).isSome) = ds := by
    rw [List.take_append, List.take_of_length_le room]
    refine (takeWhile_digits h ?_).1
    rcases stop with full | ended
    · simp [full]
    · intro c hc
      cases rest with
      | nil => simp at hc
      | cons d rest =>
          cases room' : width - ds.length with
          | zero => simp [room'] at hc
          | succ k => exact ended c (by simpa [room'] using hc)
  simp only [upTo?, taken, List.drop_left]

theorem upTo?_padded (pos : 0 < width) (h : n < Nat.pow 10 width) :
    upTo? width (padded width n ++ rest) = some (n, rest) := by
  have length := padded_length width n
  rw [upTo?_append rest (fun _ => padded_isDigit) (Nat.le_of_eq length) (.inl length),
    numeral?_padded pos h]
  rfl

theorem skipBlank_padded (n : Nat) : skipBlank (padded 2 n ++ rest) = padded 2 n ++ rest :=
  skipBlank_digits (padded_ne_nil (by decide)) fun _ => padded_isDigit

theorem markedNumber?_padded {mark : Char} (h : isBlank mark = false) (n_lt : n < 100) :
    markedNumber? mark (mark :: (padded 2 n ++ rest)) = some (n, rest) := by
  rw [markedNumber?, skipBlank_cons h, expect?, if_pos rfl, Option.bind_some, skipBlank_padded,
    upTo?_padded (by decide) n_lt]

theorem year?_padded (h : n < 10000) :
    year? (padded 4 n ++ rest) = some ((n : Int), rest) := by
  have read : upTo? 4 (padded 4 n ++ rest) = some (n, rest) := upTo?_padded (by decide) h
  have all : ∀ c ∈ padded 4 n, c.isDigit := fun _ => padded_isDigit
  cases start : padded 4 n with
  | nil => exact absurd start (padded_ne_nil (by decide))
  | cons c ds =>
      have digit : c.isDigit := all c (by simp [start])
      rw [start] at read
      unfold year?
      split
      · next sign => cases (List.cons.inj sign).1 ▸ digit
      · next sign => cases (List.cons.inj sign).1 ▸ digit
      · rw [read]
        rfl

theorem year?_signed (rest : List Char) (h : ∀ c ∈ ds, c.isDigit) (number : numeral? ds = some n) :
    year? ('-' :: ds ++ '-' :: rest) = some (-(n : Int), '-' :: rest) ∧
      year? ('+' :: ds ++ '-' :: rest) = some ((n : Int), '-' :: rest) := by
  have room : ds.length ≤ (ds ++ '-' :: rest).length := by simp
  have read := upTo?_append ('-' :: rest) h room (.inr (by simp))
  rw [number] at read
  simp only [List.cons_append, year?, read]
  exact ⟨rfl, rfl⟩

/-- A year before its mark, with or without a sign. -/
theorem year?_writeYear (year : Int) :
    year? (skipBlank (writeYear year ++ '-' :: rest)) = some (year, '-' :: rest) := by
  unfold writeYear
  by_cases plain : 0 ≤ year ∧ year ≤ 9999
  · simp only [if_pos plain]
    rw [skipBlank_digits (padded_ne_nil (by decide)) fun _ => padded_isDigit,
      year?_padded (by omega), Int.toNat_of_nonneg plain.1]
  · simp only [if_neg plain]
    have all : ∀ c ∈ List.replicate (4 - (digits year.natAbs).length) '0' ++ digits year.natAbs,
        c.isDigit := by
      intro c hc
      rcases List.mem_append.1 hc with zero | digit
      · rw [List.eq_of_mem_replicate zero]
        rfl
      · exact digits_isDigit digit
    have read := year?_signed rest all (numeral?_zeros_digits _ year.natAbs)
    by_cases negative : year < 0
    · have same : -(year.natAbs : Int) = year := by omega
      rw [if_pos negative]
      refine (congrArg year? (skipBlank_cons rfl)).trans (read.1.trans ?_)
      rw [same]
    · have same : (year.natAbs : Int) = year := by omega
      rw [if_neg negative]
      refine (congrArg year? (skipBlank_cons rfl)).trans (read.2.trans ?_)
      rw [same]

theorem fraction?_padded (pos : 0 < width) (room : width ≤ 9) (h : n < Nat.pow 10 width)
    (stop : ∀ c ∈ rest.head?, c.isDigit = false) :
    fraction? ('.' :: (padded width n ++ rest)) = some (n * Nat.pow 10 (9 - width), rest) := by
  have all : ∀ c ∈ padded width n, c.isDigit := fun _ => padded_isDigit
  have split := takeWhile_digits all stop
  have length := padded_length width n
  have whole : (padded width n).take 9 = padded width n := List.take_of_length_le (by omega)
  simp only [fraction?, split, nanosOfDigits, whole, length, numeral?_padded pos h,
    Option.map_some]

/-- A fraction at the end of a time in UTC. -/
theorem fraction?_writeFraction (h : n < 1000000000) :
    fraction? (writeFraction n ++ ['Z']) = some (n, ['Z']) := by
  have stop : ∀ c ∈ ['Z'].head?, c.isDigit = false := by
    intro c hc
    cases hc
    rfl
  unfold writeFraction
  by_cases none : n = 0
  · rw [if_pos none, none]
    rfl
  · by_cases milli : n % 1000000 = 0
    · have back : n / 1000000 * Nat.pow 10 6 = n :=
        Nat.div_mul_cancel (Nat.dvd_of_mod_eq_zero milli)
      rw [if_neg none, if_pos milli, List.cons_append,
        fraction?_padded (by decide) (by decide) (show n / 1000000 < 1000 by omega) stop, back]
    · by_cases micro : n % 1000 = 0
      · have back : n / 1000 * Nat.pow 10 3 = n := Nat.div_mul_cancel (Nat.dvd_of_mod_eq_zero micro)
        rw [if_neg none, if_neg milli, if_pos micro, List.cons_append,
          fraction?_padded (by decide) (by decide) (show n / 1000 < 1000000 by omega) stop, back]
      · rw [if_neg none, if_neg milli, if_neg micro, List.cons_append,
          fraction?_padded (by decide) (by decide) (show n < 1000000000 from h) stop]
        rw [show Nat.pow 10 (9 - 9) = 1 from rfl, Nat.mul_one]

def parts (t : Instant) : Reading :=
  let time := (t.second % 86400).toNat
  { date := Date.ofDays (t.second / 86400)
    hour := time / 3600
    minute := time / 60 % 60
    second := time % 60 + if t.isLeap then 1 else 0
    nano := if t.isLeap then t.nano - 1000000000 else t.nano
    offset := 0 }

theorem reading?_writeChars (t : Instant) : reading? (Rfc3339.writeChars t) = some (parts t) := by
  have ⟨month, day⟩ := Date.ofDays_le (t.second / 86400)
  have nano : (if t.isLeap then t.nano - 1000000000 else t.nano) < 1000000000 := by
    have bound := t.nano_lt
    by_cases leap : t.isLeap
    · rw [if_pos leap]
      omega
    · rw [if_neg leap]
      exact Nat.lt_of_not_le leap
  have second : (t.second % 86400).toNat % 60 + (if t.isLeap then 1 else 0) < 100 := by
    split <;> omega
  simp only [reading?, Rfc3339.writeChars, List.append_assoc, List.cons_append, year?_writeYear,
    bind, Option.bind_some]
  rw [markedNumber?_padded rfl (by omega)]
  simp only [Option.bind_some]
  rw [markedNumber?_padded rfl (by omega)]
  have mark : ∀ s, ((expect? 'T' ('T' :: s) <|> expect? 't' ('T' :: s)) <|>
      expect? ' ' ('T' :: s)) = some s := fun _ => rfl
  simp only [Option.bind_some, mark, skipBlank_padded]
  rw [upTo?_padded (by decide) (show _ < 100 by omega)]
  simp only [Option.bind_some]
  rw [markedNumber?_padded rfl (by omega)]
  simp only [Option.bind_some]
  rw [markedNumber?_padded rfl second]
  simp only [Option.bind_some]
  rw [fraction?_writeFraction nano]
  rfl

/-- The instant of a date and a time of day in UTC. -/
theorem toInstant?_utc {r : Reading} (date : r.date.isValid) (hour : r.hour < 24)
    (minute : r.minute < 60) (second : r.second ≤ 60) (nano : r.nano < 1000000000)
    (utc : r.offset = 0) :
    ∃ t, r.toInstant? = some t ∧
      t.second = (r.date.toDays * 1440 + r.hour * 60 + r.minute) * 60 + min r.second 59 ∧
      t.nano = r.nano + if r.second = 60 then 1000000000 else 0 := by
  unfold Reading.toInstant?
  rw [if_pos (by simp [date, hour, minute, second, utc])]
  simp only [dif_pos nano, utc]
  by_cases leap : r.second = 60
  · simp only [if_pos leap]
    exact ⟨_, rfl, by simp only; omega, rfl⟩
  · simp only [if_neg leap]
    exact ⟨_, rfl, by simp only; omega, rfl⟩

theorem toInstant?_parts (t : Instant) : (parts t).toInstant? = some t := by
  have days : (Date.ofDays (t.second / 86400)).toDays = t.second / 86400 := Date.toDays_ofDays _
  have bound : t.nano < 2000000000 := t.nano_lt
  have hour : (t.second % 86400).toNat / 3600 < 24 := by omega
  have minute : (t.second % 86400).toNat / 60 % 60 < 60 := by omega
  by_cases leap : t.isLeap
  · have last : (t.second % 86400).toNat % 60 = 59 := by
      have late : t.second % 60 = 59 := t.leap_at leap
      omega
    have billion : 1000000000 ≤ t.nano := leap
    obtain ⟨u, read, second, nano⟩ := toInstant?_utc (r := parts t) (Date.isValid_ofDays _) hour
      minute (by simp [parts, leap, last]) (by simp only [parts, if_pos leap]; omega) rfl
    simp only [parts, if_pos leap, last, days, if_true] at second nano
    rw [read]
    exact congrArg some (Instant.ext (by omega) (by omega))
  · have ordinary : t.nano < 1000000000 := Nat.lt_of_not_le leap
    obtain ⟨u, read, second, nano⟩ := toInstant?_utc (r := parts t) (Date.isValid_ofDays _) hour
      minute (by simp only [parts, if_neg leap]; omega) (by simp only [parts, if_neg leap]; omega)
      rfl
    simp only [parts, if_neg leap, days] at second nano
    rw [if_neg (by omega)] at nano
    rw [read]
    exact congrArg some (Instant.ext (by omega) (by omega))

/-- A timestamp reads as the instant that it was written for. -/
theorem read?_write (t : Instant) : read? (Rfc3339.write t) = some t := by
  rw [read?, Rfc3339.write, String.toList_ofList, reading?_writeChars]
  exact toInstant?_parts t

end Gatehouse.Lenient
