import Gatehouse.Time.Calendar

/-! # Days and dates

Every day has a date, which counts back to that day. The day of an era is taken apart into whole
centuries, whole cycles of four years, whole years and a rest; only the last year of a cycle can
have a day more, and the last cycle of a century lacks it, except in the last century of the era.
-/

namespace Gatehouse.Date

/-- The parts of a day of an era. -/
structure EraParts (day century cycle year rest : Int) : Prop where
  sum : day = 36524 * century + 1461 * cycle + 365 * year + rest
  century_mem : 0 ≤ century ∧ century ≤ 3
  cycle_mem : 0 ≤ cycle ∧ cycle ≤ 24
  year_mem : 0 ≤ year ∧ year ≤ 3
  rest_mem : 0 ≤ rest ∧ rest ≤ 365
  leap : rest = 365 → year = 3 ∧ (cycle < 24 ∨ century = 3)

variable {day century cycle year rest : Int}

theorem eraParts_exist (low : 0 ≤ day) (high : day < 146097) :
    ∃ century cycle year rest, EraParts day century cycle year rest := by
  obtain ⟨century, hc⟩ : ∃ c, c = min (day / 36524) 3 := ⟨_, rfl⟩
  obtain ⟨inCentury, hi⟩ : ∃ i, i = day - 36524 * century := ⟨_, rfl⟩
  obtain ⟨inCycle, hr⟩ : ∃ r, r = inCentury % 1461 := ⟨_, rfl⟩
  obtain ⟨year, hy⟩ : ∃ y, y = min (inCycle / 365) 3 := ⟨_, rfl⟩
  refine ⟨century, inCentury / 1461, year, inCycle - 365 * year, ?_, ?_, ?_, ?_, ?_, ?_⟩
  all_goals omega

theorem eraParts_ofDays (days : Int) :
    ∃ century cycle year rest,
      EraParts ((days + 719468) % 146097) century cycle year rest :=
  eraParts_exist (Int.emod_nonneg _ (by decide)) (Int.emod_lt_of_pos _ (by decide))

theorem EraParts.yearOfEra (p : EraParts day century cycle year rest) :
    (day - day / 1460 + day / 36524 - day / 146096) / 365 = 100 * century + 4 * cycle + year := by
  obtain ⟨sum, _, _, _, _, leap⟩ := p
  by_cases last : day = 146096
  · have parts : century = 3 ∧ cycle = 24 ∧ year = 3 := by omega
    rw [last, parts.1, parts.2.1, parts.2.2]
    rfl
  · have below : 1461 * cycle + 365 * year + rest < 36524 := by omega
    have centuries : day / 36524 = century := by omega
    have eras : day / 146096 = 0 := by omega
    -- The leap days before this one count up by cycles, once more when the last cycle has begun.
    by_cases past : 24 * century + cycle + 365 * year + rest < 1460
    · have cycles : day / 1460 = 25 * century + cycle := by omega
      rw [centuries, eras, cycles]
      omega
    · have cycles : day / 1460 = 25 * century + cycle + 1 := by omega
      rw [centuries, eras, cycles]
      omega

theorem EraParts.dayOfYear (p : EraParts day century cycle year rest) :
    day - (365 * (100 * century + 4 * cycle + year) + (100 * century + 4 * cycle + year) / 4 -
      (100 * century + 4 * cycle + year) / 100) = rest := by
  obtain ⟨sum, _, _, _, _, _⟩ := p
  have cycles : (100 * century + 4 * cycle + year) / 4 = 25 * century + cycle := by omega
  have centuries : (100 * century + 4 * cycle + year) / 100 = century := by omega
  rw [cycles, centuries]
  omega

/-- A year that begins in March and has its leap day has it in a leap year. -/
theorem EraParts.isLeapYear (p : EraParts day century cycle year rest) (long : rest = 365)
    (era : Int) :
    isLeapYear (100 * century + 4 * cycle + year + era * 400 + 1) = true := by
  obtain ⟨_, _, _, _, _, leap⟩ := p
  obtain ⟨last, cycles⟩ := leap long
  simp only [Date.isLeapYear, Bool.and_eq_true, Bool.or_eq_true, decide_eq_true_eq]
  omega

/-- The date of a day, month and day of the month told apart by the turn of the year. -/
theorem ofDays_eq {days : Int} (p : EraParts ((days + 719468) % 146097) century cycle year rest) :
    let month := (5 * rest + 2) / 153
    let day := rest - (153 * month + 2) / 5 + 1
    let march := 100 * century + 4 * cycle + year + (days + 719468) / 146097 * 400
    0 ≤ month ∧ month ≤ 11 ∧ 1 ≤ day ∧
      (month < 10 ∧ ofDays days = ⟨march, (month + 3).toNat, day.toNat⟩ ∨
        10 ≤ month ∧ ofDays days = ⟨march + 1, (month - 9).toNat, day.toNat⟩) := by
  intro month day march
  have bounds := p.rest_mem
  refine ⟨by omega, by omega, by omega, ?_⟩
  by_cases early : month < 10
  · refine .inl ⟨early, ?_⟩
    have late : ¬ month + 3 ≤ 2 := by omega
    simp only [ofDays, p.yearOfEra, p.dayOfYear]
    rw [if_pos early, if_neg late, Int.add_zero]
  · refine .inr ⟨by omega, ?_⟩
    have soon : month - 9 ≤ 2 := by omega
    simp only [ofDays, p.yearOfEra, p.dayOfYear]
    rw [if_neg early, if_pos soon]

/-- The day that the parts of its date count to. -/
theorem EraParts.toDays {days y m d : Int}
    (p : EraParts ((days + 719468) % 146097) century cycle year rest)
    (march : y = 100 * century + 4 * cycle + year + (days + 719468) / 146097 * 400)
    (inYear : (153 * m + 2) / 5 + d - 1 = rest) :
    y / 400 * 146097 + (y % 400 * 365 + y % 400 / 4 - y % 400 / 100 +
      ((153 * m + 2) / 5 + d - 1)) - 719468 = days := by
  have whole := p.dayOfYear
  have inCentury := p.century_mem
  have inCycle := p.cycle_mem
  have inFour := p.year_mem
  have era : y / 400 = (days + 719468) / 146097 := by omega
  have yearOfEra : y % 400 = 100 * century + 4 * cycle + year := by omega
  rw [era, yearOfEra, inYear]
  omega

theorem toDays_ofDays (days : Int) : (ofDays days).toDays = days := by
  obtain ⟨century, cycle, year, rest, p⟩ := eraParts_ofDays days
  obtain ⟨low, high, first, ⟨early, date⟩ | ⟨late, date⟩⟩ := ofDays_eq p
  · rw [date]
    have month : ¬ ((5 * rest + 2) / 153 + 3).toNat ≤ 2 := by omega
    simp only [Date.toDays, if_neg month]
    exact p.toDays rfl (by omega)
  · rw [date]
    have month : ((5 * rest + 2) / 153 - 9).toNat ≤ 2 := by omega
    simp only [Date.toDays, if_pos month]
    exact p.toDays (by omega) (by omega)

theorem isValid_ofDays (days : Int) : (ofDays days).isValid = true := by
  obtain ⟨century, cycle, year, rest, p⟩ := eraParts_ofDays days
  have bounds := p.rest_mem
  obtain ⟨low, high, first, ⟨early, date⟩ | ⟨late, date⟩⟩ := ofDays_eq p
  · rw [date]
    have month : ((5 * rest + 2) / 153 + 3).toNat ≠ 2 := by omega
    simp only [isValid, daysInMonth, if_neg month, Bool.and_eq_true, decide_eq_true_eq]
    refine ⟨⟨⟨by omega, by omega⟩, by omega⟩, ?_⟩
    split <;> omega
  · rw [date]
    simp only [isValid, daysInMonth, Bool.and_eq_true, decide_eq_true_eq]
    refine ⟨⟨⟨by omega, by omega⟩, by omega⟩, ?_⟩
    by_cases february : ((5 * rest + 2) / 153 - 9).toNat = 2
    · rw [if_pos february]
      by_cases long : rest = 365
      · rw [p.isLeapYear long]
        simp only [if_true]
        omega
      · split <;> omega
    · rw [if_neg february]
      split <;> omega

theorem daysInMonth_le (year : Int) (month : Nat) : daysInMonth year month ≤ 31 := by
  unfold daysInMonth
  repeat' split
  all_goals decide

theorem ofDays_le (days : Int) : (ofDays days).month ≤ 12 ∧ (ofDays days).day ≤ 31 := by
  have valid := isValid_ofDays days
  simp only [isValid, Bool.and_eq_true, decide_eq_true_eq] at valid
  exact ⟨valid.1.1.2, Nat.le_trans valid.2 (daysInMonth_le _ _)⟩

end Gatehouse.Date
