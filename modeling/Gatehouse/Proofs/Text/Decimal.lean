import Gatehouse.Text.Decimal

/-! # Decimal numerals read back

What is printed with a fixed number of digits, or with as many as it takes, reads as the number
printed. Leading zeros do not count.
-/

namespace Gatehouse.Text

variable {c : Char} {s : List Char} {width n : Nat}

theorem isDigit_iff : c.isDigit ↔ '0' ≤ c ∧ c ≤ '9' := by
  simp [Char.isDigit, Char.le_def]

theorem digit?_of_isDigit (h : c.isDigit) : digit? c = some (c.toNat - '0'.toNat) := by
  rw [digit?, if_pos (isDigit_iff.1 h)]
  rfl

theorem digit?_isSome (c : Char) : (digit? c).isSome = c.isDigit := by
  by_cases h : c.isDigit
  · rw [digit?_of_isDigit h, h]
    rfl
  · rw [digit?, if_neg (mt isDigit_iff.2 h)]
    simpa using h

theorem mapM_digit? (h : ∀ c ∈ s, c.isDigit) :
    s.mapM digit? = some (s.map fun c => c.toNat - '0'.toNat) := by
  induction s with
  | nil => rfl
  | cons c s ih =>
      rw [List.mapM_cons, digit?_of_isDigit (h c (by simp)), ih fun d hd => h d (by simp [hd])]
      rfl

/-- One or more digits are the numeral of the number that they make. -/
theorem numeral?_of_digits (ne : s ≠ []) (h : ∀ c ∈ s, c.isDigit) :
    numeral? s = some (Nat.ofDigitChars 10 s 0) := by
  rw [numeral?, if_neg (by simpa using ne), mapM_digit? h, Option.map_some, ofDigits,
    List.foldl_map, Nat.ofDigitChars_eq_foldl]
  simp only [Nat.mul_comm]

theorem isDigit_of_mapM {ds : List Nat} (read : s.mapM digit? = some ds) : ∀ c ∈ s, c.isDigit := by
  induction s generalizing ds with
  | nil => simp
  | cons c s ih =>
      rw [List.mapM_cons] at read
      obtain ⟨d, first, rest⟩ := Option.bind_eq_some_iff.1 read
      obtain ⟨ds, rest, -⟩ := Option.bind_eq_some_iff.1 rest
      have digit : c.isDigit := by rw [← digit?_isSome, first, Option.isSome_some]
      exact List.forall_mem_cons.2 ⟨digit, ih rest⟩

theorem numeral?_eq_some_iff : numeral? s = some n ↔
    s ≠ [] ∧ (∀ c ∈ s, c.isDigit) ∧ Nat.ofDigitChars 10 s 0 = n := by
  constructor
  · intro read
    have ne : s ≠ [] := by
      rintro rfl
      cases read
    have all : ∀ c ∈ s, c.isDigit := by
      rw [numeral?, if_neg (by simpa using ne)] at read
      obtain ⟨ds, digits, -⟩ := Option.map_eq_some_iff.1 read
      exact isDigit_of_mapM digits
    rw [numeral?_of_digits ne all] at read
    exact ⟨ne, all, Option.some.inj read⟩
  · rintro ⟨ne, all, rfl⟩
    exact numeral?_of_digits ne all

theorem padded_isDigit (h : c ∈ padded width n) : c.isDigit := by
  induction width generalizing n with
  | zero => simp [padded] at h
  | succ width ih =>
      rcases List.mem_append.1 h with before | last
      · exact ih before
      · rw [List.mem_singleton.1 last]
        simpa using Nat.mod_lt n (show 0 < 10 by decide)

theorem ofDigitChars_padded (h : n < Nat.pow 10 width) :
    Nat.ofDigitChars 10 (padded width n) 0 = n := by
  induction width generalizing n with
  | zero =>
      have zero : n = 0 := Nat.lt_one_iff.1 h
      simp [padded, zero]
  | succ width ih =>
      have less : n / 10 < Nat.pow 10 width := Nat.div_lt_of_lt_mul (Nat.mul_comm _ _ ▸ h)
      rw [padded, Nat.ofDigitChars_append, ih less,
        Nat.ofDigitChars_cons_digitChar_of_lt_ten (Nat.mod_lt n (by decide)), Nat.ofDigitChars_nil]
      omega

theorem padded_ne_nil (h : 0 < width) : padded width n ≠ [] := by
  intro empty
  have length := padded_length width n
  rw [empty, List.length_nil] at length
  omega

theorem numeral?_padded (pos : 0 < width) (h : n < Nat.pow 10 width) :
    numeral? (padded width n) = some n := by
  rw [numeral?_of_digits (padded_ne_nil pos) fun _ => padded_isDigit, ofDigitChars_padded h]

theorem digits_isDigit (h : c ∈ digits n) : c.isDigit :=
  Nat.isDigit_of_mem_toDigits (by decide) (by decide) h

/-- A number printed in full reads as that number, with any number of zeros before it. -/
theorem numeral?_zeros_digits (zeros n : Nat) :
    numeral? (List.replicate zeros '0' ++ digits n) = some n := by
  have ne : List.replicate zeros '0' ++ digits n ≠ [] := by
    simp [digits, Nat.toDigits_ne_nil]
  have all : ∀ c ∈ List.replicate zeros '0' ++ digits n, c.isDigit := by
    intro c hc
    rcases List.mem_append.1 hc with zero | digit
    · rw [List.eq_of_mem_replicate zero]
      rfl
    · exact digits_isDigit digit
  rw [numeral?_of_digits ne all, Nat.ofDigitChars_append, Nat.ofDigitChars_replicate_zero,
    Nat.mul_zero, digits, Nat.ofDigitChars_ten_toDigits]

end Gatehouse.Text
