import Gatehouse.Config.Attributes
import Gatehouse.Proofs.Text.Blank
import Gatehouse.Proofs.Text.Decimal

/-! # Integer attributes

An integer attribute is absent, is the number that its digits denote, or is refused. There are as
many digits as the writer likes, and the number is compared with the bound as a whole: it is neither
cut off nor taken modulo anything.
-/

namespace Gatehouse

namespace Text

/-- One or more digits that denote a number, and perhaps a plus sign before them. -/
def Denotes (s : List Char) (n : Nat) : Prop :=
  ∃ digits, (s = digits ∨ s = '+' :: digits) ∧ digits ≠ [] ∧ (∀ c ∈ digits, c.isDigit) ∧
    Nat.ofDigitChars 10 digits 0 = n

variable {s rest : List Char} {limit n : Nat}

theorem denotes_iff :
    Denotes s n ↔ numeral? s = some n ∨ ∃ rest, s = '+' :: rest ∧ numeral? rest = some n := by
  simp only [Denotes, ← numeral?_eq_some_iff]
  constructor
  · rintro ⟨digits, rfl | rfl, read⟩
    · exact .inl read
    · exact .inr ⟨digits, rfl, read⟩
  · rintro (read | ⟨digits, rfl, read⟩)
    · exact ⟨s, .inl rfl, read⟩
    · exact ⟨digits, .inr rfl, read⟩

theorem Denotes.ne_nil (denotes : Denotes s n) : s ≠ [] := by
  obtain ⟨digits, rfl | rfl, ne, -, -⟩ := denotes
  · exact ne
  · exact List.cons_ne_nil _ _

theorem numeral?_plus : numeral? ('+' :: rest) ≠ some n := by
  intro read
  obtain ⟨-, all, -⟩ := numeral?_eq_some_iff.1 read
  exact absurd (all '+' List.mem_cons_self) (by decide)

theorem bounded?_eq_some_iff : bounded? limit s = some n ↔ Denotes s n ∧ n < limit := by
  unfold bounded?
  rw [Option.filter_eq_some_iff, denotes_iff, decide_eq_true_eq]
  split
  · next rest => simp [numeral?_plus]
  · next unsigned =>
      have plain : ¬ ∃ rest, s = '+' :: rest ∧ numeral? rest = some n :=
        fun ⟨rest, signed, _⟩ => unsigned rest signed
      rw [or_iff_left plain]

theorem bounded?_eq_none_iff : bounded? limit s = none ↔ ¬ ∃ n, Denotes s n ∧ n < limit := by
  rw [Option.eq_none_iff_forall_ne_some]
  simp only [ne_eq, bounded?_eq_some_iff, not_exists]

end Text

namespace Attributes

variable {attributes : Attributes} {name : String} {t : List Char} {n : Nat} {fault : Error}

theorem chars?_eq_none_iff : attributes.chars? name = none ↔ attributes.lookup name = none ∨
    ∃ v, attributes.lookup name = some v ∧ ∀ c ∈ v.toList, Text.isBlank c = true := by
  rw [chars?]
  cases attributes.lookup name with
  | none => simp
  | some v => simp [Option.filter, Text.trim, Text.strip_eq_nil_iff]

theorem chars?_eq_some_iff : attributes.chars? name = some t ↔
    ∃ v, attributes.lookup name = some v ∧ Text.trim v.toList = t ∧ t ≠ [] := by
  rw [chars?, Option.filter_eq_some_iff, Option.map_eq_some_iff]
  simp [← and_assoc]

theorem word?_eq_none_iff : attributes.word? name = .ok none ↔ attributes.chars? name = none := by
  unfold word?
  cases attributes.chars? name with
  | none => simp
  | some t => cases bounded : Text.bounded? UInt32.size t <;> simp [bounded]

theorem word?_eq_some_iff : attributes.word? name = .ok (some n) ↔
    ∃ t, attributes.chars? name = some t ∧ Text.bounded? UInt32.size t = some n := by
  unfold word?
  cases attributes.chars? name with
  | none => simp
  | some t => cases bounded : Text.bounded? UInt32.size t <;> simp [bounded]

theorem word?_eq_error_iff : attributes.word? name = .error fault ↔
    ∃ t, attributes.chars? name = some t ∧ Text.bounded? UInt32.size t = none ∧
      fault = .configuration (.notAnInteger name (String.ofList t)) := by
  unfold word?
  cases attributes.chars? name with
  | none => simp
  | some t => cases bounded : Text.bounded? UInt32.size t <;> simp [bounded, eq_comm]

/-- An integer attribute is read as nothing iff it is absent or blank, as a number iff its trimmed
value denotes that number and the number is below 2^32, and is refused by its name in all other
cases. -/
theorem word?_reads_exactly (attributes : Attributes) (name : String) :
    (attributes.word? name = .ok none ↔ attributes.lookup name = none ∨
      ∃ v, attributes.lookup name = some v ∧ ∀ c ∈ v.toList, Text.isBlank c = true) ∧
    (∀ n, attributes.word? name = .ok (some n) ↔
      ∃ v, attributes.lookup name = some v ∧ Text.Denotes (Text.trim v.toList) n ∧
        n ≤ 4294967295) ∧
    ∀ fault, attributes.word? name = .error fault ↔
      ∃ v, attributes.lookup name = some v ∧ ¬ (∀ c ∈ v.toList, Text.isBlank c = true) ∧
        ¬ (∃ n, Text.Denotes (Text.trim v.toList) n ∧ n ≤ 4294967295) ∧
        fault = .configuration (.notAnInteger name (Text.trimmed v)) ∧
        fault.message = "configuration error: " ++
          ("attribute " ++ name ++ " must be a non-negative integer, got '" ++
            Text.trimmed v ++ "'") := by
  have bound (n : Nat) : n < UInt32.size ↔ n ≤ 4294967295 := Nat.lt_succ_iff
  refine ⟨word?_eq_none_iff.trans chars?_eq_none_iff, fun n => ?_, fun fault => ?_⟩
  · simp only [word?_eq_some_iff, chars?_eq_some_iff, Text.bounded?_eq_some_iff, bound]
    constructor
    · rintro ⟨_, ⟨v, found, rfl, -⟩, denotes, small⟩
      exact ⟨v, found, denotes, small⟩
    · rintro ⟨v, found, denotes, small⟩
      exact ⟨_, ⟨v, found, rfl, denotes.ne_nil⟩, denotes, small⟩
  · have blank (v : String) : Text.trim v.toList = [] ↔ ∀ c ∈ v.toList, Text.isBlank c = true :=
      Text.strip_eq_nil_iff
    simp only [word?_eq_error_iff, chars?_eq_some_iff, Text.bounded?_eq_none_iff, ← blank, bound]
    constructor
    · rintro ⟨_, ⟨v, found, rfl, ne⟩, unread, rfl⟩
      exact ⟨v, found, ne, unread, rfl, rfl⟩
    · rintro ⟨v, found, ne, unread, rfl, -⟩
      exact ⟨_, ⟨v, found, rfl, ne⟩, unread, rfl⟩

/-- The last number there is room for, after a sign and zeros and in blanks, and the next one. -/
example :
    word? [("expires", "\u3000+004294967295 ")] "expires" = .ok (some 4294967295) ∧
      word? [("expires", "4294967296")] "expires" =
        .error (.configuration (.notAnInteger "expires" "4294967296")) := by
  decide

end Attributes

end Gatehouse
