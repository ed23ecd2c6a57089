import Gatehouse.Bytes.Base64
import Gatehouse.Proofs.Text.Blank

/-! # Base64 read back

Reading inverts writing and takes nothing else: a group of characters is read only if it is the one
that its bytes are written as, so every byte string has one text.
-/

namespace Gatehouse.Base64

variable {c w x y z : Char} {n : Nat} {bytes group : Bytes} {cs rest : List Char}

theorem value?_char (small : n < 64) : value? (char n) = some n := by
  have all : ∀ n : Fin 64, value? (char n.val) = some n.val := by decide
  exact all ⟨n, small⟩

theorem char_of_value? (read : value? c = some n) : n < 64 ∧ c = char n := by
  have code : ∀ lo hi : Char, lo ≤ c ∧ c ≤ hi → lo.toNat ≤ c.toNat ∧ c.toNat ≤ hi.toNat := by
    rintro lo hi ⟨above, below⟩
    exact ⟨above, below⟩
  have same : ∀ m, m = c.toNat → c = Char.ofNat m := by
    rintro m rfl
    exact (Char.ofNat_toNat c).symm
  unfold value? at read
  split_ifs at read with upper lower digit plus slash
  · have range : 65 ≤ c.toNat ∧ c.toNat ≤ 90 := code 'A' 'Z' upper
    obtain rfl := Option.some.inj read
    refine ⟨by omega, ?_⟩
    rw [char, if_pos (by omega)]
    exact same _ (by omega)
  · have range : 97 ≤ c.toNat ∧ c.toNat ≤ 122 := code 'a' 'z' lower
    obtain rfl := Option.some.inj read
    refine ⟨by omega, ?_⟩
    rw [char, if_neg (by omega), if_pos (by omega)]
    exact same _ (by omega)
  · have range : 48 ≤ c.toNat ∧ c.toNat ≤ 57 := code '0' '9' digit
    obtain rfl := Option.some.inj read
    refine ⟨by omega, ?_⟩
    rw [char, if_neg (by omega), if_neg (by omega), if_pos (by omega)]
    exact same _ (by omega)
  · obtain rfl := Option.some.inj read
    exact ⟨by omega, plus⟩
  · obtain rfl := Option.some.inj read
    exact ⟨by omega, slash⟩

theorem char_ne_pad (small : n < 64) : char n ≠ '=' := by
  intro pad
  have read := value?_char small
  rw [pad] at read
  cases read

/-! ## Groups -/

theorem ofNat_of_toNat (a : UInt8) (h : n = a.toNat) : UInt8.ofNat n = a := by
  rw [h, UInt8.ofNat_toNat]

theorem decodeOne_eq_some_iff : decodeOne w x = some group ↔
    ∃ a : UInt8, group = [a] ∧ w = char (a.toNat / 4) ∧ x = char (a.toNat % 4 * 16) := by
  constructor
  · intro read
    simp only [decodeOne, bind, Option.bind_eq_some_iff] at read
    obtain ⟨i, first, j, second, read⟩ := read
    obtain ⟨i_lt, rfl⟩ := char_of_value? first
    obtain ⟨j_lt, rfl⟩ := char_of_value? second
    split at read
    · next spare =>
        obtain rfl := Option.some.inj read
        have byte := UInt8.toNat_ofNat_of_lt' (show i * 4 + j / 16 < 256 by omega)
        refine ⟨_, rfl, congrArg char ?_, congrArg char ?_⟩ <;> omega
    · cases read
  · rintro ⟨a, rfl, rfl, rfl⟩
    have bound := a.toNat_lt
    simp only [decodeOne, bind, Option.bind_some, value?_char (show a.toNat / 4 < 64 by omega),
      value?_char (show a.toNat % 4 * 16 < 64 by omega)]
    rw [if_pos (by omega), ofNat_of_toNat a (by omega)]
    rfl

theorem decodeTwo_eq_some_iff : decodeTwo w x y = some group ↔
    ∃ a b : UInt8, group = [a, b] ∧ w = char (a.toNat / 4) ∧
      x = char (a.toNat % 4 * 16 + b.toNat / 16) ∧ y = char (b.toNat % 16 * 4) := by
  constructor
  · intro read
    simp only [decodeTwo, bind, Option.bind_eq_some_iff] at read
    obtain ⟨i, first, j, second, k, third, read⟩ := read
    obtain ⟨i_lt, rfl⟩ := char_of_value? first
    obtain ⟨j_lt, rfl⟩ := char_of_value? second
    obtain ⟨k_lt, rfl⟩ := char_of_value? third
    split at read
    · next spare =>
        obtain rfl := Option.some.inj read
        have byte := UInt8.toNat_ofNat_of_lt' (show i * 4 + j / 16 < 256 by omega)
        have byte' := UInt8.toNat_ofNat_of_lt' (show j % 16 * 16 + k / 4 < 256 by omega)
        refine ⟨_, _, rfl, congrArg char ?_, congrArg char ?_, congrArg char ?_⟩ <;> omega
    · cases read
  · rintro ⟨a, b, rfl, rfl, rfl, rfl⟩
    have bound := a.toNat_lt
    have bound' := b.toNat_lt
    simp only [decodeTwo, bind, Option.bind_some, value?_char (show a.toNat / 4 < 64 by omega),
      value?_char (show a.toNat % 4 * 16 + b.toNat / 16 < 64 by omega),
      value?_char (show b.toNat % 16 * 4 < 64 by omega)]
    rw [if_pos (by omega), ofNat_of_toNat a (by omega), ofNat_of_toNat b (by omega)]
    rfl

theorem decodeThree_eq_some_iff : decodeThree w x y z = some group ↔
    ∃ a b c : UInt8, group = [a, b, c] ∧ w = char (a.toNat / 4) ∧
      x = char (a.toNat % 4 * 16 + b.toNat / 16) ∧ y = char (b.toNat % 16 * 4 + c.toNat / 64) ∧
      z = char (c.toNat % 64) := by
  constructor
  · intro read
    simp only [decodeThree, bind, Option.bind_eq_some_iff] at read
    obtain ⟨i, first, j, second, k, third, l, fourth, read⟩ := read
    obtain ⟨i_lt, rfl⟩ := char_of_value? first
    obtain ⟨j_lt, rfl⟩ := char_of_value? second
    obtain ⟨k_lt, rfl⟩ := char_of_value? third
    obtain ⟨l_lt, rfl⟩ := char_of_value? fourth
    obtain rfl := Option.some.inj read
    have byte := UInt8.toNat_ofNat_of_lt' (show i * 4 + j / 16 < 256 by omega)
    have byte' := UInt8.toNat_ofNat_of_lt' (show j % 16 * 16 + k / 4 < 256 by omega)
    have byte'' := UInt8.toNat_ofNat_of_lt' (show k % 4 * 64 + l < 256 by omega)
    refine ⟨_, _, _, rfl, congrArg char ?_, congrArg char ?_, congrArg char ?_,
      congrArg char ?_⟩ <;> omega
  · rintro ⟨a, b, c, rfl, rfl, rfl, rfl, rfl⟩
    have bound := a.toNat_lt
    have bound' := b.toNat_lt
    have bound'' := c.toNat_lt
    simp only [decodeThree, bind, Option.bind_some, value?_char (show a.toNat / 4 < 64 by omega),
      value?_char (show a.toNat % 4 * 16 + b.toNat / 16 < 64 by omega),
      value?_char (show b.toNat % 16 * 4 + c.toNat / 64 < 64 by omega),
      value?_char (show c.toNat % 64 < 64 by omega)]
    rw [ofNat_of_toNat a (by omega), ofNat_of_toNat b (by omega), ofNat_of_toNat c (by omega)]
    rfl

/-! ## Texts -/

theorem decodeChars_pad_one (h : y ≠ '=') : decodeChars [w, x, y, '='] = decodeTwo w x y := by
  rw [decodeChars]
  exact h

theorem decodeChars_full (h : z ≠ '=') : decodeChars (w :: x :: y :: z :: rest) =
    (decodeThree w x y z).bind fun group => (decodeChars rest).map (group ++ ·) := by
  rw [decodeChars]
  · cases decodeThree w x y z <;> cases decodeChars rest <;> rfl
  · intro _ pad
    exact absurd pad h
  · intro pad
    exact absurd pad h

/-- What is written reads as the bytes that it was written for. -/
theorem decodeChars_encodeChars (bytes : Bytes) : decodeChars (encodeChars bytes) = some bytes := by
  fun_induction encodeChars bytes with
  | case1 => rfl
  | case2 a => exact decodeOne_eq_some_iff.2 ⟨a, rfl, rfl, rfl⟩
  | case3 a b =>
      rw [decodeChars_pad_one (char_ne_pad (by omega))]
      exact decodeTwo_eq_some_iff.2 ⟨a, b, rfl, rfl, rfl, rfl⟩
  | case4 a b c rest ih =>
      have first := decodeThree_eq_some_iff.2 ⟨a, b, c, rfl, rfl, rfl, rfl, rfl⟩
      rw [decodeChars_full (char_ne_pad (by omega)), first, ih]
      rfl

/-- What is read is what its bytes are written as. -/
theorem encodeChars_of_decodeChars (read : decodeChars cs = some bytes) :
    encodeChars bytes = cs := by
  fun_induction decodeChars cs generalizing bytes with
  | case1 =>
      obtain rfl := Option.some.inj read
      rfl
  | case2 w x =>
      obtain ⟨a, rfl, rfl, rfl⟩ := decodeOne_eq_some_iff.1 read
      rfl
  | case3 w x y _ =>
      obtain ⟨a, b, rfl, rfl, rfl, rfl⟩ := decodeTwo_eq_some_iff.1 read
      rfl
  | case4 w x y z rest _ _ ih =>
      simp only [bind, Option.bind_eq_some_iff] at read
      obtain ⟨group, first, more, others, whole⟩ := read
      obtain ⟨a, b, c, rfl, rfl, rfl, rfl, rfl⟩ := decodeThree_eq_some_iff.1 first
      obtain rfl := Option.some.inj whole
      simp only [List.cons_append, List.nil_append, encodeChars, ih others]
  | case5 => cases read

theorem decode_eq_some_iff {text : String} : decode text = some bytes ↔ text = encode bytes := by
  constructor
  · intro read
    rw [encode, encodeChars_of_decodeChars read, String.ofList_toList]
  · rintro rfl
    rw [decode, encode, String.toList_ofList, decodeChars_encodeChars]

/-! ## White space and other characters -/

theorem char_small (n : Nat) : ∃ m : Fin 64, char n = char m := by
  by_cases small : n < 64
  · exact ⟨⟨n, small⟩, rfl⟩
  · refine ⟨63, ?_⟩
    rw [char, if_neg (by omega), if_neg (by omega), if_neg (by omega), if_neg (by omega)]
    rfl

theorem isBlank_char (n : Nat) : Text.isBlank (char n) = false := by
  have all : ∀ m : Fin 64, Text.isBlank (char m) = false := by decide
  obtain ⟨m, same⟩ := char_small n
  rw [same, all m]

theorem char_ne_dash (n : Nat) : char n ≠ '-' := by
  have all : ∀ m : Fin 64, char m ≠ '-' := by decide
  obtain ⟨m, same⟩ := char_small n
  rw [same]
  exact all m

theorem of_mem_encodeChars (bytes : Bytes) :
    ∀ c ∈ encodeChars bytes, (∃ n, c = char n) ∨ c = '=' := by
  fun_induction encodeChars bytes with
  | case1 => simp
  | case2 a => simp
  | case3 a b => simp
  | case4 a b c rest ih => simpa using ih

/-- There is no white space in what is written. -/
theorem isBlank_of_mem_encodeChars (bytes : Bytes) :
    ∀ c ∈ encodeChars bytes, Text.isBlank c = false := by
  intro c mem
  obtain ⟨n, rfl⟩ | rfl := of_mem_encodeChars bytes c mem
  · exact isBlank_char n
  · rfl

theorem dash_not_mem_encodeChars (bytes : Bytes) : '-' ∉ encodeChars bytes := by
  intro mem
  obtain ⟨n, same⟩ | pad := of_mem_encodeChars bytes '-' mem
  · exact char_ne_dash n same.symm
  · cases pad

theorem trimmed_encode (bytes : Bytes) : Text.trimmed (encode bytes) = encode bytes := by
  rw [Text.trimmed, encode, String.toList_ofList, Text.trim,
    Text.strip_of_kept (isBlank_of_mem_encodeChars bytes)]

end Gatehouse.Base64
