import Gatehouse.Json.Reader
import Gatehouse.Json.Writer
import Gatehouse.Proofs.Bytes.Hex

/-! # Written JSON read back

An object whose values are strings reads as it was written, whatever its strings contain: what
would end a string early is escaped, and no character is half of a surrogate pair.
-/

namespace Gatehouse

theorem Char.toNat_valid (c : Char) : c.toNat < 0xD800 ∨ 0xDFFF < c.toNat := by
  rcases c.valid with low | high
  · exact .inl low
  · exact .inr high.1

/-- The code points of a text are its units, since none is a surrogate. -/
theorem Utf16.ofUnits?_map_toNat (cs : List Char) : ofUnits? (cs.map Char.toNat) = some cs := by
  have high : ∀ c : Char, isHighSurrogate c.toNat = false := by
    intro c
    have valid := Char.toNat_valid c
    simp only [isHighSurrogate, Bool.and_eq_false_iff, decide_eq_false_iff_not]
    omega
  have low : ∀ c : Char, isLowSurrogate c.toNat = false := by
    intro c
    have valid := Char.toNat_valid c
    simp only [isLowSurrogate, Bool.and_eq_false_iff, decide_eq_false_iff_not]
    omega
  induction cs with
  | nil => rfl
  | cons c cs ih =>
      cases cs with
      | nil => simp [ofUnits?, high, low]
      | cons d cs =>
          simp only [List.map_cons] at ih ⊢
          simp [ofUnits?, high, low, ih]

namespace Json

variable {rest : List Char}

theorem skipSpace_cons {c : Char} (h : isSpace c = false) : skipSpace (c :: rest) = c :: rest := by
  simp [skipSpace, h]

theorem readString_letter {letter c : Char} (h : letter ≠ 'u') (means : escaped? letter = some c) :
    readString ('\\' :: letter :: rest) =
      (readString rest).map fun (units, after) => (c.toNat :: units, after) := by
  rw [readString.eq_def]
  split
  · next quote => cases quote
  · next quote => cases quote
  · next unit => exact absurd (List.cons.inj (List.cons.inj unit).2).1 h
  · next same =>
      obtain ⟨rfl, rfl⟩ := List.cons.inj (List.cons.inj same).2
      rw [means]
      cases readString rest <;> rfl
  · next plain same =>
      obtain ⟨slash, tail⟩ := List.cons.inj same
      exact absurd tail.symm (plain _ _ slash.symm)

theorem readString_unit {a b c d : Char} {unit : Nat} (means : codeUnit? a b c d = some unit) :
    readString ('\\' :: 'u' :: a :: b :: c :: d :: rest) =
      (readString rest).map fun (units, after) => (unit :: units, after) := by
  simp only [readString, means, bind, Option.bind_some]
  cases readString rest <;> rfl

theorem readString_plain {c : Char} (quote : c ≠ '"') (slash : c ≠ '\\') (h : 0x20 ≤ c.toNat) :
    readString (c :: rest) =
      (readString rest).map fun (units, after) => (c.toNat :: units, after) := by
  rw [readString.eq_def]
  split
  · next same => cases same
  · next same => exact absurd (List.cons.inj same).1 quote
  · next same => exact absurd (List.cons.inj same).1 slash
  · next same => exact absurd (List.cons.inj same).1 slash
  · next same =>
      obtain ⟨rfl, rfl⟩ := List.cons.inj same
      rw [if_neg (by omega)]
      cases readString rest <;> rfl

theorem readString_escape (c : Char) (rest : List Char) :
    readString (escape c ++ rest) =
      (readString rest).map fun (units, after) => (c.toNat :: units, after) := by
  unfold escape
  split
  · exact readString_letter (by decide) rfl
  · exact readString_letter (by decide) rfl
  · exact readString_letter (by decide) rfl
  · exact readString_letter (by decide) rfl
  · exact readString_letter (by decide) rfl
  · exact readString_letter (by decide) rfl
  · exact readString_letter (by decide) rfl
  · -- Control characters without a letter of their own are escaped by number.
    next quote slash _ _ _ _ _ =>
      by_cases control : c.toNat < 0x20
      · rw [if_pos control]
        refine readString_unit ?_
        have zero : Hex.digit? '0' = some 0 := by decide
        simp only [codeUnit?, zero, Hex.digit?_digitChar (show c.toNat / 16 < 16 by omega),
          Hex.digit?_digitChar (show c.toNat % 16 < 16 by omega), bind, Option.bind_some, pure,
          Option.some.injEq]
        omega
      · rw [if_neg control]
        exact readString_plain quote slash (by omega)

/-- A string between its quotes reads as its code points. -/
theorem readString_escaped (cs rest : List Char) :
    readString (cs.flatMap escape ++ '"' :: rest) = some (cs.map Char.toNat, rest) := by
  induction cs with
  | nil => simp [readString]
  | cons c cs ih =>
      rw [List.flatMap_cons, List.append_assoc, readString_escape, ih]
      rfl

theorem ofUnits_text (s : String) : ofUnits (s.toList.map Char.toNat) = .string s := by
  rw [ofUnits, Utf16.ofUnits?_map_toNat]
  exact congrArg Json.string (String.ofList_toList)

theorem quoted_append (s : String) (rest : List Char) :
    quoted s ++ rest = '"' :: (s.toList.flatMap escape ++ '"' :: rest) := by
  simp [quoted]

theorem readValue_quoted (fuel : Nat) (s : String) (rest : List Char) :
    readValue (fuel + 1) (quoted s ++ rest) = some (.string s, rest) := by
  rw [quoted_append, readValue, skipSpace_cons (by decide)]
  simp only [readString_escaped, Option.map_some, ofUnits_text]

/-- The members of an object that has strings for values. -/
def texts (fields : List (String × String)) : List (String × Json) :=
  fields.map fun (name, value) => (name, .string value)

def rawTexts (fields : List (String × String)) : List (List Nat × Json) :=
  fields.map fun (name, value) => (name.toList.map Char.toNat, .string value)

theorem readMembers_last (fuel : Nat) (name value : String) (rest : List Char) :
    readMembers (fuel + 2) (quoted name ++ ':' :: (quoted value ++ '}' :: rest)) =
      some (rawTexts [(name, value)], rest) := by
  rw [quoted_append, readMembers, skipSpace_cons (by decide)]
  simp only [readString_escaped, bind, Option.bind_some]
  rw [skipSpace_cons (by decide)]
  simp only [readValue_quoted, Option.bind_some]
  rw [skipSpace_cons (by decide)]
  rfl

theorem readMembers_more (fuel : Nat) (name value : String) (rest : List Char) :
    readMembers (fuel + 2) (quoted name ++ ':' :: (quoted value ++ ',' :: rest)) =
      (readMembers (fuel + 1) rest).map fun (members, after) =>
        (rawTexts [(name, value)] ++ members, after) := by
  rw [quoted_append, readMembers, skipSpace_cons (by decide)]
  simp only [readString_escaped, bind, Option.bind_some]
  rw [skipSpace_cons (by decide)]
  simp only [readValue_quoted, Option.bind_some]
  rw [skipSpace_cons (by decide)]
  simp only
  cases readMembers (fuel + 1) rest <;> rfl

theorem readMembers_texts (fields : List (String × String)) (ne : fields ≠ []) {fuel : Nat}
    (enough : fields.length < fuel) (rest : List Char) :
    readMembers fuel (writeMembers (texts fields) ++ '}' :: rest) =
      some (rawTexts fields, rest) := by
  induction fields generalizing fuel with
  | nil => exact absurd rfl ne
  | cons field fields ih =>
      obtain ⟨fuel, rfl⟩ : ∃ k, fuel = k + 2 := ⟨fuel - 2, by simp at enough; omega⟩
      cases fields with
      | nil =>
          simp only [texts, List.map_cons, List.map_nil, writeMembers, writeChars,
            List.append_assoc, List.cons_append]
          exact readMembers_last fuel field.1 field.2 rest
      | cons next fields =>
          have more := ih (by simp) (show (next :: fields).length < fuel + 1 by simpa using enough)
          simp only [texts, List.map_cons, writeMembers, writeChars, List.append_assoc,
            List.cons_append] at more ⊢
          rw [readMembers_more, more]
          rfl

theorem ofMembers_rawTexts (fields : List (String × String)) :
    ofMembers (rawTexts fields) = .object (texts fields) := by
  have named : (rawTexts fields).mapM (fun m => (Utf16.ofUnits? m.1).map fun name =>
      (String.ofList name, m.2)) = some (texts fields) := by
    induction fields with
    | nil => rfl
    | cons field fields ih =>
        simp only [rawTexts, List.map_cons, List.mapM_cons, Utf16.ofUnits?_map_toNat] at ih ⊢
        rw [ih]
        simp [texts]
  rw [ofMembers, named]

theorem length_writeMembers (fields : List (String × String)) :
    fields.length ≤ (writeMembers (texts fields)).length := by
  induction fields with
  | nil => simp
  | cons field fields ih =>
      cases fields with
      | nil => simp [texts, writeMembers, quoted]
      | cons next fields =>
          simp only [texts, List.map_cons, writeMembers, List.length_append, List.length_cons]
            at ih ⊢
          omega

theorem writeMembers_start (fields : List (String × String)) (ne : fields ≠ []) :
    ∃ tail, writeMembers (texts fields) = '"' :: tail := by
  cases fields with
  | nil => exact absurd rfl ne
  | cons field fields =>
      cases fields with
      | nil => exact ⟨_, rfl⟩
      | cons next fields => exact ⟨_, rfl⟩

theorem readValue_texts (fields : List (String × String)) {fuel : Nat}
    (enough : fields.length < fuel) (rest : List Char) :
    readValue (fuel + 1) ('{' :: (writeMembers (texts fields) ++ '}' :: rest)) =
      some (.object (texts fields), rest) := by
  rw [readValue, skipSpace_cons (by decide)]
  cases fields with
  | nil => rfl
  | cons field fields =>
      have members := readMembers_texts (field :: fields) (by simp) enough rest
      obtain ⟨tail, start⟩ := writeMembers_start (field :: fields) (by simp)
      rw [start, List.cons_append] at members
      simp only [start, List.cons_append]
      rw [skipSpace_cons (by decide)]
      refine (congrArg (Option.map fun read => (ofMembers read.1, read.2)) members).trans ?_
      simp only [Option.map_some, ofMembers_rawTexts]

/-- An object that has strings for values reads as it was written. -/
theorem read?_write_texts (fields : List (String × String)) :
    read? (write (.object (texts fields))) = some (.object (texts fields)) := by
  have enough := length_writeMembers fields
  have text : writeChars (.object (texts fields)) =
      '{' :: (writeMembers (texts fields) ++ '}' :: []) := rfl
  rw [read?, write, String.toList_ofList, text, readValue_texts fields (by simp; omega)]
  rfl

end Json

end Gatehouse
