import Gatehouse.Proofs.Artifact.WireForm

/-! # Which byte strings are artifacts

Reading takes the byte strings of three layouts and refuses every other one as an invalid artifact.
It never reaches beyond the bytes that it is given: a reader that watches its steps, any of which
may then fail, gives the same answers.
-/

namespace Gatehouse

namespace Artifact

/-- Whether a byte string is the UTF-8 of some text. -/
def IsUtf8 (bytes : Bytes) : Prop :=
  ∃ text, bytes = Bytes.ofString text

/-- The byte strings that are laid out as an artifact of some type. -/
inductive IsWireForm : Bytes → Prop where
  | type0001 {rest : Bytes} (length : rest.length = 40) : IsWireForm (0 :: 1 :: rest)
  | type0002 {handle location : Bytes} (length : handle.length = 20) (nonempty : location ≠ [])
      (text : IsUtf8 location) : IsWireForm (0 :: 2 :: (handle ++ location))
  | type0004 {rest : Bytes} (length : rest.length = 42) : IsWireForm (0 :: 4 :: rest)

/-- What is wrong with the other byte strings. -/
inductive Unfit : Bytes → ArtifactFault → Prop where
  | tooShort {bytes : Bytes} (length : bytes.length < 2) : Unfit bytes .tooShort
  | length0001 {rest : Bytes} (length : rest.length ≠ 40) :
      Unfit (0 :: 1 :: rest) (.wrongLength [0, 1] rest.length 40)
  | noLocation {rest : Bytes} (length : rest.length ≤ 20) :
      Unfit (0 :: 2 :: rest) .missingLocation
  | notUtf8 {rest : Bytes} (length : 20 < rest.length) (text : ¬ IsUtf8 (rest.drop 20)) :
      Unfit (0 :: 2 :: rest) .locationNotUtf8
  | length0004 {rest : Bytes} (length : rest.length ≠ 42) :
      Unfit (0 :: 4 :: rest) (.wrongLength [0, 4] rest.length 42)
  | unknownType {hi lo : UInt8} {rest : Bytes} (type : ¬ (hi = 0 ∧ lo ∈ [1, 2, 4])) :
      Unfit (hi :: lo :: rest) (.unknownType [hi, lo])

/-! ## Watched steps -/

/-- Why a reader that watches its steps stops. -/
inductive Stop where
  /-- The bytes are refused. -/
  | refused (e : Error)
  /-- A step reaches beyond the end. -/
  | outOfRange (position length : Nat)

abbrev Watched :=
  Except Stop

def watched {α : Type} (r : Except Error α) : Watched α :=
  r.mapError .refused

/-- The bytes before a position and those after it. -/
def cut (position : Nat) (bytes : Bytes) : Watched (Bytes × Bytes) :=
  if position ≤ bytes.length then .ok (bytes.take position, bytes.drop position)
  else .error (.outOfRange position bytes.length)

def byte (position : Nat) (bytes : Bytes) : Watched UInt8 :=
  match bytes[position]? with
  | some b => .ok b
  | none => .error (.outOfRange position bytes.length)

def sourceLength (actual : Nat) : ArtifactFault :=
  .other ("source ID must be 20 bytes, got " ++ toString actual)

def sourceId? (bytes : Bytes) : Except Error SourceId :=
  match Octets.ofBytes? 20 bytes with
  | some source => .ok source
  | none => refuse (sourceLength bytes.length)

def expectLength (typeCode rest : Bytes) (expected : Nat) : Except Error Unit :=
  if rest.length = expected then .ok () else refuse (.wrongLength typeCode rest.length expected)

def watch0001 (rest : Bytes) : Watched Artifact := do
  watched (expectLength [0, 1] rest 40)
  let (source, handle) ← cut 20 rest
  let source ← watched (sourceId? source)
  let handle ← watched (handle? handle)
  return .type0001 source handle

def watch0002 (rest : Bytes) : Watched Artifact := do
  if rest.length ≤ 20 then
    watched (refuse .missingLocation)
  else
    let (handle, location) ← cut 20 rest
    match location.toString? with
    | some location => watched (ofLocation0002 location handle)
    | none => watched (refuse .locationNotUtf8)

def watch0004 (rest : Bytes) : Watched Artifact := do
  watched (expectLength [0, 4] rest 42)
  let (index, rest) ← cut 2 rest
  let (source, handle) ← cut 20 rest
  let hi ← byte 0 index
  let lo ← byte 1 index
  let source ← watched (sourceId? source)
  let handle ← watched (handle? handle)
  return .type0004 (UInt16.ofNat (hi.toNat * 256 + lo.toNat)) source handle

/-- Reads an artifact in steps that are each watched. -/
def watch (bytes : Bytes) : Watched Artifact := do
  if bytes.length < 2 then
    watched (refuse .tooShort)
  else
    let (typeCode, rest) ← cut 2 bytes
    let hi ← byte 0 typeCode
    let lo ← byte 1 typeCode
    if hi = 0 ∧ lo = 1 then watch0001 rest
    else if hi = 0 ∧ lo = 2 then watch0002 rest
    else if hi = 0 ∧ lo = 4 then watch0004 rest
    else watched (refuse (.unknownType [hi, lo]))

variable {α β : Type} {bytes rest : Bytes} {n : Nat}

theorem watched_ok (a : α) : watched (.ok a) = .ok a :=
  rfl

theorem watched_refuse (fault : ArtifactFault) :
    watched (refuse fault : Except Error α) = .error (.refused (.invalidArtifact fault)) :=
  rfl

theorem ok_bind (a : α) (f : α → Watched β) : (Except.ok a >>= f) = f a :=
  rfl

theorem error_bind (stop : Stop) (f : α → Watched β) : (Except.error stop >>= f) = .error stop :=
  rfl

theorem cut_of_le (fits : n ≤ bytes.length) : cut n bytes = .ok (bytes.take n, bytes.drop n) :=
  if_pos fits

theorem sourceId?_bytes (source : SourceId) : sourceId? source.bytes = .ok source := by
  rw [sourceId?, Octets.ofBytes?_bytes]

theorem handle?_bytes (handle : Handle) : handle? handle.bytes = .ok handle := by
  rw [handle?, Octets.ofBytes?_bytes]

/-! ## Layout by layout -/

/-- Forty bytes are two blocks. -/
theorem blocks_of_length (length : rest.length = 40) :
    ∃ source handle : Octets 20, rest = source.bytes ++ handle.bytes ∧
      rest.take 20 = source.bytes ∧ rest.drop 20 = handle.bytes := by
  have first : (rest.take 20).length = 20 := by rw [List.length_take]; omega
  have second : (rest.drop 20).length = 20 := by rw [List.length_drop]; omega
  exact ⟨⟨_, first⟩, ⟨_, second⟩, (List.take_append_drop 20 rest).symm, rfl, rfl⟩

theorem read0001_of_other (length : rest.length ≠ 40) :
    read0001 rest = refuse (.wrongLength [0, 1] rest.length 40) := by
  unfold read0001
  split
  · next source handle first second =>
      have whole := congrArg List.length (Octets.ofBytes?_two_iff.1 ⟨first, second⟩)
      rw [List.length_append, source.length_eq, handle.length_eq] at whole
      exact absurd whole length
  · rfl

theorem watch0001_eq (rest : Bytes) : watch0001 rest = watched (read0001 rest) := by
  by_cases length : rest.length = 40
  · obtain ⟨source, handle, -, first, second⟩ := blocks_of_length length
    have room : 20 ≤ rest.length := by omega
    simp only [watch0001, expectLength, if_pos length, watched_ok, ok_bind, cut_of_le room, first,
      second, sourceId?_bytes, handle?_bytes, read0001, Octets.ofBytes?_bytes]
    rfl
  · rw [read0001_of_other length]
    simp only [watch0001, expectLength, if_neg length, watched_refuse, error_bind]

theorem watch0002_eq (rest : Bytes) : watch0002 rest = watched (read0002 rest) := by
  by_cases short : rest.length ≤ 20
  · have nothing : rest.drop 20 = [] := List.drop_eq_nil_iff.2 short
    simp only [watch0002, if_pos short, read0002, nothing, List.isEmpty_nil, if_true]
  · have some_more : rest.drop 20 ≠ [] := fun nothing => short (List.drop_eq_nil_iff.1 nothing)
    have more : (rest.drop 20).isEmpty = false := List.isEmpty_eq_false_iff.2 some_more
    have length : (rest.take 20).length = 20 := by rw [List.length_take]; omega
    obtain ⟨handle, first⟩ : ∃ handle : Handle, rest.take 20 = handle.bytes := ⟨⟨_, length⟩, rfl⟩
    have room : 20 ≤ rest.length := by omega
    simp only [watch0002, if_neg short, cut_of_le room, ok_bind, read0002, more, first,
      Bool.false_eq_true, if_false, Octets.ofBytes?_bytes]
    cases text : Bytes.toString? (rest.drop 20) with
    | none => rfl
    | some location =>
        have written := Bytes.toString?_eq_some_iff.1 text
        have nonempty : location.isEmpty = false := by
          rw [Bool.eq_false_iff, Ne, String.isEmpty_iff, ← Bytes.ofString_eq_nil_iff, ← written]
          exact some_more
        simp only [ofLocation0002, nonempty, Bool.false_eq_true, if_false, handle?_bytes]
        rfl

theorem read0004_of_other (length : rest.length ≠ 42) :
    read0004 rest = refuse (.wrongLength [0, 4] rest.length 42) := by
  unfold read0004
  split
  · next hi lo more =>
      split
      · next source handle first second =>
          have whole := congrArg List.length (Octets.ofBytes?_two_iff.1 ⟨first, second⟩)
          rw [List.length_append, source.length_eq, handle.length_eq] at whole
          exact absurd (congrArg (· + 2) whole) length
      · rfl
  · rfl

/-- Forty-two bytes are a number and two blocks. -/
theorem parts_of_length (length : rest.length = 42) : ∃ index, ∃ source handle : Octets 20,
    rest = indexBytes index ++ source.bytes ++ handle.bytes := by
  match rest, length with
  | hi :: lo :: more, length =>
      obtain ⟨source, handle, rfl, -⟩ := blocks_of_length (Nat.add_right_cancel (m := 2) length)
      exact ⟨_, source, handle, by rw [indexBytes_ofNat hi lo]; rfl⟩

theorem watch0004_eq (rest : Bytes) : watch0004 rest = watched (read0004 rest) := by
  by_cases length : rest.length = 42
  · match rest, length with
    | hi :: lo :: more, length =>
        have length' : more.length = 40 := Nat.add_right_cancel (m := 2) length
        obtain ⟨source, handle, -, first, second⟩ := blocks_of_length length'
        have room : 2 ≤ (hi :: lo :: more).length := by omega
        have room' : 20 ≤ more.length := by omega
        simp only [watch0004, expectLength, if_pos length, watched_ok, ok_bind, cut_of_le room,
          List.take_succ_cons, List.take_zero, List.drop_succ_cons, List.drop_zero, cut_of_le room',
          first, second, sourceId?_bytes, handle?_bytes, read0004, Octets.ofBytes?_bytes]
        rfl
  · rw [read0004_of_other length]
    simp only [watch0004, expectLength, if_neg length, watched_refuse, error_bind]

theorem watch_eq (bytes : Bytes) : watch bytes = watched (ofBytes bytes) := by
  match bytes with
  | [] => rfl
  | [b] => rfl
  | hi :: lo :: rest =>
      simp only [ofBytes, apply_ite watched, ← watch0001_eq, ← watch0002_eq, ← watch0004_eq]
      rfl

/-! ## What is taken and what is refused -/

/-- The layouts are those of the artifacts that have all that their types ask for. -/
theorem isWireForm_iff : IsWireForm bytes ↔ ∃ a : Artifact, a.Complete ∧ bytes = a.toBytes := by
  constructor
  · intro laidOut
    cases laidOut with
    | type0001 length =>
        obtain ⟨source, handle, rfl, -⟩ := blocks_of_length length
        exact ⟨.type0001 source handle, trivial, rfl⟩
    | type0002 length nonempty text =>
        obtain ⟨location, rfl⟩ := text
        exact ⟨.type0002 ⟨_, length⟩ location, mt Bytes.ofString_eq_nil_iff.2 nonempty, rfl⟩
    | type0004 length =>
        obtain ⟨index, source, handle, rfl⟩ := parts_of_length length
        exact ⟨.type0004 index source handle, trivial, rfl⟩
  · intro ⟨a, complete, written⟩
    rw [written]
    cases a with
    | type0001 source handle =>
        change IsWireForm (0 :: 1 :: (source.bytes ++ handle.bytes))
        exact .type0001 (by rw [List.length_append, source.length_eq, handle.length_eq])
    | type0002 handle location =>
        change IsWireForm (0 :: 2 :: (handle.bytes ++ Bytes.ofString location))
        have nonempty : Bytes.ofString location ≠ [] := mt Bytes.ofString_eq_nil_iff.1 complete
        exact .type0002 handle.length_eq nonempty ⟨location, rfl⟩
    | type0004 index source handle =>
        change IsWireForm (0 :: 4 :: (indexBytes index ++ source.bytes ++ handle.bytes))
        exact .type0004 (by simp [indexBytes, source.length_eq, handle.length_eq])

theorem read0001_cases (rest : Bytes) : (∃ a, read0001 rest = .ok a) ∨
    ∃ fault, read0001 rest = refuse fault ∧ Unfit (0 :: 1 :: rest) fault := by
  by_cases length : rest.length = 40
  · obtain ⟨source, handle, whole, -⟩ := blocks_of_length length
    exact .inl ⟨_, read0001_eq_ok_iff.2 ⟨source, handle, rfl, whole⟩⟩
  · exact .inr ⟨_, read0001_of_other length, .length0001 length⟩

theorem read0002_cases (rest : Bytes) : (∃ a, read0002 rest = .ok a) ∨
    ∃ fault, read0002 rest = refuse fault ∧ Unfit (0 :: 2 :: rest) fault := by
  unfold read0002
  cases more : (rest.drop 20).isEmpty with
  | true =>
      have short := List.drop_eq_nil_iff.1 (List.isEmpty_iff.1 more)
      exact .inr ⟨_, rfl, .noLocation short⟩
  | false =>
      have long : 20 < rest.length := by
        rw [List.isEmpty_eq_false_iff, Ne, List.drop_eq_nil_iff] at more
        omega
      have length : (rest.take 20).length = 20 := by rw [List.length_take]; omega
      obtain ⟨handle, first⟩ : ∃ handle : Handle, rest.take 20 = handle.bytes := ⟨⟨_, length⟩, rfl⟩
      rw [first, Octets.ofBytes?_bytes]
      cases text : Bytes.toString? (rest.drop 20) with
      | some location => exact .inl ⟨_, rfl⟩
      | none =>
          have spoilt : ¬ IsUtf8 (rest.drop 20) := by
            intro ⟨location, written⟩
            cases text.symm.trans (Bytes.toString?_eq_some_iff.2 written)
          exact .inr ⟨_, rfl, .notUtf8 long spoilt⟩

theorem read0004_cases (rest : Bytes) : (∃ a, read0004 rest = .ok a) ∨
    ∃ fault, read0004 rest = refuse fault ∧ Unfit (0 :: 4 :: rest) fault := by
  by_cases length : rest.length = 42
  · obtain ⟨index, source, handle, whole⟩ := parts_of_length length
    exact .inl ⟨_, read0004_eq_ok_iff.2 ⟨index, source, handle, rfl, whole⟩⟩
  · exact .inr ⟨_, read0004_of_other length, .length0004 length⟩

/-- Reading answers with an artifact, or says what is wrong. -/
theorem ofBytes_cases (bytes : Bytes) : (∃ a, ofBytes bytes = .ok a) ∨
    ∃ fault, ofBytes bytes = refuse fault ∧ Unfit bytes fault := by
  match bytes with
  | [] => exact .inr ⟨_, rfl, .tooShort Nat.zero_lt_two⟩
  | [b] => exact .inr ⟨_, rfl, .tooShort Nat.one_lt_two⟩
  | hi :: lo :: rest =>
      simp only [ofBytes]
      split_ifs with one two four
      · obtain ⟨rfl, rfl⟩ := one
        exact read0001_cases rest
      · obtain ⟨rfl, rfl⟩ := two
        exact read0002_cases rest
      · obtain ⟨rfl, rfl⟩ := four
        exact read0004_cases rest
      · exact .inr ⟨_, rfl, .unknownType (by grind)⟩

theorem ofBytes_succeeds_iff : (∃ a, ofBytes bytes = .ok a) ↔ IsWireForm bytes := by
  simp only [ofBytes_eq_ok_iff, isWireForm_iff]

/-- Reading takes a byte string exactly if it is laid out as an artifact and refuses all others as
invalid. None of its steps fails on the way: it answers as it does when its steps are watched, and
it never finds fault with the length of a block that it has cut out itself. -/
theorem reads_exactly_wireForms (bytes : Bytes) :
    ((∃ a, ofBytes bytes = .ok a) ↔ IsWireForm bytes) ∧
    ((∃ fault, ofBytes bytes = .error (.invalidArtifact fault)) ↔ ¬ IsWireForm bytes) ∧
    watch bytes = watched (ofBytes bytes) ∧
    ∀ n, ofBytes bytes ≠ .error (.invalidArtifact (.handleLength n)) ∧
      ofBytes bytes ≠ .error (.invalidArtifact (sourceLength n)) := by
  constructor
  · exact ofBytes_succeeds_iff
  constructor
  · rw [← ofBytes_succeeds_iff]
    rcases ofBytes_cases bytes with ⟨a, taken⟩ | ⟨fault, refused, -⟩
    · simp [taken]
    · simp [refused, refuse]
  constructor
  · exact watch_eq bytes
  · intro n
    rcases ofBytes_cases bytes with ⟨a, taken⟩ | ⟨fault, refused, unfit⟩
    · simp [taken]
    · rw [refused]
      constructor
      · intro same
        cases same
        cases unfit
      · intro same
        cases same
        cases unfit

end Artifact

end Gatehouse
