/-! # Byte strings

Bytes as lists, blocks of a fixed length, and the UTF-8 bytes of a text.
-/

namespace Gatehouse

abbrev Bytes := List UInt8

/-- A block of exactly `n` bytes. -/
structure Octets (n : Nat) where
  bytes : Bytes
  length_eq : bytes.length = n
  deriving DecidableEq

namespace Octets

def ofBytes? (n : Nat) (b : Bytes) : Option (Octets n) :=
  if h : b.length = n then some ⟨b, h⟩ else none

@[ext] theorem ext {n : Nat} {a b : Octets n} (h : a.bytes = b.bytes) : a = b := by
  cases a; cases b; simp_all

@[simp] theorem ofBytes?_bytes {n : Nat} (a : Octets n) : ofBytes? n a.bytes = some a := by
  simp [ofBytes?, a.length_eq]

variable {m n : Nat} {x : Octets m} {y : Octets n} {b tail : Bytes}

theorem ofBytes?_eq_some_iff : ofBytes? m b = some x ↔ b = x.bytes := by
  constructor
  · intro read
    unfold ofBytes? at read
    split at read
    · obtain rfl := Option.some.inj read
      rfl
    · cases read
  · rintro rfl
    exact ofBytes?_bytes x

/-- A block at the start of a byte string, and what follows it. -/
theorem ofBytes?_take_iff :
    ofBytes? m (b.take m) = some x ∧ b.drop m = tail ↔ b = x.bytes ++ tail := by
  rw [ofBytes?_eq_some_iff]
  constructor
  · rintro ⟨first, rfl⟩
    rw [← first, List.take_append_drop]
  · rintro rfl
    exact ⟨List.take_left' x.length_eq, List.drop_left' x.length_eq⟩

/-- A byte string of two blocks. -/
theorem ofBytes?_two_iff :
    ofBytes? m (b.take m) = some x ∧ ofBytes? n (b.drop m) = some y ↔
      b = x.bytes ++ y.bytes := by
  rw [ofBytes?_eq_some_iff (b := b.drop m), ofBytes?_take_iff]

end Octets

def Bytes.ofString (s : String) : Bytes :=
  s.toUTF8.data.toList

/-- The string that a byte string encodes, if it is valid UTF-8. -/
def Bytes.toString? (b : Bytes) : Option String :=
  String.fromUTF8? ⟨b.toArray⟩

theorem Bytes.toString?_ofString (s : String) : (Bytes.ofString s).toString? = some s := by
  have h : (⟨s.toUTF8.data.toList.toArray⟩ : ByteArray) = s.toByteArray := by
    simp [String.toUTF8_eq_toByteArray]
  rw [Bytes.ofString, Bytes.toString?, h, String.fromUTF8?, dif_pos s.isValidUTF8]
  rfl

theorem Bytes.toString?_eq_some_iff {b : Bytes} {s : String} :
    b.toString? = some s ↔ b = Bytes.ofString s := by
  constructor
  · intro read
    unfold Bytes.toString? String.fromUTF8? at read
    split at read
    · obtain rfl := Option.some.inj read
      rfl
    · cases read
  · rintro rfl
    exact Bytes.toString?_ofString s

theorem Bytes.ofString_eq_nil_iff {s : String} : Bytes.ofString s = [] ↔ s = "" := by
  constructor
  · intro nothing
    have read := Bytes.toString?_ofString s
    rw [nothing] at read
    exact Option.some.inj (read.symm.trans (Bytes.toString?_ofString ""))
  · rintro rfl
    rfl

end Gatehouse
