import Mathlib.Data.List.Forall2

/-! # The case of letters

Texts that are the same when their ASCII letters are written small are those that differ at most in
the case of such letters. Other letters have no case here.
-/

namespace Gatehouse.Text

/-- The same character, or an ASCII letter in its two cases. -/
def SameLetter (c d : Char) : Prop :=
  c = d ∨ (c.isUpper ∧ d.toNat = c.toNat + 32) ∨ (d.isUpper ∧ c.toNat = d.toNat + 32)

def SameButCase (s t : String) : Prop :=
  List.Forall₂ SameLetter s.toList t.toList

theorem isUpper_iff {c : Char} : c.isUpper ↔ 65 ≤ c.toNat ∧ c.toNat ≤ 90 :=
  decide_eq_true_iff.trans (and_congr UInt32.le_iff_toNat_le UInt32.le_iff_toNat_le)

theorem toNat_toLower (c : Char) :
    c.toLower.toNat = if c.isUpper then c.toNat + 32 else c.toNat := by
  by_cases upper : c.isUpper
  · have bounds := isUpper_iff.1 upper
    have lowered : c.toLower.val = c.val + 32 :=
      congrArg Char.val (dif_pos (of_decide_eq_true upper))
    rw [if_pos upper, ← Char.toNat_val, lowered, UInt32.toNat_add, Char.toNat_val]
    simp only [UInt32.reduceToNat]
    omega
  · rw [if_neg upper]
    exact congrArg Char.toNat (dif_neg (mt decide_eq_true upper))

theorem toLower_eq_iff {c d : Char} : c.toLower = d.toLower ↔ SameLetter c d := by
  rw [← Char.toNat_inj, toNat_toLower, toNat_toLower, SameLetter, ← Char.toNat_inj]
  simp only [isUpper_iff]
  split <;> split <;> omega

theorem lowered_eq_iff {s t : String} : s.toLower = t.toLower ↔ SameButCase s t := by
  have lowered (s : String) : s.toLower.toList = s.toList.map Char.toLower := String.toList_map
  rw [← String.toList_inj, lowered, lowered, SameButCase, ← List.forall₂_eq_eq_eq,
    List.forall₂_map_left_iff, List.forall₂_map_right_iff]
  simp only [toLower_eq_iff]

end Gatehouse.Text
