import Gatehouse.Text.Blank
import Mathlib.Data.List.DropRight
import Mathlib.Data.List.TakeWhile

/-! # Dropping white space

What is left of a text when the characters of a class are dropped at its two ends.
-/

namespace Gatehouse.Text

variable {drop : Char → Bool} {s : List Char}

theorem strip_eq_nil_iff : strip drop s = [] ↔ ∀ c ∈ s, drop c = true := by
  rw [strip, List.reverse_eq_nil_iff, List.dropWhile_eq_nil_iff]
  constructor
  · intro all c mem
    rw [← List.takeWhile_append_dropWhile (p := drop) (l := s), List.mem_append] at mem
    rcases mem with dropped | kept
    · exact List.mem_takeWhile_imp dropped
    · exact all c (List.mem_reverse.2 kept)
  · intro all c mem
    exact all c ((List.dropWhile_suffix drop).subset (List.mem_reverse.1 mem))

/-- What is dropped at the end of a list, if something stays. -/
def trailing {α : Type} (drop : α → Bool) (l : List α) : List α :=
  ((l.dropWhile drop).reverse.takeWhile drop).reverse

theorem of_mem_trailing {α : Type} {drop : α → Bool} {l : List α} {x : α}
    (mem : x ∈ trailing drop l) : drop x = true :=
  List.mem_takeWhile_imp (List.mem_reverse.1 mem)

theorem ends_append {α : Type} (drop : α → Bool) (l : List α) :
    l.takeWhile drop ++ ((l.dropWhile drop).reverse.dropWhile drop).reverse ++ trailing drop l =
      l := by
  rw [trailing, List.append_assoc, ← List.reverse_append, List.takeWhile_append_dropWhile,
    List.reverse_reverse, List.takeWhile_append_dropWhile]

theorem strip_whole (drop : Char → Bool) (s : List Char) :
    s.takeWhile drop ++ strip drop s ++ trailing drop s = s :=
  ends_append drop s

theorem strip_length_le (drop : Char → Bool) (s : List Char) :
    (strip drop s).length ≤ s.length := by
  rw [strip, List.length_reverse]
  refine (List.dropWhile_suffix drop).length_le.trans ?_
  rw [List.length_reverse]
  exact (List.dropWhile_suffix drop).length_le

/-- A text without a character of the class stays as it is. -/
theorem strip_of_kept (kept : ∀ c ∈ s, drop c = false) : strip drop s = s := by
  have whole : ∀ {l : List Char}, (∀ c ∈ l, drop c = false) → l.dropWhile drop = l := by
    intro l kept
    cases l with
    | nil => rfl
    | cons c l => rw [List.dropWhile_cons_of_neg (by simp [kept c])]
  rw [strip, whole kept, whole (fun c mem => kept c (List.mem_reverse.1 mem)),
    List.reverse_reverse]

theorem strip_append_left {lead : List Char} (dropped : ∀ c ∈ lead, drop c = true) :
    strip drop (lead ++ s) = strip drop s := by
  rw [strip, List.dropWhile_append_of_pos dropped, strip]

theorem strip_append_right {trail : List Char} (dropped : ∀ c ∈ trail, drop c = true) :
    strip drop (s ++ trail) = strip drop s := by
  by_cases blank : ∀ c ∈ s, drop c = true
  · rw [strip_eq_nil_iff.2 blank, strip_eq_nil_iff]
    intro c mem
    exact (List.mem_append.1 mem).elim (blank c) (dropped c)
  · have kept : (s.dropWhile drop).isEmpty = false := by
      rw [List.isEmpty_eq_false_iff, ne_eq, List.dropWhile_eq_nil_iff]
      exact blank
    rw [strip, List.dropWhile_append, if_neg (by simp [kept]), List.reverse_append,
      List.dropWhile_append_of_pos (fun c mem => dropped c (List.mem_reverse.1 mem)), strip]

theorem strip_strip : strip drop (strip drop s) = strip drop s := by
  have lead : ∀ c ∈ s.takeWhile drop, drop c = true := fun c mem => List.mem_takeWhile_imp mem
  calc strip drop (strip drop s)
      = strip drop (s.takeWhile drop ++ strip drop s) := (strip_append_left lead).symm
    _ = strip drop (s.takeWhile drop ++ strip drop s ++ trailing drop s) :=
          (strip_append_right fun _ => of_mem_trailing).symm
    _ = strip drop s := by rw [strip_whole]

/-- A text stays as it is if neither its first nor its last character is of the class. -/
theorem strip_eq_self_iff : strip drop s = s ↔
    (∀ c ∈ s.head?, drop c = false) ∧ ∀ c ∈ s.getLast?, drop c = false := by
  constructor
  · intro same
    constructor
    · intro c first
      obtain ⟨rest, rfl⟩ := List.head?_eq_some_iff.1 first
      by_contra dropped
      have shorter : strip drop ([c] ++ rest) = strip drop rest :=
        strip_append_left (by simpa using dropped)
      rw [List.singleton_append] at shorter
      have length := strip_length_le drop rest
      rw [← shorter, same, List.length_cons] at length
      omega
    · intro c last
      obtain ⟨rest, rfl⟩ := List.getLast?_eq_some_iff.1 last
      by_contra dropped
      have shorter : strip drop (rest ++ [c]) = strip drop rest :=
        strip_append_right (by simpa using dropped)
      have length := strip_length_le drop rest
      rw [← shorter, same, List.length_append, List.length_singleton] at length
      omega
  · rintro ⟨first, last⟩
    have start : s.dropWhile drop = s := by
      cases s with
      | nil => rfl
      | cons c s =>
          have kept : drop c = false := first c rfl
          rw [List.dropWhile_cons_of_neg (by simp [kept])]
    have stop : s.rdropWhile drop = s := by
      rw [List.rdropWhile_eq_self_iff]
      intro ne
      simp [last _ (List.getLast?_eq_some_getLast ne)]
    rw [strip, start]
    exact stop

end Gatehouse.Text
