/-! # Splitting text

Cutting a list of characters at the first place where a mark or a character occurs.
-/

namespace Gatehouse.Text

/-- What stands before the first occurrence of `mark` and what stands after it. -/
def splitAt? (mark : List Char) : List Char → Option (List Char × List Char)
  | [] => if mark.isEmpty then some ([], []) else none
  | c :: rest =>
    if mark.isPrefixOf (c :: rest) then some ([], (c :: rest).drop mark.length)
    else (splitAt? mark rest).map fun (before, after) => (c :: before, after)

/-- What stands before the first `mark` and what stands after it. -/
def cut? (mark : Char) : List Char → Option (List Char × List Char)
  | [] => none
  | c :: rest =>
    if c = mark then some ([], rest)
    else (cut? mark rest).map fun (before, after) => (c :: before, after)

/-- The pieces between the occurrences of `mark`. -/
def pieces (mark : Char) : List Char → List (List Char)
  | [] => [[]]
  | c :: rest =>
    if c = mark then [] :: pieces mark rest
    else match pieces mark rest with
      | [] => [[c]]
      | piece :: more => (c :: piece) :: more

theorem cut?_eq_some {mark : Char} {s before after : List Char}
    (h : cut? mark s = some (before, after)) : s = before ++ mark :: after ∧ mark ∉ before := by
  induction s generalizing before with
  | nil => simp [cut?] at h
  | cons c rest ih =>
    rw [cut?] at h
    split at h
    · next hc => simp_all
    · next hc =>
      obtain ⟨⟨b, a⟩, hb, he⟩ := Option.map_eq_some_iff.1 h
      obtain ⟨rfl, rfl⟩ := Prod.mk.injEq .. ▸ he
      obtain ⟨hs, hn⟩ := ih hb
      exact ⟨by rw [hs]; rfl, by simp [hn, Ne.symm hc]⟩

theorem cut?_append {mark : Char} {before : List Char} (after : List Char) (h : mark ∉ before) :
    cut? mark (before ++ mark :: after) = some (before, after) := by
  induction before with
  | nil => simp [cut?]
  | cons c before ih =>
    rw [List.mem_cons, not_or] at h
    simp [cut?, Ne.symm h.1, ih h.2]

theorem cut?_eq_none {mark : Char} {s : List Char} (absent : mark ∉ s) : cut? mark s = none := by
  cases cut : cut? mark s with
  | none => rfl
  | some parts =>
    obtain ⟨whole, -⟩ := cut?_eq_some cut
    exact absurd (whole ▸ List.mem_append_right _ List.mem_cons_self) absent

/-- Before a cut there is no room for the mark to begin earlier. -/
theorem before_cut_prefix (mark before after : List Char) :
    before ++ mark.dropLast <+: before ++ mark ++ after := by
  rw [List.append_assoc]
  exact (List.prefix_append_right_inj before).2 ((List.dropLast_prefix mark).trans ⟨after, rfl⟩)

/-- A text is cut where the mark first occurs. -/
theorem splitAt?_eq_some_iff {mark s before after : List Char} (ne : mark ≠ []) :
    splitAt? mark s = some (before, after) ↔
      s = before ++ mark ++ after ∧ ¬ mark <:+: before ++ mark.dropLast := by
  have length := List.length_pos_iff.2 ne
  induction s generalizing before with
  | nil => simp [splitAt?, ne]
  | cons c rest ih =>
      rw [splitAt?]
      by_cases here : mark <+: c :: rest
      · rw [if_pos (List.isPrefixOf_iff_prefix.2 here)]
        cases before with
        | nil =>
            have first : ¬ mark <:+: mark.dropLast := by
              intro inside
              have shorter := inside.length_le
              rw [List.length_dropLast] at shorter
              omega
            obtain ⟨tail, whole⟩ := here
            rw [← whole, List.drop_left]
            simp [first, eq_comm]
        | cons d before =>
            simp only [Option.some.injEq, Prod.mk.injEq, reduceCtorEq, false_and, false_iff,
              not_and, Classical.not_not]
            intro whole
            have fits : mark.length ≤ (d :: before ++ mark.dropLast).length := by
              rw [List.length_append, List.length_cons, List.length_dropLast]
              omega
            have early := whole ▸ before_cut_prefix mark (d :: before) after
            exact (List.prefix_of_prefix_length_le here early fits).isInfix
      · rw [if_neg (fun found => here (List.isPrefixOf_iff_prefix.1 found))]
        cases before with
        | nil =>
            simp only [Option.map_eq_some_iff, Prod.mk.injEq, reduceCtorEq, false_and, and_false,
              exists_false, List.nil_append, false_iff, not_and]
            intro whole
            exact absurd ⟨after, whole.symm⟩ here
        | cons d before =>
            simp only [Option.map_eq_some_iff, Prod.mk.injEq, List.cons.injEq, Prod.exists,
              List.cons_append, List.infix_cons_iff, not_or]
            constructor
            · rintro ⟨b, a, found, ⟨rfl, rfl⟩, rfl⟩
              obtain ⟨whole, first⟩ := ih.1 found
              refine ⟨⟨rfl, whole⟩, ?_, first⟩
              intro early
              exact here
                (early.trans ((List.prefix_cons_inj c).2 (whole ▸ before_cut_prefix mark b a)))
            · rintro ⟨⟨rfl, whole⟩, -, first⟩
              exact ⟨before, after, ih.2 ⟨whole, first⟩, ⟨rfl, rfl⟩, rfl⟩

end Gatehouse.Text
