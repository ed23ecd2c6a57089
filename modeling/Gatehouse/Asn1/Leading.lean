import Gatehouse.Asn1.Indefinite

/-! # What a reader takes

An element says how long it is. A reader takes it from the start of a byte string and looks at
nothing behind it, so what follows may be anything and is handed on untouched. Where an element may
be left out, the reader has to look at what follows, and still hands on an end of what it was given.
-/

namespace Gatehouse.Der

/-- Whether bytes are what a reader takes for a value, whatever follows them. -/
def Takes {α : Type} (item : Reader α) (taken : Bytes) (a : α) : Prop :=
  ∀ tail, item (taken ++ tail) = some (a, tail)

/-- A reader that takes what it reads from the start, whatever follows. -/
def Leading {α : Type} (item : Reader α) : Prop :=
  ∀ s a rest, item s = some (a, rest) → ∃ taken, s = taken ++ rest ∧ Takes item taken a

/-- A reader that hands on an end of what it was given. -/
def Advancing {α : Type} (item : Reader α) : Prop :=
  ∀ s a rest, item s = some (a, rest) → rest <:+ s

section

variable {α β : Type}

theorem Leading.advancing {item : Reader α} (h : Leading item) : Advancing item := by
  intro s a rest found
  obtain ⟨taken, same, -⟩ := h s a rest found
  exact ⟨taken, same.symm⟩

theorem Advancing.bind {item : Reader α} {next : α → Reader β} (first : Advancing item)
    (second : ∀ a, Advancing (next a)) :
    Advancing fun s => (item s).bind fun p => next p.1 p.2 := by
  intro s b rest found
  obtain ⟨⟨a, after⟩, here, there⟩ := Option.bind_eq_some_iff.1 found
  exact (second a _ _ _ there).trans (first _ _ _ here)

theorem leading_some (a : α) : Leading fun s => some (a, s) := by
  intro s a' rest found
  obtain ⟨rfl, rfl⟩ := Prod.mk.inj (Option.some.inj found)
  exact ⟨[], rfl, fun _ => rfl⟩

theorem leading_if {item : Reader α} (p : Prop) [Decidable p] (h : Leading item) :
    Leading fun s => if p then item s else none := by
  intro s a rest found
  dsimp only at found ⊢
  split at found
  · next holds => simpa only [if_pos holds] using h s a rest found
  · cases found

/-- One reader after the other. -/
theorem Leading.bind {item : Reader α} {next : α → Reader β} (first : Leading item)
    (second : ∀ a, Leading (next a)) :
    Leading fun s => (item s).bind fun p => next p.1 p.2 := by
  intro s b rest found
  obtain ⟨⟨a, after⟩, here, there⟩ := Option.bind_eq_some_iff.1 found
  obtain ⟨taken, rfl, again⟩ := first _ _ _ here
  obtain ⟨taken', rfl, again'⟩ := second a _ _ _ there
  refine ⟨taken ++ taken', by simp, fun tail => ?_⟩
  simp only [List.append_assoc, again (taken' ++ tail), Option.bind_some, again' tail]

/-- A result that does not depend on the bytes, and then a reader. -/
theorem leading_given {next : α → Reader β} (given : Option α) (h : ∀ a, Leading (next a)) :
    Leading fun s => given.bind fun a => next a s := by
  cases given with
  | none =>
      intro s b rest found
      cases found
  | some a => exact h a

end

theorem leading_readTagNumber (fuel n : Nat) : Leading (readTagNumber fuel n) := by
  intro s m rest found
  induction fuel generalizing n s with
  | zero => cases found
  | succ fuel ih =>
      cases s with
      | nil => cases found
      | cons b s =>
          simp only [readTagNumber] at found
          split at found
          · next last =>
              obtain ⟨rfl, rfl⟩ := Prod.mk.inj (Option.some.inj found)
              exact ⟨[b], rfl, fun tail => by simp [readTagNumber, last]⟩
          · next more =>
              obtain ⟨taken, rfl, again⟩ := ih _ _ found
              refine ⟨b :: taken, rfl, fun tail => ?_⟩
              simp only [List.cons_append, readTagNumber, more, if_false]
              exact again tail

theorem leading_readTag : Leading readTag := by
  intro s a rest found
  cases s with
  | nil => cases found
  | cons b s =>
      simp only [readTag] at found
      split at found
      · next low =>
          obtain ⟨rfl, rfl⟩ := Prod.mk.inj (Option.some.inj found)
          exact ⟨[b], rfl, fun tail => by simp [readTag, low]⟩
      · next high =>
          obtain ⟨⟨n, after⟩, number, same⟩ := Option.map_eq_some_iff.1 found
          obtain ⟨rfl, rfl⟩ := Prod.mk.inj same
          obtain ⟨taken, rfl, again⟩ := leading_readTagNumber 5 0 _ _ _ number
          exact ⟨b :: taken, rfl, fun tail => by simp [readTag, high, again tail]⟩

theorem leading_readLength : Leading readLength := by
  intro s n rest found
  cases s with
  | nil => cases found
  | cons b s =>
      simp only [readLength] at found
      split at found
      · next short =>
          obtain ⟨rfl, rfl⟩ := Prod.mk.inj (Option.some.inj found)
          exact ⟨[b], rfl, fun tail => by simp [readLength, short]⟩
      · next long =>
          split at found
          · cases found
          · next whole =>
              split at found
              · next fits =>
                  obtain ⟨rfl, rfl⟩ := Prod.mk.inj (Option.some.inj found)
                  have width : (s.take (b.toNat - 128)).length = b.toNat - 128 := by
                    simp only [List.length_take] at whole ⊢
                    omega
                  refine ⟨b :: s.take (b.toNat - 128), by simp, fun tail => ?_⟩
                  simp only [List.cons_append, readLength, List.take_left' width,
                    List.drop_left' width, long, whole, fits, if_true, if_false]
              · cases found

theorem leading_readHeader : Leading readHeader :=
  leading_readTag.bind fun tag => leading_readLength.bind fun length =>
    leading_some (Header.mk tag.1 tag.2.1 tag.2.2 length)

/-- A content has the length that its header says. -/
theorem readContent_eq_some_iff {h : Header} {s rest : Bytes} {e : Element} :
    readContent h s = some (e, rest) ↔ s = e.content ++ rest ∧ h.length = e.content.length ∧
      e = ⟨h.tagClass, h.constructed, h.tag, e.content⟩ := by
  unfold readContent
  constructor
  · intro found
    split at found
    · next enough =>
        obtain ⟨rfl, rfl⟩ := Prod.mk.inj (Option.some.inj found)
        exact ⟨(List.take_append_drop _ _).symm, (List.length_take_of_le enough).symm, rfl⟩
    · cases found
  · rintro ⟨rfl, width, same⟩
    rw [if_pos (by simp [width]), List.take_left' width.symm, List.drop_left' width.symm, ← same]

theorem leading_readContent (h : Header) : Leading (readContent h) := by
  intro s e rest found
  obtain ⟨same, width, shape⟩ := readContent_eq_some_iff.1 found
  exact ⟨e.content, same, fun tail => readContent_eq_some_iff.2 ⟨rfl, width, shape⟩⟩

theorem leading_read : Leading read :=
  leading_readHeader.bind leading_readContent

theorem leading_readTagged (tag : Nat) : Leading (readTagged tag) :=
  leading_read.bind fun e => leading_if (e.tag = tag) (leading_some e.content)

theorem leading_readBitString : Leading readBitString :=
  leading_read.bind fun e =>
    leading_if (e.tag = 3 ∧ e.constructed = false ∧ isBitString e.content) (leading_some e.content)

/-- An element is a header and the content that the header announces. -/
theorem read_eq {s rest : Bytes} {e : Element} (found : read s = some (e, rest)) :
    ∃ header, s = header ++ e.content ++ rest ∧ Takes read (header ++ e.content) e := by
  obtain ⟨⟨h, inside⟩, announced, content⟩ := Option.bind_eq_some_iff.1 found
  obtain ⟨header, rfl, again⟩ := leading_readHeader _ _ _ announced
  obtain ⟨rfl, width, shape⟩ := readContent_eq_some_iff.1 content
  refine ⟨header, (List.append_assoc ..).symm, fun tail => ?_⟩
  rw [List.append_assoc]
  exact Option.bind_eq_some_iff.2
    ⟨(h, e.content ++ tail), again _, readContent_eq_some_iff.2 ⟨rfl, width, shape⟩⟩

theorem readSequence_eq {s content rest : Bytes} (found : readSequence s = some (content, rest)) :
    ∃ header, s = header ++ content ++ rest ∧ Takes readSequence (header ++ content) content := by
  obtain ⟨⟨e, after⟩, element, tagged⟩ := Option.bind_eq_some_iff.1 found
  obtain ⟨header, same, again⟩ := read_eq element
  by_cases isSequence : e.tag = 16
  · obtain ⟨rfl, rfl⟩ : e.content = content ∧ after = rest := by
      simpa [isSequence] using tagged
    refine ⟨header, same, fun tail => Option.bind_eq_some_iff.2 ⟨(e, tail), again tail, ?_⟩⟩
    simp [isSequence]
  · simp [isSequence] at tagged

/-! ## Elements of any length -/

theorem advancing_readAnyLength (constructed : Bool) : Advancing (readAnyLength constructed) := by
  intro s n rest found
  cases s with
  | nil => cases found
  | cons b s =>
      simp only [readAnyLength] at found
      split at found
      · split at found
        · obtain ⟨-, rfl⟩ := Prod.mk.inj (Option.some.inj found)
          exact List.suffix_cons b s
        · cases found
      · obtain ⟨⟨n, after⟩, length, same⟩ := Option.map_eq_some_iff.1 found
        obtain ⟨-, rfl⟩ := Prod.mk.inj same
        exact leading_readLength.advancing _ _ _ length

theorem suffix_of_afterRun {fuel depth : Nat} {s rest : Bytes}
    (found : afterRun fuel depth s = some rest) : rest <:+ s := by
  induction fuel generalizing depth s rest with
  | zero => cases found
  | succ fuel ih =>
      cases depth with
      | zero => cases found
      | succ depth =>
          obtain ⟨⟨⟨cls, constructed, tag⟩, s₁⟩, tagged, found⟩ := Option.bind_eq_some_iff.1 found
          obtain ⟨⟨length, s₂⟩, measured, found⟩ := Option.bind_eq_some_iff.1 found
          have onward : s₂ <:+ s :=
            (advancing_readAnyLength constructed _ _ _ measured).trans
              (leading_readTag.advancing _ _ _ tagged)
          cases length with
          | none =>
              obtain ⟨inner, first, second⟩ := Option.bind_eq_some_iff.1 found
              exact (ih second).trans ((ih first).trans onward)
          | some n =>
              simp only at found
              split at found
              · obtain rfl := Option.some.inj found
                exact onward
              · split at found
                · exact (ih found).trans ((List.drop_suffix n s₂).trans onward)
                · cases found

theorem advancing_readAnyTagged (wanted : Nat) : Advancing (readAnyTagged wanted) := by
  intro s a rest found
  obtain ⟨⟨⟨cls, constructed, tag⟩, s₁⟩, tagged, found⟩ := Option.bind_eq_some_iff.1 found
  by_cases same : tag = wanted
  · simp only [same, if_true] at found
    obtain ⟨⟨length, s₂⟩, measured, found⟩ := Option.bind_eq_some_iff.1 found
    have onward : s₂ <:+ s :=
      (advancing_readAnyLength constructed _ _ _ measured).trans
        (leading_readTag.advancing _ _ _ tagged)
    cases length with
    | none =>
        obtain ⟨left, run, same⟩ := Option.bind_eq_some_iff.1 found
        obtain ⟨-, rfl⟩ := Prod.mk.inj (Option.some.inj same)
        exact (suffix_of_afterRun run).trans onward
    | some n =>
        simp only at found
        split at found
        · obtain ⟨-, rfl⟩ := Prod.mk.inj (Option.some.inj found)
          exact (List.drop_suffix n s₂).trans onward
        · cases found
  · simp [same] at found

end Gatehouse.Der
