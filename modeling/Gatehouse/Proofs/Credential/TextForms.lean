import Gatehouse.Proofs.Bytes.Base64
import Gatehouse.Proofs.Credential.Encoding

/-! # The text forms of a certificate

A certificate is written as base64, by itself or between the two lines of a PEM block. White space
may stand anywhere in the base64 text, and anything around the block. None of this is seen: both
forms give what the bytes themselves give, a certificate or an error.
-/

namespace Gatehouse

namespace Text

/-- A text with white space put in, anywhere and as much as one likes. -/
inductive Spaced : List Char → List Char → Prop where
  | done : Spaced [] []
  | blank {c : Char} {s t : List Char} (white : isBlank c = true) (rest : Spaced s t) :
    Spaced s (c :: t)
  | char (c : Char) {s t : List Char} (rest : Spaced s t) : Spaced (c :: s) (c :: t)

variable {s t mark before after : List Char} {m : Char}

theorem Spaced.filter (spaced : Spaced s t) (kept : ∀ c ∈ s, isBlank c = false) :
    t.filter (fun c => !isBlank c) = s := by
  induction spaced with
  | done => rfl
  | blank white _ ih => simpa [white] using ih kept
  | char c _ ih =>
      rw [List.forall_mem_cons] at kept
      simp [kept.1, ih kept.2]

theorem spaced_filter (t : List Char) : Spaced (t.filter fun c => !isBlank c) t := by
  induction t with
  | nil => exact .done
  | cons c t ih =>
      cases white : isBlank c with
      | true => simpa [white] using Spaced.blank white ih
      | false => simpa [white] using Spaced.char c ih

theorem Spaced.mem {c : Char} (spaced : Spaced s t) (mem : c ∈ t) : c ∈ s ∨ isBlank c = true := by
  induction spaced with
  | done => cases mem
  | blank white _ ih =>
      rcases List.mem_cons.1 mem with rfl | mem
      · exact .inr white
      · exact ih mem
  | char d _ ih =>
      rcases List.mem_cons.1 mem with rfl | mem
      · exact .inl (List.mem_cons_self ..)
      · exact (ih mem).imp_left (List.mem_cons_of_mem d)

/-- A mark that occurs before its place is begun in front of it. -/
theorem early_of_infix (ne : mark ≠ []) (inside : mark <:+: before ++ mark.dropLast) :
    ∃ x y, x.length < before.length ∧ before ++ mark.dropLast = x ++ mark ++ y := by
  obtain ⟨x, y, whole⟩ := inside
  have lengths := congrArg List.length whole
  have some := List.length_pos_iff.2 ne
  simp only [List.length_append, List.length_dropLast] at lengths
  exact ⟨x, y, by omega, whole.symm⟩

/-- A text is cut at a mark that no earlier place of the text fits. -/
theorem splitAt?_first (ne : mark ≠ [])
    (first : ∀ x y, before ++ mark ++ t = x ++ mark ++ y → before.length ≤ x.length)
    (after : List Char) : splitAt? mark (before ++ mark ++ after) = some (before, after) := by
  refine (splitAt?_eq_some_iff ne).2 ⟨rfl, fun inside => ?_⟩
  obtain ⟨x, y, early, whole⟩ := early_of_infix ne inside
  have longer : before ++ mark ++ t = x ++ mark ++ (y ++ mark.getLast ne :: t) := by
    calc before ++ mark ++ t
        = before ++ (mark.dropLast ++ [mark.getLast ne]) ++ t := by
          rw [List.dropLast_concat_getLast]
      _ = (before ++ mark.dropLast) ++ mark.getLast ne :: t := by simp
      _ = x ++ mark ++ (y ++ mark.getLast ne :: t) := by rw [whole, List.append_assoc]
  exact absurd (first _ _ longer) (Nat.not_le.2 early)

/-- No place is earlier if the mark's first character does not occur in front. -/
theorem first_of_absent (begins : mark.head? = some m) (absent : m ∉ before) (x y : List Char)
    (whole : before ++ mark ++ after = x ++ mark ++ y) : before.length ≤ x.length := by
  by_contra early
  have early : x.length < before.length := Nat.lt_of_not_le early
  obtain ⟨ms, rfl⟩ := List.head?_eq_some_iff.1 begins
  have here := congrArg (·[x.length]?) whole
  simp only [List.append_assoc, List.cons_append, List.getElem?_append_left early,
    List.getElem?_append_right (Nat.le_refl _), Nat.sub_self, List.getElem?_cons_zero] at here
  exact absent (List.mem_of_getElem? here)

end Text

namespace Certificate

open Text (Spaced)

variable {d : Bytes} {before body after : List Char}

theorem decodeChars_spaced (spaced : Spaced (Base64.encodeChars d) body) :
    Base64.decodeChars (body.filter fun c => !Text.isBlank c) = some d := by
  rw [spaced.filter (Base64.isBlank_of_mem_encodeChars d), Base64.decodeChars_encodeChars]

/-- The closing line begins with a character that base64 does without. -/
theorem dash_not_mem_spaced (spaced : Spaced (Base64.encodeChars d) body) : '-' ∉ body := by
  intro mem
  rcases spaced.mem mem with letter | white
  · exact Base64.dash_not_mem_encodeChars d letter
  · cases white

theorem pemBytes?_block (spaced : Spaced (Base64.encodeChars d) body)
    (first : ∀ x y, before ++ pemBegin ++ body ++ pemEnd ++ after = x ++ pemBegin ++ y →
      before.length ≤ x.length) (after' : List Char) :
    pemBytes? (before ++ pemBegin ++ body ++ pemEnd ++ after') = some d := by
  have opened : Text.splitAt? pemBegin (before ++ pemBegin ++ (body ++ pemEnd ++ after')) =
      some (before, body ++ pemEnd ++ after') :=
    Text.splitAt?_first (t := body ++ pemEnd ++ after) (by decide)
      (fun x y whole => first x y (by simpa only [List.append_assoc] using whole)) _
  have closed : Text.splitAt? pemEnd (body ++ pemEnd ++ after') = some (body, after') :=
    Text.splitAt?_first (t := after') (by decide)
      (Text.first_of_absent (by decide) (dash_not_mem_spaced spaced)) after'
  simp only [List.append_assoc] at opened closed
  simp only [pemBytes?, pemBody?, bind, List.append_assoc, opened, closed, Option.bind_some, pure,
    decodeChars_spaced spaced]

/-- The base64 text of a byte string, with white space in it as one likes, and any text around a
first PEM block that holds it, are read as the byte string itself is. What comes after the closing
line of the block makes no difference. -/
theorem text_forms_agree (spaced : Spaced (Base64.encodeChars d) body)
    (first : ∀ x y, before ++ pemBegin ++ body ++ pemEnd ++ after = x ++ pemBegin ++ y →
      before.length ≤ x.length) :
    ofBase64 (String.ofList body) = ofDer d ∧
      ofPem (String.ofList (before ++ pemBegin ++ body ++ pemEnd ++ after)) = ofDer d ∧
      ∀ after', ofPem (String.ofList (before ++ pemBegin ++ body ++ pemEnd ++ after')) =
        ofDer d := by
  have blocks : ∀ after', ofPem (String.ofList (before ++ pemBegin ++ body ++ pemEnd ++ after')) =
      ofDer d := by
    intro after'
    rw [ofPem, String.toList_ofList, pemBytes?_block spaced first after']
  refine ⟨?_, blocks after, blocks⟩
  rw [ofBase64, String.toList_ofList, decodeChars_spaced spaced]

/-- The base64 text of the sample, in lines that end in two ways. -/
def sampleBody : List Char :=
  let text := Base64.encodeChars sampleEncoding
  '\n' :: text.take 64 ++ ['\r', '\n'] ++ text.drop 64 ++ ['\n']

/-- The two forms give the sample, also where the block stands between other text. -/
theorem sampleBody_read :
    let before := "idp.example\n".toList
    let after := "\nreplaces\n-----BEGIN CERTIFICATE-----".toList
    Spaced (Base64.encodeChars sampleEncoding) sampleBody ∧
      (∀ x y, before ++ pemBegin ++ sampleBody ++ pemEnd ++ after = x ++ pemBegin ++ y →
        before.length ≤ x.length) ∧
      ∃ c, c.der = sampleEncoding ∧ ofBase64 (String.ofList sampleBody) = .ok c ∧
        ofPem (String.ofList (before ++ pemBegin ++ sampleBody ++ pemEnd ++ after)) = .ok c := by
  intro before after
  have letters : sampleBody.filter (fun c => !Text.isBlank c) =
      Base64.encodeChars sampleEncoding := by decide +kernel
  have spaced := letters ▸ Text.spaced_filter sampleBody
  have first : ∀ x y, before ++ pemBegin ++ sampleBody ++ pemEnd ++ after = x ++ pemBegin ++ y →
      before.length ≤ x.length := by
    have begins : pemBegin.head? = some '-' := by decide
    have absent : '-' ∉ before := by decide
    intro x y whole
    exact Text.first_of_absent begins absent x y (by simpa only [List.append_assoc] using whole)
  obtain ⟨x, encodes⟩ := sampleEncoding_encodes
  obtain ⟨c, made, -, der⟩ := ofDer_of_encodes encodes []
  rw [List.append_nil] at made der
  obtain ⟨base64, pem, -⟩ := text_forms_agree spaced first
  exact ⟨spaced, first, c, der, base64.trans made, pem.trans made⟩

end Certificate

end Gatehouse
