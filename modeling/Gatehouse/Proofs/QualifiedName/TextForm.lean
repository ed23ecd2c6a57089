import Gatehouse.Proofs.Text.Blank
import Gatehouse.QualifiedName

/-! # The text form of a qualified name

What is read from a text depends on where its first closing brace stands, if it begins with an
opening one. The shapes that a text can have are listed here, each with what it is read as. From
this list follows which names come back from their text form, which texts are names, and that a name
is written again as the text that it was read from.
-/

namespace Gatehouse

namespace QualifiedName

/-- What a text without white space around it is read as. -/
inductive Reads : List Char → Option QualifiedName → Prop where
  | empty : Reads [] none
  | unclosed {rest : List Char} (absent : '}' ∉ rest) : Reads ('{' :: rest) none
  | nameless {uri : List Char} (absent : '}' ∉ uri) : Reads ('{' :: uri ++ ['}']) none
  /-- Empty braces stand for no namespace. -/
  | unbraced {name : List Char} (ne : name ≠ []) :
    Reads ('{' :: '}' :: name) (some (bare (String.ofList name)))
  | braced {uri name : List Char} (known : uri ≠ []) (absent : '}' ∉ uri) (ne : name ≠ []) :
    Reads ('{' :: uri ++ '}' :: name)
      (some (inNamespace (String.ofList uri) (String.ofList name)))
  | plain {c : Char} {name : List Char} (unopened : c ≠ '{') :
    Reads (c :: name) (some (bare (String.ofList (c :: name))))

/-- The names whose text form is read as the name itself. -/
inductive Faithful : QualifiedName → Prop where
  | bare {name : String} (ne : name ≠ "")
    (first : ∀ c ∈ name.toList.head?, Text.isBlank c = false ∧ c ≠ '{')
    (last : ∀ c ∈ name.toList.getLast?, Text.isBlank c = false) : Faithful (bare name)
  | inNamespace {uri name : String} (known : uri ≠ "") (absent : '}' ∉ uri.toList) (ne : name ≠ "")
    (last : ∀ c ∈ name.toList.getLast?, Text.isBlank c = false) : Faithful (inNamespace uri name)

/-- A text without the empty braces at its beginning, if it has them there. -/
def withoutEmptyBraces : List Char → List Char
  | '{' :: '}' :: rest => rest
  | s => s

variable {s : String} {q : QualifiedName} {t uri name : List Char} {r : Option QualifiedName}

theorem toList_text_bare (name : String) : (bare name).text.toList = name.toList :=
  rfl

theorem toList_text_inNamespace (uri name : String) :
    (inNamespace uri name).text.toList = '{' :: uri.toList ++ '}' :: name.toList := by
  simp [inNamespace, text]

/-! ## Reading -/

theorem parse?_braced (trimmed : Text.trim s.toList = '{' :: uri ++ '}' :: name)
    (absent : '}' ∉ uri) :
    parse? s =
      if name.isEmpty then none
      else if uri.isEmpty then some (bare (String.ofList name))
      else some (inNamespace (String.ofList uri) (String.ofList name)) := by
  rw [List.cons_append] at trimmed
  simp only [parse?, trimmed, Text.cut?_append name absent, Option.bind_some]

theorem Reads.parse?_eq (reads : Reads (Text.trim s.toList) r) : parse? s = r := by
  generalize trimmed : Text.trim s.toList = t at reads
  cases reads with
  | empty => simp only [parse?, trimmed]
  | unclosed absent => simp only [parse?, trimmed, Text.cut?_eq_none absent, Option.bind_none]
  | nameless absent => exact parse?_braced trimmed absent
  | @unbraced name ne =>
      have braced : Text.trim s.toList = '{' :: [] ++ '}' :: name := trimmed
      rw [parse?_braced braced List.not_mem_nil]
      simp [ne]
  | braced known absent ne =>
      rw [parse?_braced trimmed absent]
      simp [known, ne]
  | plain unopened =>
      unfold parse?
      rw [trimmed]
      split
      · contradiction
      · next opened => exact absurd (List.cons.inj opened).1 unopened
      · rfl

/-- Every text has one of the shapes. -/
theorem exists_reads (t : List Char) : ∃ r, Reads t r := by
  match t with
  | [] => exact ⟨_, .empty⟩
  | c :: rest =>
      by_cases opened : c = '{'
      · subst opened
        by_cases closed : '}' ∈ rest
        · obtain ⟨uri, name, rfl, absent⟩ := List.eq_append_cons_of_mem closed
          by_cases nameless : name = []
          · subst nameless
            exact ⟨_, .nameless absent⟩
          · by_cases unknown : uri = []
            · subst unknown
              exact ⟨_, .unbraced nameless⟩
            · exact ⟨_, .braced unknown absent nameless⟩
        · exact ⟨_, .unclosed closed⟩
      · exact ⟨_, .plain opened⟩

theorem parse?_eq_iff : parse? s = r ↔ Reads (Text.trim s.toList) r := by
  refine ⟨?_, Reads.parse?_eq⟩
  rintro rfl
  obtain ⟨r, reads⟩ := exists_reads (Text.trim s.toList)
  exact reads.parse?_eq ▸ reads

theorem reads_none_iff : Reads t none ↔
    t = [] ∨ ∃ rest, t = '{' :: rest ∧ ('}' ∉ rest ∨ ∃ uri, '}' ∉ uri ∧ rest = uri ++ ['}']) := by
  constructor
  · intro reads
    cases reads with
    | empty => exact .inl rfl
    | unclosed absent => exact .inr ⟨_, rfl, .inl absent⟩
    | nameless absent => exact .inr ⟨_, rfl, .inr ⟨_, absent, rfl⟩⟩
  · rintro (rfl | ⟨rest, rfl, absent | ⟨uri, absent, rfl⟩⟩)
    · exact .empty
    · exact .unclosed absent
    · exact .nameless absent

/-! ## Writing what was read -/

theorem Reads.text_eq (reads : Reads t (some q)) : q.text.toList = withoutEmptyBraces t := by
  cases reads with
  | unbraced ne => simp [toList_text_bare, withoutEmptyBraces]
  | @braced uri name known absent ne =>
      obtain ⟨c, uri, rfl⟩ := List.exists_cons_of_ne_nil known
      have unclosed : c ≠ '}' := fun closed => absent (closed ▸ List.mem_cons_self)
      simp [toList_text_inNamespace, withoutEmptyBraces, unclosed]
  | plain unopened => simp [toList_text_bare, withoutEmptyBraces, unopened]

theorem withoutEmptyBraces_eq (long : t.length ≤ (withoutEmptyBraces t).length) :
    withoutEmptyBraces t = t := by
  unfold withoutEmptyBraces at long ⊢
  split at long
  · simp only [List.length_cons] at long
    omega
  · rfl

/-! ## Reading what was written -/

/-- What is read as the name that it is the text of has nothing that reading drops. -/
theorem reads_trim_text_iff : Reads (Text.trim q.text.toList) (some q) ↔
    Text.trim q.text.toList = q.text.toList ∧ Reads q.text.toList (some q) := by
  constructor
  · intro reads
    have written := reads.text_eq
    have whole : withoutEmptyBraces (Text.trim q.text.toList) = Text.trim q.text.toList := by
      refine withoutEmptyBraces_eq ?_
      rw [← written]
      exact Text.strip_length_le Text.isBlank _
    have trimmed := (written.trans whole).symm
    exact ⟨trimmed, trimmed ▸ reads⟩
  · rintro ⟨trimmed, reads⟩
    rwa [trimmed]

theorem reads_bare_iff {name : String} : Reads name.toList (some (bare name)) ↔
    name ≠ "" ∧ ∀ c ∈ name.toList.head?, c ≠ '{' := by
  constructor
  · intro reads
    generalize shape : name.toList = t at reads
    cases reads with
    | unbraced ne =>
        have length := congrArg List.length shape
        simp only [String.toList_ofList, List.length_cons] at length
        omega
    | plain unopened => simp [unopened]
  · rintro ⟨ne, unopened⟩
    obtain ⟨c, rest, shape⟩ := List.exists_cons_of_ne_nil (mt String.toList_eq_nil_iff.1 ne)
    have reads : Reads (c :: rest) _ := .plain (unopened c (by simp [shape]))
    rwa [← shape, String.ofList_toList] at reads

theorem reads_inNamespace_iff {uri name : String} :
    Reads ('{' :: uri.toList ++ '}' :: name.toList) (some (inNamespace uri name)) ↔
      uri ≠ "" ∧ '}' ∉ uri.toList ∧ name ≠ "" := by
  constructor
  · intro reads
    generalize '{' :: uri.toList ++ '}' :: name.toList = t at reads
    cases reads with
    | braced known absent ne => simpa using ⟨known, absent, ne⟩
  · rintro ⟨known, absent, ne⟩
    have reads := Reads.braced (mt String.toList_eq_nil_iff.1 known) absent
      (mt String.toList_eq_nil_iff.1 ne)
    rwa [String.ofList_toList, String.ofList_toList] at reads

/-- The closing brace is no white space, so only the local name can end in it. -/
theorem last_braced_iff : (∀ c ∈ ('{' :: uri ++ '}' :: name).getLast?, Text.isBlank c = false) ↔
    ∀ c ∈ name.getLast?, Text.isBlank c = false := by
  have brace : Text.isBlank '}' = false := by decide
  rw [List.getLast?_append_cons, List.getLast?_cons]
  cases name.getLast? <;> simp [brace]

theorem parse?_text_iff : parse? q.text = some q ↔ Faithful q := by
  rw [parse?_eq_iff, reads_trim_text_iff, Text.trim, Text.strip_eq_self_iff]
  constructor
  · rintro ⟨⟨first, last⟩, reads⟩
    obtain ⟨_ | uri, name⟩ := q
    · obtain ⟨ne, unopened⟩ := reads_bare_iff.1 reads
      exact .bare ne (fun c head => ⟨first c head, unopened c head⟩) last
    · have shape := toList_text_inNamespace uri name
      obtain ⟨known, absent, ne⟩ := reads_inNamespace_iff.1 (shape ▸ reads)
      exact .inNamespace known absent ne (last_braced_iff.1 (shape ▸ last))
  · intro faithful
    cases faithful with
    | bare ne first last =>
        have reads := reads_bare_iff.2 ⟨ne, fun c head => (first c head).2⟩
        exact ⟨⟨fun c head => (first c head).1, last⟩, reads⟩
    | inNamespace known absent ne last =>
        rw [toList_text_inNamespace]
        have reads := reads_inNamespace_iff.2 ⟨known, absent, ne⟩
        exact ⟨⟨by simp [Text.isBlank], last_braced_iff.2 last⟩, reads⟩

/-- A name comes back from its text form iff it is one of those listed. A text is no name iff it is
blank, or begins with an opening brace that is not closed or that is closed at its end for the
first time. What a text is read as is written as that text, without the white space around it and
without empty braces before the rest. -/
theorem text_form_lossless (q : QualifiedName) (s : String) :
    (parse? q.text = some q ↔ Faithful q) ∧
      (parse? s = none ↔ Text.trim s.toList = [] ∨ ∃ rest, Text.trim s.toList = '{' :: rest ∧
        ('}' ∉ rest ∨ ∃ uri, '}' ∉ uri ∧ rest = uri ++ ['}'])) ∧
      ∀ q' ∈ parse? s, q'.text.toList = withoutEmptyBraces (Text.trim s.toList) := by
  refine ⟨parse?_text_iff, parse?_eq_iff.trans reads_none_iff, fun q' read => ?_⟩
  exact (parse?_eq_iff.1 read).text_eq

/-- Empty braces hide the namespace after them: it becomes part of a local name, which is written
without them and so does not come back. -/
theorem hidden_namespace_dropped :
    let s := " \x7b\x7d\x7burn:x\x7dIssuer\n"
    let q := bare "\x7burn:x\x7dIssuer"
    q ∈ parse? s ∧ q.text.toList = withoutEmptyBraces (Text.trim s.toList) ∧
      parse? q.text = some (inNamespace "urn:x" "Issuer") := by
  intro s q
  have read : q ∈ parse? s := by decide +kernel
  exact ⟨read, (text_form_lossless q s).2.2 q read, by decide +kernel⟩

end QualifiedName

end Gatehouse
