import Gatehouse.Proofs.Fragment.Reading
import Gatehouse.Proofs.Text.Blank

/-! # What a document learnt

The header values of a document, told from its root tag, the tags of the root's children and the
text of its first `Issuer` alone, and that reading the document finds just these.
-/

namespace Gatehouse.Fragment

open Xml Text Saml

/-- The text that counts in the content of an `Issuer` element: its runs up to the first end tag,
each without the white space around it. The text of CDATA sections does not count. -/
def issuerText? : List Markup → Option (List Char)
  | [] => some []
  | .endTag _ :: _ => some []
  | .text raw :: rest =>
    (resolve? (strip isSpace raw)).bind fun run => (issuerText? rest).map fun more => run ++ more
  | _ :: rest => issuerText? rest

theorem issuerText?_other {piece : Markup} {rest : List Markup} (noTag : ¬ piece.IsTag)
    (noText : ¬ piece.IsText) : issuerText? (piece :: rest) = issuerText? rest := by
  rw [issuerText?.eq_4]
  · rintro close rfl
    exact noTag trivial
  · rintro raw rfl
    exact noText ⟨raw, rfl⟩

theorem issuerText?_endTag {pieces : List Markup} {close : List Char} (rest : List Markup) :
    issuerText? (pieces ++ .endTag close :: rest) = issuerText? pieces := by
  fun_induction issuerText? pieces with
  | case1 => rfl
  | case2 => rfl
  | case3 raw more ih => simp only [List.cons_append, issuerText?, ih]
  | case4 piece more notEnd notText ih =>
      rw [List.cons_append, issuerText?.eq_4, ih]
      · exact notEnd
      · exact notText

/-- A claim with more text. -/
def Claim.plus (c : Claim) (text : List Char) : Claim :=
  { c with text := c.text ++ text }

theorem Claim.plus_nil (c : Claim) : c.plus [] = c := by
  rw [plus, List.append_nil]

theorem Claim.plus_plus (c : Claim) (text more : List Char) :
    (c.plus text).plus more = c.plus (text ++ more) := by
  rw [plus, plus, plus, List.append_assoc]

/-- What is learnt from a child of the root, given the scope in the root. -/
def Progress.afterChild? (scope : Scope) (p : Progress) (c : Child) : Option Progress :=
  (c.tag.element? scope).bind fun e => e.attributes?.bind fun attributes =>
    if e.name = QualifiedName.inNamespace assertion20 "Issuer" ∧ p.claim.isNone then
      (issuerText? c.content).map fun text =>
        { p with claim := some { Claim.ofAttributes attributes with text := text } }
    else some (p.child e.name attributes false)

/-- What every child keeps is kept. -/
theorem foldlM_keeps {f : Progress → Child → Option Progress} {P : Progress → Prop}
    {p q : Progress} {children : List Child}
    (keeps : ∀ c ∈ children, ∀ p q, P p → f p c = some q → P q) (holds : P p)
    (said : children.foldlM f p = some q) : P q := by
  induction children generalizing p with
  | nil =>
      cases said
      exact holds
  | cons c children ih =>
      rw [List.foldlM_cons] at said
      obtain ⟨between, step, onward⟩ := Option.bind_eq_some_iff.1 said
      rw [List.forall_mem_cons] at keeps
      exact ih keeps.2 (keeps.1 p between holds step) onward

theorem foldlM_middle {f : Progress → Child → Option Progress} {p q : Progress}
    {before after : List Child} {c : Child} :
    (before ++ c :: after).foldlM f p = some q ↔ ∃ met next, before.foldlM f p = some met ∧
      f met c = some next ∧ after.foldlM f next = some q := by
  simp [List.foldlM_append, Option.bind_eq_some_iff]

/-- The progress inside the root element. -/
def Progress.inRoot (root : Root) : Progress :=
  { Progress.start with root := some root, depth := 1 }

/-- The header values of a document, unless something in them is at fault. -/
def message? (d : Document) : Option Message :=
  (d.root.element? Scope.initial).bind fun e => e.attributes?.bind fun attributes =>
    (Root.ofElement e.name e.scope attributes).toOption.bind fun root =>
      (d.children.foldlM (Progress.afterChild? e.scope) (.inRoot root)).bind fun p =>
        p.left.finish.toOption

theorem message?_eq_some_iff {d : Document} {message : Message} :
    message? d = some message ↔ ∃ e attributes root p, d.root.element? Scope.initial = some e ∧
      e.attributes? = some attributes ∧ Root.ofElement e.name e.scope attributes = .ok root ∧
      d.children.foldlM (Progress.afterChild? e.scope) (.inRoot root) = some p ∧
      p.left.finish = .ok message := by
  have ok {α : Type} {x : Except Error α} {value : α} :
      x.toOption = some value ↔ x = .ok value := by
    cases x with
    | error fault => simp [Except.toOption]
    | ok other => simp [Except.toOption]
  simp only [message?, Option.bind_eq_some_iff, ok]
  constructor
  · intro read
    obtain ⟨e, named, attributes, listed, root, made, p, learnt, done⟩ := read
    exact ⟨e, attributes, root, p, named, listed, made, learnt, done⟩
  · intro found
    obtain ⟨e, attributes, root, p, named, listed, made, learnt, done⟩ := found
    exact ⟨e, named, attributes, listed, root, made, p, learnt, done⟩

namespace Reading

/-- The same place with another claim, where text is wanted or not. -/
def told (r : Reading) (claim : Claim) (wanted : Bool) : Reading :=
  ⟨r.position, { r.progress with claim := some claim, inIssuer := wanted }⟩

variable {r next : Reading} {pieces rest : List Markup} {close : List Char}

theorem told_self {c : Claim} {wanted : Bool} (claimed : r.progress.claim = some c)
    (same : r.progress.inIssuer = wanted) : r.told c wanted = r := by
  rw [told, ← claimed, ← same]

theorem read?_text_wanted {raw : List Char} {c : Claim} (inside : r.progress.depth ≠ 0)
    (wanted : r.progress.inIssuer = true) (claimed : r.progress.claim = some c)
    (step : r.read? (.text raw) = some next) :
    ∃ run, resolve? (strip isSpace raw) = some run ∧ next = r.told (c.plus run) true := by
  rcases read?_text.1 step with ⟨blank, rfl⟩ | ⟨_, progress, said, rfl⟩
  · refine ⟨[], by rw [blank]; rfl, ?_⟩
    rw [Claim.plus_nil, told_self claimed wanted]
  · rw [Progress.text, if_neg inside, claimed] at said
    dsimp only at said
    rw [if_pos wanted] at said
    cases resolved : resolve? (strip isSpace raw) with
    | none => simp [resolved] at said
    | some run =>
        simp only [resolved, Except.ok.injEq] at said
        refine ⟨run, rfl, ?_⟩
        rw [← said, told, ← wanted]
        rfl

/-- Where text is wanted, the content of a child of the root adds its text to the claim. -/
theorem readAll?_wanted {c : Claim} (content : Content pieces) (deep : 2 ≤ r.progress.depth)
    (wanted : r.progress.inIssuer = true) (claimed : r.progress.claim = some c)
    (walk : r.readAll? pieces = some next) :
    ∃ text still, issuerText? pieces = some text ∧ next = r.told (c.plus text) still := by
  induction content generalizing r next c with
  | nil =>
      obtain rfl := readAll?_nil.1 walk
      refine ⟨[], true, rfl, ?_⟩
      rw [Claim.plus_nil, told_self claimed wanted]
  | @other p rest noTag _ ih =>
      obtain ⟨between, step, onward⟩ := readAll?_cons.1 walk
      by_cases isText : p.IsText
      · obtain ⟨raw, rfl⟩ := isText
        obtain ⟨run, resolved, same⟩ := read?_text_wanted (by omega) wanted claimed step
        subst same
        obtain ⟨text, still, heard, rfl⟩ := ih (r := r.told _ true) deep rfl rfl onward
        refine ⟨run ++ text, still, ?_, ?_⟩
        · simp only [issuerText?, resolved, heard, Option.bind_some, Option.map_some]
        · rw [Claim.plus_plus]
          rfl
      · rw [read?_other noTag isText] at step
        cases step
        rw [issuerText?_other noTag isText]
        exact ih deep wanted claimed onward
  | empty _ ih =>
      obtain ⟨e, found, _, said, onward⟩ := readAll?_emptyTag walk
      rw [(Progress.element_deep deep said).2, shut_of_deep (by omega)] at onward
      exact ih deep wanted claimed onward
  | @element body close inner rest noSlash contentInner _ contentRest ihInner ih =>
      obtain ⟨e, found, last, _, said, inner, onward⟩ := readAll?_element noSlash walk
      rw [(Progress.element_deep deep said).2] at inner onward
      obtain ⟨text, still, heard, rfl⟩ :=
        ihInner (r := r.enter _ _ _) (Nat.le_succ_of_le deep) wanted claimed inner
      -- The end tag has ended the interest in text, whatever came before it.
      have left : ((r.enter (RawTag.ofBody body).name e.scope r.progress).told (c.plus text)
          still).progress.left = (r.told (c.plus text) false).progress :=
        left_of_deep (p := { r.progress with claim := some (c.plus text), inIssuer := still })
          (Nat.ne_of_gt (Nat.lt_of_lt_of_le Nat.two_pos deep))
      have onward := onward rfl
      rw [left] at onward
      have unwanted := readAll?_unwanted (r := r.told _ false) contentRest deep rfl onward
      exact ⟨text, false, (issuerText?_endTag rest).trans heard, unwanted⟩

/-! ## The root's children -/

/-- A place in the root element, between its children. -/
structure Between (r : Reading) : Prop where
  depth : r.progress.depth = 1
  opened : r.progress.closed = false
  unwanted : r.progress.inIssuer = false

end Reading

namespace Progress

theorem element_child {p q : Progress} {e : Element} {hasContent : Bool} (depth : p.depth = 1)
    (said : p.element e hasContent = .ok q) :
    ∃ attributes, e.attributes? = some attributes ∧ q = p.child e.name attributes hasContent := by
  obtain ⟨_, attributes, listed, ⟨top, _⟩ | ⟨_, same⟩ | ⟨top, _⟩⟩ := element_eq_ok said
  · omega
  · exact ⟨attributes, listed, same⟩
  · omega

theorem element_root {p q : Progress} {e : Element} {hasContent : Bool} (depth : p.depth = 0)
    (said : p.element e hasContent = .ok q) :
    ∃ attributes root, e.attributes? = some attributes ∧
      Root.ofElement e.name e.scope attributes = .ok root ∧ q = { p with root := some root } := by
  obtain ⟨_, attributes, listed, ⟨_, root, made, same⟩ | ⟨top, _⟩ | ⟨top, _⟩⟩ :=
    element_eq_ok said
  · exact ⟨attributes, root, listed, made, same⟩
  · omega
  · omega

theorem child_issuer {p : Progress} {name : QualifiedName} (attributes : List Attribute)
    (hasContent : Bool)
    (first : name = QualifiedName.inNamespace assertion20 "Issuer" ∧ p.claim.isNone) :
    p.child name attributes hasContent =
      { p with claim := some (Claim.ofAttributes attributes), inIssuer := hasContent } := by
  rw [child, if_pos first]

theorem child_other {p : Progress} {name : QualifiedName} (attributes : List Attribute)
    (hasContent : Bool)
    (other : ¬ (name = QualifiedName.inNamespace assertion20 "Issuer" ∧ p.claim.isNone)) :
    ∃ named, p.child name attributes hasContent = { p with assertionIssuer := named } ∧
      p.child name attributes false = { p with assertionIssuer := named } := by
  simp only [child, if_neg other]
  split
  · exact ⟨_, rfl, rfl⟩
  · exact ⟨_, rfl, rfl⟩

/-- A child is the first `Issuer` and makes the claim, or it leaves the claim as it is. -/
theorem afterChild?_cases {scope : Scope} {p q : Progress} {c : Child}
    (said : p.afterChild? scope c = some q) :
    ∃ e attributes, c.tag.element? scope = some e ∧ e.attributes? = some attributes ∧
      ((e.name = QualifiedName.inNamespace assertion20 "Issuer" ∧ p.claim.isNone) ∧
          (∃ text, issuerText? c.content = some text ∧
            q = { p with claim := some { Claim.ofAttributes attributes with text := text } }) ∨
        ¬ (e.name = QualifiedName.inNamespace assertion20 "Issuer" ∧ p.claim.isNone) ∧
          ∃ named, q = { p with assertionIssuer := named }) := by
  obtain ⟨e, found, said⟩ := Option.bind_eq_some_iff.1 said
  obtain ⟨attributes, listed, said⟩ := Option.bind_eq_some_iff.1 said
  refine ⟨e, attributes, found, listed, ?_⟩
  split at said
  · next first =>
      obtain ⟨text, heard, same⟩ := Option.map_eq_some_iff.1 said
      exact .inl ⟨first, text, heard, same.symm⟩
  · next other =>
      obtain ⟨named, _, same⟩ := child_other attributes false other
      exact .inr ⟨other, named, (Option.some.inj said).symm.trans same⟩

end Progress

namespace Reading

variable {r next : Reading} {pieces rest : List Markup} {close : List Char} {c : Child}

/-- The content of a child that is not the first `Issuer` learnt nothing. -/
theorem left_of_unwanted {last : Reading} {name : List Char} {scope : Scope} {q : Progress}
    (walk : (r.enter name scope q).readAll? pieces = some last) (content : Content pieces)
    (depth : q.depth = 1) (unwanted : q.inIssuer = false) :
    last.position = (r.enter name scope q).position ∧ last.progress.left = q := by
  have deep : 2 ≤ (r.enter name scope q).progress.depth := by simp [enter, depth]
  obtain rfl := readAll?_unwanted (r := r.enter name scope q) content deep unwanted walk
  refine ⟨rfl, ?_⟩
  rw [enter, left_of_deep (by omega), ← unwanted]

/-- The content of the first `Issuer` adds its text to the claim. -/
theorem left_of_wanted {last : Reading} {name : List Char} {scope : Scope} {q : Progress}
    {claim : Claim} (walk : (r.enter name scope q).readAll? pieces = some last)
    (content : Content pieces) (depth : q.depth = 1) (wanted : q.inIssuer = true)
    (claimed : q.claim = some claim) :
    ∃ text, issuerText? pieces = some text ∧
      last.position = (r.enter name scope q).position ∧
      last.progress.left = { q with claim := some (claim.plus text), inIssuer := false } := by
  have deep : 2 ≤ (r.enter name scope q).progress.depth := by simp [enter, depth]
  obtain ⟨text, still, heard, rfl⟩ :=
    readAll?_wanted (r := r.enter name scope q) content deep wanted claimed walk
  refine ⟨text, heard, rfl, ?_⟩
  exact left_of_deep (p := { q with claim := some (claim.plus text), inIssuer := still })
    (by simp [depth])

/-- A walk over a child of the root learns from it and stays between the children. -/
theorem readAll?_child (is : IsElement c.tag c.content pieces) (between : r.Between)
    (walk : r.readAll? (pieces ++ rest) = some next) :
    ∃ q, r.progress.afterChild? r.position.scope c = some q ∧
      Between ⟨r.position, q⟩ ∧ readAll? ⟨r.position, q⟩ rest = some next := by
  obtain ⟨tag, content⟩ := c
  obtain ⟨depth, opened, unwanted⟩ := between
  cases is with
  | @empty body same =>
      subst same
      obtain ⟨e, found, named, said, onward⟩ := readAll?_emptyTag walk
      obtain ⟨attributes, listed, rfl⟩ := Progress.element_child depth said
      by_cases first : e.name = QualifiedName.inNamespace assertion20 "Issuer" ∧
          r.progress.claim.isNone
      · rw [Progress.child_issuer attributes false first, shut_of_deep (by simp [depth])] at onward
        refine ⟨_, ?_, ?_, onward⟩
        · simp only [Progress.afterChild?, named, listed, Option.bind_some, if_pos first,
            ← unwanted]
          rfl
        · exact ⟨depth, opened, rfl⟩
      · obtain ⟨issuer, same, _⟩ := Progress.child_other attributes false first
        rw [same, shut_of_deep (by simp [depth])] at onward
        refine ⟨_, ?_, ?_, onward⟩
        · simp only [Progress.afterChild?, named, listed, Option.bind_some, if_neg first, same]
        · exact ⟨depth, opened, unwanted⟩
  | @closed body close _ noSlash same inside _ =>
      subst same
      rw [List.cons_append, List.append_assoc] at walk
      obtain ⟨e, found, last, named, said, inner, onward⟩ := readAll?_element noSlash walk
      obtain ⟨attributes, listed, rfl⟩ := Progress.element_child depth said
      by_cases first : e.name = QualifiedName.inNamespace assertion20 "Issuer" ∧
          r.progress.claim.isNone
      · rw [Progress.child_issuer attributes true first] at inner onward
        obtain ⟨text, heard, back, left⟩ := left_of_wanted inner inside depth rfl rfl
        have onward := onward back
        rw [left] at onward
        refine ⟨_, ?_, ?_, onward⟩
        · simp only [Progress.afterChild?, named, listed, Option.bind_some, if_pos first, heard,
            ← unwanted]
          rfl
        · exact ⟨depth, opened, rfl⟩
      · obtain ⟨issuer, same, same'⟩ := Progress.child_other attributes true first
        rw [same] at inner onward
        obtain ⟨back, left⟩ := left_of_unwanted inner inside depth unwanted
        have onward := onward back
        rw [left] at onward
        refine ⟨_, ?_, ?_, onward⟩
        · simp only [Progress.afterChild?, named, listed, Option.bind_some, if_neg first, same']
        · exact ⟨depth, opened, unwanted⟩

theorem readAll?_children {children : List Child} (of : Children pieces children)
    (between : r.Between) (walk : r.readAll? pieces = some next) :
    ∃ q, children.foldlM (Progress.afterChild? r.position.scope) r.progress = some q ∧
      Between ⟨r.position, q⟩ ∧ next = ⟨r.position, q⟩ := by
  induction of generalizing r with
  | nil =>
      obtain rfl := readAll?_nil.1 walk
      exact ⟨r.progress, rfl, between, rfl⟩
  | other noTag _ ih =>
      obtain ⟨_, step, onward⟩ := readAll?_cons.1 walk
      rw [read?_noTag_unwanted noTag (by simp [between.depth]) between.unwanted step] at onward
      exact ih between onward
  | element is _ ih =>
      obtain ⟨q, said, between, onward⟩ := readAll?_child is between walk
      obtain ⟨final, learnt, between, same⟩ := ih between onward
      refine ⟨final, ?_, between, same⟩
      rw [List.foldlM_cons, said]
      exact learnt

/-! ## The document -/

theorem read?_outside {piece : Markup} (noTag : ¬ piece.IsTag) (outside : r.progress.depth = 0)
    (step : r.read? piece = some next) :
    next = r ∧ (piece.IsMisc ∨ ∃ body, piece = .cdata body) := by
  cases piece with
  | text raw =>
      rcases read?_text.1 step with ⟨blank, same⟩ | ⟨_, _, said, _⟩
      · exact ⟨same, .inl (strip_eq_nil_iff.1 blank)⟩
      · rw [Progress.text, if_pos outside] at said
        cases said
  | cdata body => exact ⟨(Option.some.inj step).symm, .inr ⟨body, rfl⟩⟩
  | startTag body => exact absurd trivial noTag
  | endTag body => exact absurd trivial noTag
  | _ => exact ⟨(Option.some.inj step).symm, .inl trivial⟩

/-- Outside the root nothing is learnt, and character data may only be white space or hidden in a
CDATA section. -/
theorem readAll?_outside (noTags : ∀ p ∈ pieces, ¬ p.IsTag) (outside : r.progress.depth = 0)
    (walk : r.readAll? pieces = some next) :
    next = r ∧ ∀ p ∈ pieces, p.IsMisc ∨ ∃ body, p = .cdata body := by
  induction pieces with
  | nil => exact ⟨(readAll?_nil.1 walk).symm, by simp⟩
  | cons p pieces ih =>
      obtain ⟨between, step, onward⟩ := readAll?_cons.1 walk
      rw [List.forall_mem_cons] at noTags
      obtain ⟨same, misc⟩ := read?_outside noTags.1 outside step
      rw [same] at onward
      obtain ⟨still, others⟩ := ih noTags.2 onward
      exact ⟨still, List.forall_mem_cons.2 ⟨misc, others⟩⟩

theorem readAll?_root {tag : RawTag} {content : List Markup} {children : List Child}
    (is : IsElement tag content pieces) (of : Children content children)
    (walk : start.readAll? (pieces ++ rest) = some next) :
    ∃ e attributes root q, tag.element? Scope.initial = some e ∧ e.attributes? = some attributes ∧
      Root.ofElement e.name e.scope attributes = .ok root ∧
      children.foldlM (Progress.afterChild? e.scope) (.inRoot root) = some q ∧
      q.depth = 1 ∧ readAll? ⟨.start, q.left⟩ rest = some next := by
  cases is with
  | @empty body same =>
      subst same
      obtain rfl := of.of_nil
      obtain ⟨e, found, named, said, onward⟩ := readAll?_emptyTag walk
      obtain ⟨attributes, root, listed, made, rfl⟩ := Progress.element_root rfl said
      exact ⟨e, attributes, root, _, named, listed, made, rfl, rfl, onward⟩
  | @closed body close _ noSlash same inside _ =>
      subst same
      rw [List.cons_append, List.append_assoc] at walk
      obtain ⟨e, found, last, named, said, inner, onward⟩ := readAll?_element noSlash walk
      obtain ⟨attributes, root, listed, made, rfl⟩ := Progress.element_root rfl said
      obtain ⟨q, learnt, between, rfl⟩ := readAll?_children of ⟨rfl, rfl, rfl⟩ inner
      exact ⟨e, attributes, root, q, named, listed, made, learnt, between.depth, onward rfl⟩

end Reading

/-- Reading a text finds what it tells as a document, and character data outside the root can only
be white space or hidden in a CDATA section. -/
theorem heard_of_readMessage {d : Document} {text : List Char} {message : Message}
    (is : d.IsOf text) (read : readMessage text = .ok message) :
    message? d = some message ∧
      ∀ p ∈ d.before ++ d.after, p.IsMisc ∨ ∃ body, p = .cdata body := by
  obtain ⟨content, root, division, element, children, noTags⟩ := is
  obtain ⟨pieces, final, division', walk, done⟩ := Reading.readMessage_eq_ok_iff.1 read
  rw [division'.unique division, List.append_assoc] at walk
  rw [List.forall_mem_append] at noTags
  obtain ⟨first, lead, onward⟩ := Reading.readAll?_append.1 walk
  obtain ⟨rfl, before⟩ := Reading.readAll?_outside noTags.1 rfl lead
  obtain ⟨e, attributes, top, q, named, listed, made, learnt, depth, trail⟩ :=
    Reading.readAll?_root element children onward
  have outside : q.left.depth = 0 := by simp [Progress.left, depth]
  obtain ⟨rfl, after⟩ := Reading.readAll?_outside (r := ⟨.start, q.left⟩) noTags.2 outside trail
  exact ⟨message?_eq_some_iff.2 ⟨e, attributes, top, q, named, listed, made, learnt, done⟩,
    List.forall_mem_append.2 ⟨before, after⟩⟩

end Gatehouse.Fragment
