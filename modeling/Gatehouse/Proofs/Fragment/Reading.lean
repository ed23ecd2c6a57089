import Gatehouse.Fragment
import Gatehouse.Proofs.Xml.Document

/-! # Reading a document piece by piece

The events of a text and what is learnt from them as one walk over the pieces of the text, and what
each kind of piece does to that walk. Nothing is said here about pieces that are refused.
-/

namespace Gatehouse.Fragment

open Xml Text

/-- The progress after an end tag. -/
def Progress.left (p : Progress) : Progress :=
  { p with depth := p.depth - 1, inIssuer := false, closed := p.closed || p.depth - 1 == 0 }

/-- The progress after the tag of an empty element. -/
def Progress.shut (p : Progress) : Progress :=
  { p with closed := p.closed || p.depth == 0 }

/-- Where a reader stands in a document, and what it has read so far. -/
structure Reading where
  position : Position
  progress : Progress

namespace Reading

def start : Reading :=
  ⟨.start, .start⟩

/-- A step into an element with a name and a scope, given the progress that its tag makes. -/
def enter (r : Reading) (name : List Char) (scope : Scope) (found : Progress) : Reading :=
  ⟨⟨scope, ⟨name, r.position.scope⟩ :: r.position.openElements⟩,
    { found with depth := found.depth + 1 }⟩

/-- Reads a piece, unless it is at fault. -/
def read? (r : Reading) (piece : Markup) : Option Reading :=
  (r.position.read? piece).bind fun (event, position) =>
    match event with
    | none => some ⟨position, r.progress⟩
    | some event => (r.progress.step event).toOption.map fun progress => ⟨position, progress⟩

def readAll? (r : Reading) (pieces : List Markup) : Option Reading :=
  pieces.foldlM read? r

variable {r next : Reading} {piece : Markup} {pieces rest : List Markup}

theorem readAll?_nil : r.readAll? [] = some next ↔ r = next := by
  simp [readAll?]

theorem readAll?_cons : r.readAll? (piece :: rest) = some next ↔
    ∃ between, r.read? piece = some between ∧ between.readAll? rest = some next := by
  simp [readAll?, Option.bind_eq_some_iff]

theorem readAll?_append : r.readAll? (pieces ++ rest) = some next ↔
    ∃ between, r.readAll? pieces = some between ∧ between.readAll? rest = some next := by
  simp [readAll?, List.foldlM_append, Option.bind_eq_some_iff]

/-- Walking over the events of some pieces is walking over the pieces. -/
theorem ofMarkup_foldlM_iff {p : Position} {progress found : Progress} :
    ((Event.ofMarkup p pieces).2 = true ∧
        (Event.ofMarkup p pieces).1.foldlM Progress.step progress = .ok found) ↔
      ∃ position, readAll? ⟨p, progress⟩ pieces = some ⟨position, found⟩ := by
  induction pieces generalizing p progress with
  | nil => simp [Event.ofMarkup, readAll?, pure, Except.pure]
  | cons piece rest ih =>
      simp only [readAll?_cons, Event.ofMarkup, read?]
      cases p.read? piece with
      | none => simp
      | some found =>
          obtain ⟨event, position⟩ := found
          cases event with
          | none => simpa using ih
          | some event =>
              cases stepped : progress.step event with
              | error fault => simp [stepped, bind, Except.bind, Except.toOption]
              | ok between => simpa [stepped, bind, Except.bind, Except.toOption] using ih

/-- A text is read if the walk over its pieces is completed. -/
theorem readMessage_eq_ok_iff {text : List Char} {message : Message} :
    readMessage text = .ok message ↔ ∃ pieces final, Markup.Division (withoutMark text) pieces ∧
      start.readAll? pieces = some final ∧ final.progress.finish = .ok message := by
  rcases scanned : Markup.scan (withoutMark text) with ⟨pieces, complete⟩
  have events : Event.list text = ((Event.ofMarkup .start pieces).1,
      complete && (Event.ofMarkup .start pieces).2) := by
    have unfolded : Event.list text = ((Event.ofMarkup .start (Markup.scan (withoutMark text)).1).1,
        (Markup.scan (withoutMark text)).2 &&
          (Event.ofMarkup .start (Markup.scan (withoutMark text)).1).2) := rfl
    rw [unfolded, scanned]
  have read : readMessage text = (do
      let progress ← (Event.ofMarkup .start pieces).1.foldlM Progress.step .start
      if complete && (Event.ofMarkup .start pieces).2 then progress.finish
      else .error (.xml .malformed)) := by
    rw [readMessage, events]
  rw [read]
  constructor
  · intro done
    cases walked : (Event.ofMarkup .start pieces).1.foldlM Progress.step .start with
    | error fault => simp [walked, bind, Except.bind] at done
    | ok found =>
        simp only [walked, bind, Except.bind] at done
        split at done
        · next all =>
            rw [Bool.and_eq_true] at all
            obtain ⟨position, walk⟩ := ofMarkup_foldlM_iff.1 ⟨all.2, walked⟩
            exact ⟨pieces, _, Markup.scan_eq_iff.1 (by rw [scanned, all.1]), walk, done⟩
        · cases done
  · rintro ⟨divided, final, division, walk, done⟩
    cases scanned.symm.trans (Markup.scan_eq_iff.2 division)
    obtain ⟨fit, walked⟩ := ofMarkup_foldlM_iff.2 ⟨final.position, walk⟩
    simp only [walked, fit, bind, Except.bind]
    exact done

/-! ## One piece -/

variable {body close raw : List Char}

theorem read?_other (noTag : ¬ piece.IsTag) (noText : ¬ piece.IsText) :
    r.read? piece = some r := by
  cases piece with
  | text raw => exact absurd ⟨raw, rfl⟩ noText
  | startTag body => exact absurd trivial noTag
  | endTag body => exact absurd trivial noTag
  | _ => rfl

theorem read?_text : r.read? (.text raw) = some next ↔
    strip isSpace raw = [] ∧ next = r ∨ strip isSpace raw ≠ [] ∧
      ∃ progress, r.progress.text (strip isSpace raw) = .ok progress ∧
        next = ⟨r.position, progress⟩ := by
  cases stripped : strip isSpace raw with
  | nil => simpa [read?, Position.read?, stripped] using eq_comm
  | cons c cs =>
      cases said : r.progress.text (c :: cs) with
      | error fault =>
          simp [read?, Position.read?, stripped, Progress.step, said, Except.toOption]
      | ok progress =>
          simp [read?, Position.read?, stripped, Progress.step, said, Except.toOption, eq_comm]

theorem read?_emptyTag (step : r.read? (.startTag (body ++ ['/'])) = some next) :
    ∃ e found, (RawTag.ofBody body).element? r.position.scope = some e ∧
      r.progress.element e false = .ok found ∧ next = ⟨r.position, found.shut⟩ := by
  cases named : (RawTag.ofBody body).element? r.position.scope with
  | none => simp [read?, Position.read?, Position.openTag?, named] at step
  | some e =>
      cases said : r.progress.element e false with
      | error fault =>
          simp [read?, Position.read?, Position.openTag?, named, Progress.step, said, Except.map,
            Except.toOption] at step
      | ok found =>
          simp only [read?, Position.read?, Position.openTag?, List.getLast?_concat, if_true,
            List.dropLast_concat, named, Option.map_some, Option.bind_some, Progress.step, said,
            Except.map, Except.toOption, Option.some.injEq] at step
          exact ⟨e, found, rfl, said, step.symm⟩

theorem read?_startTag (noSlash : body.getLast? ≠ some '/')
    (step : r.read? (.startTag body) = some next) :
    ∃ e found, (RawTag.ofBody body).element? r.position.scope = some e ∧
      r.progress.element e true = .ok found ∧
      next = r.enter (RawTag.ofBody body).name e.scope found := by
  cases named : (RawTag.ofBody body).element? r.position.scope with
  | none => simp [read?, Position.read?, Position.openTag?, noSlash, named] at step
  | some e =>
      cases said : r.progress.element e true with
      | error fault =>
          simp [read?, Position.read?, Position.openTag?, noSlash, named, Progress.step, said,
            Except.map, Except.toOption] at step
      | ok found =>
          simp only [read?, Position.read?, Position.openTag?, if_neg noSlash, named,
            Option.map_some, Option.bind_some, Progress.step, said, Except.map, Except.toOption,
            Option.some.injEq] at step
          exact ⟨e, found, rfl, said, step.symm⟩

theorem read?_endTag (step : r.read? (.endTag close) = some next) :
    ∃ e outer, r.position.openElements = e :: outer ∧ endName close = e.name ∧
      next = ⟨⟨e.outer, outer⟩, r.progress.left⟩ := by
  cases opened : r.position.openElements with
  | nil => simp [read?, Position.read?, Position.closeTag?, opened] at step
  | cons e outer =>
      by_cases same : endName close = e.name
      · simp only [read?, Position.read?, Position.closeTag?, opened, if_pos same,
          Option.map_some, Option.bind_some, Progress.step, Except.toOption,
          Option.some.injEq] at step
        exact ⟨e, outer, rfl, same, step.symm⟩
      · simp [read?, Position.read?, Position.closeTag?, opened, same] at step

/-! ## One element -/

theorem readAll?_emptyTag (walk : r.readAll? (.startTag (body ++ ['/']) :: rest) = some next) :
    ∃ e found, (RawTag.ofBody body).element? r.position.scope = some e ∧
      r.progress.element e false = .ok found ∧
      readAll? ⟨r.position, found.shut⟩ rest = some next := by
  obtain ⟨between, step, onward⟩ := readAll?_cons.1 walk
  obtain ⟨e, found, named, said, same⟩ := read?_emptyTag step
  exact ⟨e, found, named, said, same ▸ onward⟩

/-- A walk over an element goes through its content and, if that is balanced, comes back to where
it was. -/
theorem readAll?_element (noSlash : body.getLast? ≠ some '/')
    (walk : r.readAll? (.startTag body :: (pieces ++ .endTag close :: rest)) = some next) :
    ∃ e found last, (RawTag.ofBody body).element? r.position.scope = some e ∧
      r.progress.element e true = .ok found ∧
      (r.enter (RawTag.ofBody body).name e.scope found).readAll? pieces = some last ∧
      (last.position = (r.enter (RawTag.ofBody body).name e.scope found).position →
        readAll? ⟨r.position, last.progress.left⟩ rest = some next) := by
  obtain ⟨inside, step, through⟩ := readAll?_cons.1 walk
  obtain ⟨last, inner, back⟩ := readAll?_append.1 through
  obtain ⟨after, stepEnd, onward⟩ := readAll?_cons.1 back
  obtain ⟨e, found, named, said, entered⟩ := read?_startTag noSlash step
  rw [entered] at inner
  refine ⟨e, found, last, named, said, inner, ?_⟩
  intro same
  obtain ⟨e', outer, opens, _, left⟩ := read?_endTag stepEnd
  rw [same] at opens
  cases opens
  rwa [left] at onward

end Reading

/-! ## Elements by depth -/

namespace Progress

variable {p q : Progress} {e : Element} {hasContent : Bool}

/-- An element at a depth is the root, a child of it, or of no interest. -/
theorem element_eq_ok (said : p.element e hasContent = .ok q) :
    p.closed = false ∧ ∃ attributes, e.attributes? = some attributes ∧
      (p.depth = 0 ∧ (∃ root, Root.ofElement e.name e.scope attributes = .ok root ∧
          q = { p with root := some root }) ∨
        p.depth = 1 ∧ q = p.child e.name attributes hasContent ∨ 2 ≤ p.depth ∧ q = p) := by
  rw [element] at said
  cases closed : p.closed with
  | true => simp [closed] at said
  | false =>
      cases listed : e.attributes? with
      | none => simp [closed, listed] at said
      | some attributes =>
          refine ⟨rfl, attributes, rfl, ?_⟩
          simp only [closed, listed, Bool.false_eq_true, if_false] at said
          split at said
          · next top =>
              cases made : Root.ofElement e.name e.scope attributes with
              | error fault => simp [made, Except.map] at said
              | ok root =>
                  simp only [made, Except.map, Except.ok.injEq] at said
                  exact .inl ⟨top, root, rfl, said.symm⟩
          · next top => exact .inr (.inl ⟨top, (Except.ok.inj said).symm⟩)
          · next notRoot notChild =>
              refine .inr (.inr ⟨?_, (Except.ok.inj said).symm⟩)
              have low : p.depth ≠ 0 ∧ p.depth ≠ 1 := ⟨notRoot, notChild⟩
              omega

/-- Where elements below the root's children are read, nothing is learnt from them. -/
theorem element_deep (deep : 2 ≤ p.depth) (said : p.element e hasContent = .ok q) :
    p.closed = false ∧ q = p := by
  obtain ⟨opened, _, _, ⟨top, _⟩ | ⟨top, _⟩ | ⟨_, same⟩⟩ := element_eq_ok said
  · omega
  · omega
  · exact ⟨opened, same⟩

end Progress

/-! ## Below the root's children -/

namespace Reading

variable {r next : Reading} {piece : Markup} {pieces rest : List Markup} {body close : List Char}

/-- Pieces that are no tags only count where text is wanted. -/
theorem read?_noTag_unwanted (noTag : ¬ piece.IsTag) (inside : r.progress.depth ≠ 0)
    (unwanted : r.progress.inIssuer = false) (step : r.read? piece = some next) : next = r := by
  by_cases isText : piece.IsText
  · obtain ⟨raw, rfl⟩ := isText
    rcases read?_text.1 step with ⟨_, same⟩ | ⟨_, progress, said, rfl⟩
    · exact same
    · have unsaid : r.progress.text (strip isSpace raw) = .ok r.progress := by
        rw [Progress.text, if_neg inside]
        cases r.progress.claim with
        | none => rfl
        | some claim => simp [unwanted]
      rw [unsaid] at said
      cases said
      rfl
  · rw [read?_other noTag isText] at step
    exact (Option.some.inj step).symm

theorem shut_of_deep {p : Progress} (deep : p.depth ≠ 0) : p.shut = p := by
  have still : (p.closed || p.depth == 0) = p.closed := by
    simpa only [Bool.or_eq_left_iff_imp, beq_iff_eq] using fun top => absurd top deep
  rw [Progress.shut, still]

theorem left_of_deep {p : Progress} (deep : p.depth ≠ 0) :
    Progress.left { p with depth := p.depth + 1 } = { p with inIssuer := false } := by
  have still : (p.closed || p.depth == 0) = p.closed := by
    simpa only [Bool.or_eq_left_iff_imp, beq_iff_eq] using fun top => absurd top deep
  simp only [Progress.left, Nat.add_sub_cancel, still]

/-- Where no text is wanted, the content of a child of the root changes nothing. -/
theorem readAll?_unwanted (content : Content pieces) (deep : 2 ≤ r.progress.depth)
    (unwanted : r.progress.inIssuer = false) (walk : r.readAll? pieces = some next) : next = r := by
  induction content generalizing r next with
  | nil => exact (readAll?_nil.1 walk).symm
  | other noTag _ ih =>
      obtain ⟨between, step, onward⟩ := readAll?_cons.1 walk
      rw [read?_noTag_unwanted noTag (by omega) unwanted step] at onward
      exact ih deep unwanted onward
  | empty _ ih =>
      obtain ⟨e, found, _, said, onward⟩ := readAll?_emptyTag walk
      rw [(Progress.element_deep deep said).2, shut_of_deep (by omega)] at onward
      exact ih deep unwanted onward
  | element noSlash _ _ _ ihInner ih =>
      obtain ⟨e, found, last, _, said, inner, onward⟩ := readAll?_element noSlash walk
      rw [(Progress.element_deep deep said).2] at inner onward
      have still := ihInner (r := r.enter _ _ _) (Nat.le_succ_of_le deep) unwanted inner
      have back : (⟨r.position, last.progress.left⟩ : Reading) = r := by
        rw [still, enter, left_of_deep (by omega), ← unwanted]
      have onward := onward (congrArg Reading.position still)
      rw [back] at onward
      exact ih deep unwanted onward

end Reading

end Gatehouse.Fragment
