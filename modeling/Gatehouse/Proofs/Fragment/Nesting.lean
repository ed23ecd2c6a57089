import Gatehouse.Proofs.Fragment.Header

/-! # Texts that are documents

Whatever is read as a message is a document: one root element in which all tags match, and no other
tag. Around the root there is no character data, except for CDATA sections, which nobody looks at.
-/

namespace Gatehouse.Fragment

open Xml Text

/-- What reading a piece does, by the kind of the piece. -/
inductive Effect (r next : Reading) : Markup → Prop
  | other {piece : Markup} : ¬ piece.IsTag → next.position = r.position →
      (∃ claim, next.progress = { r.progress with claim := claim }) → Effect r next piece
  | empty {body : List Char} {e : Element} {found : Progress} :
      r.progress.element e false = .ok found → next = ⟨r.position, found.shut⟩ →
      Effect r next (.startTag (body ++ ['/']))
  | opened {body : List Char} {e : Element} {found : Progress} : body.getLast? ≠ some '/' →
      r.progress.element e true = .ok found →
      next = r.enter (RawTag.ofBody body).name e.scope found → Effect r next (.startTag body)
  | closed {close : List Char} {e : OpenElement} {outer : List OpenElement} :
      r.position.openElements = e :: outer → endName close = e.name →
      next = ⟨⟨e.outer, outer⟩, r.progress.left⟩ → Effect r next (.endTag close)

/-- The progress counts the open elements, and there are none once the root has been closed. -/
structure Reading.Steady (r : Reading) : Prop where
  depth : r.progress.depth = r.position.openElements.length
  closed : r.progress.closed = true → r.progress.depth = 0

/-- An end tag that is taken for that of an element closes it. -/
theorem closes_endName (close : List Char) : Closes (endName close) close := by
  rw [endName]
  split
  · exact ⟨[], (List.append_nil close).symm, by simp⟩
  · refine ⟨(close.reverse.takeWhile isSpace).reverse, ?_, ?_⟩
    · rw [← List.reverse_append, List.takeWhile_append_dropWhile, List.reverse_reverse]
    · intro c mem
      exact List.mem_takeWhile_imp (List.mem_reverse.1 mem)

theorem Progress.text_frame {p q : Progress} {raw : List Char} (said : p.text raw = .ok q) :
    ∃ claim, q = { p with claim := claim } := by
  rw [text] at said
  split at said
  · cases said
  · split at said
    · cases said
      exact ⟨_, rfl⟩
    · split at said
      · split at said
        · cases said
          exact ⟨_, rfl⟩
        · cases said
      · cases said
        exact ⟨_, rfl⟩

theorem Progress.finish_ok {p : Progress} {message : Message} (done : p.finish = .ok message) :
    p.root ≠ none ∧ p.closed = true := by
  rw [finish] at done
  split at done
  · cases done
  · next root found =>
      split at done
      · next shut => exact ⟨by simp [found], shut⟩
      · cases done

theorem Progress.element_frame {p q : Progress} {e : Element} {hasContent : Bool}
    (said : p.element e hasContent = .ok q) :
    p.closed = false ∧ q.closed = false ∧ q.depth = p.depth := by
  obtain ⟨opened, attributes, _, ⟨_, root, _, rfl⟩ | ⟨_, rfl⟩ | ⟨_, rfl⟩⟩ := element_eq_ok said
  · exact ⟨opened, opened, rfl⟩
  · refine ⟨opened, ?_⟩
    unfold child
    split
    · exact ⟨opened, rfl⟩
    · split <;> exact ⟨opened, rfl⟩
  · exact ⟨opened, opened, rfl⟩

namespace Reading

variable {r next : Reading} {piece : Markup} {pieces rest : List Markup}

theorem read?_effect (step : r.read? piece = some next) : Effect r next piece := by
  cases piece with
  | text raw =>
      rcases read?_text.1 step with ⟨_, same⟩ | ⟨_, progress, said, rfl⟩
      · exact same ▸ .other id rfl ⟨_, rfl⟩
      · exact .other id rfl (Progress.text_frame said)
  | startTag body =>
      by_cases slash : body.getLast? = some '/'
      · obtain ⟨body, rfl⟩ := List.getLast?_eq_some_iff.1 slash
        obtain ⟨e, found, _, said, same⟩ := read?_emptyTag step
        exact .empty said same
      · obtain ⟨e, found, _, said, same⟩ := read?_startTag slash step
        exact .opened slash said same
  | endTag close =>
      obtain ⟨e, outer, opens, named, same⟩ := read?_endTag step
      exact .closed opens named same
  | _ =>
      cases step
      exact .other id rfl ⟨_, rfl⟩

theorem Steady.read? (steady : r.Steady) (step : r.read? piece = some next) : next.Steady := by
  obtain ⟨depth, closed⟩ := steady
  cases read?_effect step with
  | other _ same kept =>
      obtain ⟨claim, kept⟩ := kept
      exact ⟨by rw [same, kept, depth], by rw [kept]; exact closed⟩
  | empty said same =>
      obtain ⟨_, opened, level⟩ := Progress.element_frame said
      subst same
      refine ⟨level.trans depth, ?_⟩
      simp [Progress.shut, opened]
  | opened _ said same =>
      obtain ⟨_, opened, level⟩ := Progress.element_frame said
      subst same
      refine ⟨?_, ?_⟩
      · simp [enter, level, depth]
      · simp [enter, opened]
  | closed opens _ same =>
      subst same
      rw [opens, List.length_cons] at depth
      refine ⟨?_, ?_⟩
      · simp [Progress.left, depth]
      · intro shut
        simp only [Progress.left, Bool.or_eq_true, beq_iff_eq] at shut ⊢
        rcases shut with shut | shut
        · have := closed shut
          omega
        · exact shut

/-- A walk that leaves no element open has closed the ones that were. -/
theorem unwinds_of_readAll? {final : Reading} (walk : r.readAll? pieces = some final)
    (done : final.position.openElements = []) :
    Unwinds (r.position.openElements.map (·.name)) pieces := by
  induction pieces generalizing r with
  | nil =>
      obtain rfl := readAll?_nil.1 walk
      rw [done]
      exact Content.nil
  | cons piece pieces ih =>
      obtain ⟨next, step, onward⟩ := readAll?_cons.1 walk
      have unwinds := ih onward
      cases read?_effect step with
      | other noTag same _ =>
          rw [same] at unwinds
          exact unwinds.after_content (.other noTag .nil)
      | empty _ same =>
          rw [same] at unwinds
          exact unwinds.after_content (.empty .nil)
      | opened noSlash _ same =>
          rw [same] at unwinds
          exact unwinds.after_start noSlash
      | @closed close e outer opens ends same =>
          rw [same] at unwinds
          have closes : Closes e.name close := ends ▸ closes_endName close
          rw [opens]
          exact ⟨[], close, pieces, rfl, .nil, closes, unwinds⟩

theorem Steady.readAll? (steady : r.Steady) (walk : r.readAll? pieces = some next) :
    next.Steady := by
  induction pieces generalizing r with
  | nil =>
      obtain rfl := readAll?_nil.1 walk
      exact steady
  | cons piece pieces ih =>
      obtain ⟨between, step, onward⟩ := readAll?_cons.1 walk
      exact ih (steady.read? step) onward

/-! ## The root element -/

/-- Behind the root element there is no tag. -/
theorem noTags_of_closed (content : Content pieces) (closed : r.progress.closed = true)
    (depth : r.progress.depth = 0) (walk : r.readAll? pieces = some next) :
    ∀ p ∈ pieces, ¬ p.IsTag := by
  induction content with
  | nil => simp
  | other noTag _ ih =>
      obtain ⟨between, step, onward⟩ := readAll?_cons.1 walk
      rw [(read?_outside noTag depth step).1] at onward
      exact List.forall_mem_cons.2 ⟨noTag, ih onward⟩
  | empty _ _ =>
      obtain ⟨_, _, _, said, _⟩ := readAll?_emptyTag walk
      rw [(Progress.element_frame said).1] at closed
      cases closed
  | element noSlash _ _ _ _ _ =>
      obtain ⟨_, _, _, _, said, _⟩ := readAll?_element noSlash walk
      rw [(Progress.element_frame said).1] at closed
      cases closed

theorem noTags_of_root {tag : RawTag} {content element : List Markup}
    (is : IsElement tag content element) (inside : Content content) (after : Content rest)
    (walk : start.readAll? (element ++ rest) = some next) : ∀ p ∈ rest, ¬ p.IsTag := by
  obtain ⟨children, of⟩ := inside.has_children
  obtain ⟨_, _, _, q, _, _, _, _, depth, onward⟩ := readAll?_root is of walk
  refine noTags_of_closed after ?_ ?_ onward
  · simp [Progress.left, depth]
  · simp [Progress.left, depth]

/-- A walk over a whole document comes by one root element. -/
theorem has_root (whole : Content pieces) (walk : start.readAll? pieces = some next)
    (found : next.progress.root ≠ none) :
    ∃ before tag content element after, pieces = before ++ element ++ after ∧
      IsElement tag content element ∧ Content content ∧ ∀ p ∈ before ++ after, ¬ p.IsTag := by
  induction whole with
  | nil =>
      obtain rfl := readAll?_nil.1 walk
      exact absurd rfl found
  | @other p rest noTag _ ih =>
      obtain ⟨between, step, onward⟩ := readAll?_cons.1 walk
      rw [(read?_outside noTag rfl step).1] at onward
      obtain ⟨before, tag, content, element, after, rfl, is, inside, noTags⟩ := ih onward
      exact ⟨p :: before, tag, content, element, after, rfl, is, inside,
        List.forall_mem_cons.2 ⟨noTag, noTags⟩⟩
  | @empty body rest after _ =>
      have is : IsElement (RawTag.ofBody body) [] [.startTag (body ++ ['/'])] := .empty rfl
      exact ⟨[], _, _, _, rest, rfl, is, .nil, noTags_of_root is .nil after walk⟩
  | @element body close inner rest noSlash inside closes after _ _ =>
      have is := IsElement.closed noSlash rfl inside closes
      have shape : (Markup.startTag body :: (inner ++ .endTag close :: rest)) =
          (Markup.startTag body :: (inner ++ [.endTag close])) ++ rest := by simp
      rw [shape] at walk ⊢
      exact ⟨[], _, inner, _, rest, rfl, is, inside, noTags_of_root is inside after walk⟩

end Reading

/-- A text that is read is a document. -/
theorem isOf_of_readMessage {text : List Char} {message : Message}
    (read : readMessage text = .ok message) : ∃ d : Document, d.IsOf text := by
  obtain ⟨pieces, final, division, walk, done⟩ := Reading.readMessage_eq_ok_iff.1 read
  obtain ⟨found, shut⟩ := Progress.finish_ok done
  have begin : Reading.start.Steady := ⟨rfl, fun _ => rfl⟩
  have steady := begin.readAll? walk
  have level : final.position.openElements = [] :=
    List.eq_nil_of_length_eq_zero (steady.depth.symm.trans (steady.closed shut))
  have whole : Content pieces := Reading.unwinds_of_readAll? walk level
  obtain ⟨before, tag, content, element, after, rfl, is, inside, noTags⟩ :=
    Reading.has_root whole walk found
  obtain ⟨children, of⟩ := inside.has_children
  exact ⟨⟨before, tag, children, after⟩, content, element, division, is, of, noTags⟩

/-! ## Around the root element -/

/-- A CDATA section behind a text that is read goes unnoticed. -/
theorem readMessage_append_cdata {text body : List Char} {message : Message}
    (read : readMessage text = .ok message) (proper : (Markup.cdata body).IsProper) :
    readMessage (text ++ (Markup.cdata body).render) = .ok message := by
  have ne : text ≠ [] := by
    intro empty
    rw [empty] at read
    cases read
  have noText : ¬ (Markup.cdata body).IsText := fun ⟨_, same⟩ => by cases same
  obtain ⟨pieces, final, division, walk, done⟩ := Reading.readMessage_eq_ok_iff.1 read
  refine Reading.readMessage_eq_ok_iff.2 ⟨pieces ++ [.cdata body], final, ?_, ?_, done⟩
  · rw [withoutMark_append ne]
    exact division.concat proper noText
  · exact Reading.readAll?_append.2
      ⟨final, walk, Reading.readAll?_cons.2 ⟨final, Reading.read?_other id noText, rfl⟩⟩

/-- A text that is parsed is one document and no other, so it has one root element in which all tags
match. Around the root stand white space, comments, processing instructions, document types and also
CDATA sections: one of these can follow any text that is parsed, and nothing changes. -/
theorem parse_single_root {xml : String} {f : Fragment} (parsed : parse xml = .ok f) :
    ∃ d : Document, d.IsOf xml.toList ∧ (∀ e : Document, e.IsOf xml.toList → e = d) ∧
      (∀ p ∈ d.before ++ d.after, p.IsMisc ∨ ∃ body, p = .cdata body) ∧
      ∀ body, (Markup.cdata body).IsProper → ∃ g,
        parse (xml ++ String.ofList (Markup.cdata body).render) = .ok g ∧
          g.message = f.message := by
  have read := readMessage_of_parse parsed
  obtain ⟨d, is⟩ := isOf_of_readMessage read
  refine ⟨d, is, fun e also => also.unique is, (heard_of_readMessage is read).2, ?_⟩
  intro body proper
  refine parse_of_readMessage ?_
  rw [String.toList_append, String.toList_ofList]
  exact readMessage_append_cdata read proper

theorem readMessage_empty :
    readMessage "<a/>".toList = .ok ⟨.bare "a", none, none, none, none, none⟩ :=
  rfl

/-- The smallest text that is parsed. -/
def sampleEmpty : Fragment where
  xml := "<a/>"
  message := ⟨.bare "a", none, none, none, none, none⟩
  parent := none
  message_eq := readMessage_empty

theorem sampleEmpty_single_root :
    parse "<a/>" = .ok sampleEmpty ∧ (Markup.cdata ['x']).IsProper ∧
      (∃ d : Document, d.IsOf "<a/>".toList ∧ ∀ e : Document, e.IsOf "<a/>".toList → e = d) ∧
      ∃ g, parse ("<a/>" ++ String.ofList (Markup.cdata ['x']).render) = .ok g ∧
        g.message = sampleEmpty.message := by
  have parsed : parse "<a/>" = .ok sampleEmpty := parse_xml sampleEmpty
  have proper : (Markup.cdata ['x']).IsProper := by simp [Markup.IsProper, List.infix_cons_iff]
  obtain ⟨d, is, only, _, followed⟩ := parse_single_root parsed
  exact ⟨parsed, proper, ⟨d, is, only⟩, followed ['x'] proper⟩

/-- Character data hides behind the root element of a text that is parsed. -/
theorem cdata_hides_behind_root :
    (∃ f, parse "<a/><![CDATA[x]]>" = .ok f) ∧
      ¬ ∃ d : Document, d.IsOf "<a/><![CDATA[x]]>".toList ∧ d.StandsAlone := by
  have read : readMessage "<a/><![CDATA[x]]>".toList = .ok sampleEmpty.message := rfl
  obtain ⟨f, parsed, _⟩ := parse_of_readMessage read
  have division : Markup.Division (withoutMark "<a/><![CDATA[x]]>".toList)
      [.startTag ['a', '/'], .cdata ['x']] :=
    Markup.scan_eq_iff.1 rfl
  have element : IsElement (.ofBody ['a']) [] [.startTag (['a'] ++ ['/'])] := .empty rfl
  have is : Document.IsOf ⟨[], .ofBody ['a'], [], [.cdata ['x']]⟩ "<a/><![CDATA[x]]>".toList := by
    refine ⟨[], _, division, element, .nil, ?_⟩
    intro p mem
    obtain rfl := List.mem_singleton.1 mem
    exact id
  refine ⟨⟨f, parsed⟩, ?_⟩
  intro ⟨d, also, alone⟩
  obtain rfl := also.unique is
  exact alone (.cdata ['x']) List.mem_cons_self

end Gatehouse.Fragment
