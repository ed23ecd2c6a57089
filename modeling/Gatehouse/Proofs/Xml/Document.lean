import Gatehouse.Proofs.Xml.Markup
import Gatehouse.Xml.Event

/-! # Documents

The structure of a document: a root element whose start and end tags match, as those of the elements
inside it do, with nothing but other markup and character data around it. Only the root and its
children are taken apart; what is inside the children stays a list of pieces.
-/

namespace Gatehouse.Xml

/-- Whether a piece is a tag. -/
def Markup.IsTag : Markup → Prop
  | .startTag _ => True
  | .endTag _ => True
  | _ => False

/-- Whether the inside of an end tag is a name, with nothing but white space after it. -/
def Closes (name close : List Char) : Prop :=
  ∃ space, close = name ++ space ∧ ∀ c ∈ space, isSpace c = true

/-- What may stand between the tags of an element: anything that is no tag, tags of empty elements,
and elements whose end tags name them. -/
inductive Content : List Markup → Prop
  | nil : Content []
  | other {p : Markup} {rest : List Markup} : ¬ p.IsTag → Content rest → Content (p :: rest)
  | empty {body : List Char} {rest : List Markup} : Content rest →
      Content (.startTag (body ++ ['/']) :: rest)
  | element {body close : List Char} {inner rest : List Markup} : body.getLast? ≠ some '/' →
      Content inner → Closes (RawTag.ofBody body).name close → Content rest →
      Content (.startTag body :: (inner ++ .endTag close :: rest))

/-- The pieces of an element with a tag and a content, written as one tag or as two. -/
inductive IsElement (tag : RawTag) : List Markup → List Markup → Prop
  | empty {body : List Char} : RawTag.ofBody body = tag →
      IsElement tag [] [.startTag (body ++ ['/'])]
  | closed {body close : List Char} {content : List Markup} : body.getLast? ≠ some '/' →
      RawTag.ofBody body = tag → Content content → Closes tag.name close →
      IsElement tag content (.startTag body :: (content ++ [.endTag close]))

/-- A child of the root element. -/
structure Child where
  tag : RawTag
  content : List Markup

/-- The child elements in a content, in order. -/
inductive Children : List Markup → List Child → Prop
  | nil : Children [] []
  | other {p : Markup} {rest : List Markup} {children : List Child} : ¬ p.IsTag →
      Children rest children → Children (p :: rest) children
  | element {c : Child} {pieces rest : List Markup} {children : List Child} :
      IsElement c.tag c.content pieces → Children rest children →
      Children (pieces ++ rest) (c :: children)

/-- A document: its root's tag and children, and what stands before and after the root. -/
structure Document where
  before : List Markup
  root : RawTag
  children : List Child
  after : List Markup

/-- A text without a byte order mark at its start. -/
def withoutMark (text : List Char) : List Char :=
  match text with
  | c :: rest => if c = Char.ofNat 0xFEFF then rest else text
  | [] => []

/-- Whether a document is what a text consists of. -/
def Document.IsOf (d : Document) (text : List Char) : Prop :=
  ∃ content root, Markup.Division (withoutMark text) (d.before ++ root ++ d.after) ∧
    IsElement d.root content root ∧ Children content d.children ∧
    ∀ p ∈ d.before ++ d.after, ¬ p.IsTag

/-- What may stand outside the root element of a document. -/
def Markup.IsMisc : Markup → Prop
  | .text raw => ∀ c ∈ raw, isSpace c = true
  | .comment _ => True
  | .instruction _ => True
  | .doctype _ => True
  | _ => False

/-- Whether nothing but markup and white space stands around the root element of a document. -/
def Document.StandsAlone (d : Document) : Prop :=
  ∀ p ∈ d.before ++ d.after, p.IsMisc

theorem withoutMark_append {text : List Char} (ne : text ≠ []) (more : List Char) :
    withoutMark (text ++ more) = withoutMark text ++ more := by
  cases text with
  | nil => exact absurd rfl ne
  | cons c text =>
      rw [List.cons_append, withoutMark, withoutMark]
      split
      · rfl
      · rfl

variable {pieces rest : List Markup}

theorem Content.append (content : Content pieces) (next : Content rest) :
    Content (pieces ++ rest) := by
  induction content with
  | nil => exact next
  | other noTag _ ih => exact .other noTag ih
  | empty _ ih => exact .empty ih
  | element noSlash inner closes _ _ ih =>
      rw [List.cons_append, List.append_assoc, List.cons_append]
      exact .element noSlash inner closes ih

theorem IsElement.content {tag : RawTag} {content element : List Markup}
    (is : IsElement tag content element) : Content element := by
  cases is with
  | empty _ => exact .empty .nil
  | closed noSlash same inner closes => exact .element noSlash inner (same ▸ closes) .nil

theorem Content.has_children (content : Content pieces) :
    ∃ children, Children pieces children := by
  induction content with
  | nil => exact ⟨[], .nil⟩
  | other noTag _ ih =>
      obtain ⟨children, rest⟩ := ih
      exact ⟨children, .other noTag rest⟩
  | @empty body _ _ ih =>
      obtain ⟨children, rest⟩ := ih
      exact ⟨_, Children.element (c := ⟨RawTag.ofBody body, []⟩) (.empty rfl) rest⟩
  | @element body close inner _ noSlash content closes _ _ ih =>
      obtain ⟨children, rest⟩ := ih
      have whole := Children.element (c := ⟨RawTag.ofBody body, inner⟩)
        (.closed noSlash rfl content closes) rest
      rw [List.cons_append, List.append_assoc] at whole
      exact ⟨_, whole⟩

theorem IsElement.ne_nil {tag : RawTag} {content element : List Markup}
    (is : IsElement tag content element) : element ≠ [] := by
  cases is with
  | empty _ => simp
  | closed _ _ _ _ => simp

theorem Children.of_nil {children : List Child} (of : Children [] children) : children = [] := by
  generalize none : ([] : List Markup) = pieces at of
  cases of with
  | nil => rfl
  | other _ _ => cases none
  | element is _ => exact absurd (List.append_eq_nil_iff.1 none.symm).1 is.ne_nil

/-! ## One structure for one text -/

/-- The end tag that follows a content is the first one that closes nothing in it. -/
theorem Content.unique_of_append {inner others more : List Markup} {close final : List Char}
    (content : Content inner) (other : Content others)
    (same : inner ++ .endTag close :: rest = others ++ .endTag final :: more) :
    inner = others ∧ close = final ∧ rest = more := by
  -- The first piece shows how both contents were put together: a tag of an empty element ends in a
  -- slash, a start tag does not.
  induction content generalizing others close final rest more with
  | nil =>
      cases other with
      | nil =>
          cases same
          exact ⟨rfl, rfl, rfl⟩
      | other noTag _ =>
          cases same
          exact absurd trivial noTag
      | empty _ => cases same
      | element _ _ _ _ => cases same
  | other noTag _ ih =>
      cases other with
      | nil =>
          cases same
          exact absurd trivial noTag
      | other _ onward =>
          obtain ⟨rfl, tails⟩ := List.cons.inj same
          obtain ⟨rfl, rfl, rfl⟩ := ih onward tails
          exact ⟨rfl, rfl, rfl⟩
      | empty _ =>
          cases (List.cons.inj same).1
          exact absurd trivial noTag
      | element _ _ _ _ =>
          cases (List.cons.inj same).1
          exact absurd trivial noTag
  | empty _ ih =>
      cases other with
      | nil => cases same
      | other noTag _ =>
          cases (List.cons.inj same).1
          exact absurd trivial noTag
      | empty onward =>
          obtain ⟨tag, tails⟩ := List.cons.inj same
          obtain ⟨rfl, rfl, rfl⟩ := ih onward tails
          exact ⟨by rw [tag], rfl, rfl⟩
      | element noSlash _ _ _ =>
          cases (List.cons.inj same).1
          exact absurd List.getLast?_concat noSlash
  | element noSlash _ _ _ ihInner ih =>
      cases other with
      | nil => cases same
      | other noTag _ =>
          cases (List.cons.inj same).1
          exact absurd trivial noTag
      | empty _ =>
          cases (List.cons.inj same).1
          exact absurd List.getLast?_concat noSlash
      | element _ inside _ onward =>
          simp only [List.cons_append, List.append_assoc] at same
          obtain ⟨tag, tails⟩ := List.cons.inj same
          obtain ⟨rfl, rfl, behind⟩ := ihInner inside tails
          obtain ⟨rfl, rfl, rfl⟩ := ih onward behind
          exact ⟨by rw [tag], rfl, rfl⟩

/-- An element ends at the end tag that closes it. -/
theorem IsElement.unique_of_append {tag other : RawTag}
    {content inner element others more : List Markup} (is : IsElement tag content element)
    (also : IsElement other inner others) (same : element ++ rest = others ++ more) :
    tag = other ∧ content = inner ∧ element = others ∧ rest = more := by
  cases is with
  | empty named =>
      cases also with
      | empty also =>
          obtain ⟨tags, rfl⟩ := List.cons.inj same
          obtain rfl := List.append_cancel_right (Markup.startTag.inj tags)
          exact ⟨named.symm.trans also, rfl, rfl, rfl⟩
      | closed noSlash _ _ _ =>
          cases (List.cons.inj same).1
          exact absurd List.getLast?_concat noSlash
  | closed noSlash named inside _ =>
      cases also with
      | empty _ =>
          cases (List.cons.inj same).1
          exact absurd List.getLast?_concat noSlash
      | closed _ also inner _ =>
          simp only [List.cons_append, List.append_assoc, List.nil_append] at same
          obtain ⟨tags, tails⟩ := List.cons.inj same
          obtain rfl := Markup.startTag.inj tags
          obtain ⟨rfl, rfl, rfl⟩ := inside.unique_of_append inner tails
          exact ⟨named.symm.trans also, rfl, rfl, rfl⟩

theorem IsElement.begins {tag : RawTag} {content element : List Markup}
    (is : IsElement tag content element) : ∃ p tail, element = p :: tail ∧ p.IsTag := by
  cases is with
  | empty _ => exact ⟨_, _, rfl, trivial⟩
  | closed _ _ _ _ => exact ⟨_, _, rfl, trivial⟩

theorem Children.unique {children others : List Child} (of : Children pieces children)
    (also : Children pieces others) : children = others := by
  induction of generalizing others with
  | nil => exact also.of_nil.symm
  | @other p rest _ noTag _ ih =>
      generalize same : p :: rest = pieces at also
      cases also with
      | nil => cases same
      | other _ onward =>
          obtain ⟨rfl, rfl⟩ := List.cons.inj same
          exact ih onward
      | element is _ =>
          obtain ⟨q, tail, rfl, isTag⟩ := is.begins
          obtain ⟨rfl, _⟩ := List.cons.inj same
          exact absurd isTag noTag
  | @element c element rest children is _ ih =>
      generalize same : element ++ rest = pieces at also
      obtain ⟨p, tail, shape, isTag⟩ := is.begins
      cases also with
      | nil => exact absurd (List.append_eq_nil_iff.1 same).1 is.ne_nil
      | other noTag _ =>
          rw [shape] at same
          obtain ⟨rfl, _⟩ := List.cons.inj same
          exact absurd isTag noTag
      | @element d _ _ _ being onward =>
          obtain ⟨tag, content, rfl, rfl⟩ := is.unique_of_append being same
          obtain ⟨_, _⟩ := c
          obtain ⟨_, _⟩ := d
          subst tag content
          rw [ih onward]

/-- The first tag shows where the root element begins. -/
theorem before_unique {before others more : List Markup} {p q : Markup}
    (noTags : ∀ p ∈ before, ¬ p.IsTag) (also : ∀ p ∈ others, ¬ p.IsTag) (isTag : p.IsTag)
    (tagAlso : q.IsTag) (same : before ++ p :: rest = others ++ q :: more) :
    before = others ∧ p :: rest = q :: more := by
  induction before generalizing others with
  | nil =>
      cases others with
      | nil => exact ⟨rfl, same⟩
      | cons r others =>
          rw [(List.cons.inj same).1] at isTag
          exact absurd isTag (also r List.mem_cons_self)
  | cons r before ih =>
      cases others with
      | nil =>
          rw [← (List.cons.inj same).1] at tagAlso
          exact absurd tagAlso (noTags r List.mem_cons_self)
      | cons s others =>
          obtain ⟨rfl, tails⟩ := List.cons.inj same
          rw [List.forall_mem_cons] at noTags also
          obtain ⟨rfl, onward⟩ := ih noTags.2 also.2 tails
          exact ⟨rfl, onward⟩

/-- A text is only one document. -/
theorem Document.IsOf.unique {d e : Document} {text : List Char} (is : d.IsOf text)
    (also : e.IsOf text) : d = e := by
  obtain ⟨before, tag, children, after⟩ := d
  obtain ⟨others, named, inner, behind⟩ := e
  obtain ⟨content, root, division, element, of, noTags⟩ := is
  obtain ⟨_, root', division', element', of', noTags'⟩ := also
  obtain ⟨p, tail, shape, isTag⟩ := element.begins
  obtain ⟨q, tail', shape', isTag'⟩ := element'.begins
  have same := division.unique division'
  simp only [List.append_assoc, List.forall_mem_append] at same noTags noTags'
  have roots : before = others ∧ root ++ after = root' ++ behind := by
    rw [shape, shape'] at same ⊢
    exact before_unique noTags.1 noTags'.1 isTag isTag' same
  obtain ⟨rfl, onward⟩ := roots
  obtain ⟨rfl, rfl, _, rfl⟩ := element.unique_of_append element' onward
  obtain rfl : children = inner := of.unique of'
  rfl

/-! ## Open elements -/

/-- Pieces that close elements of some names, innermost first, and are balanced otherwise. -/
def Unwinds : List (List Char) → List Markup → Prop
  | [], pieces => Content pieces
  | name :: names, pieces => ∃ inner close rest, pieces = inner ++ .endTag close :: rest ∧
      Content inner ∧ Closes name close ∧ Unwinds names rest

variable {names : List (List Char)}

theorem Unwinds.after_content (unwinds : Unwinds names rest) (content : Content pieces) :
    Unwinds names (pieces ++ rest) := by
  cases names with
  | nil => exact content.append unwinds
  | cons name names =>
      obtain ⟨inner, close, rest, rfl, balanced, closes, unwinds⟩ := unwinds
      exact ⟨pieces ++ inner, close, rest, by rw [List.append_assoc], content.append balanced,
        closes, unwinds⟩

theorem Unwinds.after_start {body : List Char} (noSlash : body.getLast? ≠ some '/')
    (unwinds : Unwinds ((RawTag.ofBody body).name :: names) rest) :
    Unwinds names (.startTag body :: rest) := by
  obtain ⟨inner, close, rest, rfl, content, closes, unwinds⟩ := unwinds
  have element := (IsElement.closed noSlash rfl content closes).content
  have whole := unwinds.after_content element
  rwa [List.cons_append, List.append_assoc] at whole

end Gatehouse.Xml
