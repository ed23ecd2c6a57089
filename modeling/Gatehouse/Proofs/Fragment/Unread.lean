import Gatehouse.Proofs.Fragment.Nesting
import Mathlib.Data.List.Forall2

/-! # What is not read

Texts that agree in their root tags, in the tags of the root's children and in the content of those
children that are `Issuer` elements carry the same header values. Whatever else stands in the other
children, nested issuers and assertions included, has no part in them.
-/

namespace Gatehouse.Fragment

open Xml Saml

/-- The name of a child of a document's root. -/
def childName? (d : Document) (c : Child) : Option QualifiedName :=
  (d.root.element? Scope.initial).bind fun root => (c.tag.element? root.scope).map (·.name)

/-- Whether a child of a document's root is a SAML 2.0 `Issuer`. -/
def IsIssuer (d : Document) (c : Child) : Prop :=
  childName? d c = some (QualifiedName.inNamespace assertion20 "Issuer")

theorem isIssuer_iff {d : Document} {c : Child} {root : Element}
    (named : d.root.element? Scope.initial = some root) :
    IsIssuer d c ↔ ∃ e, c.tag.element? root.scope = some e ∧
      e.name = QualifiedName.inNamespace assertion20 "Issuer" := by
  rw [IsIssuer, childName?, named, Option.bind_some, Option.map_eq_some_iff]

/-- Documents that differ at most around the root, in character data and other markup below it, and
in the content of those of its children that are no `Issuer` elements. -/
structure SameHeader (d e : Document) : Prop where
  root : d.root = e.root
  children : List.Forall₂ (fun a b => a.tag = b.tag ∧ (IsIssuer d a → a.content = b.content))
    d.children e.children

/-- Only the content of an `Issuer` element counts. -/
theorem Progress.afterChild?_congr {scope : Scope} {p : Progress} {a b : Child}
    (tag : a.tag = b.tag)
    (content : ∀ e, a.tag.element? scope = some e →
      e.name = QualifiedName.inNamespace assertion20 "Issuer" → a.content = b.content) :
    p.afterChild? scope a = p.afterChild? scope b := by
  rw [afterChild?, afterChild?, ← tag]
  cases named : a.tag.element? scope with
  | none => rfl
  | some e =>
      rw [Option.bind_some, Option.bind_some]
      congr 1
      funext attributes
      split
      · next first => rw [content e named first.1]
      · rfl

theorem foldlM_afterChild?_congr {scope : Scope} {p : Progress} {children others : List Child}
    (same : List.Forall₂ (fun a b => a.tag = b.tag ∧ ∀ e, a.tag.element? scope = some e →
      e.name = QualifiedName.inNamespace assertion20 "Issuer" → a.content = b.content)
      children others) :
    children.foldlM (Progress.afterChild? scope) p =
      others.foldlM (Progress.afterChild? scope) p := by
  induction same generalizing p with
  | nil => rfl
  | cons first _ ih =>
      rw [List.foldlM_cons, List.foldlM_cons, Progress.afterChild?_congr first.1 first.2]
      congr 1
      funext q
      exact ih

theorem message?_congr {d e : Document} (same : SameHeader d e) : message? d = message? e := by
  rw [message?, message?, ← same.root]
  cases named : d.root.element? Scope.initial with
  | none => rfl
  | some root =>
      have children : ∀ p, d.children.foldlM (Progress.afterChild? root.scope) p =
          e.children.foldlM (Progress.afterChild? root.scope) p := by
        intro p
        refine foldlM_afterChild?_congr (same.children.imp ?_)
        intro a b alike
        obtain ⟨tag, content⟩ := alike
        exact ⟨tag, fun e found issuer => content ((isIssuer_iff named).2 ⟨e, found, issuer⟩)⟩
      simp only [Option.bind_some, children]

/-- Texts that are parsed and differ at most in what is not read have the same header values. -/
theorem nested_content_unread {x y : String} {f g : Fragment} {d e : Document}
    (parsed : parse x = .ok f) (also : parse y = .ok g) (ofX : d.IsOf x.toList)
    (ofY : e.IsOf y.toList) (same : SameHeader d e) : f.message = g.message := by
  have told := (heard_of_readMessage ofX (readMessage_of_parse parsed)).1
  have toldAlso := (heard_of_readMessage ofY (readMessage_of_parse also)).1
  rw [message?_congr same, toldAlso] at told
  exact (Option.some.inj told).symm

/-! ## A forged issuer -/

def issuerBody : List Char :=
  "Issuer xmlns=\"urn:oasis:names:tc:SAML:2.0:assertion\"".toList

/-- The start tag of an `Issuer` element. -/
def issuerTag : RawTag :=
  ⟨"Issuer".toList, [⟨"xmlns".toList, assertion20.toList⟩], true⟩

/-- An `Issuer` element with some content. -/
def issuerPieces (content : List Markup) : List Markup :=
  .startTag issuerBody :: (content ++ [.endTag "Issuer".toList])

theorem issuerPieces_element {content : List Markup} (inside : Content content) :
    IsElement issuerTag content (issuerPieces content) := by
  have tag : RawTag.ofBody issuerBody = issuerTag := rfl
  exact .closed (by decide +kernel) tag inside ⟨[], rfl, by simp⟩

/-- A message with some children. -/
def sampleMessage (children : List Child) : Document :=
  ⟨[], ⟨['a'], [], true⟩, children, []⟩

theorem sampleMessage_isOf {text : String} {pieces : List Markup} {children : List Child}
    (scanned : Markup.scan (withoutMark text.toList) =
      (.startTag ['a'] :: (pieces ++ [.endTag ['a']]), true))
    (inside : Content pieces) (of : Children pieces children) :
    (sampleMessage children).IsOf text.toList := by
  have root : IsElement (sampleMessage children).root pieces
      (.startTag ['a'] :: (pieces ++ [.endTag ['a']])) :=
    .closed (by simp) rfl inside ⟨[], rfl, by simp⟩
  refine ⟨_, _, ?_, root, of, by simp [sampleMessage]⟩
  rw [sampleMessage, List.nil_append, List.append_nil]
  exact Markup.scan_eq_iff.1 scanned

/-- An honest issuer, and another child with some content. -/
def sampleChildren (content : List Markup) : List Child :=
  [⟨issuerTag, [.text "idp".toList]⟩, ⟨⟨['b'], [], true⟩, content⟩]

theorem sampleChildren_sameHeader (content others : List Markup) :
    SameHeader (sampleMessage (sampleChildren content))
      (sampleMessage (sampleChildren others)) := by
  have name : childName? (sampleMessage (sampleChildren content)) ⟨⟨['b'], [], true⟩, content⟩ =
      some (.bare "b") := rfl
  have plain : ¬ IsIssuer (sampleMessage (sampleChildren content))
      ⟨⟨['b'], [], true⟩, content⟩ := by
    simp [IsIssuer, name, QualifiedName.bare, QualifiedName.inNamespace]
  exact ⟨rfl, .cons ⟨rfl, fun _ => rfl⟩ (.cons ⟨rfl, fun issuer => absurd issuer plain⟩ .nil)⟩

theorem sampleChildren_isOf {text : String} {content element : List Markup}
    (scanned : Markup.scan (withoutMark text.toList) =
      (.startTag ['a'] :: (issuerPieces [.text "idp".toList] ++ element ++ [.endTag ['a']]), true))
    (is : IsElement ⟨['b'], [], true⟩ content element) :
    (sampleMessage (sampleChildren content)).IsOf text.toList := by
  have issuer := issuerPieces_element (.other (p := .text "idp".toList) id .nil)
  refine sampleMessage_isOf scanned (issuer.content.append is.content) ?_
  rw [← List.append_nil element]
  exact .element issuer (.element is .nil)

def sampleHonest : String :=
  "<a><Issuer xmlns=\"urn:oasis:names:tc:SAML:2.0:assertion\">idp</Issuer><b/></a>"

def sampleForged : String :=
  "<a><Issuer xmlns=\"urn:oasis:names:tc:SAML:2.0:assertion\">idp</Issuer><b><Issuer " ++
    "xmlns=\"urn:oasis:names:tc:SAML:2.0:assertion\">evil</Issuer></b></a>"

def sampleRead : Message :=
  ⟨.bare "a", none, none, none, some (.named "idp"), none⟩

/-- A forged issuer in another child goes unread. -/
theorem forged_issuer_unread :
    ∃ f g, parse sampleHonest = .ok f ∧ parse sampleForged = .ok g ∧
      f.message.issuer = some (.named "idp") ∧ f.message = g.message := by
  have forged := issuerPieces_element (.other (p := .text "evil".toList) id .nil)
  have empty : IsElement ⟨['b'], [], true⟩ [] [.startTag ['b', '/']] :=
    @IsElement.empty _ ['b'] rfl
  have wrapped : IsElement ⟨['b'], [], true⟩ (issuerPieces [.text "evil".toList])
      (.startTag ['b'] :: (issuerPieces [.text "evil".toList] ++ [.endTag ['b']])) :=
    .closed (by simp) rfl forged.content ⟨[], rfl, by simp⟩
  have readX : readMessage sampleHonest.toList = .ok sampleRead := rfl
  have readY : readMessage sampleForged.toList = .ok sampleRead := by decide +kernel
  obtain ⟨f, parsed, same⟩ := parse_of_readMessage readX
  obtain ⟨g, also, _⟩ := parse_of_readMessage readY
  refine ⟨f, g, parsed, also, by rw [same]; rfl, ?_⟩
  exact nested_content_unread parsed also (sampleChildren_isOf rfl empty)
    (sampleChildren_isOf (by decide +kernel) wrapped) (sampleChildren_sameHeader _ _)

end Gatehouse.Fragment
