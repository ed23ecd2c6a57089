import Gatehouse.Proofs.Fragment.Unread
import Gatehouse.Proofs.Xml.Namespace

/-! # Names with prefixes

What a prefix in front of a name does to the reading of a message. An attribute with a prefix that
is bound to a namespace is passed over, unless it declares a schema type. A prefix that is bound to
nothing is dropped, and the name is read as if it stood there without it.
-/

namespace Gatehouse.Fragment

open Xml Saml

/-- A tag with a gap among its attributes. -/
structure TagGap where
  name : List Char
  left : List RawAttribute
  right : List RawAttribute
  complete : Bool

def TagGap.fill (t : TagGap) (extra : List RawAttribute) : RawTag :=
  ⟨t.name, t.left ++ extra ++ t.right, t.complete⟩

/-- A document with a gap in the tag of its root or in that of a child of the root. -/
inductive Gap where
  | root (before : List Markup) (tag : TagGap) (children : List Child) (after : List Markup)
  | child (before : List Markup) (top : RawTag) (earlier : List Child) (tag : TagGap)
      (content : List Markup) (later : List Child) (after : List Markup)

def Gap.fill (extra : List RawAttribute) : Gap → Document
  | .root before tag children after => ⟨before, tag.fill extra, children, after⟩
  | .child before top earlier tag content later after =>
    ⟨before, top, earlier ++ ⟨tag.fill extra, content⟩ :: later, after⟩

/-- The scope inside the tag with the gap. -/
def Gap.scope? : Gap → Option Scope
  | .root _ tag _ _ => Scope.initial.enter? (tag.left ++ tag.right)
  | .child _ top _ tag _ _ _ =>
    (Scope.initial.enter? top.attributes).bind fun outer => outer.enter? (tag.left ++ tag.right)

theorem TagGap.enter?_fill {outer : Scope} {t : TagGap} {extra : List RawAttribute}
    (undeclared : ∀ a ∈ extra, declared? a.name = none) :
    outer.enter? (t.fill extra).attributes = outer.enter? (t.left ++ t.right) := by
  rw [fill, List.append_assoc, enter?_append, enter?_append]
  congr 1
  funext inner
  rw [enter?_append, enter?_undeclared undeclared, Option.bind_some]

/-! ## Lists of attributes that read alike -/

/-- Attributes that no reader of header values tells apart. -/
structure Alike (a b : List Attribute) : Prop where
  first : ∀ name, Attribute.bareValue? a name = Attribute.bareValue? b name
  last : ∀ name, Attribute.bareValue? a.reverse name = Attribute.bareValue? b.reverse name
  schemaType : a.find? (·.name = QualifiedName.inNamespace schemaInstance "type") =
    b.find? (·.name = QualifiedName.inNamespace schemaInstance "type")

section

variable {left right a b : List Attribute} {extra : Attribute}

theorem Alike.refl (a : List Attribute) : Alike a a :=
  ⟨fun _ => rfl, fun _ => rfl, rfl⟩

theorem find?_passes {found : Attribute → Bool} (missed : found extra = false) :
    (left ++ [extra] ++ right).find? found = (left ++ right).find? found := by
  rw [List.find?_append, List.find?_append, List.find?_append, List.find?_singleton, missed]
  simp

/-- An attribute in a namespace, but not in that of schema types, does not count. -/
theorem Alike.passes {uri : String} (bound : extra.name.namespaceUri = some uri)
    (other : uri ≠ schemaInstance) : Alike (left ++ right) (left ++ [extra] ++ right) := by
  have named (name : String) : decide (extra.name = QualifiedName.bare name) = false := by
    refine decide_eq_false fun same => ?_
    rw [same] at bound
    cases bound
  refine ⟨fun name => ?_, fun name => ?_, ?_⟩
  · rw [Attribute.bareValue?, Attribute.bareValue?, find?_passes (named name)]
  · have reversed : (left ++ [extra] ++ right).reverse =
        right.reverse ++ [extra] ++ left.reverse := by
      simp
    rw [Attribute.bareValue?, Attribute.bareValue?, reversed, List.reverse_append,
      find?_passes (named name)]
  · refine (find?_passes (decide_eq_false fun same => ?_)).symm
    rw [same] at bound
    exact other (Option.some.inj bound).symm

theorem Alike.root (alike : Alike a b) (name : QualifiedName) (scope : Scope) :
    Root.ofElement name scope a = Root.ofElement name scope b := by
  have same : Attribute.bareValue? a = Attribute.bareValue? b := funext alike.first
  simp only [Root.ofElement, issued?, schemaType?, id?, protocol?, alike.schemaType, same]

theorem Alike.claim (alike : Alike a b) : Claim.ofAttributes a = Claim.ofAttributes b := by
  simp only [Claim.ofAttributes, alike.last]

theorem Alike.child (alike : Alike a b) (p : Progress) (name : QualifiedName) (hasContent : Bool) :
    p.child name a hasContent = p.child name b hasContent := by
  rw [Progress.child, Progress.child, alike.claim, alike.first]

end

/-! ## Tags that read alike -/

/-- Elements of one name and scope with attributes that read alike. -/
structure SameElement (e e' : Element) : Prop where
  name : e.name = e'.name
  scope : e.scope = e'.scope
  attributes : ∀ a b, e.attributes? = some a → e'.attributes? = some b → Alike a b

theorem resolved?_fill {scope : Scope} {t : TagGap} {x : List RawAttribute} {a : List Attribute}
    (listed : (t.fill x).attributes? scope = some a) :
    ∃ left found right, RawAttribute.resolved? scope t.left = some left ∧
      RawAttribute.resolved? scope x = some found ∧
      RawAttribute.resolved? scope t.right = some right ∧ a = left ++ found ++ right := by
  obtain ⟨front, right, resolved, trail, rfl⟩ :=
    resolved?_append_eq_some (resolved?_of_attributes? listed)
  obtain ⟨left, found, lead, extra, rfl⟩ := resolved?_append_eq_some resolved
  exact ⟨left, found, right, lead, extra, trail, rfl⟩

/-- The tags that fill a gap give elements that read alike, if what is filled in does. -/
theorem sameElement_fill {outer : Scope} {t : TagGap} {x y : List RawAttribute} {e e' : Element}
    (undeclared : ∀ a ∈ x ++ y, declared? a.name = none)
    (alike : ∀ scope, outer.enter? (t.left ++ t.right) = some scope → ∀ left right a b,
      RawAttribute.resolved? scope x = some a → RawAttribute.resolved? scope y = some b →
        Alike (left ++ a ++ right) (left ++ b ++ right))
    (named : (t.fill x).element? outer = some e) (also : (t.fill y).element? outer = some e') :
    SameElement e e' := by
  rw [List.forall_mem_append] at undeclared
  obtain ⟨inside, name, attributes⟩ := element?_eq_some named
  obtain ⟨inside', name', attributes'⟩ := element?_eq_some also
  rw [TagGap.enter?_fill undeclared.1] at inside
  rw [TagGap.enter?_fill undeclared.2] at inside'
  have scope : e.scope = e'.scope := Option.some.inj (inside.symm.trans inside')
  rw [← scope] at name' attributes'
  refine ⟨name.trans name'.symm, scope, fun a b listed listed' => ?_⟩
  obtain ⟨left, found, right, lead, extra, trail, rfl⟩ :=
    resolved?_fill (attributes.symm.trans listed)
  obtain ⟨left', found', right', lead', extra', trail', rfl⟩ :=
    resolved?_fill (attributes'.symm.trans listed')
  cases lead.symm.trans lead'
  cases trail.symm.trans trail'
  exact alike e.scope inside left right found found' extra extra'

/-! ## Messages that read alike -/

theorem message?_root {before after before' after' : List Markup} {s t : RawTag}
    {children : List Child} {m m' : Message}
    (same : ∀ e e', s.element? Scope.initial = some e → t.element? Scope.initial = some e' →
      SameElement e e')
    (told : message? ⟨before, s, children, after⟩ = some m)
    (also : message? ⟨before', t, children, after'⟩ = some m') : m = m' := by
  obtain ⟨e, a, root, p, named, listed, made, learnt, done⟩ := message?_eq_some_iff.1 told
  obtain ⟨e', b, root', p', named', listed', made', learnt', done'⟩ := message?_eq_some_iff.1 also
  obtain ⟨name, scope, attributes⟩ := same e e' named named'
  rw [name, scope, (attributes a b listed listed').root] at made
  cases made.symm.trans made'
  rw [scope] at learnt
  cases learnt.symm.trans learnt'
  exact Except.ok.inj (done.symm.trans done')

theorem Progress.afterChild?_alike {scope : Scope} {p q q' : Progress} {s t : RawTag}
    {content : List Markup}
    (same : ∀ e e', s.element? scope = some e → t.element? scope = some e' → SameElement e e')
    (said : p.afterChild? scope ⟨s, content⟩ = some q)
    (also : p.afterChild? scope ⟨t, content⟩ = some q') : q = q' := by
  obtain ⟨e, named, said⟩ := Option.bind_eq_some_iff.1 said
  obtain ⟨a, listed, said⟩ := Option.bind_eq_some_iff.1 said
  obtain ⟨e', named', also⟩ := Option.bind_eq_some_iff.1 also
  obtain ⟨b, listed', also⟩ := Option.bind_eq_some_iff.1 also
  obtain ⟨name, _, attributes⟩ := same e e' named named'
  have alike := attributes a b listed listed'
  rw [name, alike.claim, alike.child] at said
  exact Option.some.inj (said.symm.trans also)

theorem message?_child {before after before' after' : List Markup} {root : RawTag}
    {earlier later : List Child} {s t : RawTag} {content : List Markup} {m m' : Message}
    (same : ∀ outer e e', Scope.initial.enter? root.attributes = some outer →
      s.element? outer = some e → t.element? outer = some e' → SameElement e e')
    (told : message? ⟨before, root, earlier ++ ⟨s, content⟩ :: later, after⟩ = some m)
    (also : message? ⟨before', root, earlier ++ ⟨t, content⟩ :: later, after'⟩ = some m') :
    m = m' := by
  obtain ⟨e, a, top, p, named, listed, made, learnt, done⟩ := message?_eq_some_iff.1 told
  obtain ⟨e', b, top', p', named', listed', made', learnt', done'⟩ := message?_eq_some_iff.1 also
  cases named.symm.trans named'
  cases listed.symm.trans listed'
  cases made.symm.trans made'
  obtain ⟨met, next, lead, step, trail⟩ := foldlM_middle.1 learnt
  obtain ⟨met', next', lead', step', trail'⟩ := foldlM_middle.1 learnt'
  cases lead.symm.trans lead'
  have inside := (element?_eq_some named).1
  cases Progress.afterChild?_alike (same e.scope · · inside) step step'
  cases trail.symm.trans trail'
  exact Except.ok.inj (done.symm.trans done')

/-- Whatever fills a gap in a document, the same message is read, if it reads alike. -/
theorem message?_fill {gap : Gap} {x y : List RawAttribute} {m m' : Message}
    (undeclared : ∀ a ∈ x ++ y, declared? a.name = none)
    (alike : ∀ scope, gap.scope? = some scope → ∀ left right a b,
      RawAttribute.resolved? scope x = some a → RawAttribute.resolved? scope y = some b →
        Alike (left ++ a ++ right) (left ++ b ++ right))
    (told : message? (gap.fill x) = some m) (also : message? (gap.fill y) = some m') : m = m' := by
  cases gap with
  | root before tag children after =>
      exact message?_root (fun e e' => sameElement_fill undeclared alike) told also
  | child before top earlier tag content later after =>
      refine message?_child (fun outer e e' inside => sameElement_fill undeclared ?_) told also
      intro scope within
      exact alike scope (Option.bind_eq_some_iff.2 ⟨outer, inside, within⟩)

theorem scope?_of_message? {gap : Gap} {m : Message} (told : message? (gap.fill []) = some m) :
    ∃ scope, gap.scope? = some scope := by
  obtain ⟨e, _, _, p, named, _, _, learnt, _⟩ := message?_eq_some_iff.1 told
  have inside := (element?_eq_some named).1
  cases gap with
  | root before tag children after =>
      exact ⟨e.scope, (TagGap.enter?_fill (List.forall_mem_nil _)).symm.trans inside⟩
  | child before top earlier tag content later after =>
      obtain ⟨met, next, _, step, _⟩ := foldlM_middle.1 learnt
      obtain ⟨inner, found, _⟩ := Option.bind_eq_some_iff.1 step
      have within := (element?_eq_some found).1
      rw [TagGap.enter?_fill (List.forall_mem_nil _)] at within
      exact ⟨inner.scope, Option.bind_eq_some_iff.2 ⟨e.scope, inside, within⟩⟩

section

variable {gap : Gap} {scope : Scope} {a : RawAttribute} {label localName : List Char}
  {m m' : Message}

theorem message?_bound {uri : String} (inside : gap.scope? = some scope)
    (prefixed : splitName a.name = (some label, localName)) (other : label ≠ "xmlns".toList)
    (bound : scope.namespaceUri (some label) = some uri) (noType : uri ≠ schemaInstance)
    (told : message? (gap.fill []) = some m) (also : message? (gap.fill [a]) = some m') :
    m = m' := by
  have undeclared := declared?_of_prefixed prefixed other
  refine message?_fill (x := []) (y := [a]) (List.forall_mem_singleton.2 undeclared) ?_ told also
  intro _ same left right _ _ none found
  cases inside.symm.trans same
  -- The attribute is resolved in the scope of its own tag, wherever in the tag it stands.
  have nothing : RawAttribute.resolved? scope [] = some [] := rfl
  cases nothing.symm.trans none
  rw [resolved?_singleton undeclared] at found
  obtain ⟨value, _, rfl⟩ := Option.map_eq_some_iff.1 found
  rw [List.append_nil]
  refine Alike.passes ?_ noType
  rw [attributeName_of_prefixed prefixed]
  exact bound

theorem message?_unbound (inside : gap.scope? = some scope)
    (prefixed : splitName a.name = (some label, localName)) (other : label ≠ "xmlns".toList)
    (unbound : scope.namespaceUri (some label) = none) (plain : ':' ∉ localName)
    (noDeclaration : localName ≠ "xmlns".toList) (told : message? (gap.fill [a]) = some m)
    (also : message? (gap.fill [⟨localName, a.value⟩]) = some m') : m = m' := by
  have undeclared := declared?_of_prefixed prefixed other
  have undeclaredBare := declared?_of_noColon plain noDeclaration
  have name : scope.attributeName a.name = scope.attributeName localName := by
    rw [attributeName_of_prefixed prefixed, unbound, Scope.attributeName,
      splitName_of_noColon plain]
    rfl
  refine message?_fill (x := [a]) (y := [⟨localName, a.value⟩]) ?_ ?_ told also
  · exact List.forall_mem_cons.2 ⟨undeclared, List.forall_mem_singleton.2 undeclaredBare⟩
  · intro _ same left right _ _ found foundBare
    cases inside.symm.trans same
    rw [resolved?_singleton undeclared, name] at found
    rw [resolved?_singleton undeclaredBare] at foundBare
    cases found.symm.trans foundBare
    exact Alike.refl _

end

/-! ## Names in the root's tag -/

theorem Progress.afterChild?_root {scope : Scope} {p q : Progress} {c : Child}
    (said : p.afterChild? scope c = some q) : q.root = p.root := by
  obtain ⟨_, _, _, _, ⟨_, _, _, rfl⟩ | ⟨_, _, rfl⟩⟩ := afterChild?_cases said
  · rfl
  · rfl

theorem Progress.finish_root {p : Progress} {root : Root} {m : Message} (found : p.root = some root)
    (done : p.finish = .ok m) : m.element = root.element ∧ m.schemaType = root.schemaType := by
  rw [finish, found] at done
  dsimp only at done
  split at done
  · cases done
    exact ⟨rfl, rfl⟩
  · cases done

theorem Root.ofElement_names {name : QualifiedName} {scope : Scope} {attributes : List Attribute}
    {root : Root} (made : Root.ofElement name scope attributes = .ok root) :
    root.element = name ∧ root.schemaType = schemaType? scope attributes := by
  rw [Root.ofElement] at made
  cases read : issued? attributes with
  | error fault =>
      rw [read] at made
      cases made
  | ok issued =>
      rw [read] at made
      cases made
      exact ⟨rfl, rfl⟩

/-- The names of the root element and of its schema type, in the scope of its tag. -/
theorem names_of_message? {d : Document} {m : Message} (told : message? d = some m) :
    ∃ scope attributes, Scope.initial.enter? d.root.attributes = some scope ∧
      RawAttribute.resolved? scope d.root.attributes = some attributes ∧
      m.element = scope.elementName d.root.name ∧ m.schemaType = schemaType? scope attributes := by
  obtain ⟨e, attributes, root, p, named, listed, made, learnt, done⟩ := message?_eq_some_iff.1 told
  obtain ⟨inside, name, same⟩ := element?_eq_some named
  have found : p.root = some root := by
    refine foldlM_keeps (P := fun p => p.root = some root) ?_ rfl learnt
    intro c _ p q kept step
    exact (Progress.afterChild?_root step).trans kept
  obtain ⟨element, schemaType⟩ := Progress.finish_root (p := p.left) found done
  obtain ⟨elementMade, schemaTypeMade⟩ := Root.ofElement_names made
  exact ⟨e.scope, attributes, inside, resolved?_of_attributes? (same.symm.trans listed),
    element.trans (elementMade.trans name), schemaType.trans schemaTypeMade⟩

/-- How the prefixes of names are read in a document with a message. -/
structure ReadsPrefixes (d : Document) (m : Message) : Prop where
  within : ∀ gap : Gap, gap.fill [] = d → ∃ scope, gap.scope? = some scope
  /-- An attribute that is added changes nothing if its prefix is bound, unless to the namespace of
  schema types. -/
  bound : ∀ (gap : Gap) (scope : Scope) (a : RawAttribute) (label localName : List Char)
    (uri : String), gap.fill [] = d → gap.scope? = some scope →
    splitName a.name = (some label, localName) → label ≠ "xmlns".toList →
    scope.namespaceUri (some label) = some uri → uri ≠ schemaInstance →
    ∀ y g, parse y = .ok g → (gap.fill [a]).IsOf y.toList → g.message = m
  /-- An attribute whose prefix is not bound is read like the attribute without the prefix. -/
  unbound : ∀ (gap : Gap) (scope : Scope) (a : RawAttribute) (label localName : List Char),
    gap.fill [] = d → gap.scope? = some scope →
    splitName a.name = (some label, localName) → label ≠ "xmlns".toList →
    scope.namespaceUri (some label) = none → ':' ∉ localName → localName ≠ "xmlns".toList →
    ∀ y z g h, parse y = .ok g → (gap.fill [a]).IsOf y.toList → parse z = .ok h →
      (gap.fill [⟨localName, a.value⟩]).IsOf z.toList → g.message = h.message
  /-- The name of the root element is in a namespace if its prefix is bound to one. -/
  element : ∃ scope, Scope.initial.enter? d.root.attributes = some scope ∧
    ∀ label localName, splitName d.root.name = (some label, localName) →
      (m.element.namespaceUri = none ↔ scope.namespaceUri (some label) = none)
  /-- So is the schema type, which one of the root's attributes declares. -/
  schemaType : ∀ q, m.schemaType = some q → ∃ scope a value,
    Scope.initial.enter? d.root.attributes = some scope ∧ a ∈ d.root.attributes ∧
    scope.attributeName a.name = QualifiedName.inNamespace schemaInstance "type" ∧
    resolve? a.value = some value ∧
    ∀ label localName, splitName (Text.trim value) = (some label, localName) →
      (q.namespaceUri = none ↔ scope.namespaceUri (some label) = none)

theorem parse_readsPrefixes {x : String} {f : Fragment} {d : Document} (parsed : parse x = .ok f)
    (is : d.IsOf x.toList) : ReadsPrefixes d f.message := by
  have told := (heard_of_readMessage is (readMessage_of_parse parsed)).1
  refine ⟨?_, ?_, ?_, ?_, ?_⟩
  · rintro gap rfl
    exact scope?_of_message? told
  · rintro gap scope a label localName uri rfl inside prefixed other bound noType y g also ofY
    have toldY := (heard_of_readMessage ofY (readMessage_of_parse also)).1
    exact (message?_bound inside prefixed other bound noType told toldY).symm
  · intro gap scope a label localName _ inside prefixed other unbound plain noDeclaration y z g h
      parsedY ofY parsedZ ofZ
    have toldY := (heard_of_readMessage ofY (readMessage_of_parse parsedY)).1
    have toldZ := (heard_of_readMessage ofZ (readMessage_of_parse parsedZ)).1
    exact message?_unbound inside prefixed other unbound plain noDeclaration toldY toldZ
  · obtain ⟨scope, _, inside, _, element, _⟩ := names_of_message? told
    refine ⟨scope, inside, fun label localName prefixed => ?_⟩
    rw [element, elementName_of_prefixed prefixed]
  · intro q declared
    obtain ⟨scope, attributes, inside, resolved, _, schemaType⟩ := names_of_message? told
    obtain ⟨found, first, rfl⟩ := Option.map_eq_some_iff.1 (schemaType.symm.trans declared)
    obtain ⟨a, value, mem, resolves, rfl⟩ :=
      mem_resolved? resolved (List.mem_of_find?_eq_some first)
    have named := List.find?_some first
    rw [decide_eq_true_eq] at named
    refine ⟨scope, a, value, inside, mem, named, resolves, fun label localName prefixed => ?_⟩
    rw [String.toList_ofList, elementName_of_prefixed prefixed]

/-! ## Prefixed identifiers -/

theorem isOf_of_emptyTag (text : String) (body : List Char) {tag : RawTag}
    (scanned : Markup.scan (withoutMark text.toList) = ([.startTag (body ++ ['/'])], true))
    (same : RawTag.ofBody body = tag) : Document.IsOf ⟨[], tag, [], []⟩ text.toList :=
  ⟨[], _, Markup.scan_eq_iff.1 scanned, .empty same, .nil, List.forall_mem_nil _⟩

/-- An empty element with a gap behind some attributes. -/
def sampleGap (left : List RawAttribute) : Gap :=
  .root [] ⟨['a'], left, [], true⟩ [] []

def sampleBinding : RawAttribute :=
  ⟨"xmlns:p".toList, "urn:x".toList⟩

def sampleId : RawAttribute :=
  ⟨"p:ID".toList, "_x".toList⟩

def sampleBound : String :=
  "<a xmlns:p=\"urn:x\"/>"

def sampleBoundId : String :=
  "<a xmlns:p=\"urn:x\" p:ID=\"_x\"/>"

/-- If its prefix is bound, the identifier does not count. -/
theorem bound_id_unread :
    ∃ f g, parse sampleBound = .ok f ∧ parse sampleBoundId = .ok g ∧ f.message.id = none ∧
      g.message = f.message := by
  have is : ((sampleGap [sampleBinding]).fill []).IsOf sampleBound.toList :=
    isOf_of_emptyTag _ "a xmlns:p=\"urn:x\"".toList rfl rfl
  have ofY : ((sampleGap [sampleBinding]).fill [sampleId]).IsOf sampleBoundId.toList :=
    isOf_of_emptyTag _ "a xmlns:p=\"urn:x\" p:ID=\"_x\"".toList rfl rfl
  have inside : (sampleGap [sampleBinding]).scope? =
      some (⟨some ['p'], "urn:x".toList⟩ :: Scope.initial) := rfl
  have readX : readMessage sampleBound.toList = .ok sampleEmpty.message := rfl
  have readY : readMessage sampleBoundId.toList = .ok sampleEmpty.message := rfl
  obtain ⟨f, parsed, same⟩ := parse_of_readMessage readX
  obtain ⟨g, also, _⟩ := parse_of_readMessage readY
  refine ⟨f, g, parsed, also, by rw [same]; rfl, ?_⟩
  exact (parse_readsPrefixes parsed is).bound _ _ sampleId ['p'] "ID".toList "urn:x" rfl inside
    rfl (by simp) rfl (by simp [schemaInstance]) _ _ also ofY

/-- If its prefix is not bound, the identifier is that of the message. -/
theorem unbound_id_read :
    ∃ f g scope, parse "<a/>" = .ok f ∧ parse "<a p:ID=\"_x\"/>" = .ok g ∧
      ((sampleGap []).fill []).IsOf "<a/>".toList ∧
      ((sampleGap []).fill [sampleId]).IsOf "<a p:ID=\"_x\"/>".toList ∧
      (sampleGap []).scope? = some scope ∧ splitName sampleId.name = (some ['p'], "ID".toList) ∧
      scope.namespaceUri (some ['p']) = none ∧ f.message.id = none ∧
      g.message.id = some "_x" := by
  have is : ((sampleGap []).fill []).IsOf "<a/>".toList :=
    isOf_of_emptyTag _ ['a'] rfl rfl
  have ofY : ((sampleGap []).fill [sampleId]).IsOf "<a p:ID=\"_x\"/>".toList :=
    isOf_of_emptyTag _ "a p:ID=\"_x\"".toList rfl rfl
  have readX : readMessage "<a/>".toList = .ok sampleEmpty.message := rfl
  have readY : readMessage "<a p:ID=\"_x\"/>".toList =
      .ok { sampleEmpty.message with id := some "_x" } := rfl
  obtain ⟨f, parsed, same⟩ := parse_of_readMessage readX
  obtain ⟨g, also, same'⟩ := parse_of_readMessage readY
  exact ⟨f, g, Scope.initial, parsed, also, is, ofY, rfl, rfl, rfl, by rw [same]; rfl,
    by rw [same']⟩

end Gatehouse.Fragment
