import Gatehouse.Xml.Event

/-! # Namespaces and the attributes of a tag

What namespace declarations and other attributes in a tag do, one by one: the first make up the
scope inside it, and the second are resolved there. Names with a prefix are told from those without.
-/

namespace Gatehouse.Xml

/-- The attributes in a list that are no namespace declarations, resolved. -/
def RawAttribute.resolved? (scope : Scope) (attributes : List RawAttribute) :
    Option (List Attribute) :=
  (attributes.filter fun a => (declared? a.name).isNone).mapM fun a =>
    (resolve? a.value).map fun value => ⟨scope.attributeName a.name, String.ofList value⟩

variable {scope outer : Scope} {tag : RawTag} {a : RawAttribute}
  {left right extra : List RawAttribute} {label localName name : List Char}

theorem splitName_eq_some (prefixed : splitName name = (some label, localName)) :
    name = label ++ ':' :: localName ∧ ':' ∉ label := by
  rw [splitName] at prefixed
  split at prefixed
  · next found =>
      cases prefixed
      exact Text.cut?_eq_some found
  · cases prefixed

theorem splitName_of_noColon (plain : ':' ∉ name) : splitName name = (none, name) := by
  rw [splitName]
  split
  · next label rest found =>
      rw [(Text.cut?_eq_some found).1] at plain
      exact absurd (List.mem_append_right label List.mem_cons_self) plain
  · rfl

theorem declared?_of_noColon (plain : ':' ∉ name) (other : name ≠ "xmlns".toList) :
    declared? name = none := by
  rw [declared?, if_neg other, if_neg]
  intro starts
  obtain ⟨rest, same⟩ := List.isPrefixOf_iff_prefix.1 starts
  rw [← same] at plain
  simp at plain

/-- A name with another prefix than `xmlns` declares no namespace. -/
theorem declared?_of_prefixed (prefixed : splitName name = (some label, localName))
    (other : label ≠ "xmlns".toList) : declared? name = none := by
  obtain ⟨rfl, colon⟩ := splitName_eq_some prefixed
  rw [declared?, if_neg, if_neg]
  · intro starts
    obtain ⟨rest, same⟩ := List.isPrefixOf_iff_prefix.1 starts
    have cut := Text.cut?_append localName colon
    rw [← same] at cut
    cases cut
    exact other rfl
  · intro same
    have mem : ':' ∈ "xmlns".toList := same ▸ List.mem_append_right label List.mem_cons_self
    simp at mem

theorem attributeName_of_prefixed (prefixed : splitName name = (some label, localName)) :
    scope.attributeName name = ⟨scope.namespaceUri (some label), String.ofList localName⟩ := by
  rw [Scope.attributeName, prefixed]
  rfl

theorem elementName_of_prefixed (prefixed : splitName name = (some label, localName)) :
    scope.elementName name = ⟨scope.namespaceUri (some label), String.ofList localName⟩ := by
  rw [Scope.elementName, prefixed]

theorem enter?_append :
    scope.enter? (left ++ right) = (scope.enter? left).bind fun inner => inner.enter? right := by
  induction left generalizing scope with
  | nil => rfl
  | cons a left ih =>
      rw [List.cons_append, Scope.enter?, Scope.enter?]
      cases declared? a.name with
      | none => exact ih
      | some label =>
          dsimp only
          split
          · split
            · exact ih
            · exact ih
          · rfl

theorem enter?_undeclared (undeclared : ∀ a ∈ extra, declared? a.name = none) :
    scope.enter? extra = some scope := by
  induction extra with
  | nil => rfl
  | cons a extra ih =>
      rw [List.forall_mem_cons] at undeclared
      rw [Scope.enter?, undeclared.1]
      exact ih undeclared.2

open RawAttribute in
theorem resolved?_append_eq_some {attributes : List Attribute}
    (found : resolved? scope (left ++ right) = some attributes) :
    ∃ l r, resolved? scope left = some l ∧ resolved? scope right = some r ∧
      attributes = l ++ r := by
  rw [resolved?, List.filter_append, List.mapM_append] at found
  obtain ⟨l, lead, found⟩ := Option.bind_eq_some_iff.1 found
  obtain ⟨r, trail, same⟩ := Option.bind_eq_some_iff.1 found
  cases same
  exact ⟨l, r, lead, trail, rfl⟩

theorem resolved?_singleton (undeclared : declared? a.name = none) :
    RawAttribute.resolved? scope [a] = (resolve? a.value).map fun value =>
      [⟨scope.attributeName a.name, String.ofList value⟩] := by
  rw [RawAttribute.resolved?, List.filter_cons_of_pos (by rw [undeclared]; rfl), List.filter_nil,
    List.mapM_cons]
  cases resolve? a.value with
  | none => rfl
  | some value => rfl

theorem mem_resolved? {attributes : List Attribute} {found : Attribute}
    (resolved : RawAttribute.resolved? scope left = some attributes) (mem : found ∈ attributes) :
    ∃ a value, a ∈ left ∧ resolve? a.value = some value ∧
      found = ⟨scope.attributeName a.name, String.ofList value⟩ := by
  induction left generalizing attributes with
  | nil =>
      cases resolved
      cases mem
  | cons a left ih =>
      have whole : RawAttribute.resolved? scope ([a] ++ left) = some attributes := resolved
      obtain ⟨l, r, first, others, rfl⟩ := resolved?_append_eq_some whole
      rcases List.mem_append.1 mem with here | later
      · cases undeclared : declared? a.name with
        | none =>
            rw [resolved?_singleton undeclared] at first
            obtain ⟨value, resolves, rfl⟩ := Option.map_eq_some_iff.1 first
            exact ⟨a, value, List.mem_cons_self, resolves, List.mem_singleton.1 here⟩
        | some binding =>
            have nothing : RawAttribute.resolved? scope [a] = some [] := by
              rw [RawAttribute.resolved?, List.filter_cons_of_neg (by simp [undeclared])]
              rfl
            cases nothing.symm.trans first
            cases here
      · obtain ⟨b, value, inside, resolves, same⟩ := ih others later
        exact ⟨b, value, List.mem_cons_of_mem a inside, resolves, same⟩

theorem resolved?_of_attributes? {attributes : List Attribute}
    (listed : tag.attributes? scope = some attributes) :
    RawAttribute.resolved? scope tag.attributes = some attributes := by
  rw [RawTag.attributes?] at listed
  split at listed
  · exact listed
  · cases listed

theorem element?_eq_some {e : Element} (named : tag.element? outer = some e) :
    outer.enter? tag.attributes = some e.scope ∧ e.name = e.scope.elementName tag.name ∧
      e.attributes? = tag.attributes? e.scope := by
  obtain ⟨inner, inside, rfl⟩ := Option.map_eq_some_iff.1 named
  exact ⟨inside, rfl, rfl⟩

end Gatehouse.Xml
