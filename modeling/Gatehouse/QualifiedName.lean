import Gatehouse.Text.Blank
import Gatehouse.Text.Split

/-! # Qualified names

An XML name with an optional namespace. No namespace and an empty one are different, but the text
form reads an empty namespace in braces as none.
-/

namespace Gatehouse

/-- A local name, in a namespace or in none. -/
structure QualifiedName where
  namespaceUri : Option String
  localName : String
  deriving DecidableEq, Repr

namespace QualifiedName

def inNamespace (uri localName : String) : QualifiedName :=
  ⟨some uri, localName⟩

def bare (localName : String) : QualifiedName :=
  ⟨none, localName⟩

/-- The text form: the namespace in braces, if there is one, before the local name. -/
def text (q : QualifiedName) : String :=
  match q.namespaceUri with
  | some uri => String.ofList ('{' :: uri.toList ++ '}' :: q.localName.toList)
  | none => q.localName

/-- Reads the text form, white space around it dropped. The namespace ends at the first closing
brace; the local name may not be empty. -/
def parse? (s : String) : Option QualifiedName :=
  match Text.trim s.toList with
  | [] => none
  | '{' :: rest =>
    (Text.cut? '}' rest).bind fun (uri, name) =>
      if name.isEmpty then none
      else if uri.isEmpty then some (bare (String.ofList name))
      else some (inNamespace (String.ofList uri) (String.ofList name))
  | name => some (bare (String.ofList name))

end QualifiedName

end Gatehouse
