/-! # JSON values

A number is kept as it is written, since whether it is an integer is a matter of its form. The
members of an object keep their order and may repeat a name. A string may escape half of a surrogate
pair, which is well formed and stands for no text.
-/

namespace Gatehouse

inductive Json where
  | null
  | bool (b : Bool)
  | number (lexeme : String)
  | string (s : String)
  /-- A string with an unpaired surrogate in it, or an object with such a name in it. -/
  | unpaired
  | array (items : List Json)
  | object (members : List (String × Json))
  deriving Inhabited

namespace Json

def string? : Json → Option String
  | .string s => some s
  | _ => none

def bool? : Json → Option Bool
  | .bool b => some b
  | _ => none

def values (name : String) (members : List (String × Json)) : List Json :=
  (members.filter fun m => m.1 = name).map Prod.snd

end Json

end Gatehouse
