import MermaidTidy.Json.Binary64
import MermaidTidy.Text.Basic

/-!
# JSON values

Values as they are read from a document: integers are unbounded and are told apart from numbers with
a point or an exponent, and the members of an object are kept in document order. A string with half
a surrogate pair in it is no text; nothing but its type is kept.
-/

namespace MermaidTidy

/-- A JSON value. -/
inductive Json
  | null
  | bool (b : Bool)
  | integer (n : Int)
  | real (x : Binary64)
  | string (t : Text)
  /-- A string with an unpaired surrogate. -/
  | brokenString
  | array (items : List Json)
  | object (members : List (Text × Json))
deriving Repr

namespace Json

/-- What a value is called when an object was expected. -/
def typeName : Json → Text
  | .null => "NoneType".toList
  | .bool _ => "bool".toList
  | .integer _ => "int".toList
  | .real _ => "float".toList
  | .string _ | .brokenString => "str".toList
  | .array _ => "list".toList
  | .object _ => "dict".toList

/-- The value of a member. Of several members of one name the last one counts. -/
def lookup? (name : Text) (members : List (Text × Json)) : Option Json :=
  (members.reverse.find? (·.1 = name)).map (·.2)

theorem lookup?_cons (name : Text) (member : Text × Json) (members : List (Text × Json)) :
    lookup? name (member :: members) =
      (lookup? name members).or (if member.1 = name then some member.2 else none) := by
  unfold lookup?
  rw [List.reverse_cons, List.find?_append]
  cases members.reverse.find? (·.1 = name) with
  | some found => rfl
  | none => by_cases h : member.1 = name <;> simp [h]

end Json

end MermaidTidy
