/-
This file defines JSON values as documents carry them. Numbers written as plain
integers are kept by value, any other number by its literal. A string literal may
denote no text, when its escapes leave half a surrogate pair or its bytes encode
no character; it is still a value, which only a reader that skips it accepts.
-/

namespace Fixity

/-- A JSON value. Object members keep their order and may repeat a name. -/
inductive Json where
  | null
  | bool (value : Bool)
  | integer (value : Int)
  | inexact (literal : String)
  | string (content : Option String)
  | array (items : List Json)
  | object (members : List (Option String × Json))
deriving Repr, Inhabited, BEq

namespace Json

/-- The value of a text. -/
def text (content : String) : Json :=
  .string (some content)

/-- The value of a text that may be absent. -/
def textOrNull : Option String → Json
  | some content => text content
  | none => .null

/-- An object with the given names and values. -/
def record (members : List (String × Json)) : Json :=
  .object (members.map fun (name, value) => (some name, value))

end Json

end Fixity
