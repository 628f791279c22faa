import TrustWeb.Table
import TrustWeb.Text.Quoted

/-!
# JSON values

The values of JSON. Numbers are integers of any size; a number with a fraction or an exponent keeps
the literal it was written with. Fields of an object keep their order.
-/

namespace TrustWeb

/-- A JSON value. -/
inductive Json where
  | null
  | bool (b : Bool)
  | number (n : Int)
  | decimal (literal : String)
  | text (s : String)
  | array (items : List Json)
  | object (fields : List (String × Json))
  deriving Repr, Inhabited

namespace Json

/-- The value of a field of an object. -/
def field? (v : Json) (name : String) : Option Json :=
  match v with
  | .object fields => Table.find? fields name
  | _ => none

/-- The name of the kind of a value, as messages give it. -/
def kindName : Json → String
  | .null => "NoneType"
  | .bool _ => "bool"
  | .number _ => "int"
  | .decimal _ => "float"
  | .text _ => "str"
  | .array _ => "list"
  | .object _ => "dict"

/-- Whether a value counts as true where a condition is wanted: all but null, false, zero and what
is empty. -/
def isTrue : Json → Bool
  | .null => false
  | .bool b => b
  | .number n => n != 0
  | .decimal literal =>
    (literal.toList.takeWhile fun c => c != 'e' && c != 'E').any fun c =>
      c.isAlpha || ('1' ≤ c && c ≤ '9')
  | .text s => s != ""
  | .array items => !items.isEmpty
  | .object fields => !fields.isEmpty

/-- A text, or null for none. -/
def ofText? : Option String → Json
  | some s => .text s
  | none => .null

mutual

/-- A value as messages show it inside other values: text is quoted. -/
def quoted : Json → String
  | .null => "None"
  | .bool true => "True"
  | .bool false => "False"
  | .number n => toString n
  | .decimal literal => literal
  | .text s => Text.quoted s
  | .array items => "[" ++ quotedItems items ++ "]"
  | .object fields => "\x7b" ++ quotedFields fields ++ "\x7d"

/-- Items as messages show them, separated by commas. -/
def quotedItems : List Json → String
  | [] => ""
  | [item] => quoted item
  | item :: rest => quoted item ++ ", " ++ quotedItems rest

/-- Fields as messages show them, separated by commas. -/
def quotedFields : List (String × Json) → String
  | [] => ""
  | [(name, item)] => Text.quoted name ++ ": " ++ quoted item
  | (name, item) :: rest => Text.quoted name ++ ": " ++ quoted item ++ ", " ++ quotedFields rest

end

/-- A value as messages show it by itself: text stands as it is. -/
def shown : Json → String
  | .text s => s
  | v => quoted v

end Json

end TrustWeb
