import TrustWeb.Json

/-!
# Printing JSON

Two layouts: one line with a blank after each comma and colon, and indented by two blanks per
level with one item per line. Characters beyond the controls stand as they are.
-/

namespace TrustWeb.Json

/-- One character of a JSON string. -/
def printedChar (c : Char) : List Char :=
  if c == '\x22' then ['\\', '\x22']
  else if c == '\\' then ['\\', '\\']
  else if c == '\n' then ['\\', 'n']
  else if c == '\r' then ['\\', 'r']
  else if c == '\t' then ['\\', 't']
  else if c == '\x0c' then ['\\', 'f']
  else if c == '\x08' then ['\\', 'b']
  else if c.toNat < 0x20 then '\\' :: 'u' :: Text.hex 4 c.toNat
  else [c]

/-- A JSON string with its quotation marks. -/
def printedText (s : String) : String :=
  String.ofList ('\x22' :: s.toList.flatMap printedChar ++ ['\x22'])

mutual

/-- A value on one line. -/
def line : Json → String
  | .null => "null"
  | .bool true => "true"
  | .bool false => "false"
  | .number n => toString n
  | .decimal literal => literal
  | .text s => printedText s
  | .array items => "[" ++ lineItems items ++ "]"
  | .object fields => "\x7b" ++ lineFields fields ++ "\x7d"

/-- Items on one line. -/
def lineItems : List Json → String
  | [] => ""
  | [item] => line item
  | item :: rest => line item ++ ", " ++ lineItems rest

/-- Fields on one line. -/
def lineFields : List (String × Json) → String
  | [] => ""
  | [(name, item)] => printedText name ++ ": " ++ line item
  | (name, item) :: rest => printedText name ++ ": " ++ line item ++ ", " ++ lineFields rest

end

/-- A line break followed by the indentation of a level. -/
def newLine (level : Nat) : String := String.ofList ('\n' :: List.replicate (2 * level) ' ')

mutual

/-- A value over several lines, nested at `level`. -/
def indentedAt (level : Nat) : Json → String
  | .array [] => "[]"
  | .array (item :: rest) =>
    "[" ++ newLine (level + 1) ++ indentedItems (level + 1) (item :: rest) ++ newLine level ++ "]"
  | .object [] => "\x7b\x7d"
  | .object (entry :: rest) =>
    "\x7b" ++ newLine (level + 1) ++ indentedFields (level + 1) (entry :: rest) ++ newLine level ++
      "\x7d"
  | v => line v

/-- Items over several lines. -/
def indentedItems (level : Nat) : List Json → String
  | [] => ""
  | [item] => indentedAt level item
  | item :: rest => indentedAt level item ++ "," ++ newLine level ++ indentedItems level rest

/-- Fields over several lines. -/
def indentedFields (level : Nat) : List (String × Json) → String
  | [] => ""
  | [(name, item)] => printedText name ++ ": " ++ indentedAt level item
  | (name, item) :: rest =>
    printedText name ++ ": " ++ indentedAt level item ++ "," ++ newLine level ++
      indentedFields level rest

end

/-- A value over several lines. -/
def indented (v : Json) : String := indentedAt 0 v

end TrustWeb.Json
