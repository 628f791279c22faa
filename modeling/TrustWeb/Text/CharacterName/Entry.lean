/-!
# Tables of character names

A table lists names in the order of their code points. Its entries are separated by semicolons or
line breaks. An entry starts with its code point in hexadecimal and an equals sign, unless it
follows the entry before; then comes a digit, the number of words that the name shares with the
name before; then come the other words. In these, a small letter stands for a frequent word.
-/

namespace TrustWeb.Text.CharacterName

/-- The words that small letters stand for, in the order of the letters. -/
def frequentWords : List (List Char) :=
  ["ABOVE", "ARROW", "BELOW", "BLACK", "CAPITAL", "CIRCLE", "COMPONENT", "DOTS", "DOUBLE", "FINAL",
    "FORM", "HORIZONTAL", "INITIAL", "ISOLATED", "LEFT", "LETTER", "RIGHT", "SELECTOR", "SIGN",
    "SMALL", "STROKE", "SYMBOL", "THREE", "TRIANGLE", "VERTICAL", "WITH"].map String.toList

/-- What a character of an entry stands for. -/
def expanded (c : Char) : List Char :=
  if c.isLower then frequentWords.getD (c.toNat - 0x61) [] else [c]

/-- The value of a hexadecimal digit with capital letters. -/
def digitValue (c : Char) : Nat := if c.isDigit then c.toNat - 0x30 else c.toNat - 0x41 + 10

/-- The number that hexadecimal digits denote. -/
def hexValue (digits : List Char) : Nat := digits.foldl (fun n c => 16 * n + digitValue c) 0

/-- An entry of a table. -/
structure Entry where
  /-- The code point, unless it is the next one. -/
  code : Option Nat
  /-- The number of words shared with the name before. -/
  shared : Nat
  words : List (List Char)

namespace Entry

/-- An entry without its code point. -/
def readName (code : Option Nat) : List Char → Entry
  | [] => ⟨code, 0, []⟩
  | shared :: words => ⟨code, digitValue shared, (words.flatMap expanded).splitOn ' '⟩

/-- Reads an entry. -/
def read (cs : List Char) : Entry :=
  match cs.dropWhile (· != '=') with
  | [] => readName none cs
  | _ :: rest => readName (some (hexValue (cs.takeWhile (· != '=')))) rest

/-- The words of the name, given those of the name before. -/
def name (e : Entry) (before : List (List Char)) : List (List Char) :=
  before.take e.shared ++ e.words

end Entry

/-- The code point of a name in the entries after one with the given name and code point. -/
def findAfter (wanted before : List (List Char)) (code : Nat) : List (List Char) → Option Nat
  | [] => none
  | cs :: rest =>
    let e := Entry.read cs
    let name := e.name before
    let code := e.code.getD (code + 1)
    if name == wanted then some code else findAfter wanted name code rest

/-- The code point of a name in a table. -/
def findIn (name : List Char) (table : String) : Option Nat :=
  findAfter (name.splitOn ' ') [] 0 (table.toList.splitOnP fun c => c == ';' || c == '\n')

end TrustWeb.Text.CharacterName
