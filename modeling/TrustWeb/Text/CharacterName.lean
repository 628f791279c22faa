import TrustWeb.Text.CharacterName.Aliases
import TrustWeb.Text.CharacterName.Alphabets
import TrustWeb.Text.CharacterName.Entry
import TrustWeb.Text.CharacterName.Pictures
import TrustWeb.Text.CharacterName.Scripts
import TrustWeb.Text.CharacterName.Syllables
import TrustWeb.Text.CharacterName.Symbols

/-!
# Characters by name

Most characters have their names in tables, where it does not matter in which case a name is
written. The names of Korean syllables are put together from the names of their letters, and those
of ideographs end in their code points.
-/

namespace TrustWeb.Text

namespace CharacterName

/-- What follows a text at the start of another. -/
def after? (start : String) (cs : List Char) : Option (List Char) :=
  if start.toList.isPrefixOf cs then some (cs.drop start.toList.length) else none

/-! ## Korean syllables -/

/-- The names of leading consonants. -/
def leads : List String :=
  ["G", "GG", "N", "D", "DD", "R", "M", "B", "BB", "S", "SS", "", "J", "JJ", "C", "K", "T", "P",
    "H"]

/-- The names of vowels. -/
def vowels : List String :=
  ["A", "AE", "YA", "YAE", "EO", "E", "YEO", "YE", "O", "WA", "WAE", "OE", "YO", "U", "WEO", "WE",
    "WI", "YU", "EU", "YI", "I"]

/-- The names of trailing consonants. -/
def trails : List String :=
  ["", "G", "GG", "GS", "N", "NJ", "NH", "D", "L", "LG", "LM", "LB", "LS", "LT", "LP", "LH", "M",
    "B", "BS", "S", "SS", "NG", "J", "C", "K", "T", "P", "H"]

/-- The place of the longest name at the start of the text, and what follows it. -/
def longest? (names : List String) (cs : List Char) : Option (Nat × List Char) :=
  (names.zipIdx.filterMap fun (name, i) => (after? name cs).map fun rest => (i, rest)).foldl
    (fun best found =>
      match best with
      | none => some found
      | some b => if found.2.length < b.2.length then some found else best)
    none

/-- The syllable whose letters have the given names. -/
def syllable? (cs : List Char) : Option Nat := do
  let (lead, rest) ← longest? leads cs
  let (vowel, rest) ← longest? vowels rest
  let (trail, rest) ← longest? trails rest
  if rest.isEmpty then some (0xac00 + (lead * 21 + vowel) * 28 + trail) else none

/-! ## Names that end in code points -/

/-- Whether a code point lies in one of the ranges, the ends being included. -/
def isWithin (ranges : List (Nat × Nat)) (code : Nat) : Bool :=
  ranges.any fun (first, last) => first ≤ code && code ≤ last

/-- Whether a character is a hexadecimal digit with capital letters. -/
def isHexDigit (c : Char) : Bool := c.isDigit || ('A' ≤ c && c ≤ 'F')

/-- The code point, within some ranges, that is written with four or five digits. -/
def written? (ranges : List (Nat × Nat)) (digits : List Char) : Option Nat :=
  let code := hexValue digits
  if (digits.length == 4 || digits.length == 5) && digits.all isHexDigit &&
      isWithin ranges code then
    some code
  else none

/-- The unified ideographs. -/
def unifiedIdeographs : List (Nat × Nat) :=
  [(0x3400, 0x4dbf), (0x4e00, 0x9fff), (0x20000, 0x2a6df), (0x2a700, 0x2b738), (0x2b740, 0x2b81d),
    (0x2b820, 0x2cea1), (0x2ceb0, 0x2ebe0), (0x30000, 0x3134a)]

/-- Further families of characters whose names end in their code points. -/
def numbered : List (String × List (Nat × Nat)) :=
  [("CJK COMPATIBILITY IDEOGRAPH-", [(0xf900, 0xfa6d), (0xfa70, 0xfad9), (0x2f800, 0x2fa1d)]),
    ("NUSHU CHARACTER-", [(0x1b170, 0x1b2fb)]),
    ("KHITAN SMALL SCRIPT CHARACTER-", [(0x18b00, 0x18cd5)])]

/-- The character of one of those families; its code point has no leading zero. -/
def numbered? (name : List Char) : Option Nat :=
  numbered.findSome? fun (start, ranges) =>
    (after? start name).bind fun digits =>
      if digits.head? == some '0' then none else written? ranges digits

/-! ## Tables -/

/-- The tables of names. -/
def tables : List String := [alphabets, symbols, syllables, scripts, pictures, aliases]

end CharacterName

open CharacterName in
/-- The code point of the character with a name. -/
def characterNamed? (name : String) : Option Nat :=
  let cs := name.toList
  match after? "HANGUL SYLLABLE " cs, after? "CJK UNIFIED IDEOGRAPH-" cs with
  | some letters, _ => syllable? letters
  | none, some digits => written? unifiedIdeographs digits
  | none, none =>
    let capitals := cs.map Char.toUpper
    (numbered? capitals).or (tables.findSome? (findIn capitals))

end TrustWeb.Text
