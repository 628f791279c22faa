import TrustWeb.Json
import TrustWeb.Text.Numeral

/-!
# Reading JSON

Reads one value from text, with blanks around it and nothing else. Control characters may not
stand in strings, a repeated field keeps its first place and its last value, and the words `NaN`,
`Infinity` and `-Infinity` count as numbers. Text is read from left to right, and the first thing
that is wrong with it is the one reported.
-/

namespace TrustWeb.Json

/-- Why text is not read as a value. -/
inductive ReadFault where
  | malformed
  /-- An integer with too many digits. -/
  | numeralLength (digits : Nat)
  deriving DecidableEq, Repr

/-- The blanks of JSON. -/
def isSpace (c : Char) : Bool := c == ' ' || c == '\t' || c == '\n' || c == '\r'

/-- Text without the blanks at its start. -/
def skipSpace (cs : List Char) : List Char := cs.dropWhile isSpace

/-- The value of a hexadecimal digit. -/
def hexDigit? (c : Char) : Option Nat :=
  if '0' ≤ c && c ≤ '9' then some (c.toNat - 0x30)
  else if 'a' ≤ c && c ≤ 'f' then some (c.toNat - 0x61 + 10)
  else if 'A' ≤ c && c ≤ 'F' then some (c.toNat - 0x41 + 10)
  else none

/-- Four hexadecimal digits and what follows them. -/
def readUnit : List Char → Option (Nat × List Char)
  | a :: b :: c :: d :: rest => do
    let a ← hexDigit? a
    let b ← hexDigit? b
    let c ← hexDigit? c
    let d ← hexDigit? d
    pure (((a * 16 + b) * 16 + c) * 16 + d, rest)
  | _ => none

/-- The character of an escaped code unit and what follows it. Two escaped surrogates that form a
pair are one character; a surrogate by itself becomes the replacement character. -/
def readEscapedUnit (cs : List Char) : Option (Char × List Char) := do
  let (high, rest) ← readUnit cs
  if 0xd800 ≤ high && high < 0xe000 then
    match rest with
    | '\\' :: 'u' :: rest' =>
      match readUnit rest' with
      | some (low, rest'') =>
        if high < 0xdc00 && 0xdc00 ≤ low && low < 0xe000 then
          pure (Char.ofNat (0x10000 + (high - 0xd800) * 0x400 + (low - 0xdc00)), rest'')
        else
          pure ('\ufffd', rest)
      | none => pure ('\ufffd', rest)
    | _ => pure ('\ufffd', rest)
  else
    pure (Char.ofNat high, rest)

/-- The characters of a string up to its closing quotation mark, and what follows that. -/
def readString (fuel : Nat) (acc : List Char) (cs : List Char) : Option (String × List Char) :=
  match fuel with
  | 0 => none
  | fuel + 1 =>
    match cs with
    | [] => none
    | '\x22' :: rest => some (String.ofList acc.reverse, rest)
    | '\\' :: c :: rest =>
      if c == '\x22' || c == '\\' || c == '/' then readString fuel (c :: acc) rest
      else if c == 'b' then readString fuel ('\x08' :: acc) rest
      else if c == 'f' then readString fuel ('\x0c' :: acc) rest
      else if c == 'n' then readString fuel ('\n' :: acc) rest
      else if c == 'r' then readString fuel ('\r' :: acc) rest
      else if c == 't' then readString fuel ('\t' :: acc) rest
      else if c == 'u' then
        match readEscapedUnit rest with
        | some (d, rest') => readString fuel (d :: acc) rest'
        | none => none
      else none
    | c :: rest => if c.toNat < 0x20 then none else readString fuel (c :: acc) rest

/-- The digits at the start of the text, as text and as a number, and what follows them. -/
def readDigits (cs : List Char) : List Char × List Char :=
  (cs.takeWhile Char.isDigit, cs.dropWhile Char.isDigit)

/-- The number that digits denote. -/
def digitsValue (digits : List Char) : Nat :=
  digits.foldl (fun n c => 10 * n + (c.toNat - 0x30)) 0

/-- The fraction at the start of the text, empty if there is none. -/
def readFraction : List Char → List Char × List Char
  | '.' :: rest =>
    match readDigits rest with
    | ([], _) => ([], '.' :: rest)
    | (digits, rest') => ('.' :: digits, rest')
  | cs => ([], cs)

/-- The sign at the start of an exponent, empty if there is none. -/
def readSign : List Char → List Char × List Char
  | '+' :: rest => (['+'], rest)
  | '-' :: rest => (['-'], rest)
  | cs => ([], cs)

/-- The exponent at the start of the text, empty if there is none. -/
def readExponent (cs : List Char) : List Char × List Char :=
  match cs with
  | e :: rest =>
    if e == 'e' || e == 'E' then
      let (sign, rest') := readSign rest
      match readDigits rest' with
      | ([], _) => ([], cs)
      | (digits, rest'') => (e :: sign ++ digits, rest'')
    else ([], cs)
  | [] => ([], [])

/-- The minus sign at the start of the text, empty if there is none. -/
def readMinus : List Char → List Char × List Char
  | '-' :: rest => (['-'], rest)
  | cs => ([], cs)

/-- The whole part of a number at the start of the text. No digit follows a zero that comes
first. -/
def readWhole? : List Char → Option (List Char × List Char)
  | '0' :: rest => some (['0'], rest)
  | cs =>
    match readDigits cs with
    | ([], _) => none
    | found => some found

/-- The number at the start of the text. -/
def readNumber (cs : List Char) : Except ReadFault (Json × List Char) :=
  let (minus, body) := readMinus cs
  match readWhole? body with
  | none => .error .malformed
  | some (digits, rest) =>
    let (fraction, rest₁) := readFraction rest
    let (exponent, rest₂) := readExponent rest₁
    if !fraction.isEmpty || !exponent.isEmpty then
      .ok (.decimal (String.ofList (minus ++ digits ++ fraction ++ exponent)), rest₂)
    else if digits.length > Text.maxDigits then .error (.numeralLength digits.length)
    else
      let value : Int := digitsValue digits
      .ok (.number (if minus.isEmpty then value else -value), rest)

/-- The words that are values, each with its value. -/
def words : List (List Char × Json) :=
  [("null".toList, .null), ("true".toList, .bool true), ("false".toList, .bool false),
    ("NaN".toList, .decimal "NaN"), ("Infinity".toList, .decimal "Infinity"),
    ("-Infinity".toList, .decimal "-Infinity")]

/-- The word at the start of the text. -/
def readWord (cs : List Char) : Option (Json × List Char) :=
  words.findSome? fun (word, value) =>
    if word.isPrefixOf cs then some (value, cs.drop word.length) else none

mutual

/-- The value at the start of the text and what follows it. -/
def readValue (fuel : Nat) (cs : List Char) : Except ReadFault (Json × List Char) :=
  match fuel with
  | 0 => .error .malformed
  | fuel + 1 =>
    match cs with
    | '\x22' :: rest =>
      match readString (rest.length + 1) [] rest with
      | some (s, rest') => .ok (.text s, rest')
      | none => .error .malformed
    | '[' :: rest =>
      match skipSpace rest with
      | ']' :: rest' => .ok (.array [], rest')
      | rest' => readItems fuel [] rest'
    | '\x7b' :: rest =>
      match skipSpace rest with
      | '\x7d' :: rest' => .ok (.object [], rest')
      | rest' => readFields fuel [] rest'
    | _ =>
      match readWord cs with
      | some found => .ok found
      | none => readNumber cs

/-- The items of an array from one item on, after the items already read. -/
def readItems (fuel : Nat) (items : List Json) (cs : List Char) :
    Except ReadFault (Json × List Char) :=
  match fuel with
  | 0 => .error .malformed
  | fuel + 1 =>
    match readValue fuel cs with
    | .error fault => .error fault
    | .ok (item, rest) =>
      match skipSpace rest with
      | ',' :: rest' => readItems fuel (item :: items) (skipSpace rest')
      | ']' :: rest' => .ok (.array (item :: items).reverse, rest')
      | _ => .error .malformed

/-- The fields of an object from one field on, after the fields already read. -/
def readFields (fuel : Nat) (fields : List (String × Json)) (cs : List Char) :
    Except ReadFault (Json × List Char) :=
  match fuel with
  | 0 => .error .malformed
  | fuel + 1 =>
    match cs with
    | '\x22' :: rest =>
      match readString (rest.length + 1) [] rest with
      | none => .error .malformed
      | some (name, rest₁) =>
        match skipSpace rest₁ with
        | ':' :: rest₂ =>
          match readValue fuel (skipSpace rest₂) with
          | .error fault => .error fault
          | .ok (item, rest₃) =>
            let fields := Table.put fields name item
            match skipSpace rest₃ with
            | ',' :: rest₄ => readFields fuel fields (skipSpace rest₄)
            | '\x7d' :: rest₄ => .ok (.object fields, rest₄)
            | _ => .error .malformed
        | _ => .error .malformed
    | _ => .error .malformed

end

/-- Reads one value from text that holds nothing else but blanks. -/
def parse (s : String) : Except ReadFault Json :=
  let cs := s.toList
  match readValue (2 * cs.length + 2) (skipSpace cs) with
  | .error fault => .error fault
  | .ok (v, rest) => if (skipSpace rest).isEmpty then .ok v else .error .malformed

end TrustWeb.Json
