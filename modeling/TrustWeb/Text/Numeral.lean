import TrustWeb.Text.Blank
import TrustWeb.Text.Digit

/-!
# Numerals

Reading an integer from text: blanks around it, one sign, and decimal digits of any script with
single low lines allowed between digits. More than `maxDigits` digits are refused, whatever follows
them.
-/

namespace TrustWeb.Text

/-- Why text is not read as an integer. -/
inductive NumeralError where
  | malformed (text : String)
  | tooLong (digits : Nat)
  deriving DecidableEq, Repr

/-- The most digits a numeral may have. -/
def maxDigits : Nat := 4300

/-- The blanks allowed around a numeral: all but the information separators. -/
def isNumeralBlank (c : Char) : Bool := isBlank c && !(0x1c ≤ c.toNat && c.toNat ≤ 0x1f)

/-- The digits at the start of a text. -/
structure Digits where
  value : Nat
  count : Nat
  /-- Whether nothing follows them. -/
  isWhole : Bool

/-- The digits at the start of `cs`, after others with the given value and number. Low lines may
only stand between two digits; `afterDigit` says whether one may stand here. -/
def readDigits (value count : Nat) (afterDigit : Bool) : List Char → Option Digits
  | [] => if afterDigit then some ⟨value, count, true⟩ else none
  | c :: cs =>
    if c == '_' then
      if afterDigit then readDigits value count false cs else none
    else
      match digitValue? c with
      | some d => readDigits (10 * value + d) (count + 1) true cs
      | none => if afterDigit then some ⟨value, count, false⟩ else none

/-- The sign of a numeral and what follows it. -/
def readSign : List Char → Int × List Char
  | '+' :: cs => (1, cs)
  | '-' :: cs => (-1, cs)
  | cs => (1, cs)

/-- Reads an integer. -/
def readInt (s : String) : Except NumeralError Int :=
  let body := ((s.toList.dropWhile isNumeralBlank).reverse.dropWhile isNumeralBlank).reverse
  let (sign, digits) := readSign body
  match readDigits 0 0 false digits with
  | none => .error (.malformed s)
  | some found =>
    if found.count > maxDigits then .error (.tooLong found.count)
    else if found.isWhole then .ok (sign * found.value)
    else .error (.malformed s)

end TrustWeb.Text
