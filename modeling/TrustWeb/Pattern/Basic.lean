import TrustWeb.Text.Blank
import TrustWeb.Text.Case
import TrustWeb.Text.Digit
import TrustWeb.Text.Word

/-!
# Patterns

The expressions that limit which user IDs a delegation covers. This module holds their structure,
the tests on one character and the tests on a place between characters.
-/

namespace TrustWeb

/-- How far a comparison of characters disregards case. -/
inductive CaseRule where
  /-- Characters agree only with themselves. -/
  | exact
  /-- The basic Latin letters agree in both cases. -/
  | latin
  /-- Letters of all scripts agree in all their cases. -/
  | full
  deriving DecidableEq, Repr

/-- The named classes of characters. -/
inductive CharKind where
  | digit
  | blank
  | word
  deriving DecidableEq, Repr

/-- A member of a bracketed class. -/
inductive ClassItem where
  | code (n : Nat)
  | range (first last : Nat)
  /-- A named class or its complement, over all scripts or over basic Latin alone. -/
  | kind (kind : CharKind) (negated latinOnly : Bool)
  deriving DecidableEq, Repr

/-- A test that one character has to pass. -/
inductive CharTest where
  | anyChar
  | notLineFeed
  | one (rule : CaseRule) (negated : Bool) (n : Nat)
  | oneOf (rule : CaseRule) (negated : Bool) (items : List ClassItem)
  deriving DecidableEq, Repr

/-- A test on a place in the text. -/
inductive Anchor where
  | textStart
  | textEnd
  /-- The end of the text, or the place before a line feed that ends it. -/
  | lastLineEnd
  | lineStart
  | lineEnd
  /-- A place with a word character on exactly one side, or a place without. -/
  | wordEdge (negated latinOnly : Bool)
  deriving DecidableEq, Repr

/-- The order in which a repetition tries its counts. -/
inductive Style where
  /-- As many as possible first. -/
  | greedy
  /-- As few as possible first. -/
  | lazy
  /-- As many as possible, and no fewer afterwards. -/
  | possessive
  deriving DecidableEq, Repr

/-- A pattern. -/
inductive Pattern where
  | empty
  | char (test : CharTest)
  | anchor (place : Anchor)
  | seq (first second : Pattern)
  | alt (first second : Pattern)
  /-- At least `least` and at most `most` times. -/
  | times (style : Style) (least : Nat) (most : Option Nat) (body : Pattern)
  | group (index : Nat) (body : Pattern)
  /-- The text of a group again; its least and greatest length are known. -/
  | again (rule : CaseRule) (index shortest longest : Nat)
  /-- One of two patterns, depending on whether a group took part. -/
  | given (index : Nat) (yes no : Pattern)
  | ahead (negated : Bool) (body : Pattern)
  | behind (negated : Bool) (body : Pattern)
  /-- The first way to match the body, and no other. -/
  | atomic (body : Pattern)
  deriving DecidableEq, Repr

namespace CharKind

/-- Whether a code point is of the kind, over all scripts. -/
def holds : CharKind → Nat → Bool
  | .digit, n => Text.inRuns Text.digitRuns n
  | .blank, n => Text.inRuns Text.blankRuns n
  | .word, n => Text.isWordCode n

/-- Whether a code point is of the kind, within basic Latin. -/
def holdsLatin (kind : CharKind) (n : Nat) : Bool :=
  match kind with
  | .blank => n == 0x20 || (0x09 ≤ n && n ≤ 0x0d)
  | _ => n < 0x80 && kind.holds n

end CharKind

namespace CaseRule

/-- The form of a code point that comparisons use. -/
def fold : CaseRule → Nat → Nat
  | .exact, n => n
  | .latin, n => Text.lowerLatin n
  | .full, n => Text.lowerCode n

/-- Whether a code point of the text agrees with one of the pattern. -/
def agrees (rule : CaseRule) (wanted found : Nat) : Bool :=
  let w := rule.fold wanted
  let f := rule.fold found
  w == f || (rule == .full && (Text.twinsOf w).contains f)

/-- The code points of a pattern that the folded code point `n` agrees with. -/
def sources : CaseRule → Nat → List Nat
  | .exact, n => [n]
  | .latin, n => Text.lowerLatinSources n
  | .full, n => (n :: Text.twinsOf n).flatMap Text.lowerSources

end CaseRule

namespace ClassItem

/-- The greatest code point of the basic plane. -/
def basicPlaneEnd : Nat := 0xffff

/-- Whether the folded code point `n` of the text belongs to the item. A member beyond the basic
plane stands for itself alone, and a range that reaches beyond it takes in what lies in it or has
its capital in it. -/
def holds (rule : CaseRule) (n : Nat) : ClassItem → Bool
  | .code m =>
    if rule == .full && Text.lowerCode m > basicPlaneEnd then n == m else rule.agrees m n
  | .range first last =>
    ((rule.sources n).any fun m =>
      first ≤ m && m ≤ last && (rule != .full || m ≤ basicPlaneEnd)) ||
    (rule == .full && last > basicPlaneEnd &&
      ((first ≤ n && n ≤ last) || (first ≤ Text.upperCode n && Text.upperCode n ≤ last)))
  | .kind k negated latinOnly => (if latinOnly then k.holdsLatin n else k.holds n) != negated

end ClassItem

namespace CharTest

/-- Whether a character passes the test. -/
def holds (c : Char) : CharTest → Bool
  | .anyChar => true
  | .notLineFeed => c != '\n'
  | .one rule negated n => rule.agrees n c.toNat != negated
  | .oneOf rule negated items => (items.any (·.holds rule (rule.fold c.toNat))) != negated

end CharTest

namespace Anchor

/-- Whether the character next to a place is a word character. -/
def isWordAt (latinOnly : Bool) : Option Char → Bool
  | some c => if latinOnly then CharKind.word.holdsLatin c.toNat else CharKind.word.holds c.toNat
  | none => false

/-- Whether the place between `before`, read backwards, and `after` passes the test. In empty text
no place is at a word edge and no place is off one. -/
def holds (before after : List Char) : Anchor → Bool
  | .textStart => before.isEmpty
  | .textEnd => after.isEmpty
  | .lastLineEnd => after.isEmpty || after == ['\n']
  | .lineStart => before.isEmpty || before.head? == some '\n'
  | .lineEnd => after.isEmpty || after.head? == some '\n'
  | .wordEdge negated latinOnly =>
    !(before.isEmpty && after.isEmpty) &&
      ((isWordAt latinOnly before.head? != isWordAt latinOnly after.head?) != negated)

end Anchor

end TrustWeb
