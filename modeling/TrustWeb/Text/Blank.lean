import TrustWeb.Text.Runs

/-!
# Blank characters

The characters that count as blank when text is trimmed: the white-space and separator characters
of Unicode together with the information separators U+001C to U+001F. The main statement is that
every white-space character of the core library is blank.
-/

namespace TrustWeb.Text

/-- Run lengths of the blank code points. -/
def blankRuns : List Nat :=
  [9, 5, 14, 5, 100, 1, 26, 1, 5599, 1, 2431, 11, 29, 2, 5, 1, 47, 1, 4000, 1]

/-- Whether a character is blank. -/
def isBlank (c : Char) : Bool := inRuns blankRuns c.toNat

theorem isBlank_of_isWhitespace (c : Char) (h : c.isWhitespace = true) : isBlank c = true := by
  simp only [Char.isWhitespace, Bool.or_eq_true, decide_eq_true_eq] at h
  rcases h with ((rfl | rfl) | rfl) | rfl <;> decide

/-- Text without the blanks at its start. -/
def dropBlanks (cs : List Char) : List Char := cs.dropWhile isBlank

/-- Characters without the blanks at either end. -/
def trim (cs : List Char) : List Char := (dropBlanks (dropBlanks cs).reverse).reverse

/-- Text without the blanks at either end. -/
def strip (s : String) : String := String.ofList (trim s.toList)

end TrustWeb.Text
