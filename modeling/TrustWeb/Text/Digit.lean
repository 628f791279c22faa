import TrustWeb.Text.Runs

/-!
# Decimal digits

The decimal digits of all scripts. Every run of them starts at a zero and holds whole sets of ten,
so the value of a digit is its offset in the run modulo ten.
-/

namespace TrustWeb.Text

/-- Run lengths of the decimal digits. -/
def digitRuns : List Nat :=
  [48, 10, 1574, 10, 134, 10, 198, 10, 412, 10, 118, 10, 118, 10, 118, 10, 118, 10, 118, 10, 118,
   10, 118, 10, 118, 10, 118, 10, 96, 10, 118, 10, 70, 10, 278, 10, 70, 10, 1862, 10, 38, 10, 300,
   10, 128, 10, 166, 10, 6, 10, 182, 10, 86, 10, 134, 10, 6, 10, 35270, 10, 678, 10, 38, 10, 198,
   10, 22, 10, 86, 10, 406, 10, 21270, 10, 1414, 10, 2182, 10, 812, 10, 128, 10, 60, 10, 144, 10,
   278, 10, 342, 10, 118, 10, 374, 10, 102, 10, 102, 10, 422, 10, 102, 10, 758, 10, 246, 10, 70,
   10, 19638, 10, 86, 10, 134, 10, 27764, 50, 2368, 10, 422, 10, 1622, 10, 4758, 10]

/-- The value of a decimal digit of any script. -/
def digitValue? (c : Char) : Option Nat := (offsetInRun? digitRuns c.toNat).map (· % 10)

/-- Whether a character is a decimal digit of any script. -/
def isDigit (c : Char) : Bool := inRuns digitRuns c.toNat

theorem digitValue?_lt {c : Char} {n : Nat} (h : digitValue? c = some n) : n < 10 := by
  simp only [digitValue?, Option.map_eq_some_iff] at h
  obtain ⟨k, _, rfl⟩ := h
  exact Nat.mod_lt _ (by decide)

end TrustWeb.Text
