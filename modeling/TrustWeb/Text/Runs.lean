/-!
# Character classes as runs

A class of code points is written as alternating run lengths: so many code points outside the
class, then so many inside, and so on. Everything after the last run is outside.
-/

namespace TrustWeb.Text

/-- Membership of code point `n` in the class with the given run lengths. -/
def inRuns : List Nat → Nat → Bool
  | outside :: inside :: rest, n =>
    if n < outside then false
    else if n < outside + inside then true
    else inRuns rest (n - (outside + inside))
  | _, _ => false

/-- Position of code point `n` inside its run, when it belongs to the class. -/
def offsetInRun? : List Nat → Nat → Option Nat
  | outside :: inside :: rest, n =>
    if n < outside then none
    else if n < outside + inside then some (n - outside)
    else offsetInRun? rest (n - (outside + inside))
  | _, _ => none

/-- A code point has an offset exactly when it belongs to the class. -/
theorem offsetInRun?_isSome (runs : List Nat) (n : Nat) :
    (offsetInRun? runs n).isSome = inRuns runs n := by
  fun_induction inRuns runs n with
  | case1 outside inside rest n h => simp [offsetInRun?, h]
  | case2 outside inside rest n h₁ h₂ => simp [offsetInRun?, h₁, h₂]
  | case3 outside inside rest n h₁ h₂ ih => simp [offsetInRun?, h₁, h₂, ih]
  | case4 runs n h => unfold offsetInRun?; split <;> simp_all

end TrustWeb.Text
