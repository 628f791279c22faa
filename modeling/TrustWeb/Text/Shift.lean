/-!
# Case shifts

A mapping of code points is written as a list of shifts: every `step`-th code point from `first`
to `last` moves by `distance`. Code points in no shift stay where they are.
-/

namespace TrustWeb.Text

/-- Every `step`-th code point from `first` to `last` moves by `distance`. -/
structure Shift where
  first : Nat
  last : Nat
  step : Nat
  distance : Int

namespace Shift

/-- Whether the shift moves code point `n`. -/
def moves (s : Shift) (n : Nat) : Bool :=
  s.first ≤ n && n ≤ s.last && (n - s.first) % s.step == 0

/-- The image of `n` under the first shift that moves it, or `n` itself. -/
def apply (shifts : List Shift) (n : Nat) : Nat :=
  match shifts.find? (·.moves n) with
  | some s => (n + s.distance).toNat
  | none => n

/-- The code points that some shift moves to `n`. -/
def sources (shifts : List Shift) (n : Nat) : List Nat :=
  shifts.filterMap fun s =>
    let m := ((n : Int) - s.distance).toNat
    if s.moves m && (m : Int) + s.distance == n then some m else none

/-- A code point that no shift moves is its own image. -/
theorem apply_of_not_moves {shifts : List Shift} {n : Nat}
    (h : ∀ s ∈ shifts, s.moves n = false) : apply shifts n = n := by
  have hnone : shifts.find? (·.moves n) = none := by
    rw [List.find?_eq_none]
    intro s hs
    simp [h s hs]
  simp [apply, hnone]

end Shift

end TrustWeb.Text
