import TrustWeb.Fault

/-!
# Depths

A delegation says over how many further hops its target may introduce others: over a limited
number, at most 254, or over any number. Written as a number, 255 stands for any number of hops.
The main statements are that reading a depth as a number and writing it back agree, and when a
depth can be reduced.
-/

namespace TrustWeb

/-- Over how many further hops a target may introduce others. -/
inductive Depth where
  | limited (hops : Fin 255)
  | unconstrained
  deriving DecidableEq, Repr

namespace Depth

/-- The number that stands for any number of hops. -/
def unconstrainedValue : Nat := 255

/-- The depth as a number. -/
def value : Depth → Nat
  | .limited hops => hops.val
  | .unconstrained => unconstrainedValue

/-- The depth with a number of hops below 255. -/
def limited? (n : Int) : Except Fault Depth :=
  if h : 0 ≤ n ∧ n < 255 then
    .ok (.limited ⟨n.toNat, by omega⟩)
  else .error (.limitedDepthRange n)

/-- The depth with a number, 255 standing for any number of hops. -/
def ofNumber (n : Int) : Except Fault Depth :=
  if n == unconstrainedValue then .ok .unconstrained else limited? n

/-- The depth with a number, which has to be within 0..255. -/
def checked (n : Int) : Except Fault Depth :=
  if n < 0 || n > unconstrainedValue then .error (.depthRange n) else ofNumber n

/-- No further hop. -/
def zero : Depth := .limited 0

/-- The depth after `k` hops. -/
def reduce (d : Depth) (k : Int) : Except Fault Depth :=
  match d with
  | .unconstrained => .ok .unconstrained
  | .limited hops =>
    if (hops.val : Int) < k then .error (.depthUsedUp hops.val k) else limited? (hops.val - k)

/-- The smaller of two depths. -/
def min (a b : Depth) : Depth :=
  match a, b with
  | .unconstrained, _ => b
  | _, .unconstrained => a
  | .limited m, .limited n => if m.val ≤ n.val then a else b

/-- Whether a depth is smaller than another. -/
def below (a b : Depth) : Bool := a.value < b.value

/-- Whether a depth is smaller than a number; no number is greater than unconstrained. -/
def belowNumber (d : Depth) (k : Int) : Bool :=
  match d with
  | .unconstrained => false
  | .limited hops => hops.val < k

/-- Whether a depth is greater than a number; unconstrained is greater than all. -/
def aboveNumber (d : Depth) (k : Int) : Bool :=
  match d with
  | .unconstrained => true
  | .limited hops => hops.val > k

/-- Whether a depth is a number of hops; unconstrained is none. -/
def isNumber (d : Depth) (k : Int) : Bool :=
  match d with
  | .unconstrained => false
  | .limited hops => hops.val == k

/-- The depth as text. -/
def text : Depth → String
  | .unconstrained => "unconstrained"
  | .limited hops => toString hops.val

theorem limited?_val (hops : Fin 255) : limited? hops.val = .ok (.limited hops) := by
  have h : (0 : Int) ≤ hops.val ∧ (hops.val : Int) < 255 := by omega
  simp [limited?, h]

theorem ofNumber_value (d : Depth) : ofNumber d.value = .ok d := by
  cases d with
  | unconstrained => simp [ofNumber, value]
  | limited hops =>
    have hne : ((hops.val : Int) == (unconstrainedValue : Int)) = false := by
      simp [unconstrainedValue]
      omega
    simp [ofNumber, value, hne, limited?_val]

@[simp] theorem belowNumber_zero (d : Depth) : d.belowNumber 0 = false := by
  cases d with
  | unconstrained => rfl
  | limited hops => simp [belowNumber]

theorem belowNumber_of_le {d : Depth} {k m : Int} (h : d.belowNumber m = false) (hk : k ≤ m) :
    d.belowNumber k = false := by
  cases d with
  | unconstrained => rfl
  | limited hops =>
    simp only [belowNumber, decide_eq_false_iff_not] at h ⊢
    omega

theorem aboveNumber_eq (d : Depth) (k : Int) : d.aboveNumber k = !d.belowNumber (k + 1) := by
  cases d with
  | unconstrained => rfl
  | limited hops =>
    simp only [aboveNumber, belowNumber, ← decide_not, decide_eq_decide]
    omega

theorem belowNumber_min (a b : Depth) (k : Int) :
    (a.min b).belowNumber k = (a.belowNumber k || b.belowNumber k) := by
  cases a with
  | unconstrained => rfl
  | limited m =>
    cases b with
    | unconstrained => simp [min, belowNumber]
    | limited n =>
      simp only [min]
      split <;> simp only [belowNumber, ← Bool.decide_or, decide_eq_decide] <;> omega

/-- A depth that leaves room can be reduced by one hop, and is one hop smaller then. -/
theorem reduce_one {d : Depth} (h : d.belowNumber 1 = false) :
    ∃ d', d.reduce 1 = .ok d' ∧ ∀ k, d'.belowNumber k = d.belowNumber (k + 1) := by
  cases d with
  | unconstrained => exact ⟨.unconstrained, rfl, fun _ => rfl⟩
  | limited hops =>
    simp only [belowNumber, decide_eq_false_iff_not] at h
    have hrange : (0 : Int) ≤ hops.val - 1 ∧ (hops.val : Int) - 1 < 255 := by omega
    refine ⟨.limited ⟨((hops.val : Int) - 1).toNat, by omega⟩, ?_, fun k => ?_⟩
    · rw [reduce, if_neg h, limited?, dif_pos hrange]
    · simp only [belowNumber, decide_eq_decide]
      omega

theorem value_le (d : Depth) : d.value ≤ 255 := by
  cases d with
  | unconstrained => simp [value, unconstrainedValue]
  | limited hops => simp only [value]; omega

end Depth

end TrustWeb
