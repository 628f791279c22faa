import TrustWeb.Fingerprint
import TrustWeb.Text.Quoted

/-!
# Faults

Everything that can keep an operation from giving its result, by cause. The wording of all of them
is in `Fault.message`.
-/

namespace TrustWeb

/-- What a number in a scope expression stands for. -/
inductive ExpressionNumber where
  | repetition
  | codePoint
  deriving DecidableEq, Repr

/-- Why an operation did not give its result. -/
inductive Fault where
  /-- A depth outside 0..255. -/
  | depthRange (n : Int)
  /-- A limited depth outside 0..254. -/
  | limitedDepthRange (n : Int)
  /-- A limited depth that is smaller than its reduction. -/
  | depthUsedUp (depth : Nat) (reduction : Int)
  /-- A trust amount of a signature outside 0..255. -/
  | amountRange (n : Int)
  /-- A signature by another issuer than that of the edge. -/
  | edgeIssuer (found expected : Fingerprint)
  /-- A signature over another target than that of the edge. -/
  | edgeTarget (found expected : Fingerprint)
  /-- A signature that was not issued by the last certificate of the path. -/
  | notTail (tail issuer : Fingerprint)
  /-- A path that may not be extended. -/
  | pathUsedUp (root : Fingerprint)
  /-- A signature that leads back to a certificate of the path. -/
  | cycle (issuer target : Fingerprint)
  /-- An amount that the path does not carry. -/
  | pathCarriesLess (amount carried : Int)
  /-- More suppression at once than any edge has capacity. -/
  | suppression (amount : Int)
  /-- More suppression of an edge, in all, than it has capacity. -/
  | edgeSuppression (issuer target : Fingerprint) (total : Int)
  /-- Text that is not a numeral. -/
  | numeral (text : String)
  /-- A numeral with too many digits. -/
  | numeralLength (digits : Nat)
  /-- A wanted amount that is not positive. -/
  | wantedAmount (n : Int)
  /-- A number in a scope expression that is too great, such as a repetition count. -/
  | repetitionCount {number : ExpressionNumber}
  /-- A scope expression whose flags contradict each other. -/
  | expressionFlags
  /-- A scope expression that is to be searched for in something other than text. -/
  | searchedValue (kind : String)
  /-- A user ID that cannot be looked up. -/
  | lookedUpValue (kind : String)
  /-- A value that lacks an attribute. -/
  | attribute (kind name : String)
  /-- A value that has no items. -/
  | items (kind : String)
  /-- Two moments of which only one has an offset. -/
  | momentOrder
  /-- An operation that does not exist. -/
  | operation (shown : String)
  /-- Arguments that do not fit the operation. -/
  | arguments
  /-- Nothing to take from a queue. -/
  | emptyQueue
  /-- A share of nothing. -/
  | zeroReference
  /-- A path of no certificates. -/
  | emptyPath
  /-- A number that is no signature type. -/
  | signatureType (code : Int)
  deriving DecidableEq, Repr

namespace Fault

/-- The greatest capacity of an edge, as text. -/
private def capacityText : String := "maximum is 120"

/-- The wording of a fault. -/
def message : Fault → String
  | .depthRange n => "Trust depth must be within 0..255, got " ++ toString n
  | .limitedDepthRange n => "Limited trust depth must be within 0..254, got " ++ toString n
  | .depthUsedUp depth reduction =>
    "Cannot reduce trust depth " ++ toString depth ++ " by " ++ toString reduction
  | .amountRange n => "Trust amount must be within 0..255, got " ++ toString n
  | .edgeIssuer found expected =>
    "Component issuer " ++ found.text ++ " does not match edge issuer " ++ expected.text
  | .edgeTarget found expected =>
    "Component target " ++ found.text ++ " does not match edge target " ++ expected.text
  | .notTail tail issuer =>
    "Cannot append edge to path: tail " ++ tail.text ++ " is not the issuer " ++ issuer.text
  | .pathUsedUp root => "Path from " ++ root.text ++ " has no residual depth left"
  | .cycle issuer target =>
    "Adding " ++ issuer.text ++ " -> " ++ target.text ++ " would create a cycle"
  | .pathCarriesLess amount carried =>
    "Cannot record " ++ toString amount ++ " for a path carrying only " ++ toString carried
  | .suppression amount => "Cannot suppress " ++ toString amount ++ ", " ++ capacityText
  | .edgeSuppression issuer target total =>
    "Edge " ++ issuer.text ++ " -> " ++ target.text ++ " suppressed by " ++ toString total ++
      ", " ++ capacityText
  | .numeral text =>
    "invalid literal for int() with base 10: " ++
      String.ofList ((Text.quoted text).toList.take 200)
  | .numeralLength digits =>
    "Exceeds the limit (4300 digits) for integer string conversion: value has " ++
      toString digits ++ " digits; use sys.set_int_max_str_digits() to increase the limit"
  | .wantedAmount n => "Trust amount must be positive, got " ++ toString n
  | @repetitionCount .repetition => "the repetition number is too large"
  | @repetitionCount .codePoint => "Python int too large to convert to C int"
  | .expressionFlags => "ASCII and UNICODE flags are incompatible"
  | .searchedValue kind => "expected string or bytes-like object, got '" ++ kind ++ "'"
  | .lookedUpValue kind => "unhashable type: '" ++ kind ++ "'"
  | .attribute kind name => "'" ++ kind ++ "' object has no attribute '" ++ name ++ "'"
  | .items kind => "'" ++ kind ++ "' object is not iterable"
  | .momentOrder => "can't compare offset-naive and offset-aware datetimes"
  | .operation shown => "Unknown operation: " ++ shown
  | .arguments => "arguments do not fit the operation"
  | .emptyQueue => "pop from an empty deque"
  | .zeroReference => "integer division or modulo by zero"
  | .emptyPath => "A path needs at least one certificate"
  | .signatureType code => toString code ++ " is not a valid SignatureType"

end Fault

/-! ### One step after another -/

section Steps

variable {ε α β : Type}

theorem bind_eq_ok_iff {x : Except ε α} {next : α → Except ε β} {b : β} :
    x >>= next = .ok b ↔ ∃ v, x = .ok v ∧ next v = .ok b := by
  cases x with
  | error fault => simp [bind, Except.bind]
  | ok v => simp [bind, Except.bind]

theorem map_eq_ok_iff {f : α → β} {x : Except ε α} {b : β} :
    x.map f = .ok b ↔ ∃ a, x = .ok a ∧ f a = b := by
  cases x with
  | error fault => simp [Except.map]
  | ok a => simp [Except.map]

/-- A computation whose result can be shown has a result. -/
theorem exists_ok_of_toOption {x : Except ε α} {f : α → β} {b : β}
    (h : x.toOption.map f = some b) : ∃ a, x = .ok a ∧ f a = b := by
  cases x with
  | error fault => cases h
  | ok a => exact ⟨a, rfl, Option.some.inj h⟩

/-- What every step preserves holds in the end. -/
theorem foldlM_preserves {P : β → Prop} {step : β → α → Except ε β} {as : List α} {b last : β}
    (hstep : ∀ b a b', P b → step b a = .ok b' → P b') (hb : P b)
    (h : as.foldlM step b = .ok last) : P last := by
  induction as generalizing b with
  | nil =>
    obtain rfl : b = last := Except.ok.inj h
    exact hb
  | cons a rest ih =>
    rw [List.foldlM_cons, bind_eq_ok_iff] at h
    obtain ⟨b', hb', hrest⟩ := h
    exact ih (hstep b a b' hb hb') hrest

end Steps

end TrustWeb
