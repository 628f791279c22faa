import TrustWeb.Text.Blank
import TrustWeb.Text.Upper

/-!
# Fingerprints

A certificate is identified by its fingerprint, which is kept without blanks around it and in
upper case, so that all spellings of a fingerprint are one key. Fingerprints are ordered by their
text, character by character.
-/

namespace TrustWeb

/-- The normalized fingerprint of a certificate. -/
structure Fingerprint where
  text : String
  deriving DecidableEq, Repr

namespace Fingerprint

/-- The fingerprint that text spells. -/
def ofText (s : String) : Fingerprint := ⟨Text.upper (Text.strip s)⟩

instance : LT Fingerprint := ⟨fun a b => a.text < b.text⟩

instance (a b : Fingerprint) : Decidable (a < b) :=
  inferInstanceAs (Decidable (a.text < b.text))

/-- Whether `a` is not after `b`. -/
def le (a b : Fingerprint) : Bool := !decide (b < a)

/-- Fingerprints in ascending order. -/
def sorted (fs : List Fingerprint) : List Fingerprint := fs.mergeSort le

/-- Whether the first pair is not after the second, the first members being compared first. -/
def pairLe (a b : Fingerprint × Fingerprint) : Bool :=
  if a.1 = b.1 then le a.2 b.2 else le a.1 b.1

end Fingerprint

end TrustWeb
