import TrustWeb.Moment

/-!
# Revocations

A certificate or a user ID may be revoked softly, from a moment on, or hard, for all time.
-/

namespace TrustWeb

/-- Whether and how something is revoked. -/
inductive Revocation where
  | none
  | soft (since : Moment)
  | hard
  deriving DecidableEq, Repr

namespace Revocation

/-- Whether the revocation holds at a moment: a hard one always, a soft one from its second on. -/
def holdsAt (r : Revocation) (moment : Moment) : Bool :=
  match r with
  | .none => false
  | .soft since => since.seconds ≤ moment.seconds
  | .hard => true

/-- The revocation as text. -/
def text : Revocation → String
  | .none => "not revoked"
  | .soft since => "soft revoked (" ++ since.text ++ ")"
  | .hard => "hard revoked"

end Revocation

end TrustWeb
