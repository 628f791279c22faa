import TrustWeb.Fingerprint
import TrustWeb.Revocation
import TrustWeb.Table

/-!
# Nodes

A node is a certificate as the network sees it. Nodes are told apart by their fingerprints alone.
-/

namespace TrustWeb

/-- A certificate in the network: its user IDs are revoked independently of it. -/
structure Node where
  fingerprint : Fingerprint
  expires : Option Moment := none
  revocation : Revocation := .none
  userIds : Table String Revocation := []
  deriving DecidableEq, Repr

namespace Node

/-- Whether the certificate is expired at a moment. -/
def isExpiredAt (n : Node) (moment : Moment) : Bool :=
  match n.expires with
  | none => false
  | some expires => expires.seconds ≤ moment.seconds

/-- The certificate with one more user ID. -/
def withUserId (n : Node) (userId : String) (revocation : Revocation) : Node :=
  { n with userIds := n.userIds.put userId revocation }

/-- The first user ID. -/
def primaryUserId? (n : Node) : Option String := n.userIds.keys.head?

/-- Whether two nodes are the same certificate. -/
def same (a b : Node) : Bool := a.fingerprint == b.fingerprint

/-- The fingerprint, with the first user ID in parentheses. -/
def text (n : Node) : String :=
  match n.primaryUserId? with
  | none => n.fingerprint.text
  | some userId => n.fingerprint.text ++ " (" ++ userId ++ ")"

end Node

end TrustWeb
