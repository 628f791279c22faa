import TrustWeb.Network
import TrustWeb.Path

/-!
# Residual networks

During an authentication the network is looked at through a residual: the trust that is left after
capping what some certificates pass on and after subtracting what earlier paths took from the
edges. The network itself stays as it is.
-/

namespace TrustWeb

/-- A network with caps on certificates and amounts taken from edges. -/
structure Residual where
  network : Network
  mode : Mode
  caps : Table Fingerprint Int := []
  taken : Table EdgeKey Int := []
  deriving Repr

namespace Residual

/-- The revocation of what a query names, if the certificate carries it. -/
def subjectRevocation? (n : Node) (subject : Subject) : Except Fault (Option Revocation) :=
  match subject with
  | .userId text => .ok (n.userIds.find? text)
  | .other (.array items) => .error (.lookedUpValue (Json.array items).kindName)
  | .other (.object members) => .error (.lookedUpValue (Json.object members).kindName)
  | _ => .ok none

/-- The certificate with a fingerprint, if its binding to the subject may be authenticated: it is
neither expired nor revoked, and the subject is not revoked on it. -/
def validTarget? (r : Residual) (f : Fingerprint) (subject : Subject) :
    Except Fault (Option Node) :=
  match r.network.node? f with
  | none => .ok none
  | some n =>
    if n.isExpiredAt r.network.referenceTime then .ok none
    else if n.revocation.holdsAt r.network.referenceTime then .ok none
    else
      match subjectRevocation? n subject with
      | .error fault => .error fault
      | .ok none => .ok (some n)
      | .ok (some revocation) =>
        if revocation.holdsAt r.network.referenceTime then .ok none else .ok (some n)

/-- The certification of a user ID by its own certificate. -/
def selfSignature (r : Residual) (n : Node) (userId : String) : Signature where
  issuer := n
  target := n
  userId := some userId
  created := r.network.referenceTime

/-- The certification of the subject by its own certificate, if that carries it. That a subject
cannot be looked up at all comes out before, with its revocation. -/
def selfSignature? (r : Residual) (f : Fingerprint) (subject : Subject) : Option Signature :=
  match r.network.node? f, subject with
  | some n, .userId text =>
    if n.userIds.contains text then some (r.selfSignature n text) else none
  | _, _ => none

/-- Whether a signature may be used for the subject at the given depth. -/
def admits (r : Residual) (subject : Subject) (leastDepth : Int) (s : Signature) :
    Except Fault Bool :=
  match r.mode with
  | .certification => .ok true
  | .authentication =>
    if s.depth.belowNumber leastDepth then .ok false else s.scope.covers subject

/-- The elements that pass a test, the first fault of a test being the outcome. -/
def filterAll (test : Signature → Except Fault Bool) :
    List Signature → Except Fault (List Signature)
  | [] => .ok []
  | s :: rest =>
    match test s with
    | .error fault => .error fault
    | .ok keep =>
      match filterAll test rest with
      | .error fault => .error fault
      | .ok kept => .ok (if keep then s :: kept else kept)

/-- The signatures over data on a certificate that may be used for the subject at the given depth,
in order. -/
def signaturesOn (r : Residual) (f : Fingerprint) (subject : Subject) (leastDepth : Int) :
    Except Fault (List Signature) :=
  (filterAll (r.admits subject leastDepth)
    ((r.network.edgesTo f).flatMap (·.signatures))).map Signature.sorted

/-- The residual in which a certificate passes on no more than `amount`. -/
def cap (r : Residual) (f : Fingerprint) (amount : Int) : Residual :=
  { r with caps := r.caps.put f amount }

/-- What was taken from the edge between two certificates. -/
def takenFrom (r : Residual) (key : EdgeKey) : Int := (r.taken.find? key).getD 0

/-- The amount of a signature within full trust and within the cap of its issuer. -/
def cappedAmount (r : Residual) (s : Signature) : Int :=
  let amount := min s.trust fullTrust
  match r.caps.find? s.issuer.fingerprint with
  | some limit => if limit < amount then limit else amount
  | none => amount

/-- The amount of trust that a signature has left. -/
def left (r : Residual) (s : Signature) : Int :=
  max 0 (r.cappedAmount s - r.takenFrom s.endpoints)

/-- Takes an amount from the edges of signatures, one after the other, up to the first edge that
does not have it. -/
def takeFromEdges (r : Residual) (amount : Int) : List Signature → Residual × Option Fault
  | [] => (r, none)
  | s :: rest =>
    let total := r.takenFrom s.endpoints + amount
    if total > fullTrust then
      (r, some (.edgeSuppression s.issuer.fingerprint s.target.fingerprint total))
    else takeFromEdges { r with taken := r.taken.put s.endpoints total } amount rest

/-- Takes an amount from every edge of a path. -/
def take (r : Residual) (p : Path) (amount : Int) : Residual × Option Fault :=
  if amount == 0 then (r, none)
  else if amount > fullTrust then (r, some (.suppression amount))
  else r.takeFromEdges amount p.signatures

end Residual

end TrustWeb
