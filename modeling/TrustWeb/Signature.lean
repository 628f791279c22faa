import TrustWeb.Depth
import TrustWeb.Node
import TrustWeb.Scope

/-!
# Signatures

A verified signature by one certificate over a datum on another. The datum is the certificate
itself, which makes the signature a delegation, or one of its user IDs, which makes it a
certification. A certification may delegate as well.
-/

namespace TrustWeb

/-- The amount at which a binding or an introducer is fully trusted. -/
def fullTrust : Int := 120

theorem fullTrust_pos : 0 < fullTrust := by decide

/-- A verified signature by `issuer` over a datum on `target`. -/
structure Signature where
  issuer : Node
  target : Node
  /-- The user ID signed, or none for the certificate itself. -/
  userId : Option String
  created : Moment
  expires : Option Moment := none
  exportable : Bool := true
  amount : Fin 256 := ⟨120, by decide⟩
  depth : Depth := .zero
  scope : Scope := .wildcard
  deriving DecidableEq, Repr

namespace Signature

/-- The amount of trust that a number stands for. -/
def amount? (n : Int) : Except Fault (Fin 256) :=
  if h : 0 ≤ n ∧ n ≤ 255 then .ok ⟨n.toNat, by omega⟩ else .error (.amountRange n)

/-- The amount of trust as a number. -/
def trust (s : Signature) : Int := s.amount.val

/-- Whether the signature is over the certificate itself. -/
def isDelegation (s : Signature) : Bool := s.userId.isNone

/-- The certificates that the signature connects. -/
def endpoints (s : Signature) : Fingerprint × Fingerprint :=
  (s.issuer.fingerprint, s.target.fingerprint)

/-- Whether two optional moments are the same. -/
def sameMoment? : Option Moment → Option Moment → Bool
  | none, none => true
  | some a, some b => a.same b
  | _, _ => false

/-- Whether two signatures are the same: certificates are compared by fingerprint, moments as
instants. -/
def same (a b : Signature) : Bool :=
  a.issuer.same b.issuer && a.target.same b.target && a.userId == b.userId &&
    a.created.same b.created && sameMoment? a.expires b.expires &&
    a.exportable == b.exportable && a.amount == b.amount && a.depth == b.depth &&
    a.scope == b.scope

/-! ## Order -/

/-- What signatures are ordered by: issuer, target, datum with delegations first, second of
creation, and amount from the greatest down. -/
structure Key where
  issuer : String
  target : String
  datum : String
  created : Int
  loss : Int
  deriving DecidableEq, Repr

/-- Whether the first key is not after the second. -/
def Key.le (a b : Key) : Bool :=
  if a.issuer ≠ b.issuer then decide (a.issuer < b.issuer)
  else if a.target ≠ b.target then decide (a.target < b.target)
  else if a.datum ≠ b.datum then decide (a.datum < b.datum)
  else if a.created ≠ b.created then decide (a.created < b.created)
  else decide (a.loss ≤ b.loss)

/-- The place of a signature in the order. -/
def key (s : Signature) : Key where
  issuer := s.issuer.fingerprint.text
  target := s.target.fingerprint.text
  datum := match s.userId with
    | none => ""
    | some userId => "\x01" ++ userId
  created := s.created.seconds
  loss := -s.trust

/-- Signatures in order; those with equal keys keep their order. -/
def sorted (signatures : List Signature) : List Signature :=
  signatures.mergeSort fun a b => a.key.le b.key

/-! ## Text -/

/-- The scope after other details, or nothing for a wildcard. -/
def scopeText (s : Signature) : String :=
  if s.scope.isWildcard then "" else ", scope: " ++ s.scope.text

/-- The signature as one line. -/
def text (s : Signature) : String :=
  match s.userId with
  | none =>
    s.issuer.fingerprint.text ++ " delegates to " ++ s.target.fingerprint.text ++ " [" ++
      toString s.trust ++ ", depth " ++ s.depth.text ++ s.scopeText ++ "]"
  | some userId =>
    s.issuer.fingerprint.text ++ " certifies binding: " ++ userId ++ " <-> " ++
      s.target.fingerprint.text ++ " [" ++ toString s.trust ++ "]" ++
      (if s.depth.aboveNumber 0 then
        " and delegates [depth " ++ s.depth.text ++ s.scopeText ++ "]"
      else "")

/-- The signature as a value; details that are at their default are left out. -/
def toJson (s : Signature) : Json :=
  .object <|
    [("issuer", .text s.issuer.fingerprint.text),
      ("target", .text s.target.fingerprint.text),
      ("kind", .text (if s.isDelegation then "delegation" else "certification")),
      ("creation_time", .text s.created.text),
      ("trust_amount", .number s.trust),
      ("trust_depth", .number s.depth.value)] ++
    (match s.userId with
      | none => []
      | some userId => [("user_id", .text userId)]) ++
    (match s.expires with
      | none => []
      | some moment => [("expiration_time", .text moment.text)]) ++
    (if s.scope.isWildcard then []
      else [("regexes", .array (s.scope.expressions.map .text))]) ++
    (if s.exportable then [] else [("exportable", .bool false)])

end Signature

end TrustWeb
