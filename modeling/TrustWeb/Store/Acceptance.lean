import TrustWeb.Signature
import TrustWeb.Store.Record

/-!
# Accepting signatures

A signature of the store becomes part of a network if it passes a list of rules. The rules have an
order, and the first that fails is given as the reason for the rejection.
-/

namespace TrustWeb.Store

/-- Why a signature is rejected. -/
inductive Reason where
  | unverified
  | notDelegation (type : SignatureType)
  | notCertification (type : SignatureType)
  | unboundUserId (userId : String)
  | unknownSubpackets (tags : List Int)
  | unknownNotations (names : List String)
  | madeLater
  | expired
  | issuerHardRevoked (issuer : Fingerprint)
  | beforeIssuer
  | afterIssuerRevocation
  | afterIssuerExpiry
  | hashAlgorithm (name : String)
  | keyAlgorithm (name : String)
  | beforeTarget
  deriving DecidableEq, Repr

/-- The wording of a reason. -/
def Reason.message : Reason → String
  | .unverified => "cryptographic verification failed"
  | .notDelegation type => "signature type " ++ type.name ++ " is not a delegation"
  | .notCertification type => "signature type " ++ type.name ++ " is not a certification"
  | .unboundUserId userId => "user ID '" ++ userId ++ "' is not bound to the certificate"
  | .unknownSubpackets tags =>
    "critical unknown subpackets " ++ Text.bracketed (tags.map toString)
  | .unknownNotations names =>
    "critical unknown notations " ++ Text.bracketed (names.map Text.quoted)
  | .madeLater => "signature was created after the reference time"
  | .expired => "signature is expired"
  | .issuerHardRevoked issuer => "certificate " ++ issuer.text ++ " is hard revoked"
  | .beforeIssuer => "signature predates the issuer"
  | .afterIssuerRevocation => "signature was created after the issuer was revoked"
  | .afterIssuerExpiry => "signature was created after the issuer expired"
  | .hashAlgorithm name => "hash algorithm " ++ name ++ " is not acceptable"
  | .keyAlgorithm name => "public key algorithm " ++ name ++ " is not acceptable"
  | .beforeTarget => "signature predates the signee"

/-- A rejected signature. -/
structure Rejection where
  issuer : Fingerprint
  target : Fingerprint
  userId : Option String
  reason : Reason
  deriving DecidableEq, Repr

/-- The critical notations that the policy does not know. -/
def unknownNotations (policy : Policy) (s : SignatureRecord) : List String :=
  s.criticalNotations.filter fun n => !policy.knownNotations.contains n

/-- Whether the type and the datum of a signature fit each other and the target: a reason if not. -/
def datumReason? (target : CertificateRecord) (s : SignatureRecord) : Option Reason :=
  match s.userId with
  | none => if s.type == .directKey then none else some (.notDelegation s.type)
  | some userId =>
    if !s.type.isCertification then some (.notCertification s.type)
    else if !target.userIds.contains userId then some (.unboundUserId userId)
    else none

/-- Whether a signature made at a second lies within the validity of its issuer: a reason if
not. -/
def issuerReason? (issuer : CertificateRecord) (created : Int) : Option Reason :=
  if issuer.revocation = .hard then some (.issuerHardRevoked issuer.key)
  else if created < issuer.created.seconds then some .beforeIssuer
  else if (match issuer.revocation with
      | .soft since => decide (created > since.seconds)
      | _ => false) then some .afterIssuerRevocation
  else if (match issuer.expires with
      | some moment => decide (created > moment.seconds)
      | none => false) then some .afterIssuerExpiry
  else none

/-- The first rule that a signature fails, if any. -/
def rejectionReason? (policy : Policy) (now : Moment) (issuer target : CertificateRecord)
    (s : SignatureRecord) : Option Reason :=
  let created := s.created.seconds
  if !s.verified then some .unverified
  else
    (datumReason? target s).or <|
      if !s.unknownSubpackets.isEmpty then some (.unknownSubpackets s.unknownSubpackets)
      else if !(unknownNotations policy s).isEmpty then
        some (.unknownNotations (unknownNotations policy s))
      else if created > now.seconds then some .madeLater
      else if (match s.expires with
          | some moment => decide (moment.seconds ≤ now.seconds)
          | none => false) then some .expired
      else
        (issuerReason? issuer created).or <|
          if !policy.acceptsHash s.hashAlgorithm s.created then
            some (.hashAlgorithm s.hashAlgorithm)
          else if !policy.acceptsKey s.keyAlgorithm then some (.keyAlgorithm s.keyAlgorithm)
          else if created < target.created.seconds then some .beforeTarget
          else none

/-- Checks a signature: a rejection if it fails a rule. -/
def check (policy : Policy) (now : Moment) (issuer target : CertificateRecord)
    (s : SignatureRecord) : Option Rejection :=
  (rejectionReason? policy now issuer target s).map fun reason =>
    ⟨issuer.key, target.key, s.userId, reason⟩

/-- The signature of a network that a record stands for. -/
def signature (issuer target : Node) (s : SignatureRecord) : Except Fault Signature :=
  match Depth.ofNumber s.depth with
  | .error fault => .error fault
  | .ok depth =>
    match Signature.amount? s.amount with
    | .error fault => .error fault
    | .ok amount =>
      .ok
        { issuer, target, amount, depth
          userId := s.userId
          created := s.created
          expires := s.expires
          exportable := s.exportable
          scope := Scope.ofList s.expressions }

end TrustWeb.Store
