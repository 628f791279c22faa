import TrustWeb.Node
import TrustWeb.Text.Upper

/-!
# Certificate records

What a certificate store delivers: certificates with the signatures that others made over them, and
for each signature the verdict of whoever checked it. A policy says which algorithms and notations
are accepted.
-/

namespace TrustWeb.Store

/-- The types of signatures. -/
inductive SignatureType where
  | genericCertification
  | personaCertification
  | casualCertification
  | positiveCertification
  | directKey
  | keyRevocation
  | certificationRevocation
  deriving DecidableEq, Repr

namespace SignatureType

/-- All types. -/
def all : List SignatureType :=
  [.genericCertification, .personaCertification, .casualCertification, .positiveCertification,
    .directKey, .keyRevocation, .certificationRevocation]

/-- The number of a type. -/
def code : SignatureType → Nat
  | .genericCertification => 0x10
  | .personaCertification => 0x11
  | .casualCertification => 0x12
  | .positiveCertification => 0x13
  | .directKey => 0x1f
  | .keyRevocation => 0x20
  | .certificationRevocation => 0x30

/-- The name of a type. -/
def name : SignatureType → String
  | .genericCertification => "GENERIC_CERTIFICATION"
  | .personaCertification => "PERSONA_CERTIFICATION"
  | .casualCertification => "CASUAL_CERTIFICATION"
  | .positiveCertification => "POSITIVE_CERTIFICATION"
  | .directKey => "DIRECT_KEY"
  | .keyRevocation => "KEY_REVOCATION"
  | .certificationRevocation => "CERTIFICATION_REVOCATION"

/-- The type with a number. -/
def ofCode? (n : Int) : Option SignatureType := all.find? fun t => (t.code : Int) == n

/-- The type with a name. -/
def ofName? (s : String) : Option SignatureType := all.find? fun t => t.name == s

/-- Whether the type certifies a user ID. -/
def isCertification : SignatureType → Bool
  | .genericCertification | .personaCertification | .casualCertification
  | .positiveCertification => true
  | _ => false

end SignatureType

/-- A signature found on a certificate. -/
structure SignatureRecord where
  issuer : String
  type : SignatureType
  created : Moment
  verified : Bool := true
  userId : Option String := none
  expires : Option Moment := none
  amount : Int := 120
  depth : Int := 0
  expressions : List String := []
  exportable : Bool := true
  hashAlgorithm : String := "SHA256"
  keyAlgorithm : String := "EDDSA"
  /-- The critical subpackets that were not understood. -/
  unknownSubpackets : List Int := []
  /-- The notations that are marked critical. -/
  criticalNotations : List String := []
  deriving Repr

/-- A certificate of the store. -/
structure CertificateRecord where
  fingerprint : String
  created : Moment
  expires : Option Moment := none
  revocation : Revocation := .none
  userIds : Table String Revocation := []
  signatures : List SignatureRecord := []
  usable : Bool := true
  deriving Repr

namespace CertificateRecord

/-- The normalized fingerprint. -/
def key (c : CertificateRecord) : Fingerprint := Fingerprint.ofText c.fingerprint

/-- The certificate as the network sees it. -/
def node (c : CertificateRecord) : Node := ⟨c.key, c.expires, c.revocation, c.userIds⟩

end CertificateRecord

/-- Which signatures are accepted: the digest algorithms, those of them that are only accepted for
signatures made before a moment, the key algorithms, and the notations that are understood. -/
structure Policy where
  hashAlgorithms : List String :=
    ["SHA224", "SHA256", "SHA384", "SHA512", "SHA3-256", "SHA3-512"]
  keyAlgorithms : List String := ["RSA", "DSA", "ECDSA", "EDDSA", "ED25519", "ED448"]
  cutoffs : Table String Moment := [("SHA1", ⟨1359676800000000, some 0⟩)]
  knownNotations : List String := []
  deriving Repr

namespace Policy

/-- Whether a digest algorithm is accepted for a signature made at a moment. -/
def acceptsHash (p : Policy) (algorithm : String) (created : Moment) : Bool :=
  let name := Text.upper algorithm
  p.hashAlgorithms.contains name ||
    match p.cutoffs.find? name with
    | none => false
    | some cutoff => created.seconds < cutoff.seconds

/-- Whether a key algorithm is accepted. -/
def acceptsKey (p : Policy) (algorithm : String) : Bool :=
  p.keyAlgorithms.contains (Text.upper algorithm)

end Policy

end TrustWeb.Store
