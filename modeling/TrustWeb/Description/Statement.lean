/-!
# Statements of network descriptions

A description is a list of statements: the moment at which the network is looked at, certificates
with their attributes, signatures with their options, and roots. Dates are kept as they are
written.
-/

namespace TrustWeb.Description

/-- A revocation as written. -/
inductive WrittenRevocation where
  | hard
  | soft (date : String)
  deriving DecidableEq, Repr

/-- An attribute of a certificate. -/
inductive Attribute where
  | userId (text : String) (revocation : Option WrittenRevocation)
  | expires (date : String)
  | revoked (revocation : WrittenRevocation)
  deriving DecidableEq, Repr

/-- An option of a signature. -/
inductive SignatureOption where
  | amount (n : Nat)
  | depth (n : Nat)
  | regex (expression : String)
  | created (date : String)
  | expires (date : String)
  | localOnly
  deriving DecidableEq, Repr

/-- A statement. -/
inductive Statement where
  | time (date : String)
  | node (name : String) (attributes : List Attribute)
  /-- A certification of a user ID, or a delegation if there is none. -/
  | signature (issuer target : String) (userId : Option String) (options : List SignatureOption)
  | root (name : String) (amount : Nat)
  deriving DecidableEq, Repr

end TrustWeb.Description
