import TrustWeb.Network.Builder
import TrustWeb.Store.Acceptance

/-!
# Loading networks

A network is loaded from certificate records: certificates that are usable become its nodes, the
first one with each fingerprint being kept, and the signatures on them that are accepted become its
signatures. Signatures by unknown certificates are passed over.
-/

namespace TrustWeb.Store

/-- What is known while a network is loaded. -/
structure Loading where
  builder : Builder := {}
  rejections : List Rejection := []
  notices : List Notice := []
  deriving Repr

/-- The outcome of loading: the network, or the fault that stopped it, with what was left out. -/
structure Loaded where
  network : Except Fault Network
  rejections : List Rejection
  notices : List Notice

/-- A signature record with the fingerprint and the record of the certificate it is on. -/
structure Job where
  targetKey : Fingerprint
  target : CertificateRecord
  signature : SignatureRecord

/-- The certificates that are kept, by fingerprint, and what was left out. -/
def keep (state : Table Fingerprint CertificateRecord × List Notice) (c : CertificateRecord) :
    Table Fingerprint CertificateRecord × List Notice :=
  if !c.usable then (state.1, state.2 ++ [.unusable c.key])
  else if state.1.contains c.key then (state.1, state.2 ++ [.duplicate c.key])
  else (state.1.put c.key c, state.2)

/-- The certificates that are kept, by fingerprint, and what was left out. -/
def kept (certificates : List CertificateRecord) :
    Table Fingerprint CertificateRecord × List Notice :=
  certificates.foldl keep ([], [])

/-- The signatures on the certificates that are kept. -/
def jobs (records : Table Fingerprint CertificateRecord) : List Job :=
  records.flatMap fun (f, c) => c.signatures.map fun s => ⟨f, c, s⟩

/-- Takes up one signature: passes it over, rejects it, or adds it. -/
def takeUp (policy : Policy) (now : Moment) (records : Table Fingerprint CertificateRecord)
    (l : Loading) (job : Job) : Except Fault Loading :=
  let issuerKey := Fingerprint.ofText job.signature.issuer
  match records.find? issuerKey with
  | none => .ok l
  | some issuer =>
    match check policy now issuer job.target job.signature with
    | some rejection =>
      .ok
        { l with
          rejections := l.rejections ++ [rejection]
          notices := l.notices ++
            [.rejected issuerKey job.targetKey job.signature.userId rejection.reason.message] }
    | none =>
      (signature issuer.node job.target.node job.signature).map fun s =>
        { l with builder := l.builder.addSignature s }

/-- Takes up signatures in order, up to the first that cannot be added. -/
def takeUpAll (policy : Policy) (now : Moment) (records : Table Fingerprint CertificateRecord)
    (l : Loading) : List Job → Loading × Option Fault
  | [] => (l, none)
  | job :: rest =>
    match takeUp policy now records l job with
    | .error fault => (l, some fault)
    | .ok l' => takeUpAll policy now records l' rest

/-- Loads a network that is looked at at the moment `now`. -/
def load (policy : Policy) (now : Moment) (certificates : List CertificateRecord) : Loaded :=
  let (records, notices) := kept certificates
  let nodes := records.map fun (f, c) => (f, c.node)
  let start : Loading := { builder := { nodes, referenceTime := some now }, notices }
  match takeUpAll policy now records start (jobs records) with
  | (l, none) => ⟨.ok (l.builder.build now), l.rejections, l.notices⟩
  | (l, some fault) => ⟨.error fault, l.rejections, l.notices⟩

end TrustWeb.Store
