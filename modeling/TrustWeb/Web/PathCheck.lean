import TrustWeb.Web

/-!
# Checking paths

A caller may name the certificates of a path. The check takes the best usable signature for each
hop, delegations for the inner hops and a certification of the user ID for the last one, and says
what trust the path carries or why it is not usable.
-/

namespace TrustWeb

/-- Why a path is not usable. -/
inductive Objection where
  | unknown (certificate : Fingerprint)
  | invalidTarget (target : Fingerprint) (subject : Subject)
  | notCarried (target : Fingerprint) (subject : Subject)
  | noCertification (subject : Subject) (issuer target : Fingerprint)
  | noDelegation (issuer target : Fingerprint)
  | unusable (fault : Fault)
  deriving Repr

/-- The wording of an objection. -/
def Objection.message : Objection → String
  | .unknown f => f.text ++ " is not in the network"
  | .invalidTarget f subject =>
    "<" ++ f.text ++ ", " ++ subject.shown ++ "> cannot be authenticated at the reference time"
  | .notCarried f subject => f.text ++ " does not carry user ID " ++ subject.quoted
  | .noCertification subject issuer target =>
    "No usable certification of " ++ subject.quoted ++ " by " ++ issuer.text ++ " on " ++
      target.text
  | .noDelegation issuer target =>
    "No usable delegation by " ++ issuer.text ++ " on " ++ target.text
  | .unusable fault => fault.message

/-- The outcome of checking a path. -/
structure PathCheck where
  /-- The path as far as it could be followed; none if a certificate is unknown. -/
  path : Option Path
  amount : Int
  wanted : Int
  objections : List Objection
  deriving Repr

namespace PathCheck

/-- Whether nothing speaks against the path. -/
def isValid (c : PathCheck) : Bool := c.objections.isEmpty

/-- Whether the path is valid and carries the wanted amount. -/
def isAcceptable (c : PathCheck) : Bool := c.isValid && c.amount ≥ c.wanted

/-- The outcome as fields. -/
def fields (c : PathCheck) : List (String × Json) :=
  [("valid", .bool c.isValid),
    ("acceptable", .bool c.isAcceptable),
    ("amount", .number c.amount),
    ("target_amount", .number c.wanted),
    ("path", match c.path with
      | none => .null
      | some p => p.toJson),
    ("errors", .array (c.objections.map fun o => .text o.message))]

/-- Whether a signature is strictly preferred to another: by what trust it has left, then by depth,
then by the moment of its creation. -/
def preferred (r : Residual) (a b : Signature) : Except Fault Bool :=
  if r.left a ≠ r.left b then .ok (r.left a > r.left b)
  else if a.depth ≠ b.depth then .ok (b.depth.below a.depth)
  else if a.created.comparable b.created then .ok (a.created.micros > b.created.micros)
  else .error .momentOrder

/-- The first signature that none is preferred to, starting from `best`. -/
def bestFrom (r : Residual) (best : Signature) : List Signature → Except Fault Signature
  | [] => .ok best
  | s :: rest =>
    match preferred r s best with
    | .error fault => .error fault
    | .ok better => bestFrom r (if better then s else best) rest

/-- Whether a signature is usable for a hop after which `remaining` hops follow. -/
def isUsable (r : Residual) (subject : Subject) (remaining : Nat) (s : Signature) :
    Except Fault Bool :=
  if remaining = 0 then .ok (subject.isOver s.userId) else r.admits subject remaining s

/-- The best usable signature for a hop after which `remaining` hops follow. -/
def bestSignature? (r : Residual) (subject : Subject) (remaining : Nat)
    (issuer target : Fingerprint) : Except Fault (Option Signature) :=
  match r.network.edge? issuer target with
  | none => .ok none
  | some e =>
    match Residual.filterAll (isUsable r subject remaining) e.signatures with
    | .error fault => .error fault
    | .ok [] => .ok none
    | .ok (s :: rest) => (bestFrom r s rest).map some

/-- Follows the hops from the end of a path; gives the path as far as it goes and what speaks
against going on. -/
def follow (r : Residual) (subject : Subject) (p : Path) :
    List Fingerprint → Except Fault (Path × List Objection)
  | [] => .ok (p, [])
  | target :: rest =>
    let issuer := p.target.fingerprint
    match bestSignature? r subject rest.length issuer target with
    | .error fault => .error fault
    | .ok none =>
      .ok (p, [if rest.isEmpty then .noCertification subject issuer target
        else .noDelegation issuer target])
    | .ok (some s) =>
      match p.append s r.mode with
      | .ok p' => follow r subject p' rest
      | .error fault => .ok (p, [.unusable fault])

/-- A path of one certificate is followed over its own certification. The subject is looked up among
the user IDs for that, which fails as it does when a revocation is looked up. -/
def followSelf (r : Residual) (subject : Subject) (p : Path) :
    Except Fault (Path × List Objection) :=
  let target := p.root.fingerprint
  match Residual.subjectRevocation? p.root subject with
  | .error fault => .error fault
  | .ok _ =>
    match r.selfSignature? target subject with
    | none => .ok (p, [.notCarried target subject])
    | some s => (p.append s r.mode).map fun p' => (p', [])

end PathCheck

namespace Web

/-- What a path from a root carries: a root passes on no more than its amount, except in
certification mode. -/
def amountFrom (w : Web) (root : Fingerprint) (p : Path) : Int :=
  let carried := if p.signatures.isEmpty then 0 else p.amount
  match w.mode, w.roots.amount? root with
  | .authentication, some limit => min carried limit
  | _, _ => carried

/-- Checks the path from a root over the given certificates, the last of which is the target. -/
def checkPath (w : Web) (root : Fingerprint) (others : List Fingerprint) (subject : Subject) :
    Except Fault PathCheck :=
  let r : Residual := { network := w.network, mode := w.mode }
  let chain := root :: others
  let unknown := chain.filter fun f => (w.network.node? f).isNone
  match w.network.node? root with
  | none => .ok ⟨none, 0, w.wanted, unknown.map .unknown⟩
  | some rootNode =>
    if !unknown.isEmpty then .ok ⟨none, 0, w.wanted, unknown.map .unknown⟩
    else
      let target := others.getLast?.getD root
      match r.validTarget? target subject with
      | .error fault => .error fault
      | .ok valid =>
        let first := if valid.isNone then [Objection.invalidTarget target subject] else []
        let start : Path := { root := rootNode }
        let followed :=
          if others.isEmpty then PathCheck.followSelf r subject start
          else PathCheck.follow r subject start others
        followed.map fun (p, more) =>
          let objections := first ++ more
          ⟨some p, if objections.isEmpty then w.amountFrom root p else 0, w.wanted, objections⟩

end Web

end TrustWeb
