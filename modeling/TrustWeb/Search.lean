import TrustWeb.Frontier
import TrustWeb.Residual
import TrustWeb.Roots

/-!
# Searching back from a binding

A search starts at the target of a binding and follows signatures backwards. The last signature of
a chain certifies the binding, or is the certification of the target by itself; every other one is
a delegation that leaves room for the hops after it. For each certificate reached the search keeps
the first signature of the cheapest chain found from it. Chains do not lead through roots that are
trusted outright.
-/

namespace TrustWeb

/-- What a search looks for, and where. -/
structure Search where
  residual : Residual
  roots : Roots
  target : Fingerprint
  subject : Subject
  deriving Repr

/-- How a certificate reaches the target: by which signature first, none for the target itself,
and at which cost. -/
structure Label where
  via : Option Signature
  cost : Cost
  deriving DecidableEq, Repr

/-- The certificates reached so far, and those that are still to be looked at. -/
structure Progress where
  labels : Table Fingerprint Label := []
  frontier : Frontier Fingerprint := {}
  deriving Repr

/-- A chain found from a certificate, and the amount that it carries. -/
structure Candidate where
  start : Fingerprint
  path : Path
  amount : Int
  deriving Repr

namespace Search

/-- Where a search starts: at the target, after the target's own certification if that has trust
left. -/
def seed (q : Search) : Progress :=
  let label : Label :=
    match q.residual.selfSignature? q.target q.subject with
    | some s =>
      if q.residual.left s > 0 then ⟨some s, ⟨1, q.residual.left s⟩⟩ else ⟨none, ⟨0, fullTrust⟩⟩
    | none => ⟨none, ⟨0, fullTrust⟩⟩
  ⟨[(q.target, label)], Frontier.insert {} q.target label.cost⟩

/-- Whether a signature on `signee` certifies the binding that is looked for. -/
def certifiesBinding (q : Search) (signee : Fingerprint) (s : Signature) : Bool :=
  q.subject.isOver s.userId && signee == q.target

/-- The cost of reaching the target over a signature on `signee`, which itself reaches the target
at `cost`; none if the signature does not lead there. -/
def costVia? (q : Search) (signee : Fingerprint) (cost : Cost) (s : Signature) : Option Cost :=
  let amount := q.residual.left s
  if amount == 0 then none
  else if q.certifiesBinding signee s then some ⟨1, amount⟩
  else if signee == q.target && cost.length == 0 then none
  else if q.residual.mode == .authentication && s.depth.belowNumber cost.length then none
  else some (cost.extend amount)

/-- Takes account of one signature on `signee`. A certificate that is reached for the first time is
to be looked at; one that is reached more cheaply changes its label only. -/
def relax (q : Search) (signee : Fingerprint) (cost : Cost) (p : Progress) (s : Signature) :
    Progress :=
  match q.costVia? signee cost s with
  | none => p
  | some costVia =>
    let issuer := s.issuer.fingerprint
    match p.labels.find? issuer with
    | none =>
      ⟨p.labels.put issuer ⟨some s, costVia⟩, p.frontier.insert issuer costVia⟩
    | some label =>
      if costVia.cheaper label.cost then
        { p with labels := p.labels.put issuer ⟨some s, costVia⟩ }
      else p

/-- Looks at a certificate: takes account of all signatures on it. -/
def lookAt (q : Search) (signee : Fingerprint) (p : Progress) : Except Fault Progress :=
  if q.roots.isFullyTrusted signee then .ok p
  else
    match p.labels.find? signee with
    | none => .ok p
    | some label =>
      (q.residual.signaturesOn signee q.subject (max 0 (label.cost.length - 1))).map fun ss =>
        ss.foldl (q.relax signee label.cost) p

/-- Looks at the certificates of the frontier, cheapest first, until there is none left. -/
def exploreWith (q : Search) : Nat → Progress → Except Fault Progress
  | 0, p => .ok p
  | fuel + 1, p =>
    match p.frontier.pop? with
    | none => .ok p
    | some ((signee, _), rest) =>
      match q.lookAt signee { p with frontier := rest } with
      | .error fault => .error fault
      | .ok p' => exploreWith q fuel p'

/-- Looks at every certificate that can be reached. Each one enters the frontier once, and all but
the target are issuers of edges. -/
def explore (q : Search) : Except Fault Progress :=
  exploreWith q (q.residual.network.edges.length + 2) q.seed

/-- Extends a path along the labels up to the signature that certifies the binding. -/
def follow (q : Search) (labels : Table Fingerprint Label) :
    Nat → Path → Option Signature → Except Fault Path
  | 0, p, _ => .ok p
  | _, p, none => .ok p
  | fuel + 1, p, some s =>
    match p.append s q.residual.mode with
    | .error fault => .error fault
    | .ok p' =>
      let target := s.target.fingerprint
      if q.certifiesBinding target s then .ok p'
      else follow q labels fuel p' ((labels.find? target).bind (·.via))

/-- The path from the issuer of `s` that starts with `s` and follows the labels. -/
def pathVia (q : Search) (labels : Table Fingerprint Label) (s : Signature) :
    Except Fault Path :=
  q.follow labels (labels.length + 1) { root := s.issuer } (some s)

/-- The chains from the given certificates, as the labels tell them. -/
def candidatesFrom (q : Search) (labels : Table Fingerprint Label) :
    List Fingerprint → Except Fault (List Candidate)
  | [] => .ok []
  | f :: rest =>
    match labels.find? f with
    | some ⟨some s, cost⟩ =>
      if !q.roots.isEmpty && !q.roots.isRoot f then candidatesFrom q labels rest
      else
        match q.pathVia labels s with
        | .error fault => .error fault
        | .ok path => (candidatesFrom q labels rest).map (⟨f, path, cost.amount⟩ :: ·)
    | _ => candidatesFrom q labels rest

/-- The cheapest chain found from each root, by ascending fingerprint; without roots, from each
certificate. -/
def candidates (q : Search) : Except Fault (List Candidate) :=
  match q.residual.validTarget? q.target q.subject with
  | .error fault => .error fault
  | .ok none => .ok []
  | .ok (some _) =>
    match q.explore with
    | .error fault => .error fault
    | .ok p => q.candidatesFrom p.labels (Fingerprint.sorted p.labels.keys)

end Search

end TrustWeb
