import TrustWeb.Paths
import TrustWeb.Search

/-!
# Authentication

A binding is authenticated by collecting paths from the roots to it until the wanted amount is
reached or no further path is found. Each path is the best one in the network that earlier paths
left over: the one that carries most, of those the shortest, of those the one from the first root.
-/

namespace TrustWeb

/-- How bindings are authenticated: in which network, from which roots, in which mode, and with how
many searches at most. -/
structure Query where
  network : Network
  roots : Roots
  mode : Mode := .authentication
  maxSearches : Option Int := none
  deriving Repr

namespace Candidate

/-- Whether the first candidate is the better one. -/
def better (a b : Candidate) : Bool :=
  if a.amount ≠ b.amount then a.amount > b.amount
  else if a.path.length ≠ b.path.length then a.path.length < b.path.length
  else decide (a.path.root.fingerprint < b.path.root.fingerprint)

/-- The best candidate; of equally good ones the first. -/
def best? : List Candidate → Option Candidate
  | [] => none
  | c :: rest => some (rest.foldl (fun best d => if d.better best then d else best) c)

end Candidate

namespace Query

/-- The residual that an authentication starts with: partially trusted roots pass on no more than
their amount, except in certification mode. -/
def residual (q : Query) : Residual :=
  let fresh : Residual := { network := q.network, mode := q.mode }
  match q.mode with
  | .certification => fresh
  | .authentication =>
    (q.roots.toList.filter (·.amount != fullTrust)).foldl
      (fun r root => r.cap root.fingerprint root.amount) fresh

/-- The chains to a binding in the network as it is, without caps. -/
def candidates (q : Query) (f : Fingerprint) (subject : Subject) :
    Except Fault (List Candidate) :=
  Search.candidates
    { residual := { network := q.network, mode := q.mode }
      roots := q.roots
      target := f
      subject }

/-- The best chain from a root in a residual. -/
def bestFrom (q : Query) (r : Residual) (f : Fingerprint) (subject : Subject) :
    Except Fault (Option Candidate) :=
  (Search.candidates { residual := r, roots := q.roots, target := f, subject }).map fun found =>
    Candidate.best? (found.filter fun c => q.roots.isRoot c.start)

/-- Whether the number of searches made so far is the greatest allowed. -/
def isSpent (q : Query) (searches : Nat) : Bool :=
  match q.maxSearches with
  | none => false
  | some most => (searches : Int) ≥ most

/-- Collects paths in a residual, after those already collected. -/
def collect (q : Query) (f : Fingerprint) (subject : Subject) (wanted : Int) :
    Nat → Nat → Residual → Paths → Except Fault Paths
  | 0, _, _, paths => .ok paths
  | fuel + 1, searches, r, paths =>
    if paths.amount ≥ wanted || q.isSpent searches then .ok paths
    else
      match q.bestFrom r f subject with
      | .error fault => .error fault
      | .ok none => .ok paths
      | .ok (some best) =>
        match r.take best.path best.amount with
        | (_, some fault) => .error fault
        | (r', none) =>
          match paths.add best.path best.amount with
          | .error fault => .error fault
          | .ok paths' => collect q f subject wanted fuel (searches + 1) r' paths'

/-- A number of searches that is never reached: each one takes some of the capacity of an edge, or
of the target's own certification. -/
def searchBound (q : Query) : Nat := 120 * (q.network.edges.length + 1) + 1

/-- The paths that authenticate a binding, in the order in which they were found. -/
def authenticate (q : Query) (f : Fingerprint) (subject : Subject) (wanted : Int) :
    Except Fault Paths :=
  q.collect f subject wanted q.searchBound 0 q.residual {}

end Query

end TrustWeb
