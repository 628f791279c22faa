import TrustWeb.Network
import TrustWeb.Network.Notice

/-!
# Building networks

A builder collects certificates and signatures. The first certificate with a fingerprint stays
unless it is replaced; signatures go to the edge between their certificates, which is created when
the first one arrives. A built network holds the certificates and the places of the edges of that
moment, while the edges themselves stay with the builder: a signature added to one of them later
shows in the network.
-/

namespace TrustWeb

/-- What was collected for a network. -/
structure Builder where
  nodes : Table Fingerprint Node := []
  edges : Table EdgeKey Edge := []
  referenceTime : Option Moment := none
  deriving Repr

/-- What a build fixes: certificates, the places of edges, and the reference time. -/
structure Plan where
  nodes : Table Fingerprint Node
  edgeKeys : List EdgeKey
  referenceTime : Moment
  deriving Repr

namespace Builder

/-- Adds a certificate unless its fingerprint is present. -/
def addNode (b : Builder) (n : Node) : Builder × List Notice :=
  if b.nodes.contains n.fingerprint then (b, [.duplicate n.fingerprint])
  else ({ b with nodes := b.nodes.put n.fingerprint n }, [])

/-- Adds a certificate in place of any with its fingerprint. -/
def replaceNode (b : Builder) (n : Node) : Builder :=
  { b with nodes := b.nodes.put n.fingerprint n }

/-- Adds a signature to the edge between its certificates. -/
def addSignature (b : Builder) (s : Signature) : Builder :=
  let edge := (b.edges.find? s.endpoints).getD ⟨s.issuer, s.target, [], []⟩
  { b with edges := b.edges.put s.endpoints (edge.insert s) }

/-- Adds all signatures of an edge. -/
def addEdge (b : Builder) (e : Edge) : Builder := e.signatures.foldl addSignature b

/-- Sets the moment at which the network is looked at. -/
def setTime (b : Builder) (moment : Moment) : Builder := { b with referenceTime := some moment }

/-- What a build fixes now; `now` is the reference time if none was set. -/
def plan (b : Builder) (now : Moment) : Plan :=
  ⟨b.nodes, b.edges.keys, b.referenceTime.getD now⟩

end Builder

/-- The network of a plan, with the edges as they are in the builder. -/
def Plan.network (p : Plan) (b : Builder) : Network where
  nodes := p.nodes
  edges := p.edgeKeys.filterMap fun k => (b.edges.find? k).map fun e => (k, e)
  referenceTime := p.referenceTime

/-- The network of what was collected. -/
def Builder.build (b : Builder) (now : Moment) : Network := (b.plan now).network b

end TrustWeb
