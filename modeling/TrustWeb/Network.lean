import TrustWeb.Edge

/-!
# Networks

A trust network: certificates, the edges between them, and the moment at which the network is
looked at. Edges are kept under the fingerprints of their issuer and target.
-/

namespace TrustWeb

/-- The place of an edge: its issuer and its target. -/
abbrev EdgeKey := Fingerprint × Fingerprint

/-- A trust network. -/
structure Network where
  nodes : Table Fingerprint Node
  edges : Table EdgeKey Edge
  referenceTime : Moment
  deriving DecidableEq, Repr

namespace Network

/-- The network without certificates. -/
def empty (referenceTime : Moment) : Network := ⟨[], [], referenceTime⟩

/-- The certificate with a fingerprint. -/
def node? (n : Network) (f : Fingerprint) : Option Node := n.nodes.find? f

/-- The edge between two certificates. -/
def edge? (n : Network) (issuer target : Fingerprint) : Option Edge :=
  n.edges.find? (issuer, target)

/-- The edges by ascending issuer, then target. -/
def sortedEdges (n : Network) : Table EdgeKey Edge :=
  n.edges.mergeSort fun a b => Fingerprint.pairLe a.1 b.1

/-- The edges issued by a certificate, by ascending target. -/
def edgesFrom (n : Network) (issuer : Fingerprint) : List Edge :=
  (n.sortedEdges.filter (·.1.1 == issuer)).map (·.2)

/-- The edges over data on a certificate, by ascending issuer. -/
def edgesTo (n : Network) (target : Fingerprint) : List Edge :=
  (n.sortedEdges.filter (·.1.2 == target)).map (·.2)

/-- The fingerprints of all certificates, in ascending order. -/
def fingerprints (n : Network) : List Fingerprint := Fingerprint.sorted n.nodes.keys

/-- The number of edges. -/
def edgeCount (n : Network) : Nat := n.edges.length

/-- The number of signatures. -/
def signatureCount (n : Network) : Nat := n.edges.foldl (fun total entry => total + entry.2.size) 0

/-- The network as text: a heading, then the signatures of each edge. -/
def text (n : Network) : String :=
  String.intercalate "\n"
    (("Network with " ++ toString n.nodes.length ++ " nodes, " ++ toString n.edgeCount ++
        " edges:") ::
      n.sortedEdges.map (·.2.text))

/-- The reference time and the sizes of the network, as fields. -/
def statistics (n : Network) : List (String × Json) :=
  [("reference_time", .text n.referenceTime.text),
    ("nodes", .number n.nodes.length),
    ("edges", .number n.edgeCount),
    ("signatures", .number n.signatureCount)]

end Network

end TrustWeb
