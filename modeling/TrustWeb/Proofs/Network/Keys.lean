import TrustWeb.Network.Builder

/-! # Networks keep everything under its own fingerprints

A certificate stands under its fingerprint and a signature on the edge between the certificates that
it connects. Every network that a builder gives is of this form, also when the builder goes on
collecting afterwards. -/

namespace TrustWeb

/-! ## Signatures of a network -/

/-- The certificates that an edge connects. -/
def Edge.ends (e : Edge) : EdgeKey := (e.issuer.fingerprint, e.target.fingerprint)

@[simp] theorem Edge.ends_insert (e : Edge) (s : Signature) : (e.insert s).ends = e.ends := by
  simp [ends]

/-- An edge and a datum on its target. -/
abbrev Place := EdgeKey × Option String

/-- The certificates that a signature connects, and the datum. -/
def Signature.outline (s : Signature) : Place := (s.endpoints, s.userId)

section Signature

variable {s t : Signature} (h : s.outline = t.outline)

include h

theorem Signature.endpoints_of_outline : s.endpoints = t.endpoints := congrArg Prod.fst h

theorem Signature.userId_of_outline : s.userId = t.userId := congrArg Prod.snd h

theorem Signature.issuer_of_outline : s.issuer.fingerprint = t.issuer.fingerprint :=
  congrArg (·.1.1) h

theorem Signature.target_of_outline : s.target.fingerprint = t.target.fingerprint :=
  congrArg (·.1.2) h

end Signature

namespace Network

/-- The signatures of all edges. -/
def signatures (n : Network) : List Signature := n.edges.flatMap (·.2.signatures)

/-- Certificates stand under their fingerprints, and signatures on the edge between the certificates
that they connect. Every network that a builder gives is of this form. -/
structure WellKeyed (n : Network) : Prop where
  nodes : ∀ entry ∈ n.nodes, entry.2.fingerprint = entry.1
  edges : ∀ entry ∈ n.edges, ∀ s ∈ entry.2.signatures, s.endpoints = entry.1

/-- The expressions of all scopes can be searched for in any user ID. -/
def Searchable (n : Network) : Prop :=
  ∀ s ∈ n.signatures, ∀ e ∈ s.scope.expressions, ∀ text : String,
    ∃ found, Scope.finds e (.userId text) = .ok found

variable {n : Network}

theorem mem_signatures {s : Signature} :
    s ∈ n.signatures ↔ ∃ entry ∈ n.edges, s ∈ entry.2.signatures := by
  simp [signatures]

theorem WellKeyed.fingerprint_of_node? (h : n.WellKeyed) {f : Fingerprint} {node : Node}
    (hf : n.node? f = some node) : node.fingerprint = f :=
  h.nodes _ (Table.mem_of_find? hf)

/-- The edges over data on a certificate hold the signatures that have it as their target. -/
theorem WellKeyed.mem_edgesTo (h : n.WellKeyed) {f : Fingerprint} {s : Signature} :
    s ∈ (n.edgesTo f).flatMap (·.signatures) ↔
      s ∈ n.signatures ∧ s.target.fingerprint = f := by
  simp only [edgesTo, sortedEdges, List.mem_flatMap, List.mem_map, List.mem_filter,
    List.mem_mergeSort, mem_signatures, beq_iff_eq]
  constructor
  · rintro ⟨e, ⟨entry, ⟨hentry, hkey⟩, rfl⟩, hs⟩
    refine ⟨⟨entry, hentry, hs⟩, ?_⟩
    rw [← hkey, ← h.edges entry hentry s hs]
    rfl
  · rintro ⟨⟨entry, hentry, hs⟩, rfl⟩
    refine ⟨entry.2, ⟨entry, ⟨hentry, ?_⟩, rfl⟩, hs⟩
    rw [← h.edges entry hentry s hs]
    rfl

/-- A change to each edge changes the edges over data on a certificate. -/
theorem edgesTo_mapValues (n : Network) (change : Edge → Edge) (f : Fingerprint) :
    edgesTo { n with edges := n.edges.mapValues change } f = (n.edgesTo f).map change := by
  have hsorted : sortedEdges { n with edges := n.edges.mapValues change } =
      n.sortedEdges.mapValues change :=
    (List.map_mergeSort (f := fun entry : EdgeKey × Edge => (entry.1, change entry.2))
      fun _ _ _ _ => rfl).symm
  rw [edgesTo, hsorted, edgesTo]
  simp [Table.mapValues, List.filter_map, Function.comp_def]

theorem WellKeyed.endpoints_mem_keys (h : n.WellKeyed) {s : Signature} (hs : s ∈ n.signatures) :
    s.endpoints ∈ n.edges.keys := by
  obtain ⟨entry, hentry, hs⟩ := mem_signatures.mp hs
  rw [h.edges entry hentry s hs]
  exact List.mem_map_of_mem hentry

end Network

theorem Scope.covers_of_finds {scope : Scope} {subject : Subject}
    (h : ∀ e ∈ scope.expressions, ∃ found, Scope.finds e subject = .ok found) :
    ∃ found, scope.covers subject = .ok found := by
  have hany : ∀ es : List String, (∀ e ∈ es, ∃ found, Scope.finds e subject = .ok found) →
      ∃ found, Scope.findsAny subject es = .ok found := by
    intro es
    induction es with
    | nil => exact fun _ => ⟨false, rfl⟩
    | cons e es ih =>
        intro hes
        obtain ⟨found, hfound⟩ := hes e List.mem_cons_self
        obtain ⟨rest, hrest⟩ := ih fun e he => hes e (List.mem_cons_of_mem _ he)
        cases found with
        | true => exact ⟨true, by simp [Scope.findsAny, hfound]⟩
        | false => exact ⟨rest, by simp [Scope.findsAny, hfound, hrest]⟩
  unfold Scope.covers
  split
  · exact ⟨true, rfl⟩
  · exact hany scope.expressions h

theorem Network.Searchable.covers {n : Network} (h : n.Searchable) {s : Signature}
    (hs : s ∈ n.signatures) (userId : String) :
    ∃ found, s.scope.covers (.userId userId) = .ok found :=
  Scope.covers_of_finds fun e he => h s hs e he userId

/-- Expressions that can be read can be searched for. -/
theorem Network.searchable_of_read {n : Network}
    (h : ∀ s ∈ n.signatures, ∀ e ∈ s.scope.expressions, (Pattern.read e).isOk = true) :
    n.Searchable := by
  intro s hs e he text
  have hread := h s hs e he
  unfold Scope.finds
  cases hpattern : Pattern.read e with
  | ok pattern => exact ⟨_, rfl⟩
  | error fault => simp [hpattern, Except.isOk, Except.toBool] at hread

/-! ## What a builder gives -/

namespace Builder

/-- The builders that come about from the empty one by adding and replacing. -/
inductive Reached : Builder → Prop where
  | empty : Reached {}
  | addNode {b} (h : Reached b) (n : Node) : Reached (b.addNode n).1
  | replaceNode {b} (h : Reached b) (n : Node) : Reached (b.replaceNode n)
  | addSignature {b} (h : Reached b) (s : Signature) : Reached (b.addSignature s)
  | addEdge {b} (h : Reached b) (e : Edge) : Reached (b.addEdge e)
  | setTime {b} (h : Reached b) (moment : Moment) : Reached (b.setTime moment)

/-- What was collected stands under its own fingerprints. -/
structure WellKeyed (b : Builder) : Prop where
  nodes : ∀ entry ∈ b.nodes, entry.2.fingerprint = entry.1
  edges : ∀ entry ∈ b.edges, ∀ s ∈ entry.2.signatures, s.endpoints = entry.1

variable {b : Builder}

theorem WellKeyed.replaceNode (h : b.WellKeyed) (n : Node) : (b.replaceNode n).WellKeyed := by
  refine ⟨fun entry hentry => ?_, h.edges⟩
  rcases Table.mem_put hentry with rfl | hentry
  · rfl
  · exact h.nodes entry hentry

theorem WellKeyed.addNode (h : b.WellKeyed) (n : Node) : (b.addNode n).1.WellKeyed := by
  unfold Builder.addNode
  split
  · exact h
  · exact h.replaceNode n

theorem WellKeyed.addSignature (h : b.WellKeyed) (s : Signature) :
    (b.addSignature s).WellKeyed := by
  refine ⟨h.nodes, fun entry hentry t ht => ?_⟩
  rcases Table.mem_put hentry with rfl | hentry
  · rcases Edge.mem_signatures_insert ht with rfl | ht
    · rfl
    · cases he : b.edges.find? s.endpoints with
      | none => simp [he, Edge.signatures] at ht
      | some e =>
          rw [he] at ht
          exact h.edges _ (Table.mem_of_find? he) t ht
  · exact h.edges entry hentry t ht

theorem WellKeyed.foldl_addSignature (h : b.WellKeyed) (ss : List Signature) :
    (ss.foldl Builder.addSignature b).WellKeyed := by
  induction ss generalizing b with
  | nil => exact h
  | cons s rest ih => exact ih (h.addSignature s)

theorem WellKeyed.addEdge (h : b.WellKeyed) (e : Edge) : (b.addEdge e).WellKeyed :=
  h.foldl_addSignature e.signatures

/-- Signatures change neither the certificates nor the reference time. -/
theorem foldl_addSignature_frame (b : Builder) (ss : List Signature) :
    (ss.foldl addSignature b).nodes = b.nodes ∧
      (ss.foldl addSignature b).referenceTime = b.referenceTime := by
  induction ss generalizing b with
  | nil => exact ⟨rfl, rfl⟩
  | cons s rest ih => exact ih (b.addSignature s)

theorem Reached.wellKeyed (h : Reached b) : b.WellKeyed := by
  induction h with
  | empty => exact ⟨by simp, by simp⟩
  | addNode _ n ih => exact ih.addNode n
  | replaceNode _ n ih => exact ih.replaceNode n
  | addSignature _ s ih => exact ih.addSignature s
  | addEdge _ e ih => exact ih.addEdge e
  | setTime _ _ ih => exact ⟨ih.nodes, ih.edges⟩

/-- A network is well keyed whenever it was planned, and whatever was collected since. -/
theorem WellKeyed.network {b' : Builder} (h : b.WellKeyed) (h' : b'.WellKeyed) (now : Moment) :
    ((b.plan now).network b').WellKeyed := by
  refine ⟨h.nodes, fun entry hentry s hs => ?_⟩
  simp only [Plan.network, List.mem_filterMap, Option.map_eq_some_iff] at hentry
  obtain ⟨k, -, e, he, rfl⟩ := hentry
  exact h'.edges _ (Table.mem_of_find? he) s hs

theorem Reached.network_wellKeyed {b' : Builder} (h : Reached b) (h' : Reached b') (now : Moment) :
    ((b.plan now).network b').WellKeyed :=
  h.wellKeyed.network h'.wellKeyed now

theorem nodup_keys_addSignature (h : b.edges.keys.Nodup) (s : Signature) :
    (b.addSignature s).edges.keys.Nodup :=
  Table.nodup_keys_put h _ _

theorem nodup_keys_addEdge (h : b.edges.keys.Nodup) (e : Edge) : (b.addEdge e).edges.keys.Nodup := by
  unfold Builder.addEdge
  generalize e.signatures = signatures
  induction signatures generalizing b with
  | nil => exact h
  | cons s rest ih => exact ih (nodup_keys_addSignature h s)

theorem Reached.nodup_keys (h : Reached b) : b.edges.keys.Nodup := by
  induction h with
  | empty => simp [Table.keys]
  | addNode _ n ih =>
      unfold Builder.addNode
      split
      · exact ih
      · exact ih
  | replaceNode _ n ih => exact ih
  | addSignature _ s ih => exact nodup_keys_addSignature ih s
  | addEdge _ e ih => exact nodup_keys_addEdge ih e
  | setTime _ _ ih => exact ih

/-- No two edges of a planned network have the same place. -/
theorem Reached.network_nodup_keys {b' : Builder} (h : Reached b) (now : Moment) :
    ((b.plan now).network b').edges.keys.Nodup := by
  have hsub : ∀ ks : List EdgeKey,
      Table.keys (ks.filterMap fun k => (b'.edges.find? k).map fun e => (k, e)) |>.Sublist ks := by
    intro ks
    induction ks with
    | nil => exact .slnil
    | cons k rest ih =>
        rw [List.filterMap_cons]
        cases b'.edges.find? k with
        | none => exact ih.cons k
        | some e => exact ih.cons_cons k
  exact h.nodup_keys.sublist (hsub _)

end Builder

/-! ## A small network

`A` certifies a user ID of `C` with a small amount. It also delegates to `B`, which certifies the
user ID with a greater one. -/

namespace Introduction

def moment : Moment := ⟨0, some 0⟩

def carol : Node := { fingerprint := ⟨"C"⟩, userIds := [("carol@example.org", .none)] }

def direct : Signature where
  issuer := { fingerprint := ⟨"A"⟩ }
  target := carol
  userId := some "carol@example.org"
  created := moment
  amount := ⟨30, by decide⟩

def delegation : Signature where
  issuer := { fingerprint := ⟨"A"⟩ }
  target := { fingerprint := ⟨"B"⟩ }
  userId := none
  created := moment
  amount := ⟨100, by decide⟩
  depth := .limited ⟨1, by decide⟩
  scope := ⟨["@example"]⟩

def introduced : Signature where
  issuer := { fingerprint := ⟨"B"⟩ }
  target := carol
  userId := some "carol@example.org"
  created := moment
  amount := ⟨60, by decide⟩

def builder : Builder :=
  (((({} : Builder).addNode carol).1.addSignature direct).addSignature delegation).addSignature
    introduced

def network : Network := builder.build moment

theorem signatures_eq : network.signatures = [direct, delegation, introduced] := rfl

theorem reached : Builder.Reached builder :=
  .addSignature (.addSignature (.addSignature (.addNode .empty carol) direct) delegation) introduced

theorem wellKeyed : network.WellKeyed := reached.network_wellKeyed reached moment

theorem searchable : network.Searchable :=
  Network.searchable_of_read (by decide +kernel)

end Introduction

end TrustWeb
