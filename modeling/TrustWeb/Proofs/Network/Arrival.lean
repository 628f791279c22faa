import TrustWeb.Proofs.Network.Newest

/-! # The order of arrival

A builder sorts the signatures that arrive by the certificates that they connect and by datum. The
network that it gives holds the same certificates and, up to sameness, the same signatures in
whatever order they arrived, if no fingerprint comes twice. -/

namespace TrustWeb

/-! ## Contributions -/

/-- What arrives at a builder. -/
inductive Contribution where
  | certificate (n : Node)
  | signature (s : Signature)

namespace Contribution

def certificate? : Contribution → Option Node
  | certificate n => some n
  | signature _ => none

def signature? : Contribution → Option Signature
  | certificate _ => none
  | signature s => some s

/-- The certificates among the contributions, in order of arrival. -/
def certificates (cs : List Contribution) : List Node := cs.filterMap certificate?

/-- The signatures among the contributions, in order of arrival. -/
def signatures (cs : List Contribution) : List Signature := cs.filterMap signature?

theorem signatures_map_signature (ss : List Signature) : signatures (ss.map signature) = ss := by
  simp [signatures, signature?, Function.comp_def]

end Contribution

namespace Builder

/-- Adds what arrives. -/
def receive (b : Builder) : Contribution → Builder
  | .certificate n => (b.addNode n).1
  | .signature s => b.addSignature s

/-- Adds all that arrives, in order. -/
def receiveAll (b : Builder) (cs : List Contribution) : Builder := cs.foldl receive b

theorem foldl_addSignature_eq (b : Builder) (ss : List Signature) :
    ss.foldl addSignature b = b.receiveAll (ss.map .signature) := by
  rw [receiveAll, List.foldl_map]
  rfl

variable {b : Builder}

theorem Reached.receiveAll (h : Reached b) (cs : List Contribution) :
    Reached (b.receiveAll cs) := by
  induction cs generalizing b with
  | nil => exact h
  | cons c rest ih =>
      cases c with
      | certificate n => exact ih (h.addNode n)
      | signature s => exact ih (h.addSignature s)

/-! ## Certificates -/

theorem find?_addNode (b : Builder) (n : Node) (f : Fingerprint) :
    (b.addNode n).1.nodes.find? f =
      (b.nodes.find? f).or (Table.find? [(n.fingerprint, n)] f) := by
  unfold addNode Table.contains
  split
  · next hpresent =>
      cases hf : b.nodes.find? f with
      | some m => rfl
      | none =>
          have hne : n.fingerprint ≠ f := by
            rintro rfl
            simp [hf] at hpresent
          simp [Table.find?_cons, hne]
  · next habsent =>
      rw [Table.find?_put]
      by_cases hf : n.fingerprint = f
      · subst hf
        simp at habsent
        simp [habsent, Table.find?_cons]
      · simp [hf, Table.find?_cons]

/-- The first certificate with a fingerprint stays. -/
theorem find?_receiveAll (b : Builder) (cs : List Contribution) (f : Fingerprint) :
    (b.receiveAll cs).nodes.find? f =
      (b.nodes.find? f).or
        (Table.find? ((Contribution.certificates cs).map fun n => (n.fingerprint, n)) f) := by
  induction cs generalizing b with
  | nil => simp [receiveAll, Contribution.certificates]
  | cons c rest ih =>
      cases c with
      | certificate n =>
          refine (ih (b.addNode n).1).trans ?_
          rw [find?_addNode, Option.or_assoc]
          simp only [Contribution.certificates, Contribution.certificate?, List.filterMap_cons,
            List.map_cons, Table.find?_cons]
          split <;> simp
      | signature s => exact ih (b.addSignature s)

/-! ## Signatures over one datum -/

end Builder

/-- The signatures of an edge over a datum. -/
def Edge.bucket (e : Edge) : Option String → List Signature
  | none => e.delegations
  | some userId => (e.certifications.find? userId).getD []

theorem Edge.bucket_insert (e : Edge) (s : Signature) (datum : Option String) :
    (e.insert s).bucket datum =
      if s.userId = datum then Edge.newest (e.bucket datum) s else e.bucket datum := by
  unfold insert
  cases hs : s.userId with
  | none =>
      cases datum with
      | none => simp [bucket]
      | some userId => simp [bucket]
  | some userId =>
      cases datum with
      | none => simp [bucket]
      | some other =>
          simp only [bucket, Table.find?_put, Option.some.injEq]
          split
          · next h => rw [h]; rfl
          · rfl

namespace Builder

/-- The signatures of a builder over a datum. -/
def bucket (b : Builder) (place : Place) : List Signature :=
  match b.edges.find? place.1 with
  | none => []
  | some e => e.bucket place.2

theorem bucket_addSignature (b : Builder) (s : Signature) (place : Place) :
    (b.addSignature s).bucket place =
      if s.outline = place then Edge.newest (b.bucket place) s else b.bucket place := by
  obtain ⟨k, datum⟩ := place
  have hplace : s.outline = (k, datum) ↔ s.endpoints = k ∧ s.userId = datum := Prod.mk_inj
  simp only [bucket, addSignature, Table.find?_put, hplace]
  by_cases hk : s.endpoints = k
  · subst hk
    rw [if_pos rfl]
    simp only [Edge.bucket_insert, true_and]
    cases b.edges.find? s.endpoints with
    | none => cases datum <;> rfl
    | some e => rfl
  · rw [if_neg hk, if_neg fun h => hk h.1]

theorem bucket_receiveAll (b : Builder) (cs : List Contribution) (place : Place) :
    (b.receiveAll cs).bucket place =
      ((Contribution.signatures cs).filter fun s => decide (s.outline = place)).foldl Edge.newest
        (b.bucket place) := by
  induction cs generalizing b with
  | nil => rfl
  | cons c rest ih =>
      cases c with
      | certificate n =>
          refine (ih (b.addNode n).1).trans ?_
          have hbucket : (b.addNode n).1.bucket place = b.bucket place := by
            unfold addNode
            split <;> rfl
          rw [hbucket]
          rfl
      | signature s =>
          refine (ih (b.addSignature s)).trans ?_
          rw [bucket_addSignature]
          by_cases hplace : s.outline = place
          · simp [Contribution.signatures, Contribution.signature?, hplace]
          · simp [Contribution.signatures, Contribution.signature?, hplace]

theorem latest_bucket (cs : List Contribution) (place : Place) :
    Latest ((Contribution.signatures cs).filter fun s => decide (s.outline = place))
      ((receiveAll {} cs).bucket place) := by
  rw [bucket_receiveAll]
  exact Latest.nil.foldl _

end Builder

/-! ## Every signature in its place -/

/-- Signatures stand under their data. -/
structure Edge.Filed (e : Edge) : Prop where
  delegations : ∀ s ∈ e.delegations, s.userId = none
  certifications : ∀ entry ∈ e.certifications, ∀ s ∈ entry.2, s.userId = some entry.1
  keys : e.certifications.keys.Nodup

theorem Edge.Filed.insert {e : Edge} (h : e.Filed) (s : Signature) : (e.insert s).Filed := by
  unfold Edge.insert
  cases hs : s.userId with
  | none =>
      refine ⟨fun t ht => ?_, h.certifications, h.keys⟩
      rcases Edge.mem_newest ht with rfl | ht
      · exact hs
      · exact h.delegations t ht
  | some userId =>
      refine ⟨h.delegations, fun entry hentry t ht => ?_, Table.nodup_keys_put h.keys _ _⟩
      rcases Table.mem_put hentry with rfl | hentry
      · rcases Edge.mem_newest ht with rfl | ht
        · exact hs
        · cases hb : e.certifications.find? userId with
          | none => simp [hb] at ht
          | some bucket =>
              rw [hb] at ht
              exact h.certifications _ (Table.mem_of_find? hb) t ht
      · exact h.certifications entry hentry t ht

/-- A signature of an edge stands in the bucket of its datum. -/
theorem Edge.Filed.mem_signatures {e : Edge} (h : e.Filed) {s : Signature} :
    s ∈ e.signatures ↔ s ∈ e.bucket s.userId := by
  simp only [Edge.signatures, List.mem_append, List.mem_flatMap]
  constructor
  · rintro (hs | ⟨⟨userId, bucket⟩, hentry, hs⟩)
    · rw [h.delegations s hs]
      exact hs
    · rw [h.certifications _ hentry s hs, Edge.bucket, Table.find?_of_mem h.keys hentry]
      exact hs
  · intro hs
    cases hdatum : s.userId with
    | none =>
        rw [hdatum] at hs
        exact .inl hs
    | some userId =>
        rw [hdatum, Edge.bucket] at hs
        cases hb : e.certifications.find? userId with
        | none => simp [hb] at hs
        | some bucket =>
            exact .inr ⟨(userId, bucket), Table.mem_of_find? hb, by simpa [hb] using hs⟩

/-- No element comes twice in lists that share none unless they stand under one key. -/
theorem Table.nodup_flatMap {κ α β : Type} {t : Table κ α} (g : α → List β) (hkeys : t.keys.Nodup)
    (hplace : ∀ a ∈ t, ∀ b ∈ t, ∀ x ∈ g a.2, x ∈ g b.2 → a.1 = b.1)
    (hnodup : ∀ entry ∈ t, (g entry.2).Nodup) : (t.flatMap fun entry => g entry.2).Nodup := by
  refine List.nodup_flatMap.mpr ⟨hnodup, (List.pairwise_map.mp hkeys).imp_of_mem ?_⟩
  exact fun ha hb hne x hx hx' => hne (hplace _ ha _ hb x hx hx')

theorem Edge.Filed.nodup_core {e : Edge} (h : e.Filed)
    (hbuckets : ∀ datum, ((e.bucket datum).map Signature.core).Nodup) :
    (e.signatures.map Signature.core).Nodup := by
  have hdatum : ∀ entry ∈ e.certifications, ∀ x ∈ entry.2.map Signature.core,
      x.userId = some entry.1 := by
    intro entry hentry x hx
    obtain ⟨s, hs, rfl⟩ := List.mem_map.mp hx
    exact h.certifications entry hentry s hs
  have hcertifications :
      (e.certifications.flatMap fun entry => entry.2.map Signature.core).Nodup := by
    refine Table.nodup_flatMap (List.map Signature.core) h.keys (fun a ha b hb x hx hx' => ?_)
      fun entry hentry => ?_
    · exact Option.some.inj ((hdatum a ha x hx).symm.trans (hdatum b hb x hx'))
    · simpa [Edge.bucket, Table.find?_of_mem h.keys hentry] using hbuckets (some entry.1)
  rw [Edge.signatures, List.map_append, List.map_flatMap, List.nodup_append]
  refine ⟨hbuckets none, hcertifications, ?_⟩
  rintro x hx _ hx' rfl
  obtain ⟨s, hs, rfl⟩ := List.mem_map.mp hx
  obtain ⟨entry, hentry, hx'⟩ := List.mem_flatMap.mp hx'
  have hnone : s.core.userId = none := h.delegations s hs
  rw [hdatum entry hentry _ hx'] at hnone
  cases hnone

/-- Edges stand under different keys, and signatures on them under their data. -/
structure Builder.Filed (b : Builder) : Prop where
  keys : b.edges.keys.Nodup
  edges : ∀ entry ∈ b.edges, entry.2.Filed

namespace Builder

variable {b : Builder}

theorem Filed.addSignature (h : b.Filed) (s : Signature) : (b.addSignature s).Filed := by
  refine ⟨Table.nodup_keys_put h.keys _ _, fun entry hentry => ?_⟩
  rcases Table.mem_put hentry with rfl | hentry
  · refine Edge.Filed.insert ?_ s
    cases he : b.edges.find? s.endpoints with
    | none => exact ⟨by simp, by simp, List.nodup_nil⟩
    | some e => exact h.edges _ (Table.mem_of_find? he)
  · exact h.edges entry hentry

theorem Filed.receiveAll (h : b.Filed) (cs : List Contribution) : (b.receiveAll cs).Filed := by
  induction cs generalizing b with
  | nil => exact h
  | cons c rest ih =>
      cases c with
      | certificate n =>
          refine ih (b := (b.addNode n).1) ?_
          unfold addNode
          split
          · exact h
          · exact ⟨h.keys, h.edges⟩
      | signature s => exact ih (h.addSignature s)

/-- A build takes over the edges as they are. -/
theorem Filed.edges_build (h : b.Filed) (now : Moment) : (b.build now).edges = b.edges := by
  have hfind : ∀ entry ∈ b.edges,
      (b.edges.find? entry.1).map (fun e => (entry.1, e)) = some entry := fun entry hentry => by
    rw [Table.find?_of_mem h.keys hentry]
    rfl
  simp only [build, Plan.network, plan, Table.keys, List.filterMap_map]
  exact (List.filterMap_congr hfind).trans List.filterMap_some

variable (h : b.Filed) (hkeys : b.WellKeyed) (now : Moment)

include h hkeys

theorem Filed.mem_signatures {s : Signature} :
    s ∈ (b.build now).signatures ↔ s ∈ b.bucket s.outline := by
  rw [Network.mem_signatures, h.edges_build now]
  constructor
  · rintro ⟨⟨k, e⟩, hentry, hs⟩
    have hk : s.endpoints = k := hkeys.edges _ hentry s hs
    rw [bucket, Signature.outline, hk, Table.find?_of_mem h.keys hentry]
    exact (h.edges _ hentry).mem_signatures.mp hs
  · intro hs
    rw [bucket, Signature.outline] at hs
    cases he : b.edges.find? s.endpoints with
    | none => simp [he] at hs
    | some e =>
        rw [he] at hs
        have hentry := Table.mem_of_find? he
        exact ⟨_, hentry, (h.edges _ hentry).mem_signatures.mpr hs⟩

theorem Filed.nodup_core (hbuckets : ∀ place, ((b.bucket place).map Signature.core).Nodup) :
    ((b.build now).signatures.map Signature.core).Nodup := by
  have hplace : ∀ entry ∈ b.edges, ∀ x ∈ entry.2.signatures.map Signature.core,
      x.endpoints = entry.1 := by
    intro entry hentry x hx
    obtain ⟨s, hs, rfl⟩ := List.mem_map.mp hx
    exact hkeys.edges entry hentry s hs
  rw [Network.signatures, h.edges_build now, List.map_flatMap]
  refine Table.nodup_flatMap (fun e : Edge => e.signatures.map Signature.core) h.keys
    (fun a ha b hb x hx hx' => ?_) fun entry hentry => ?_
  · exact (hplace a ha x hx).symm.trans (hplace b hb x hx')
  · refine (h.edges _ hentry).nodup_core fun datum => ?_
    simpa [bucket, Table.find?_of_mem h.keys hentry] using hbuckets (entry.1, datum)

theorem Filed.mem_core {x : Signature} :
    x ∈ (b.build now).signatures.map Signature.core ↔
      x ∈ (b.bucket x.outline).map Signature.core := by
  simp only [List.mem_map, h.mem_signatures hkeys now]
  constructor
  · rintro ⟨s, hs, rfl⟩
    exact ⟨s, hs, rfl⟩
  · rintro ⟨s, hs, rfl⟩
    exact ⟨s, hs, rfl⟩

end Builder

/-! ## The network -/

/-- The network of contributions that arrive in order, at a reference time. -/
def Network.assemble (cs : List Contribution) (referenceTime now : Moment) : Network :=
  ((Builder.receiveAll {} cs).setTime referenceTime).build now

namespace Network

variable {cs cs' : List Contribution} (referenceTime now now' : Moment)

theorem wellKeyed_assemble (cs : List Contribution) :
    (assemble cs referenceTime now).WellKeyed := by
  have h : Builder.Reached ((Builder.receiveAll {} cs).setTime referenceTime) :=
    .setTime (Builder.Reached.empty.receiveAll cs) referenceTime
  exact h.network_wellKeyed h now

theorem filed_receiveAll (cs : List Contribution) : (Builder.receiveAll {} cs).Filed :=
  Builder.Filed.receiveAll ⟨by simp [Table.keys], by simp⟩ cs

theorem mem_signatures_assemble {s : Signature}
    (hs : s ∈ (assemble cs referenceTime now).signatures) : s ∈ Contribution.signatures cs := by
  have hbucket := ((filed_receiveAll cs).mem_signatures
    (Builder.Reached.empty.receiveAll cs).wellKeyed now).mp hs
  exact List.mem_of_mem_filter ((Builder.latest_bucket cs s.outline).newest s hbucket).1

/-- In whatever order the contributions arrive, the same signatures are kept, up to sameness. -/
theorem signatures_assemble_perm (hperm : cs.Perm cs') :
    ((assemble cs referenceTime now).signatures.map Signature.core).Perm
      ((assemble cs' referenceTime now').signatures.map Signature.core) := by
  have hkeys := fun cs => (Builder.Reached.empty.receiveAll cs).wellKeyed
  have hdistinct : ∀ cs now,
      ((assemble cs referenceTime now).signatures.map Signature.core).Nodup := fun cs now =>
    (filed_receiveAll cs).nodup_core (hkeys cs) now fun place =>
      (Builder.latest_bucket cs place).distinct
  have hmem : ∀ cs now x, x ∈ (assemble cs referenceTime now).signatures.map Signature.core ↔
      x ∈ ((Builder.receiveAll {} cs).bucket x.outline).map Signature.core := fun cs now x =>
    (filed_receiveAll cs).mem_core (hkeys cs) now
  rw [List.perm_ext_iff_of_nodup (hdistinct cs now) (hdistinct cs' now')]
  intro x
  rw [hmem, hmem]
  exact ((Builder.latest_bucket cs x.outline).perm (Builder.latest_bucket cs' x.outline)
    ((hperm.filterMap _).filter _)).mem_iff

/-- In whatever order they arrive, the same certificates are present, if no fingerprint comes
twice. -/
theorem node?_assemble_of_perm (hperm : cs.Perm cs')
    (hdistinct : ((Contribution.certificates cs).map (·.fingerprint)).Nodup) (f : Fingerprint) :
    (assemble cs' referenceTime now').node? f = (assemble cs referenceTime now).node? f := by
  have hnode : ∀ cs now, (assemble cs referenceTime now).node? f =
      Table.find? ((Contribution.certificates cs).map fun n => (n.fingerprint, n)) f :=
    fun cs now => (Builder.find?_receiveAll {} cs f).trans (by simp)
  rw [hnode, hnode]
  refine (Table.find?_perm ((hperm.filterMap _).map _) ?_ f).symm
  simpa [Table.keys, Function.comp_def, Contribution.certificates] using hdistinct

end Network

end TrustWeb
