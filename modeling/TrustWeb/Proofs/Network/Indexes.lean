import Mathlib
import TrustWeb.Proofs.Network.Sharing

/-! # The indexes of a network

A network finds its certificates by fingerprint and its edges by their ends, from either side. All
of this comes from the steps of the builder: no certificate is lost to a later duplicate unless it
is replaced, and every edge stands under its own ends, in one place of each index. -/

namespace TrustWeb

/-! ## Pairs in order -/

namespace Fingerprint

variable {a b c : Fingerprint × Fingerprint}

/-- A pair in the order in which pairs are compared. -/
def pairRank (k : Fingerprint × Fingerprint) : String ×ₗ String := toLex (k.1.text, k.2.text)

theorem le_iff {f g : Fingerprint} : le f g = true ↔ f.text ≤ g.text := by
  rw [le, Bool.not_eq_true', decide_eq_false_iff_not]
  exact (not_lt : ¬g.text < f.text ↔ f.text ≤ g.text)

theorem pairLe_iff : pairLe a b = true ↔ pairRank a ≤ pairRank b := by
  obtain ⟨⟨issuer⟩, ⟨target⟩⟩ := a
  obtain ⟨⟨issuer'⟩, ⟨target'⟩⟩ := b
  simp only [pairLe, pairRank, Prod.Lex.toLex_le_toLex, mk.injEq]
  by_cases h : issuer = issuer'
  · simp [h, le_iff]
  · simp [h, le_iff, lt_iff_le_and_ne]

theorem pairLe_trans (h : pairLe a b = true) (h' : pairLe b c = true) : pairLe a c = true :=
  pairLe_iff.mpr ((pairLe_iff.mp h).trans (pairLe_iff.mp h'))

theorem pairLe_total (a b : Fingerprint × Fingerprint) : (pairLe a b || pairLe b a) = true := by
  simpa only [Bool.or_eq_true, pairLe_iff] using le_total (pairRank a) (pairRank b)

/-- Of two pairs in order that share one member, the other members are in order. -/
theorem lt_of_pairLe (h : pairLe a b = true) (hne : a ≠ b) :
    (a.1 = b.1 → a.2 < b.2) ∧ (a.2 = b.2 → a.1 < b.1) := by
  obtain ⟨⟨issuer⟩, ⟨target⟩⟩ := a
  obtain ⟨⟨issuer'⟩, ⟨target'⟩⟩ := b
  simp only [pairLe_iff, pairRank, Prod.Lex.toLex_le_toLex] at h
  change (_ → target < target') ∧ (_ → issuer < issuer')
  simp only [ne_eq, Prod.mk.injEq, mk.injEq] at hne ⊢
  constructor
  · rintro rfl
    exact lt_of_le_of_ne (h.resolve_left (lt_irrefl _)).2 fun heq => hne ⟨rfl, heq⟩
  · rintro rfl
    exact h.resolve_right fun heq => hne ⟨heq.1, rfl⟩

end Fingerprint

/-! ## Edges under their ends -/

namespace Network

/-- Each edge stands under its ends, and no two under the same ones. -/
structure Indexed (n : Network) : Prop where
  keys : n.edges.keys.Nodup
  ends : ∀ entry ∈ n.edges, entry.2.ends = entry.1

/-- The edges whose ends are asked for, in order. -/
def listed (n : Network) (asked : EdgeKey → Bool) : List Edge :=
  (n.sortedEdges.filter fun entry => asked entry.1).map (·.2)

variable {n : Network} {asked : EdgeKey → Bool} {e : Edge}

theorem edgesFrom_eq (n : Network) (f : Fingerprint) :
    n.edgesFrom f = n.listed fun k => k.1 == f := rfl

theorem edgesTo_eq (n : Network) (f : Fingerprint) :
    n.edgesTo f = n.listed fun k => k.2 == f := rfl

theorem edge?_of_mem (h : n.edges.keys.Nodup) {k : EdgeKey} (hk : (k, e) ∈ n.edges) :
    n.edge? k.1 k.2 = some e :=
  Table.find?_of_mem h hk

namespace Indexed

theorem ends_of_edge? (h : n.Indexed) {issuer target : Fingerprint}
    (he : n.edge? issuer target = some e) : e.ends = (issuer, target) :=
  h.ends _ (Table.mem_of_find? he)

/-- An edge is listed exactly if it stands in the network and its ends are asked for. -/
theorem mem_listed (h : n.Indexed) :
    e ∈ n.listed asked ↔
      n.edge? e.issuer.fingerprint e.target.fingerprint = some e ∧ asked e.ends = true := by
  simp only [listed, sortedEdges, List.mem_map, List.mem_filter, List.mem_mergeSort]
  constructor
  · rintro ⟨⟨k, e'⟩, ⟨hentry, hasked⟩, rfl⟩
    have hends : e'.ends = k := h.ends _ hentry
    subst hends
    exact ⟨edge?_of_mem h.keys hentry, hasked⟩
  · rintro ⟨he, hasked⟩
    exact ⟨(e.ends, e), ⟨Table.mem_of_find? he, hasked⟩, rfl⟩

/-- Listed edges are in order, by what the order of pairs comes to for the ends asked for. -/
theorem pairwise_listed (h : n.Indexed) (before : EdgeKey → EdgeKey → Prop)
    (hbefore : ∀ a b, asked a = true → asked b = true → Fingerprint.pairLe a b = true → a ≠ b →
      before a b) :
    (n.listed asked).Pairwise fun a b => before a.ends b.ends := by
  have hsorted : n.sortedEdges.Pairwise fun a b => Fingerprint.pairLe a.1 b.1 = true := by
    refine List.pairwise_mergeSort (fun a b c : EdgeKey × Edge => ?_) (fun a b => ?_) n.edges
    · exact Fingerprint.pairLe_trans
    · exact Fingerprint.pairLe_total a.1 b.1
  have hperm : n.sortedEdges.Perm n.edges := List.mergeSort_perm _ _
  have hdistinct : n.sortedEdges.Pairwise fun a b => a.1 ≠ b.1 :=
    List.pairwise_map.mp ((hperm.map Prod.fst).nodup_iff.mpr h.keys)
  refine List.pairwise_map.mpr (((hsorted.and hdistinct).filter _).imp_of_mem ?_)
  intro a b ha hb hab
  obtain ⟨ha, hasked⟩ := List.mem_filter.mp ha
  obtain ⟨hb, hasked'⟩ := List.mem_filter.mp hb
  rw [h.ends a (hperm.mem_iff.mp ha), h.ends b (hperm.mem_iff.mp hb)]
  exact hbefore a.1 b.1 hasked hasked' hab.1 hab.2

theorem nodup_listed (h : n.Indexed) : (n.listed asked).Nodup :=
  (h.pairwise_listed (· ≠ ·) fun _ _ _ _ _ hne => hne).imp fun hne heq =>
    hne (congrArg Edge.ends heq)

/-- An edge stands once in a list that asks for its ends, and in no other one. -/
theorem count_listed (h : n.Indexed)
    (he : n.edge? e.issuer.fingerprint e.target.fingerprint = some e) :
    (n.listed asked).count e = if asked e.ends = true then 1 else 0 := by
  split
  · next hasked => exact List.count_eq_one_of_mem h.nodup_listed (h.mem_listed.mpr ⟨he, hasked⟩)
  · next hasked => exact List.count_eq_zero_of_not_mem fun hmem => hasked (h.mem_listed.mp hmem).2

variable {f issuer target : Fingerprint}

theorem mem_edgesFrom (h : n.Indexed) :
    e ∈ n.edgesFrom f ↔
      n.edge? f e.target.fingerprint = some e ∧ e.issuer.fingerprint = f := by
  rw [edgesFrom_eq, h.mem_listed, beq_iff_eq]
  exact and_congr_left fun hf : e.issuer.fingerprint = f => by rw [hf]

theorem mem_edgesTo (h : n.Indexed) :
    e ∈ n.edgesTo f ↔
      n.edge? e.issuer.fingerprint f = some e ∧ e.target.fingerprint = f := by
  rw [edgesTo_eq, h.mem_listed, beq_iff_eq]
  exact and_congr_left fun hf : e.target.fingerprint = f => by rw [hf]

theorem pairwise_edgesFrom (h : n.Indexed) (f : Fingerprint) :
    (n.edgesFrom f).Pairwise fun a b => a.target.fingerprint < b.target.fingerprint := by
  rw [edgesFrom_eq]
  refine h.pairwise_listed (fun a b => a.2 < b.2) fun a b ha hb hle hne => ?_
  exact (Fingerprint.lt_of_pairLe hle hne).1 ((beq_iff_eq.mp ha).trans (beq_iff_eq.mp hb).symm)

theorem pairwise_edgesTo (h : n.Indexed) (f : Fingerprint) :
    (n.edgesTo f).Pairwise fun a b => a.issuer.fingerprint < b.issuer.fingerprint := by
  rw [edgesTo_eq]
  refine h.pairwise_listed (fun a b => a.1 < b.1) fun a b ha hb hle hne => ?_
  exact (Fingerprint.lt_of_pairLe hle hne).2 ((beq_iff_eq.mp ha).trans (beq_iff_eq.mp hb).symm)

/-- An edge comes once among those from its issuer and once among those to its target. -/
theorem count_edges (h : n.Indexed) (he : n.edge? issuer target = some e) (f : Fingerprint) :
    (n.edgesFrom f).count e = (if issuer = f then 1 else 0) ∧
      (n.edgesTo f).count e = if target = f then 1 else 0 := by
  obtain ⟨rfl, rfl⟩ := Prod.mk.inj (h.ends_of_edge? he)
  rw [edgesFrom_eq, edgesTo_eq, h.count_listed he, h.count_listed he]
  simp [Edge.ends]

theorem edgeCount_eq (h : n.Indexed) :
    n.edgeCount = {k : EdgeKey | ∃ e, n.edge? k.1 k.2 = some e}.ncard := by
  have hkeys : {k : EdgeKey | ∃ e, n.edge? k.1 k.2 = some e} = n.edges.keys.toFinset := by
    ext k
    simp [edge?, Table.mem_keys_iff]
  rw [hkeys, Set.ncard_coe_finset, List.toFinset_card_of_nodup h.keys]
  simp [edgeCount, Table.keys]

end Indexed

theorem signatureCount_eq_length (n : Network) : n.signatureCount = n.signatures.length := by
  have hfold : ∀ (entries : Table EdgeKey Edge) (total : Nat),
      entries.foldl (fun total entry => total + entry.2.size) total =
        total + (entries.flatMap (·.2.signatures)).length := by
    intro entries
    induction entries with
    | nil => simp
    | cons entry rest ih =>
        intro total
        rw [List.foldl_cons, ih, List.flatMap_cons, List.length_append, Edge.size, Nat.add_assoc]
  rw [signatureCount, hfold, Nat.zero_add, signatures]

/-- Signatures that are all different are counted once each. -/
theorem signatureCount_eq (hkeys : n.edges.keys.Nodup) (h : n.signatures.Nodup) :
    n.signatureCount = {s | ∃ issuer target e, n.edge? issuer target = some e ∧
      s ∈ e.signatures}.ncard := by
  have hset : {s | ∃ issuer target e, n.edge? issuer target = some e ∧ s ∈ e.signatures} =
      n.signatures.toFinset := by
    ext s
    simp only [Set.mem_ofPred_eq, List.coe_toFinset, mem_signatures]
    constructor
    · rintro ⟨issuer, target, e, he, hs⟩
      exact ⟨_, Table.mem_of_find? he, hs⟩
    · rintro ⟨⟨k, e⟩, hentry, hs⟩
      exact ⟨k.1, k.2, e, edge?_of_mem hkeys hentry, hs⟩
  rw [hset, Set.ncard_coe_finset, List.toFinset_card_of_nodup h, signatureCount_eq_length]

end Network

namespace Builder

variable {b : Builder}

/-! ## Certificates added and replaced -/

/-- The certificate that a step adds if its fingerprint is new. -/
def Step.added? : Step → Option Node
  | .addNode n => some n
  | _ => none

/-- The certificate that a step puts in place of any other. -/
def Step.replacing? : Step → Option Node
  | .replaceNode n => some n
  | _ => none

/-- The first certificate with a fingerprint that was added. -/
def firstAdded? (steps : List Step) (f : Fingerprint) : Option Node :=
  (steps.filterMap Step.added?).find? (·.fingerprint == f)

/-- The last certificate with a fingerprint that was put in place of any other. -/
def lastReplacing? (steps : List Step) (f : Fingerprint) : Option Node :=
  (steps.filterMap Step.replacing?).reverse.find? (·.fingerprint == f)

/-- A replacement wins over what was there and what is added later; of those, the first one wins. -/
theorem find?_nodes_perform (b : Builder) (steps : List Step) (f : Fingerprint) :
    (b.perform steps).nodes.find? f =
      (lastReplacing? steps f).or ((b.nodes.find? f).or (firstAdded? steps f)) := by
  induction steps generalizing b with
  | nil => simp [perform, lastReplacing?, firstAdded?]
  | cons step rest ih =>
      refine (ih (b.step step)).trans ?_
      cases step with
      | addNode n =>
          have hadded : firstAdded? (.addNode n :: rest) f =
              (Table.find? [(n.fingerprint, n)] f).or (firstAdded? rest f) := by
            by_cases hn : n.fingerprint = f <;>
              simp [firstAdded?, Step.added?, Table.find?_cons, hn]
          rw [Builder.step, find?_addNode, hadded, Option.or_assoc]
          rfl
      | replaceNode n =>
          have hreplacing : lastReplacing? (.replaceNode n :: rest) f =
              (lastReplacing? rest f).or (Table.find? [(n.fingerprint, n)] f) := by
            by_cases hn : n.fingerprint = f <;>
              simp [lastReplacing?, Step.replacing?, Table.find?_cons, hn]
          rw [Builder.step, replaceNode, Table.find?_put, hreplacing, Option.or_assoc,
            Table.find?_cons, Table.find?_nil]
          split <;> rfl
      | addSignature s => rfl
      | addEdge e => rw [Builder.step, addEdge, (foldl_addSignature_frame b e.signatures).1]; rfl
      | setTime moment => rfl

/-! ## Signatures that are checked when they are added -/

/-- Adds a signature to the edge between its certificates, which checks that it belongs there. -/
def tryAddSignature (b : Builder) (s : Signature) : Except Fault Builder := do
  let edge ← ((b.edges.find? s.endpoints).getD ⟨s.issuer, s.target, [], []⟩).add s
  return { b with edges := b.edges.put s.endpoints edge }

/-- A step whose signatures are checked when they are added. -/
def tryStep (b : Builder) : Step → Except Fault Builder
  | .addNode n => .ok (b.addNode n).1
  | .replaceNode n => .ok (b.replaceNode n)
  | .addSignature s => b.tryAddSignature s
  | .addEdge e => e.signatures.foldlM tryAddSignature b
  | .setTime moment => .ok (b.setTime moment)

/-- Each edge stands under its ends. -/
def OwnEnds (b : Builder) : Prop := ∀ entry ∈ b.edges, entry.2.ends = entry.1

/-- The edge that a signature goes to has the ends of the signature. -/
theorem OwnEnds.ends_getD (h : b.OwnEnds) (s : Signature) :
    ((b.edges.find? s.endpoints).getD ⟨s.issuer, s.target, [], []⟩).ends = s.endpoints := by
  cases he : b.edges.find? s.endpoints with
  | none => rfl
  | some e => exact h _ (Table.mem_of_find? he)

theorem OwnEnds.addSignature (h : b.OwnEnds) (s : Signature) : (b.addSignature s).OwnEnds := by
  intro entry hentry
  rcases Table.mem_put hentry with rfl | hentry
  · rw [Edge.ends_insert, h.ends_getD]
  · exact h entry hentry

theorem OwnEnds.tryAddSignature_eq (h : b.OwnEnds) (s : Signature) :
    b.tryAddSignature s = .ok (b.addSignature s) := by
  rw [tryAddSignature, (Edge.add_eq_ok_iff _ _ s).mpr ⟨(h.ends_getD s).symm, rfl⟩]
  rfl

theorem OwnEnds.foldlM_tryAddSignature (h : b.OwnEnds) (ss : List Signature) :
    ss.foldlM tryAddSignature b = .ok (ss.foldl Builder.addSignature b) := by
  induction ss generalizing b with
  | nil => rfl
  | cons s rest ih =>
      rw [List.foldlM_cons, h.tryAddSignature_eq s]
      exact ih (h.addSignature s)

theorem OwnEnds.tryStep_eq (h : b.OwnEnds) (step : Step) : b.tryStep step = .ok (b.step step) := by
  cases step with
  | addNode n => rfl
  | replaceNode n => rfl
  | addSignature s => exact h.tryAddSignature_eq s
  | addEdge e => exact h.foldlM_tryAddSignature e.signatures
  | setTime moment => rfl

theorem ownEnds_perform (steps : List Step) : OwnEnds (perform {} steps) := by
  rw [OwnEnds, edges_perform]
  exact List.foldlRecOn (motive := OwnEnds) _ addSignature (by simp [OwnEnds])
    fun _ h s _ => h.addSignature s

theorem filed_perform (steps : List Step) : Filed (perform {} steps) := by
  have h := Network.filed_receiveAll ((steps.flatMap Step.signatures).map .signature)
  rw [← foldl_addSignature_eq] at h
  exact ⟨edges_perform {} steps ▸ h.keys, edges_perform {} steps ▸ h.edges⟩

/-- No step fails. -/
theorem foldlM_tryStep (steps : List Step) :
    steps.foldlM tryStep {} = .ok (perform {} steps) := by
  induction steps using List.reverseRecOn with
  | nil => rfl
  | append_singleton front step ih =>
      have hlast : perform {} (front ++ [step]) = (perform {} front).step step :=
        List.foldl_concat ..
      rw [List.foldlM_append, ih, hlast, ← (ownEnds_perform front).tryStep_eq step]
      exact bind_pure (tryStep (perform {} front) step)

/-- An edge stands between two certificates as soon as a signature between them was added. -/
theorem mem_keys_foldl_addSignature (b : Builder) (ss : List Signature) (k : EdgeKey) :
    k ∈ (ss.foldl addSignature b).edges.keys ↔
      k ∈ b.edges.keys ∨ ∃ s ∈ ss, s.endpoints = k := by
  induction ss generalizing b with
  | nil => simp
  | cons s rest ih =>
      have hput : k ∈ (b.addSignature s).edges.keys ↔ k ∈ b.edges.keys ∨ s.endpoints = k := by
        rw [addSignature, Table.mem_keys_iff, Table.mem_keys_iff]
        by_cases hk : s.endpoints = k <;> simp [Table.find?_put, hk]
      rw [List.foldl_cons, ih, hput, List.exists_mem_cons_iff, or_assoc]

/-! ## The network -/

/-- The network of steps. -/
def networkOf (steps : List Step) (now : Moment) : Network := (perform {} steps).build now

section

variable (steps : List Step) (now : Moment)

theorem indexed_networkOf : (networkOf steps now).Indexed := by
  refine ⟨?_, ?_⟩ <;> rw [networkOf, edges_build_perform]
  · exact (filed_perform steps).keys
  · exact ownEnds_perform steps

theorem nodup_signatures_networkOf : (networkOf steps now).signatures.Nodup := by
  have hcore := (filed_perform steps).nodup_core (Reached.empty.perform steps).wellKeyed now
    fun place => (exists_latest_bucket steps place).elim fun _ h => h.distinct
  exact List.Nodup.of_map Signature.core hcore

theorem exists_edge?_iff (k : EdgeKey) :
    (∃ e, (networkOf steps now).edge? k.1 k.2 = some e) ↔
      ∃ s ∈ steps.flatMap Step.signatures, s.endpoints = k := by
  have hkeys := mem_keys_foldl_addSignature {} (steps.flatMap Step.signatures) k
  rw [← edges_perform, ← edges_build_perform steps now, Table.mem_keys_iff] at hkeys
  simpa [networkOf, Network.edge?, Table.keys] using hkeys

end

/-- Whatever the steps of a builder, none of them fails, although each signature is checked when it
is added. In the network that is built then, a certificate is the last one that replaced any, or
else the first one that was added; the edges from and to a certificate are those that it issued and
those over its data, in strictly ascending order of the other certificate; an edge stands under its
own ends, holds signatures between them only, and comes once in each index; there is an edge where
there was a signature; and the edges and their signatures are counted. -/
theorem networkOf_indexed (steps : List Step) (now : Moment) :
    steps.foldlM tryStep {} = .ok (perform {} steps) ∧
      (∀ spelling, (networkOf steps now).node? (.ofText spelling) =
        (lastReplacing? steps (.ofText spelling)).or (firstAdded? steps (.ofText spelling))) ∧
      (∀ f e, e ∈ (networkOf steps now).edgesFrom f ↔
        (networkOf steps now).edge? f e.target.fingerprint = some e ∧
          e.issuer.fingerprint = f) ∧
      (∀ f, ((networkOf steps now).edgesFrom f).Pairwise fun a b =>
        a.target.fingerprint < b.target.fingerprint) ∧
      (∀ f e, e ∈ (networkOf steps now).edgesTo f ↔
        (networkOf steps now).edge? e.issuer.fingerprint f = some e ∧
          e.target.fingerprint = f) ∧
      (∀ f, ((networkOf steps now).edgesTo f).Pairwise fun a b =>
        a.issuer.fingerprint < b.issuer.fingerprint) ∧
      (∀ issuer target e, (networkOf steps now).edge? issuer target = some e →
        e.issuer.fingerprint = issuer ∧ e.target.fingerprint = target ∧
          (∀ s ∈ e.signatures, s.endpoints = (issuer, target)) ∧
          ∀ f, ((networkOf steps now).edgesFrom f).count e = (if issuer = f then 1 else 0) ∧
            ((networkOf steps now).edgesTo f).count e = if target = f then 1 else 0) ∧
      (∀ issuer target, (∃ e, (networkOf steps now).edge? issuer target = some e) ↔
        ∃ s ∈ steps.flatMap Step.signatures, s.endpoints = (issuer, target)) ∧
      (networkOf steps now).edgeCount =
        {k : EdgeKey | ∃ e, (networkOf steps now).edge? k.1 k.2 = some e}.ncard ∧
      (networkOf steps now).signatureCount =
        {s | ∃ issuer target e, (networkOf steps now).edge? issuer target = some e ∧
          s ∈ e.signatures}.ncard := by
  have hindexed := indexed_networkOf steps now
  have hkeyed : (networkOf steps now).WellKeyed :=
    (Reached.empty.perform steps).network_wellKeyed (Reached.empty.perform steps) now
  have hnodes : (networkOf steps now).nodes = (perform {} steps).nodes := rfl
  refine ⟨foldlM_tryStep steps, fun spelling => ?_, fun f e => hindexed.mem_edgesFrom,
    hindexed.pairwise_edgesFrom, fun f e => hindexed.mem_edgesTo, hindexed.pairwise_edgesTo,
    fun issuer target e he => ?_, fun issuer target => exists_edge?_iff steps now (issuer, target),
    hindexed.edgeCount_eq,
    Network.signatureCount_eq hindexed.keys (nodup_signatures_networkOf steps now)⟩
  · rw [Network.node?, hnodes, find?_nodes_perform]
    rfl
  · obtain ⟨hissuer, htarget⟩ := Prod.mk.inj (hindexed.ends_of_edge? he)
    exact ⟨hissuer, htarget, hkeyed.edges _ (Table.mem_of_find? he), hindexed.count_edges he⟩

end Builder

end TrustWeb
