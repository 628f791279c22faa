import TrustWeb.Authentication
import TrustWeb.Proofs.Network.Arrival

/-! # What a network shares with its builder

A network keeps its certificates, the places of its edges and its reference time, whatever its
builder does after it was built. The edges themselves stay with the builder: a signature that
arrives on one of them later shows in the network, unless the edge holds a newer one over the same
datum, or the same one already. -/

namespace TrustWeb

/-! ## Signatures that change nothing -/

/-- Among the signatures over a datum there is a newer one than the given one, or the same one. -/
def Signature.Superseded (s : Signature) (bucket : List Signature) : Prop :=
  ∃ t ∈ bucket, s.created.seconds < t.created.seconds ∨ t.same s = true

theorem Signature.seconds_of_same {s t : Signature} (h : t.same s = true) :
    s.created.seconds = t.created.seconds := by
  have hcore : t.core = s.core := same_iff.mp h
  have hmicros : t.core.created.micros = s.core.created.micros := by rw [hcore]
  change t.created.micros = s.created.micros at hmicros
  rw [Moment.seconds, Moment.seconds, hmicros]

namespace Latest

variable {made bucket : List Signature} {s : Signature}

/-- The signatures of a bucket are of one second. -/
theorem seconds_eq (h : Latest made bucket) {t u : Signature} (ht : t ∈ bucket) (hu : u ∈ bucket) :
    t.created.seconds = u.created.seconds :=
  le_antisymm ((h.newest u hu).2 t (h.newest t ht).1) ((h.newest t ht).2 u (h.newest u hu).1)

theorem newest_of_superseded (h : Latest made bucket) (hs : s.Superseded bucket) :
    Edge.newest bucket s = bucket := by
  obtain ⟨t, ht, hnewer⟩ := hs
  cases bucket with
  | nil => cases ht
  | cons first rest =>
      have hfirst := h.seconds_eq ht List.mem_cons_self
      unfold Edge.newest
      rcases hnewer with hnewer | hsame
      · rw [hfirst] at hnewer
        simp [not_lt.mpr hnewer.le, hnewer.ne]
      · have hsecond := (Signature.seconds_of_same hsame).trans hfirst
        have hany : (first :: rest).any (·.same s) = true := List.any_eq_true.mpr ⟨t, ht, hsame⟩
        simp [hsecond, hany]

/-- A signature that was made is superseded by one that is kept. -/
theorem superseded (h : Latest made bucket) (hs : s ∈ made) : s.Superseded bucket := by
  obtain ⟨t, ht⟩ : ∃ t, t ∈ bucket := List.exists_mem_of_ne_nil _ fun hnil => by
    rw [h.empty hnil] at hs
    cases hs
  rcases ((h.newest t ht).2 s hs).lt_or_eq with hnewer | hsecond
  · exact ⟨t, ht, .inl hnewer⟩
  · have hcore := h.complete s hs fun u hu => by
      rw [hsecond]
      exact (h.newest t ht).2 u hu
    obtain ⟨u, hu, hsame⟩ := List.mem_map.mp hcore
    exact ⟨u, hu, .inr (Signature.same_iff.mpr hsame)⟩

/-- Signatures that arrive at a bucket leave it as it is exactly if each of them is superseded. -/
theorem foldl_newest_eq_iff (h : Latest made bucket) (ss : List Signature) :
    ss.foldl Edge.newest bucket = bucket ↔ ∀ s ∈ ss, s.Superseded bucket := by
  constructor
  · intro hfold s hs
    have hafter := h.foldl ss
    rw [hfold] at hafter
    exact hafter.superseded (List.mem_append_right _ hs)
  · intro hss
    induction ss with
    | nil => rfl
    | cons s rest ih =>
        obtain ⟨hs, hrest⟩ := List.forall_mem_cons.mp hss
        rw [List.foldl_cons, h.newest_of_superseded hs]
        exact ih hrest

end Latest

namespace Table

theorem put_of_find? {κ α : Type} [DecidableEq κ] {t : Table κ α} {k : κ} {v : α}
    (h : t.find? k = some v) : t.put k v = t := by
  fun_induction put t k v with
  | case1 => cases h
  | case2 v' rest => simp_all [find?_cons]
  | case3 k' v' rest hne ih =>
      rw [find?_cons, if_neg hne] at h
      rw [ih h]

end Table

namespace Edge

variable {e : Edge} {s : Signature}

/-- An edge holds the newest signatures that were made over each datum. -/
def Current (e : Edge) : Prop := ∀ datum, ∃ made, Latest made (e.bucket datum)

theorem insert_eq_self (h : newest (e.bucket s.userId) s = e.bucket s.userId)
    (hne : e.bucket s.userId ≠ []) : e.insert s = e := by
  unfold insert
  cases hs : s.userId with
  | none =>
      rw [hs] at h
      exact congrArg (fun bucket => { e with delegations := bucket }) h
  | some userId =>
      rw [hs] at h hne
      cases hb : e.certifications.find? userId with
      | none => simp [bucket, hb] at hne
      | some certifications =>
          simp only [bucket, hb, Option.getD_some] at h ⊢
          rw [h, Table.put_of_find? hb]

theorem bucket_foldl_insert (e : Edge) (ss : List Signature) (datum : Option String) :
    (ss.foldl insert e).bucket datum =
      (ss.filter fun s => decide (s.userId = datum)).foldl newest (e.bucket datum) := by
  induction ss generalizing e with
  | nil => rfl
  | cons s rest ih =>
      rw [List.foldl_cons, ih, bucket_insert, List.filter_cons]
      by_cases hs : s.userId = datum
      · simp [hs]
      · simp [hs]

/-- Signatures that arrive on an edge leave it as it is exactly if each of them is superseded. -/
theorem Current.foldl_insert_eq_iff (h : e.Current) (ss : List Signature) :
    ss.foldl insert e = e ↔ ∀ s ∈ ss, s.Superseded (e.bucket s.userId) := by
  constructor
  · intro hfold s hs
    obtain ⟨made, hmade⟩ := h s.userId
    have hbucket := bucket_foldl_insert e ss s.userId
    rw [hfold] at hbucket
    exact (hmade.foldl_newest_eq_iff _).mp hbucket.symm s (List.mem_filter.mpr ⟨hs, by simp⟩)
  · intro hss
    induction ss with
    | nil => rfl
    | cons s rest ih =>
        obtain ⟨hs, hrest⟩ := List.forall_mem_cons.mp hss
        obtain ⟨made, hmade⟩ := h s.userId
        have hne : e.bucket s.userId ≠ [] := by
          obtain ⟨t, ht, -⟩ := hs
          exact List.ne_nil_of_mem ht
        rw [List.foldl_cons, insert_eq_self (hmade.newest_of_superseded hs) hne]
        exact ih hrest

end Edge

namespace Builder

/-! ## Steps -/

/-- A step of a builder. -/
inductive Step where
  | addNode (n : Node)
  | replaceNode (n : Node)
  | addSignature (s : Signature)
  | addEdge (e : Edge)
  | setTime (moment : Moment)

/-- The signatures that a step adds. -/
def Step.signatures : Step → List Signature
  | .addSignature s => [s]
  | .addEdge e => e.signatures
  | _ => []

/-- The builder after a step. -/
def step (b : Builder) : Step → Builder
  | .addNode n => (b.addNode n).1
  | .replaceNode n => b.replaceNode n
  | .addSignature s => b.addSignature s
  | .addEdge e => b.addEdge e
  | .setTime moment => b.setTime moment

/-- The builder after steps. -/
def perform (b : Builder) (steps : List Step) : Builder := steps.foldl step b

variable {b : Builder} {k : EdgeKey} {e : Edge}

theorem Reached.perform (h : Reached b) (steps : List Step) : Reached (b.perform steps) := by
  induction steps generalizing b with
  | nil => exact h
  | cons step rest ih =>
      cases step with
      | addNode n => exact ih (h.addNode n)
      | replaceNode n => exact ih (h.replaceNode n)
      | addSignature s => exact ih (h.addSignature s)
      | addEdge e => exact ih (h.addEdge e)
      | setTime moment => exact ih (h.setTime moment)

theorem edges_addNode (b : Builder) (n : Node) : (b.addNode n).1.edges = b.edges := by
  unfold addNode
  split <;> rfl

theorem edges_foldl_addSignature {b' : Builder} (h : b.edges = b'.edges) (ss : List Signature) :
    (ss.foldl addSignature b).edges = (ss.foldl addSignature b').edges := by
  induction ss generalizing b b' with
  | nil => exact h
  | cons s rest ih => exact ih (by simp only [addSignature, h])

/-- Steps change the edges by their signatures only. -/
theorem edges_perform (b : Builder) (steps : List Step) :
    (b.perform steps).edges = ((steps.flatMap Step.signatures).foldl addSignature b).edges := by
  induction steps generalizing b with
  | nil => rfl
  | cons step rest ih =>
      rw [List.flatMap_cons, List.foldl_append]
      refine (ih (b.step step)).trans (edges_foldl_addSignature ?_ _)
      cases step with
      | addNode n => exact edges_addNode b n
      | replaceNode n => rfl
      | addSignature s => rfl
      | addEdge e => rfl
      | setTime moment => rfl

theorem find?_foldl_addSignature (hk : b.edges.find? k = some e) (ss : List Signature) :
    (ss.foldl addSignature b).edges.find? k =
      some ((ss.filter fun s => decide (s.endpoints = k)).foldl Edge.insert e) := by
  induction ss generalizing b e with
  | nil => exact hk
  | cons s rest ih =>
      rw [List.foldl_cons, List.filter_cons]
      by_cases hs : s.endpoints = k
      · rw [if_pos (by simpa using hs)]
        refine ih ?_
        simp [addSignature, hs, hk]
      · rw [if_neg (by simpa using hs)]
        refine ih ?_
        rw [addSignature, Table.find?_put_of_ne _ _ hs, hk]

/-- The edges of a builder hold the newest of the signatures that arrived. -/
theorem exists_latest_bucket (steps : List Step) (place : Place) :
    ∃ made, Latest made ((perform {} steps).bucket place) := by
  have hbucket : (perform {} steps).bucket place =
      (receiveAll {} ((steps.flatMap Step.signatures).map .signature)).bucket place := by
    rw [bucket, bucket, edges_perform, foldl_addSignature_eq]
  exact ⟨_, hbucket ▸ latest_bucket _ place⟩

theorem current_of_find? {steps : List Step} (h : (perform {} steps).edges.find? k = some e) :
    e.Current := by
  intro datum
  obtain ⟨made, hmade⟩ := exists_latest_bucket steps (k, datum)
  rw [bucket, h] at hmade
  exact ⟨made, hmade⟩

/-! ## The network afterwards -/

/-- The edges of a planned network are those of its builder. -/
theorem edges_network (hkeys : b.edges.keys.Nodup) (now : Moment) (ss : List Signature) :
    ((b.plan now).network (ss.foldl addSignature b)).edges = b.edges.map fun entry =>
      (entry.1, (ss.filter fun s => decide (s.endpoints = entry.1)).foldl Edge.insert entry.2) := by
  simp only [Plan.network, plan, Table.keys, List.filterMap_map]
  rw [← List.filterMap_eq_map]
  refine List.filterMap_congr fun entry hentry => ?_
  rw [Function.comp_apply, find?_foldl_addSignature (Table.find?_of_mem hkeys hentry)]
  rfl

theorem network_congr (p : Plan) {b' : Builder} (h : b.edges = b'.edges) :
    p.network b = p.network b' := by
  rw [Plan.network, Plan.network, h]

/-- The network that a builder gave after some steps, as it is after later ones. -/
def networkAfter (before later : List Step) (now : Moment) : Network :=
  ((perform {} before).plan now).network ((perform {} before).perform later)

section

variable (before later : List Step) (now : Moment)

theorem edges_build_perform : ((perform {} before).build now).edges = (perform {} before).edges :=
  (edges_network (Reached.empty.perform before).nodup_keys now []).trans (by simp)

theorem edges_networkAfter : (networkAfter before later now).edges =
    ((perform {} before).build now).edges.map fun entry =>
      (entry.1, ((later.flatMap Step.signatures).filter fun s =>
        decide (s.endpoints = entry.1)).foldl Edge.insert entry.2) := by
  rw [edges_build_perform, ← edges_network (Reached.empty.perform before).nodup_keys now,
    networkAfter, network_congr _ (edges_perform _ later)]

/-- A network stays as it was exactly if each of its edges does. -/
theorem networkAfter_eq_iff : networkAfter before later now = (perform {} before).build now ↔
    ∀ entry ∈ ((perform {} before).build now).edges,
      ((later.flatMap Step.signatures).filter fun s =>
        decide (s.endpoints = entry.1)).foldl Edge.insert entry.2 = entry.2 := by
  have hedges : networkAfter before later now = (perform {} before).build now ↔
      (networkAfter before later now).edges = ((perform {} before).build now).edges :=
    ⟨congrArg Network.edges, fun h => (Network.mk.injEq ..).mpr ⟨rfl, h, rfl⟩⟩
  rw [hedges, edges_networkAfter]
  nth_rewrite 2 [← List.map_id ((perform {} before).build now).edges]
  rw [List.map_inj_left]
  simp only [id, Prod.ext_iff, true_and]

end

/-- Whatever a builder does after it has given a network: the network keeps its certificates and
its reference time, each of its edges takes in the signatures that arrive on it, and none is added.
So it stays as it was exactly if each signature that arrives on one of its edges is superseded
there. -/
theorem network_perform (before later : List Step) (now : Moment) :
    (networkAfter before later now).nodes = ((perform {} before).build now).nodes ∧
      (networkAfter before later now).referenceTime =
        ((perform {} before).build now).referenceTime ∧
      ((networkAfter before later now).edges =
        ((perform {} before).build now).edges.map fun entry =>
          (entry.1, ((later.flatMap Step.signatures).filter fun s =>
            decide (s.endpoints = entry.1)).foldl Edge.insert entry.2)) ∧
      (networkAfter before later now = (perform {} before).build now ↔
        ∀ s ∈ later.flatMap Step.signatures, ∀ e,
          ((perform {} before).build now).edge? s.issuer.fingerprint s.target.fingerprint =
            some e → s.Superseded (e.bucket s.userId)) := by
  refine ⟨rfl, rfl, edges_networkAfter before later now, ?_⟩
  rw [networkAfter_eq_iff, edges_build_perform]
  have hkeys := (Reached.empty.perform before).nodup_keys
  constructor
  · intro h s hs e he
    rw [Network.edge?, edges_build_perform] at he
    have hentry := h _ (Table.mem_of_find? he)
    refine ((current_of_find? he).foldl_insert_eq_iff _).mp hentry s ?_
    exact List.mem_filter.mpr ⟨hs, by simp [Signature.endpoints]⟩
  · intro h entry hentry
    have he := Table.find?_of_mem hkeys hentry
    refine ((current_of_find? he).foldl_insert_eq_iff _).mpr fun s hs => ?_
    obtain ⟨hs, hk⟩ := List.mem_filter.mp hs
    refine h s hs entry.2 ?_
    rw [Network.edge?, edges_build_perform, ← he, ← of_decide_eq_true hk]
    rfl

end Builder

/-! ### A certification withdrawn

`A` certifies a user ID of `C`, and a second later again, with no trust. -/

namespace Withdrawal

open Introduction

def before : List Builder.Step := [.addNode carol, .addSignature direct]

-- The amount below is written as a numeral.
local instance neZero_amounts : NeZero 256 := ⟨by decide⟩

def withdrawn : Signature :=
  { direct with created := ⟨1000000, some 0⟩, amount := 0 }

def later : List Builder.Step := [.addSignature withdrawn]

/-- What `A` authenticates of the user ID in a network. -/
def found (n : Network) : Option Int :=
  (Query.authenticate { network := n, roots := ⟨[(⟨"A"⟩, fullTrust)]⟩ } ⟨"C"⟩
    (.userId "carol@example.org") fullTrust).toOption.map (·.amount)

end Withdrawal

/-- The second certification shows in a network that was built before it arrived: in the edge, and
in what is authenticated. -/
theorem Builder.networkAfter_shows_later :
    (((perform {} Withdrawal.before).build Introduction.moment).edge? ⟨"A"⟩ ⟨"C"⟩).map
        (fun e => e.signatures.map (·.trust)) = some [30] ∧
      ((networkAfter Withdrawal.before Withdrawal.later Introduction.moment).edge? ⟨"A"⟩
        ⟨"C"⟩).map (fun e => e.signatures.map (·.trust)) = some [0] ∧
      Withdrawal.found ((perform {} Withdrawal.before).build Introduction.moment) = some 30 ∧
      Withdrawal.found (networkAfter Withdrawal.before Withdrawal.later Introduction.moment) =
        some 0 := by
  have hlater : networkAfter Withdrawal.before Withdrawal.later Introduction.moment =
      (((({} : Builder).addNode Introduction.carol).1).addSignature Withdrawal.withdrawn).build
        Introduction.moment := by
    decide +kernel
  rw [hlater]
  exact ⟨by decide +kernel, by decide +kernel, by cbv, by cbv⟩

end TrustWeb
