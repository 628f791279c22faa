import TrustWeb.Proofs.Authentication.Lockstep

/-! # Certification mode

Certification mode takes every signature as a delegation without limits. From roots that are trusted
outright, it does what authentication mode does in the network in which no signature is limited in
depth or scope. -/

namespace TrustWeb

/-! ## Networks without limits -/

/-- The signature as a delegation over any number of hops, to all user IDs. -/
def Signature.unlimited (s : Signature) : Signature :=
  { s with depth := .unconstrained, scope := .wildcard }

def Edge.unlimited (e : Edge) : Edge :=
  { e with
    delegations := e.delegations.map Signature.unlimited
    certifications := e.certifications.mapValues (List.map Signature.unlimited) }

/-- The network in which no signature is limited in depth or scope. -/
def Network.unlimited (n : Network) : Network :=
  { n with edges := n.edges.mapValues Edge.unlimited }

@[simp] theorem Signature.outline_unlimited (s : Signature) : s.unlimited.outline = s.outline := rfl

@[simp] theorem Signature.belowNumber_unlimited (s : Signature) (k : Int) :
    s.unlimited.depth.belowNumber k = false := rfl

@[simp] theorem Signature.covers_unlimited (s : Signature) (subject : Subject) :
    s.unlimited.scope.covers subject = .ok true := rfl

@[simp] theorem Edge.signatures_unlimited (e : Edge) :
    e.unlimited.signatures = e.signatures.map Signature.unlimited := by
  simp [Edge.signatures, Edge.unlimited, Table.mapValues, List.flatMap_map, List.map_flatMap]

theorem Signature.sorted_unlimited (ss : List Signature) :
    Signature.sorted (ss.map Signature.unlimited) = (Signature.sorted ss).map Signature.unlimited :=
  (List.map_mergeSort (f := Signature.unlimited) fun _ _ _ _ => rfl).symm

namespace Network

variable {n : Network}

theorem edgesTo_unlimited (f : Fingerprint) :
    n.unlimited.edgesTo f = (n.edgesTo f).map Edge.unlimited :=
  n.edgesTo_mapValues Edge.unlimited f

@[simp] theorem signatures_unlimited :
    n.unlimited.signatures = n.signatures.map Signature.unlimited := by
  simp [signatures, unlimited, Table.mapValues, List.flatMap_map, List.map_flatMap]

theorem WellKeyed.unlimited (h : n.WellKeyed) : n.unlimited.WellKeyed := by
  refine ⟨h.nodes, fun entry hentry s hs => ?_⟩
  obtain ⟨⟨k, e⟩, he, rfl⟩ := List.mem_map.mp hentry
  rw [Edge.signatures_unlimited] at hs
  obtain ⟨t, ht, rfl⟩ := List.mem_map.mp hs
  exact h.edges _ he t ht

theorem searchable_unlimited (n : Network) : n.unlimited.Searchable := by
  intro s hs e he
  rw [signatures_unlimited] at hs
  obtain ⟨t, -, rfl⟩ := List.mem_map.mp hs
  cases he

end Network

/-! ## What is offered -/

namespace Residual

variable {r : Residual} {f : Fingerprint} {subject : Subject} {k : Int} {ss : List Signature}

/-- Certification mode offers all signatures on a certificate. -/
theorem signaturesOn_certification (hmode : r.mode = .certification)
    (h : r.signaturesOn f subject k = .ok ss) :
    ss = Signature.sorted ((r.network.edgesTo f).flatMap (·.signatures)) := by
  rw [signaturesOn_eq h, List.filter_eq_self.mpr]
  intro s _
  simp [admits, hmode]

/-- So does authentication mode where no signature is limited. -/
theorem signaturesOn_unlimited {n : Network} (hnetwork : r.network = n.unlimited)
    (h : r.signaturesOn f subject k = .ok ss) :
    ss = (Signature.sorted ((n.edgesTo f).flatMap (·.signatures))).map Signature.unlimited := by
  have hall : (n.unlimited.edgesTo f).flatMap (·.signatures) =
      ((n.edgesTo f).flatMap (·.signatures)).map Signature.unlimited := by
    simp [Network.edgesTo_unlimited, List.flatMap_map, List.map_flatMap]
  rw [signaturesOn_eq h, hnetwork, hall, List.filter_eq_self.mpr, Signature.sorted_unlimited]
  intro s hs
  obtain ⟨t, -, rfl⟩ := List.mem_map.mp hs
  cases hmode : r.mode <;> simp [admits, hmode]

end Residual

namespace Search

variable {q : Search} {r : Residual}

theorem costVia?_unlimited (hmode : q.residual.mode = .certification)
    (hleft : ∀ s, r.left s = q.residual.left s) (f : Fingerprint) (cost : Cost) (s : Signature) :
    costVia? { q with residual := r } f cost s.unlimited = q.costVia? f cost s := by
  have hown : r.left s.unlimited = q.residual.left s := hleft s
  have hbinding : certifiesBinding { q with residual := r } f s.unlimited =
      q.certifiesBinding f s := rfl
  simp [costVia?, hown, hbinding, hmode]

/-- A search in certification mode is offered what a search in authentication mode is offered where
no signature is limited. -/
theorem mirrors_unlimited (hmode : q.residual.mode = .certification)
    (hnetwork : r.network = q.residual.network.unlimited)
    (hleft : ∀ s, r.left s = q.residual.left s) : q.Mirrors { q with residual := r } := by
  refine ⟨rfl, rfl, rfl, ⟨fun f => ?_, ?_, hleft⟩, fun f cost ss ss' hss hss' => ?_⟩
  · rw [hnetwork]
    rfl
  · rw [hnetwork]
    rfl
  · have hcost := costVia?_unlimited hmode hleft f cost
    have hleads : leadsOn { q with residual := r } f cost ∘ Signature.unlimited =
        q.leadsOn f cost := funext fun s => congrArg Option.isSome (hcost s)
    rw [OfferSame, Residual.signaturesOn_certification hmode hss,
      Residual.signaturesOn_unlimited hnetwork hss', List.filter_map, hleads,
      List.forall₂_map_right_iff, List.forall₂_same]
    exact fun s _ => ⟨rfl, (hcost s).symm⟩

end Search

/-! ## Authentications -/

namespace Query

variable {q : Query}

/-- The query in authentication mode where no signature is limited. -/
def unlimited (q : Query) : Query :=
  { q with network := q.network.unlimited, mode := .authentication }

/-- Roots that are trusted outright are not capped below full trust. -/
theorem cappedAmount_of_full (hfull : ∀ f amount, q.roots.amount? f = some amount →
    fullTrust ≤ amount) (s : Signature) : q.residual.cappedAmount s = min s.trust fullTrust := by
  rw [cappedAmount_residual]
  split
  · next hroot => exact Int.min_eq_left ((Int.min_le_right _ _).trans (hfull _ _ hroot))
  · rfl

theorem mirrors_unlimited (hmode : q.mode = .certification)
    (hfull : ∀ f amount, q.roots.amount? f = some amount → fullTrust ≤ amount) (f : Fingerprint)
    (subject : Subject) : q.Mirrors q.unlimited f subject := by
  refine ⟨rfl, rfl, fun taken taken' htaken => ?_⟩
  refine Search.mirrors_unlimited (q.mode_residual.trans hmode) ?_ fun s => ?_
  · simp [searchIn, unlimited]
  · refine Residual.left_congr ?_ (htaken s.endpoints)
    exact (cappedAmount_of_full (q := q.unlimited) hfull s).trans
      (cappedAmount_of_full hfull s).symm

/-- From roots that are all trusted outright, certification mode gives the paths and amounts that
authentication mode gives where no signature is limited in depth or scope. -/
theorem authenticate_unlimited (hkeys : q.network.WellKeyed) (hsearchable : q.network.Searchable)
    (hmode : q.mode = .certification)
    (hfull : ∀ f amount, q.roots.amount? f = some amount → fullTrust ≤ amount) (f : Fingerprint)
    (userId : String) (wanted : Int) :
    ∃ paths paths', q.authenticate f (.userId userId) wanted = .ok paths ∧
      q.unlimited.authenticate f (.userId userId) wanted = .ok paths' ∧
        paths.shown = paths'.shown := by
  obtain ⟨paths, hpaths⟩ := exists_authenticate hkeys hsearchable f userId wanted
  obtain ⟨paths', hpaths'⟩ := exists_authenticate (q := q.unlimited) hkeys.unlimited
    q.network.searchable_unlimited f userId wanted
  exact ⟨paths, paths', hpaths, hpaths',
    (mirrors_unlimited hmode hfull f _).authenticate hkeys hkeys.unlimited hpaths hpaths'⟩

end Query

namespace Introduction

/-- An authentication from `A` in certification mode. -/
def certificationQuery : Query where
  network := network
  roots := ⟨[(⟨"A"⟩, fullTrust)]⟩
  mode := .certification

theorem fullTrust_le (f : Fingerprint) (amount : Int)
    (h : certificationQuery.roots.amount? f = some amount) : fullTrust ≤ amount := by
  have hmem : (f, amount) ∈ certificationQuery.roots.amounts := Table.mem_of_find? h
  obtain ⟨-, rfl⟩ : f = ⟨"A"⟩ ∧ amount = fullTrust := by simpa [certificationQuery] using hmem
  exact Int.le_refl _

end Introduction

theorem Query.authenticate_unlimited_introduction :
    Introduction.certificationQuery.network.WellKeyed ∧
      Introduction.certificationQuery.network.Searchable ∧
      Introduction.certificationQuery.mode = .certification ∧
      (∀ f amount, Introduction.certificationQuery.roots.amount? f = some amount →
        fullTrust ≤ amount) ∧
      ∃ paths paths', Introduction.certificationQuery.authenticate ⟨"C"⟩
          (.userId "carol@example.org") 120 = .ok paths ∧
        Introduction.certificationQuery.unlimited.authenticate ⟨"C"⟩
          (.userId "carol@example.org") 120 = .ok paths' ∧
        paths.shown = paths'.shown ∧ paths.shown.map (·.2) = [30, 60] := by
  have hamounts : (Introduction.certificationQuery.authenticate ⟨"C"⟩
      (.userId "carol@example.org") 120).toOption.map (·.shown.map (·.2)) = some [30, 60] := by
    cbv
  obtain ⟨paths, paths', hpaths, hpaths', hshown⟩ := Query.authenticate_unlimited
    (q := Introduction.certificationQuery) Introduction.wellKeyed Introduction.searchable rfl
    Introduction.fullTrust_le ⟨"C"⟩ "carol@example.org" 120
  exact ⟨Introduction.wellKeyed, Introduction.searchable, rfl, Introduction.fullTrust_le, paths,
    paths', hpaths, hpaths', hshown, by simpa [hpaths, Except.toOption] using hamounts⟩

end TrustWeb
