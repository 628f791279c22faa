import TrustWeb.Proofs.Authentication.Lockstep
import TrustWeb.Proofs.Network.Arrival
import TrustWeb.Proofs.Residual.Offers

/-! # The order of arrival does not matter

In networks that hold the same signatures up to sameness, a search is offered signatures with the
same keys in the same order. Signatures with one key differ at most in depth, scope and dates; those
of them that lead to the target do so at the same cost. Authentications therefore show the same, in
whatever order the network was put together. -/

namespace TrustWeb

/-! ## What is offered -/

namespace Search

variable {q : Search} {f : Fingerprint} {cost : Cost}

theorem leadsOn_core (s : Signature) : q.leadsOn f cost s.core = q.leadsOn f cost s := rfl

/-- Signatures with one key that lead to the target lead there at one cost. -/
theorem costVia?_of_key {s t : Signature} (h : s.key = t.key) (hs : q.leadsOn f cost s = true)
    (ht : q.leadsOn f cost t = true) : q.costVia? f cost s = q.costVia? f cost t := by
  obtain ⟨c, hc⟩ := Option.isSome_iff_exists.mp hs
  obtain ⟨d, hd⟩ := Option.isSome_iff_exists.mp ht
  have hbinding : q.certifiesBinding f s = q.certifiesBinding f t := by
    rw [certifiesBinding, certifiesBinding,
      Signature.userId_of_outline (Signature.outline_of_key h)]
  obtain ⟨-, hc'⟩ := costVia?_eq_some_iff.mp hc
  obtain ⟨-, hd'⟩ := costVia?_eq_some_iff.mp hd
  rw [hbinding, Residual.left_of_key h] at hc'
  rw [hc, hd]
  rcases hc' with ⟨hs, rfl⟩ | ⟨hs, -, -, rfl⟩
  · rcases hd' with ⟨-, rfl⟩ | ⟨ht, -⟩
    · rfl
    · simp [hs] at ht
  · rcases hd' with ⟨ht, -⟩ | ⟨-, -, -, rfl⟩
    · simp [hs] at ht
    · rfl

theorem forall₂_of_key {ss ts : List Signature} (h : ss.map Signature.key = ts.map Signature.key)
    (hss : ∀ s ∈ ss, q.leadsOn f cost s = true) (hts : ∀ t ∈ ts, q.leadsOn f cost t = true) :
    List.Forall₂ (fun s t => s.outline = t.outline ∧ q.costVia? f cost s = q.costVia? f cost t)
      ss ts := by
  induction ss generalizing ts with
  | nil =>
      obtain rfl : ts = [] := by simpa using h.symm
      exact .nil
  | cons s rest ih =>
      cases ts with
      | nil => cases h
      | cons t rest' =>
          obtain ⟨hkey, hrest⟩ := List.cons.inj h
          obtain ⟨hs, hss⟩ := List.forall_mem_cons.mp hss
          obtain ⟨ht, hts⟩ := List.forall_mem_cons.mp hts
          exact .cons ⟨Signature.outline_of_key hkey, costVia?_of_key hkey hs ht⟩
            (ih hrest hss hts)

/-- Searches in networks that hold the same signatures, up to sameness, are offered the same. -/
theorem mirrors_of_perm {r : Residual} (hkeys : q.residual.network.WellKeyed)
    (hkeys' : r.network.WellKeyed)
    (hperm : (q.residual.network.signatures.map Signature.core).Perm
      (r.network.signatures.map Signature.core))
    (hmode : r.mode = q.residual.mode) (A : q.residual.Alike r) :
    q.Mirrors { q with residual := r } := by
  refine ⟨rfl, rfl, rfl, A, fun f cost ss ss' hss hss' => ?_⟩
  have hcost : costVia? { q with residual := r } f cost = q.costVia? f cost := by
    funext s
    simp only [costVia?, A.left, hmode]
    rfl
  have hleads : leadsOn { q with residual := r } f cost = q.leadsOn f cost := by
    funext s
    rw [leadsOn, leadsOn, hcost]
  have hoffers : r.offers f q.subject = q.residual.offers f q.subject := by
    funext k s
    simp only [Residual.offers, Residual.admits, hmode]
    rfl
  have hcores : ((ss.filter (q.leadsOn f cost)).map Signature.core).Perm
      ((ss'.filter (q.leadsOn f cost)).map Signature.core) := by
    refine (Residual.map_core_signaturesOn hkeys hss leadsOn_core).trans (.trans ?_
      (Residual.map_core_signaturesOn hkeys' hss' leadsOn_core).symm)
    simp only [hoffers]
    exact (hperm.filter _).filter _
  have hkeysPerm := hcores.map Signature.key
  rw [List.map_map, List.map_map, show Signature.key ∘ Signature.core = Signature.key from rfl]
    at hkeysPerm
  have hkeysEq := Signature.map_key_eq_of_perm hkeysPerm
    ((Residual.ordered_signaturesOn hss).filter _) ((Residual.ordered_signaturesOn hss').filter _)
  rw [OfferSame, hcost, hleads]
  exact forall₂_of_key hkeysEq (fun s hs => (List.mem_filter.mp hs).2)
    fun s hs => (List.mem_filter.mp hs).2

end Search

/-! ## Authentications -/

namespace Query

variable {q : Query} {n : Network}

theorem mirrors_of_perm (hkeys : q.network.WellKeyed) (hkeys' : n.WellKeyed)
    (hperm : (q.network.signatures.map Signature.core).Perm (n.signatures.map Signature.core))
    (hnode : ∀ f, n.node? f = q.network.node? f)
    (htime : n.referenceTime = q.network.referenceTime) (f : Fingerprint) (subject : Subject) :
    q.Mirrors { q with network := n } f subject := by
  refine ⟨rfl, rfl, fun taken taken' htaken => ?_⟩
  have hleft : ∀ s, Residual.left { residual { q with network := n } with taken := taken' } s =
      Residual.left { q.residual with taken } s := fun s => by
    refine Residual.left_congr ?_ (htaken s.endpoints)
    rw [residual_of_network]
    rfl
  refine Search.mirrors_of_perm ?_ ?_ ?_ ?_ ⟨?_, ?_, hleft⟩ <;> simp [searchIn, *]

/-- In whatever order certificates, none of them with the fingerprint of another, and signatures
arrive at a builder: in the network that it gives an authentication for a user ID shows the same
certificates and amounts. -/
theorem authenticate_arrival {cs cs' : List Contribution} (hperm : cs.Perm cs')
    (hdistinct : ((Contribution.certificates cs).map (·.fingerprint)).Nodup)
    (hsearchable : ∀ s ∈ Contribution.signatures cs, ∀ e ∈ s.scope.expressions, ∀ text : String,
      ∃ found, Scope.finds e (.userId text) = .ok found)
    (referenceTime now now' : Moment) (roots : Roots) (mode : Mode) (maxSearches : Option Int)
    (f : Fingerprint) (userId : String) (wanted : Int) :
    ∃ paths paths',
      authenticate ⟨.assemble cs referenceTime now, roots, mode, maxSearches⟩ f (.userId userId)
        wanted = .ok paths ∧
      authenticate ⟨.assemble cs' referenceTime now', roots, mode, maxSearches⟩ f (.userId userId)
        wanted = .ok paths' ∧
      paths.shown = paths'.shown := by
  have hkeys := Network.wellKeyed_assemble referenceTime now cs
  have hkeys' := Network.wellKeyed_assemble referenceTime now' cs'
  have hscopes : (Network.assemble cs referenceTime now).Searchable := fun s hs =>
    hsearchable s (Network.mem_signatures_assemble _ _ hs)
  have hscopes' : (Network.assemble cs' referenceTime now').Searchable := fun s hs =>
    hsearchable s ((hperm.filterMap _).mem_iff.mpr (Network.mem_signatures_assemble _ _ hs))
  obtain ⟨paths, hpaths⟩ := exists_authenticate
    (q := ⟨.assemble cs referenceTime now, roots, mode, maxSearches⟩) hkeys hscopes f userId wanted
  obtain ⟨paths', hpaths'⟩ := exists_authenticate
    (q := ⟨.assemble cs' referenceTime now', roots, mode, maxSearches⟩) hkeys' hscopes' f userId
    wanted
  have M := mirrors_of_perm (q := ⟨.assemble cs referenceTime now, roots, mode, maxSearches⟩)
    hkeys hkeys' (Network.signatures_assemble_perm referenceTime now now' hperm)
    (Network.node?_assemble_of_perm referenceTime now now' hperm hdistinct) rfl f (.userId userId)
  exact ⟨paths, paths', hpaths, hpaths', M.authenticate hkeys hkeys' hpaths hpaths'⟩

end Query

namespace Introduction

def contributions : List Contribution :=
  [.certificate carol, .signature direct, .signature delegation, .signature introduced]

theorem searchable_contributions : ∀ s ∈ Contribution.signatures contributions,
    ∀ e ∈ s.scope.expressions, ∀ text : String,
      ∃ found, Scope.finds e (.userId text) = .ok found :=
  fun s hs => searchable s (signatures_eq ▸ hs)

end Introduction

theorem Query.authenticate_arrival_introduction :
    Introduction.contributions.Perm Introduction.contributions.reverse ∧
      ((Contribution.certificates Introduction.contributions).map (·.fingerprint)).Nodup ∧
      (∀ s ∈ Contribution.signatures Introduction.contributions, ∀ e ∈ s.scope.expressions,
        ∀ text : String, ∃ found, Scope.finds e (.userId text) = .ok found) ∧
      ∃ paths paths',
        authenticate ⟨.assemble Introduction.contributions Introduction.moment Introduction.moment,
          ⟨[(⟨"A"⟩, fullTrust)]⟩, .authentication, none⟩ ⟨"C"⟩ (.userId "carol@example.org") 120 =
            .ok paths ∧
        authenticate ⟨.assemble Introduction.contributions.reverse Introduction.moment
          Introduction.moment, ⟨[(⟨"A"⟩, fullTrust)]⟩, .authentication, none⟩ ⟨"C"⟩
            (.userId "carol@example.org") 120 = .ok paths' ∧
        paths.shown = paths'.shown ∧ paths.shown.map (·.2) = [30, 60] := by
  have hperm : Introduction.contributions.Perm Introduction.contributions.reverse :=
    (List.reverse_perm _).symm
  have hdistinct :
      ((Contribution.certificates Introduction.contributions).map (·.fingerprint)).Nodup := by
    decide
  have hamounts : (authenticate ⟨.assemble Introduction.contributions Introduction.moment
      Introduction.moment, ⟨[(⟨"A"⟩, fullTrust)]⟩, .authentication, none⟩ ⟨"C"⟩
      (.userId "carol@example.org") 120).toOption.map (·.shown.map (·.2)) = some [30, 60] := by
    cbv
  obtain ⟨paths, paths', hpaths, hpaths', hshown⟩ := Query.authenticate_arrival hperm hdistinct
    Introduction.searchable_contributions Introduction.moment Introduction.moment
    Introduction.moment ⟨[(⟨"A"⟩, fullTrust)]⟩ .authentication none ⟨"C"⟩ "carol@example.org" 120
  exact ⟨hperm, hdistinct, Introduction.searchable_contributions, paths, paths', hpaths, hpaths',
    hshown, by simpa [hpaths, Except.toOption] using hamounts⟩

end TrustWeb
