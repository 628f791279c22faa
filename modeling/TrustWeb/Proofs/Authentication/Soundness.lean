import TrustWeb.Proofs.Authentication.Run

/-! # What the paths of an authentication show and carry

Every path leads from a root over a chain that shows the binding. The paths together carry no more
over an edge than any signature on it is good for, and than a partially trusted root passes on. -/

namespace TrustWeb

namespace Query

variable {q : Query} {f : Fingerprint} {subject : Subject} {wanted : Int} {paths : Paths}

/-! ## Chains -/

/-- A recorded path leads from a root over a chain that shows the binding, and has an amount. -/
structure Shows (q : Query) (f : Fingerprint) (subject : Subject) (i : PathItem) : Prop where
  rooted : q.roots.isRoot i.path.root.fingerprint = true
  connected : Connects i.path.root.fingerprint i.path.signatures f
  chain : ∃ c, (q.searchIn q.residual f subject).Supports i.path.root.fingerprint c ∧
    i.path.signatures = c.signatures
  positive : 1 ≤ i.amount

theorem Balanced.shows {r : Residual} {ps : Paths} {best : Candidate} (B : q.Balanced r ps)
    (hkeys : q.network.WellKeyed) (hroot : q.roots.isRoot best.start = true)
    (hsound : (q.searchIn r f subject).Sound best) :
    q.Shows f subject ⟨best.path, best.amount⟩ := by
  obtain ⟨c, hc, hsignatures⟩ := hsound.chain
  rw [← hsound.root] at hc hroot
  refine ⟨hroot, ?_, ⟨c, B.supports hc, hsignatures⟩, hsound.positive⟩
  rw [hsignatures]
  exact hc.connects (B.wellKeyed hkeys)

theorem Collects.shows {r : Residual} {ps last : Paths} {searches : Nat}
    (h : q.Collects f subject wanted searches r ps last) (hkeys : q.network.WellKeyed)
    (B : q.Balanced r ps) (hps : ∀ i ∈ ps.items, q.Shows f subject i) :
    ∀ i ∈ last.items, q.Shows f subject i := by
  refine h.forall_items hkeys B hps fun r ps found best B hreports hbest => ?_
  obtain ⟨hroot, hsound⟩ := B.sound hkeys hreports hbest
  exact B.shows hkeys hroot hsound

/-- Nothing is collected for a binding that may not be authenticated. -/
theorem Collects.eq_nil {r : Residual} {ps last : Paths} {searches : Nat}
    (h : q.Collects f subject wanted searches r ps last)
    (hnone : r.validTarget? f subject = .ok none) : last = ps := by
  cases h with
  | reached _ => rfl
  | spent _ _ => rfl
  | exhausted _ _ _ _ => rfl
  | add _ _ hreports hbest _ _ _ =>
      rw [hreports.eq_nil hnone] at hbest
      cases hbest

/-- An authentication for a user ID gives paths, each of which leads from a root over a chain that
shows the binding, and no path at all for a binding that may not be authenticated. -/
theorem authenticate_sound (hkeys : q.network.WellKeyed) (hsearchable : q.network.Searchable)
    (f : Fingerprint) (userId : String) (wanted : Int) :
    ∃ paths, q.authenticate f (.userId userId) wanted = .ok paths ∧
      (∀ i ∈ paths.items, q.Shows f (.userId userId) i) ∧
      ((∀ n, ¬q.residual.Valid f userId n) → paths.items = []) := by
  obtain ⟨paths, hpaths⟩ := exists_authenticate hkeys hsearchable f userId wanted
  have hcollects := collects_of_authenticate hkeys hpaths
  refine ⟨paths, hpaths, hcollects.shows hkeys q.balanced_start (by simp), fun hinvalid => ?_⟩
  rcases q.residual.validTarget?_cases f userId with ⟨n, -, hn⟩ | ⟨hnone, -⟩
  · exact (hinvalid n hn).elim
  · rw [hcollects.eq_nil hnone]

theorem authenticate_sound_introduction :
    Introduction.query.network.WellKeyed ∧ Introduction.query.network.Searchable ∧
      ∃ paths, Introduction.query.authenticate ⟨"C"⟩ (.userId "carol@example.org") 90 = .ok paths ∧
        (∀ i ∈ paths.items, Introduction.query.Shows ⟨"C"⟩ (.userId "carol@example.org") i) ∧
        paths.amount = 90 := by
  have hamount : (Introduction.query.authenticate ⟨"C"⟩ (.userId "carol@example.org")
      90).toOption.map (·.amount) = some 90 := by cbv
  obtain ⟨paths, hpaths, hshows, -⟩ := authenticate_sound (q := Introduction.query)
    Introduction.wellKeyed Introduction.searchable ⟨"C"⟩ "carol@example.org" 90
  exact ⟨Introduction.wellKeyed, Introduction.searchable, paths, hpaths, hshows,
    by simpa [hpaths, Except.toOption] using hamount⟩

/-! ## Amounts -/

/-- At every path, the paths up to it carry no more over the edge of any of its signatures than the
signature has within full trust and the cap of its issuer. -/
def WithinAmounts (q : Query) (ps : Paths) : Prop :=
  ∀ j i, ps.items[j]? = some i → ∀ s ∈ i.path.signatures,
    Paths.carried ⟨ps.items.take (j + 1)⟩ s.endpoints ≤ q.residual.cappedAmount s

theorem Balanced.withinAmounts_concat {r : Residual} {ps : Paths} {best : Candidate}
    (B : q.Balanced r ps) (hps : q.WithinAmounts ps)
    (hsound : (q.searchIn r f subject).Sound best) :
    q.WithinAmounts ⟨ps.items ++ [⟨best.path, best.amount⟩]⟩ := by
  intro j i hi s hs
  rcases Nat.lt_or_ge j ps.items.length with hj | hj
  · rw [List.getElem?_append_left hj] at hi
    rw [List.take_append_of_le_length (by omega)]
    exact hps j i hi s hs
  · rw [List.getElem?_append_right hj] at hi
    obtain ⟨hzero, rfl⟩ : j - ps.items.length = 0 ∧ ⟨best.path, best.amount⟩ = i := by
      simpa [List.getElem?_singleton] using hi
    rw [List.take_of_length_le (by simp; omega), Paths.carried_concat,
      if_pos (List.mem_map_of_mem hs)]
    exact B.carried_le hsound hs

/-- No free trust: at every path, the paths up to it carry no more over the edge of any of its
signatures than the amount of that signature, than full trust, and in authentication mode than the
amount of a root that issued it, unless that is full trust. Over all paths no edge carries more than
full trust. -/
theorem authenticate_carried (hkeys : q.network.WellKeyed)
    (h : q.authenticate f subject wanted = .ok paths) :
    (∀ j i, paths.items[j]? = some i → ∀ s ∈ i.path.signatures,
      Paths.carried ⟨paths.items.take (j + 1)⟩ s.endpoints ≤ min s.trust fullTrust ∧
      (q.mode = .authentication → ∀ amount, q.roots.amount? s.issuer.fingerprint = some amount →
        amount ≠ fullTrust →
          Paths.carried ⟨paths.items.take (j + 1)⟩ s.endpoints ≤ amount)) ∧
      ∀ k, paths.carried k ≤ fullTrust := by
  obtain ⟨hwithin, r, B⟩ := (collects_of_authenticate hkeys h).preserves (P := q.WithinAmounts)
    hkeys q.balanced_start (by simp [WithinAmounts])
    fun r ps best B hps _ hsound => B.withinAmounts_concat hps hsound
  refine ⟨fun j i hi s hs => ?_, B.within⟩
  have hle := hwithin j i hi s hs
  refine ⟨hle.trans (Residual.cappedAmount_le_min _ s), fun hmode amount hroot hne => ?_⟩
  exact hle.trans (Residual.cappedAmount_le_cap (find?_caps_residual hmode hroot hne))

theorem authenticate_carried_introduction :
    Introduction.query.network.WellKeyed ∧
      ∃ paths, Introduction.query.authenticate ⟨"C"⟩ (.userId "carol@example.org") 120 = .ok paths ∧
        paths.items.length = 2 ∧ ∀ k, paths.carried k ≤ fullTrust := by
  have hlength : (Introduction.query.authenticate ⟨"C"⟩ (.userId "carol@example.org")
      120).toOption.map (·.items.length) = some 2 := by cbv
  obtain ⟨paths, hpaths, htwo⟩ := exists_ok_of_toOption hlength
  exact ⟨Introduction.wellKeyed, paths, hpaths, htwo,
    (authenticate_carried Introduction.wellKeyed hpaths).2⟩

end Query

end TrustWeb
