import Mathlib
import TrustWeb.Proofs.Path.Calls
import TrustWeb.Proofs.Web.Bindings

/-! # How paths come about

A path is built by offering signatures to a root, one after the other. The search builds its paths
like this, and so all paths of the bindings that queries give are built. -/

namespace TrustWeb

/-- The path is a root to which signatures were offered one after the other. -/
def Path.Built (p : Path) : Prop := ∃ root offers, p = offerAll { root } offers

/-- Every path of the binding was built. -/
def Binding.Built (b : Binding) : Prop := ∀ i ∈ b.paths.items, i.path.Built

theorem Path.built_start (root : Node) : Path.Built { root } := ⟨root, [], rfl⟩

theorem Path.Built.append {p p' : Path} {s : Signature} {mode : Mode} (h : p.Built)
    (hs : p.append s mode = .ok p') : p'.Built := by
  obtain ⟨root, offers, rfl⟩ := h
  refine ⟨root, offers ++ [(s, mode)], ?_⟩
  rw [offerAll, List.foldl_append]
  exact (congrArg Prod.snd (offer_eq_ok_iff.mpr hs)).symm

theorem Path.Built.regular {p : Path} (h : p.Built) : p.Regular := by
  obtain ⟨root, offers, rfl⟩ := h
  exact (regular_start root).offerAll offers

namespace Search

variable {q : Search} {labels : Table Fingerprint Label}

theorem built_of_follow {fuel : Nat} {p p' : Path} {s : Option Signature}
    (h : q.follow labels fuel p s = .ok p') (hp : p.Built) : p'.Built := by
  induction fuel generalizing p s with
  | zero =>
      obtain rfl : p = p' := by simpa [follow] using h
      exact hp
  | succ fuel ih =>
      cases s with
      | none =>
          obtain rfl : p = p' := by simpa [follow] using h
          exact hp
      | some s =>
          rw [follow] at h
          split at h
          · cases h
          · next p'' happend =>
              have hp'' := hp.append happend
              dsimp only at h
              split at h
              · obtain rfl := Except.ok.inj h
                exact hp''
              · exact ih h hp''

theorem built_of_candidatesFrom {fs : List Fingerprint} {found : List Candidate}
    (h : q.candidatesFrom labels fs = .ok found) : ∀ c ∈ found, c.path.Built := by
  induction fs generalizing found with
  | nil =>
      cases h
      nofun
  | cons f rest ih =>
      rw [candidatesFrom] at h
      split at h
      · next s cost _ =>
          split at h
          · exact ih h
          · split at h
            · cases h
            · next path hpath =>
                obtain ⟨others, hothers, rfl⟩ := map_eq_ok_iff.mp h
                exact List.forall_mem_cons.mpr
                  ⟨built_of_follow hpath (Path.built_start s.issuer), ih hothers⟩
      · exact ih h

theorem built_of_candidates {found : List Candidate} (h : q.candidates = .ok found) :
    ∀ c ∈ found, c.path.Built := by
  unfold candidates at h
  split at h
  · cases h
  · cases h
    nofun
  · split at h
    · cases h
    · exact built_of_candidatesFrom h

end Search

namespace Query

variable {q : Query} {f : Fingerprint} {subject : Subject} {wanted : Int} {last : Paths}

theorem built_of_bestFrom {r : Residual} {best : Candidate}
    (h : q.bestFrom r f subject = .ok (some best)) : best.path.Built := by
  obtain ⟨found, hfound, hbest⟩ := map_eq_ok_iff.mp h
  exact Search.built_of_candidates hfound best
    (List.mem_of_mem_filter (Candidate.mem_of_best? hbest))

theorem built_of_collect {fuel searches : Nat} {r : Residual} {ps : Paths}
    (h : q.collect f subject wanted fuel searches r ps = .ok last)
    (hps : ∀ i ∈ ps.items, i.path.Built) : ∀ i ∈ last.items, i.path.Built := by
  induction fuel generalizing searches r ps with
  | zero =>
      obtain rfl := Except.ok.inj h
      exact hps
  | succ fuel ih =>
      rw [collect] at h
      split at h
      · obtain rfl := Except.ok.inj h
        exact hps
      · split at h
        · cases h
        · obtain rfl := Except.ok.inj h
          exact hps
        · next best hbest =>
            split at h
            · cases h
            · split at h
              · cases h
              · next ps' hadd =>
                  refine ih h ?_
                  unfold Paths.add at hadd
                  split at hadd
                  · cases hadd
                  · obtain rfl := Except.ok.inj hadd
                    exact List.forall_mem_append.mpr
                      ⟨hps, List.forall_mem_singleton.mpr (built_of_bestFrom hbest)⟩

end Query

/-- The paths of bindings that queries give are built. -/
theorem Web.Gives.built {w : Web} {b : Binding} (h : w.Gives b) : b.Built := by
  intro i hi
  obtain ⟨f, subject, hpaths⟩ := h.authenticated (List.ne_nil_of_mem hi)
  exact Query.built_of_collect hpaths nofun i hi

end TrustWeb
