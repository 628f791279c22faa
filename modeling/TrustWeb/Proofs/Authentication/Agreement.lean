import TrustWeb.Proofs.Authentication.Balance

/-! # Authentications that agree

What is taken for a path depends on the path and on what was taken before, and on nothing else of a
residual. Two authentications whose searches report the same, whenever the same was taken from the
edges, therefore have the same outcome: the same paths with the same amounts, or the same fault. -/

namespace TrustWeb

/-! ## Taking an amount from edges -/

namespace Residual

theorem takeFromEdges_of_taken (r s : Residual) (amount : Int) (signatures : List Signature) :
    takeFromEdges { s with taken := r.taken } amount signatures =
      ({ s with taken := (r.takeFromEdges amount signatures).1.taken },
        (r.takeFromEdges amount signatures).2) := by
  induction signatures generalizing r with
  | nil => rfl
  | cons first rest ih =>
      have htaken : takenFrom { s with taken := r.taken } first.endpoints =
        r.takenFrom first.endpoints := rfl
      simp only [takeFromEdges, htaken]
      split
      · rfl
      · exact ih { r with
          taken := r.taken.put first.endpoints (r.takenFrom first.endpoints + amount) }

/-- What is taken for a path, and whether that fails, depends on what was taken before only. -/
theorem take_of_taken (r s : Residual) (p : Path) (amount : Int) :
    take { s with taken := r.taken } p amount =
      ({ s with taken := (r.take p amount).1.taken }, (r.take p amount).2) := by
  unfold take
  split
  · rfl
  · split
    · rfl
    · exact takeFromEdges_of_taken r s amount p.signatures

end Residual

/-! ## Authentications -/

namespace Query

/-- The authentications of a binding are allowed as many searches and start from the same roots.
Between two searches `Kept` holds of the residual and of the paths so far, and wherever it holds the
next search reports the same after the same was taken. -/
structure Agrees (q q' : Query) (f : Fingerprint) (subject : Subject)
    (Kept : Residual → Paths → Prop) : Prop where
  maxSearches : q'.maxSearches = q.maxSearches
  size : q'.network.edges.length = q.network.edges.length
  isRoot : ∀ g, q'.roots.isRoot g = q.roots.isRoot g
  start : Kept q.residual {}
  candidates : ∀ {r paths}, Kept r paths →
    (q'.searchIn { q'.residual with taken := r.taken } f subject).candidates =
      (q.searchIn r f subject).candidates
  kept : ∀ {r paths best next paths'}, Kept r paths → q.bestFrom r f subject = .ok (some best) →
    r.take best.path best.amount = (next, none) → paths.add best.path best.amount = .ok paths' →
      Kept next paths'

namespace Agrees

variable {q q' : Query} {f : Fingerprint} {subject : Subject} {Kept : Residual → Paths → Prop}
  (A : q.Agrees q' f subject Kept)

include A

theorem isSpent (searches : Nat) : q'.isSpent searches = q.isSpent searches := by
  rw [Query.isSpent, Query.isSpent, A.maxSearches]

theorem bestFrom {r : Residual} {paths : Paths} (h : Kept r paths) :
    q'.bestFrom { q'.residual with taken := r.taken } f subject = q.bestFrom r f subject := by
  have hcandidates := A.candidates h
  simp only [searchIn] at hcandidates
  simp only [Query.bestFrom, hcandidates, A.isRoot]

theorem collect (wanted : Int) (fuel searches : Nat) {r : Residual} {paths : Paths}
    (h : Kept r paths) :
    q'.collect f subject wanted fuel searches { q'.residual with taken := r.taken } paths =
      q.collect f subject wanted fuel searches r paths := by
  induction fuel generalizing searches r paths with
  | zero => rfl
  | succ fuel ih =>
      simp only [Query.collect, A.isSpent, A.bestFrom h]
      split
      · rfl
      · cases hbest : q.bestFrom r f subject with
        | error fault => rfl
        | ok best? =>
            cases best? with
            | none => rfl
            | some best =>
                dsimp only
                rw [Residual.take_of_taken r q'.residual]
                cases htake : r.take best.path best.amount with
                | mk next fault? =>
                    cases fault? with
                    | some fault => rfl
                    | none =>
                        cases hadd : paths.add best.path best.amount with
                        | error fault => rfl
                        | ok paths' => exact ih (searches + 1) (A.kept h hbest htake hadd)

/-- Authentications that agree have the same outcome. -/
theorem authenticate (wanted : Int) :
    q'.authenticate f subject wanted = q.authenticate f subject wanted := by
  have hstart : { q'.residual with taken := q.residual.taken } = q'.residual := by
    obtain ⟨caps, hr⟩ := q.residual_eq
    obtain ⟨caps', hr'⟩ := q'.residual_eq
    rw [hr, hr']
  have hcollect := A.collect wanted q.searchBound 0 A.start
  rw [hstart] at hcollect
  rw [Query.authenticate, Query.authenticate, searchBound, A.size]
  exact hcollect

end Agrees

end Query

end TrustWeb
