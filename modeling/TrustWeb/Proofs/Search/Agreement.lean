import TrustWeb.Search

/-! # Searches that agree

A search reads the signatures of a network only when it looks at a certificate. Two searches for one
binding that start alike, and in which each look has the same outcome, report the same: chains with
the same signatures, or the same fault. It is enough that looks agree in the states that a search
comes to. -/

namespace TrustWeb

namespace Search

/-- The searches look for the same binding from the same roots and start alike. Between two looks
`Kept` holds of the state, and wherever it holds the next look has the same outcome. -/
structure Agrees (q q' : Search) (Kept : Progress → Prop) : Prop where
  target : q'.target = q.target
  subject : q'.subject = q.subject
  mode : q'.residual.mode = q.residual.mode
  size : q'.residual.network.edges.length = q.residual.network.edges.length
  isEmpty : q'.roots.isEmpty = q.roots.isEmpty
  isRoot : ∀ f, q'.roots.isRoot f = q.roots.isRoot f
  valid : q'.residual.validTarget? q'.target q'.subject =
    q.residual.validTarget? q.target q.subject
  seed : q'.seed = q.seed
  start : Kept q.seed
  lookAt : ∀ {p f cost rest}, Kept p → p.frontier.pop? = some ((f, cost), rest) →
    q'.lookAt f { p with frontier := rest } = q.lookAt f { p with frontier := rest }
  kept : ∀ {p f cost rest next}, Kept p → p.frontier.pop? = some ((f, cost), rest) →
    q.lookAt f { p with frontier := rest } = .ok next → Kept next

namespace Agrees

variable {q q' : Search} {Kept : Progress → Prop} (A : q.Agrees q' Kept)

include A

theorem certifiesBinding (f : Fingerprint) (s : Signature) :
    q'.certifiesBinding f s = q.certifiesBinding f s := by
  rw [Search.certifiesBinding, Search.certifiesBinding, A.subject, A.target]

theorem follow (labels : Table Fingerprint Label) (fuel : Nat) (path : Path)
    (via : Option Signature) :
    q'.follow labels fuel path via = q.follow labels fuel path via := by
  induction fuel generalizing path via with
  | zero => simp only [Search.follow]
  | succ fuel ih =>
      cases via with
      | none => rfl
      | some s => simp only [Search.follow, A.mode, A.certifiesBinding, ih]

theorem candidatesFrom (labels : Table Fingerprint Label) (fs : List Fingerprint) :
    q'.candidatesFrom labels fs = q.candidatesFrom labels fs := by
  induction fs with
  | nil => rfl
  | cons f rest ih =>
      simp only [Search.candidatesFrom, Search.pathVia, A.isEmpty, A.isRoot, A.follow, ih]

theorem exploreWith (fuel : Nat) {p : Progress} (h : Kept p) :
    q'.exploreWith fuel p = q.exploreWith fuel p := by
  induction fuel generalizing p with
  | zero => rfl
  | succ fuel ih =>
      cases hpop : p.frontier.pop? with
      | none => simp only [Search.exploreWith, hpop]
      | some popped =>
          obtain ⟨⟨f, cost⟩, rest⟩ := popped
          simp only [Search.exploreWith, hpop, A.lookAt h hpop]
          cases hlook : q.lookAt f { p with frontier := rest } with
          | error fault => rfl
          | ok next => exact ih (A.kept h hpop hlook)

/-- Searches that agree report the same. -/
theorem candidates : q'.candidates = q.candidates := by
  simp only [Search.candidates, Search.explore, A.valid, A.size, A.seed, A.exploreWith _ A.start,
    A.candidatesFrom]

end Agrees

end Search

end TrustWeb
