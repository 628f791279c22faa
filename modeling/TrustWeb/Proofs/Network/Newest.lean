import Mathlib
import TrustWeb.Proofs.Network.Keys

/-! # What a network keeps of the signatures made

Of the signatures over one datum an edge keeps those of the latest second, each one once. Which one
of two that are the same is kept, and in which order, depends on the order of arrival; what is kept,
up to sameness, does not. -/

namespace TrustWeb

/-! ## Sameness -/

/-- What two moments that are the same have in common. -/
def Moment.core (m : Moment) : Moment := ⟨m.micros, m.offset.map fun _ => 0⟩

theorem Moment.same_iff {a b : Moment} : a.same b = true ↔ a.core = b.core := by
  obtain ⟨micros, offset⟩ := a
  obtain ⟨micros', offset'⟩ := b
  cases offset <;> cases offset' <;> simp [Moment.same, Moment.core]

namespace Signature

/-- What two signatures that are the same have in common. -/
def core (s : Signature) : Signature :=
  { s with
    issuer := { fingerprint := s.issuer.fingerprint }
    target := { fingerprint := s.target.fingerprint }
    created := s.created.core
    expires := s.expires.map Moment.core }

theorem sameMoment?_iff {a b : Option Moment} :
    sameMoment? a b = true ↔ a.map Moment.core = b.map Moment.core := by
  cases a <;> cases b <;> simp [sameMoment?, Moment.same_iff]

theorem same_iff {a b : Signature} : a.same b = true ↔ a.core = b.core := by
  simp [same, core, Node.same, Moment.same_iff, sameMoment?_iff, and_assoc]

end Signature

/-! ## The newest signatures over one datum -/

/-- A bucket holds the newest of the signatures made over a datum: all of the latest second, up to
sameness, and no two that are the same. -/
structure Latest (made bucket : List Signature) : Prop where
  newest : ∀ s ∈ bucket, s ∈ made ∧ ∀ t ∈ made, t.created.seconds ≤ s.created.seconds
  complete : ∀ s ∈ made, (∀ t ∈ made, t.created.seconds ≤ s.created.seconds) →
    s.core ∈ bucket.map Signature.core
  distinct : (bucket.map Signature.core).Nodup
  empty : bucket = [] → made = []

namespace Latest

variable {made made' bucket bucket' : List Signature}

theorem nil : Latest [] [] := ⟨by simp, by simp, by simp, fun _ => rfl⟩

theorem singleton {s : Signature} (h : ∀ t ∈ made, t.created.seconds < s.created.seconds) :
    Latest (made ++ [s]) [s] := by
  refine ⟨fun b hb => ?_, fun x hx hlatest => ?_, by simp, by simp⟩
  · obtain rfl : b = s := by simpa using hb
    refine ⟨by simp, fun t ht => ?_⟩
    rcases List.mem_append.mp ht with ht | ht
    · exact (h t ht).le
    · obtain rfl : t = b := by simpa using ht
      exact le_refl _
  · rcases List.mem_append.mp hx with hx | hx
    · exact absurd (h x hx) (not_lt.mpr (hlatest s (by simp)))
    · obtain rfl : x = s := by simpa using hx
      simp

/-- A signature of the latest second that is new stands beside the others. -/
theorem concat (h : Latest made bucket) {first s : Signature} (hfirst : first ∈ bucket)
    (hsecond : s.created.seconds = first.created.seconds)
    (hnew : s.core ∉ bucket.map Signature.core) : Latest (made ++ [s]) (bucket ++ [s]) := by
  obtain ⟨hmade, hlatest⟩ := h.newest first hfirst
  refine ⟨fun b hb => ?_, fun x hx hx' => ?_, ?_, by simp⟩
  · have hb' : b ∈ made ++ [s] ∧ first.created.seconds ≤ b.created.seconds := by
      rcases List.mem_append.mp hb with hb | hb
      · exact ⟨List.mem_append_left _ (h.newest b hb).1, (h.newest b hb).2 first hmade⟩
      · obtain rfl : b = s := by simpa using hb
        exact ⟨by simp, hsecond.ge⟩
    refine ⟨hb'.1, fun t ht => le_trans ?_ hb'.2⟩
    rcases List.mem_append.mp ht with ht | ht
    · exact hlatest t ht
    · obtain rfl : t = s := by simpa using ht
      exact hsecond.le
  · rw [List.map_append, List.mem_append]
    rcases List.mem_append.mp hx with hx | hx
    · exact .inl (h.complete x hx fun t ht => hx' t (List.mem_append_left _ ht))
    · obtain rfl : x = s := by simpa using hx
      exact .inr (by simp)
  · rw [List.map_append, List.nodup_append]
    refine ⟨h.distinct, by simp, fun x hx y hy => ?_⟩
    obtain rfl : y = s.core := by simpa using hy
    rintro rfl
    exact hnew hx

/-- A signature that is older, or the same as one that is kept, changes nothing. -/
theorem keep (h : Latest made bucket) {first s : Signature} (hfirst : first ∈ bucket)
    (hsecond : s.created.seconds ≤ first.created.seconds)
    (hold : s.created.seconds = first.created.seconds → s.core ∈ bucket.map Signature.core) :
    Latest (made ++ [s]) bucket := by
  obtain ⟨hmade, -⟩ := h.newest first hfirst
  refine ⟨fun b hb => ⟨List.mem_append_left _ (h.newest b hb).1, fun t ht => ?_⟩,
    fun x hx hx' => ?_, h.distinct, fun hnil => by simp [hnil] at hfirst⟩
  · rcases List.mem_append.mp ht with ht | ht
    · exact (h.newest b hb).2 t ht
    · obtain rfl : t = s := by simpa using ht
      exact hsecond.trans ((h.newest b hb).2 first hmade)
  · rcases List.mem_append.mp hx with hx | hx
    · exact h.complete x hx fun t ht => hx' t (List.mem_append_left _ ht)
    · obtain rfl : x = s := by simpa using hx
      exact hold (le_antisymm hsecond (hx' first (List.mem_append_left _ hmade)))

theorem any_same_iff {s : Signature} :
    bucket.any (·.same s) = true ↔ s.core ∈ bucket.map Signature.core := by
  simp only [List.any_eq_true, Signature.same_iff, List.mem_map]

/-- The bucket after one more signature holds the newest ones again. -/
theorem add (h : Latest made bucket) (s : Signature) :
    Latest (made ++ [s]) (Edge.newest bucket s) := by
  unfold Edge.newest
  cases bucket with
  | nil =>
      rw [h.empty rfl]
      exact singleton (by simp)
  | cons first rest =>
      -- All in the bucket are of one second, so that the first one stands for the others.
      have hfirst : first ∈ first :: rest := List.mem_cons_self
      simp only
      split
      · next hlater =>
          exact singleton fun t ht => lt_of_le_of_lt ((h.newest first hfirst).2 t ht) hlater
      · next hnotLater =>
          split
          · next hnew =>
              rw [Bool.and_eq_true, beq_iff_eq, Bool.not_eq_true', ← Bool.not_eq_true,
                any_same_iff] at hnew
              exact h.concat hfirst hnew.1 hnew.2
          · next hknown =>
              refine h.keep hfirst (not_lt.mp hnotLater) fun hsecond => ?_
              rw [Bool.and_eq_true, beq_iff_eq, Bool.not_eq_true', ← Bool.not_eq_true,
                any_same_iff, not_and, not_not] at hknown
              exact hknown hsecond

theorem foldl (h : Latest made bucket) (ss : List Signature) :
    Latest (made ++ ss) (ss.foldl Edge.newest bucket) := by
  induction ss generalizing made bucket with
  | nil => simpa using h
  | cons s rest ih => simpa using ih (h.add s)

theorem mem_core_iff (h : Latest made bucket) {x : Signature} :
    x ∈ bucket.map Signature.core ↔
      ∃ s ∈ made, s.core = x ∧ ∀ t ∈ made, t.created.seconds ≤ s.created.seconds := by
  constructor
  · intro hx
    obtain ⟨s, hs, rfl⟩ := List.mem_map.mp hx
    exact ⟨s, (h.newest s hs).1, rfl, (h.newest s hs).2⟩
  · rintro ⟨s, hs, rfl, hlatest⟩
    exact h.complete s hs hlatest

/-- The order in which the signatures were made does not matter. -/
theorem perm (h : Latest made bucket) (h' : Latest made' bucket') (hmade : made.Perm made') :
    (bucket.map Signature.core).Perm (bucket'.map Signature.core) := by
  rw [List.perm_ext_iff_of_nodup h.distinct h'.distinct]
  intro x
  rw [h.mem_core_iff, h'.mem_core_iff]
  simp only [hmade.mem_iff]

end Latest

end TrustWeb
