import Mathlib
import TrustWeb.Authentication
import TrustWeb.Proofs.Search.Reachability

/-! # The balance of an authentication

What was taken from an edge is what the recorded paths that use it carry together. A sound candidate
can be taken and recorded without a fault: its amount is left on every signature of its path. -/

namespace TrustWeb

namespace Paths

variable {ps : Paths}

/-- What the recorded paths that use an edge contribute together. -/
def carried (ps : Paths) (k : EdgeKey) : Int :=
  ((ps.items.filter fun i => decide (k ∈ i.path.signatures.map (·.endpoints))).map (·.amount)).sum

theorem carried_concat (ps : Paths) (path : Path) (amount : Int) (k : EdgeKey) :
    carried ⟨ps.items ++ [⟨path, amount⟩]⟩ k =
      ps.carried k + if k ∈ path.signatures.map (·.endpoints) then amount else 0 := by
  unfold carried
  by_cases h : k ∈ path.signatures.map (·.endpoints)
  · simp only [List.filter_append, List.filter_cons, List.filter_nil, h, decide_true, if_true,
      List.map_append, List.sum_append, List.map_cons, List.map_nil, List.sum_cons, List.sum_nil,
      add_zero]
  · simp only [List.filter_append, List.filter_cons, List.filter_nil, h, decide_false,
      Bool.false_eq_true, if_false, List.append_nil, add_zero]

theorem carried_nonneg (h : ∀ i ∈ ps.items, 0 < i.amount) (k : EdgeKey) : 0 ≤ ps.carried k := by
  refine List.sum_nonneg fun amount hamount => ?_
  obtain ⟨i, hi, rfl⟩ := List.mem_map.mp hamount
  exact (h i (List.mem_of_mem_filter hi)).le

theorem carried_of_not_used {k : EdgeKey}
    (h : ∀ i ∈ ps.items, k ∉ i.path.signatures.map (·.endpoints)) : ps.carried k = 0 := by
  have hnone :
      (ps.items.filter fun i => decide (k ∈ i.path.signatures.map (·.endpoints))) = [] := by
    rw [List.filter_eq_nil_iff]
    exact fun i hi => by simpa using h i hi
  rw [carried, hnone]
  rfl

end Paths

theorem Roots.amount?_of_mem_toList {roots : Roots} {root : Root} (h : root ∈ roots.toList) :
    roots.amount? root.fingerprint = some root.amount := by
  obtain ⟨f, -, hf⟩ := List.mem_filterMap.mp h
  obtain ⟨amount, hamount, rfl⟩ := Option.map_eq_some_iff.mp hf
  exact hamount

namespace Query

variable {q : Query} {r : Residual} {ps : Paths} {f : Fingerprint} {subject : Subject}
  {best : Candidate}

/-- The search for a binding in a residual. -/
def searchIn (q : Query) (r : Residual) (f : Fingerprint) (subject : Subject) : Search where
  residual := r
  roots := q.roots
  target := f
  subject := subject

/-! ## The residual at the start -/

theorem foldl_cap (roots : List Root) (r : Residual) :
    ∃ caps, roots.foldl (fun r root => r.cap root.fingerprint root.amount) r = { r with caps } := by
  induction roots generalizing r with
  | nil => exact ⟨r.caps, rfl⟩
  | cons root rest ih => exact ih (r.cap root.fingerprint root.amount)

theorem residual_eq (q : Query) :
    ∃ caps, q.residual = { network := q.network, mode := q.mode, caps } := by
  unfold residual
  cases q.mode with
  | certification => exact ⟨[], rfl⟩
  | authentication => exact foldl_cap _ _

@[simp] theorem network_residual (q : Query) : q.residual.network = q.network := by
  obtain ⟨caps, hr⟩ := q.residual_eq
  rw [hr]

@[simp] theorem mode_residual (q : Query) : q.residual.mode = q.mode := by
  obtain ⟨caps, hr⟩ := q.residual_eq
  rw [hr]

theorem foldl_cap_network (roots : List Root) (r : Residual) (n : Network) :
    roots.foldl (fun r root => r.cap root.fingerprint root.amount) { r with network := n } =
      { roots.foldl (fun r root => r.cap root.fingerprint root.amount) r with network := n } := by
  induction roots generalizing r with
  | nil => rfl
  | cons root rest ih => exact ih (r.cap root.fingerprint root.amount)

/-- The caps do not depend on the network. -/
theorem residual_of_network (q : Query) (n : Network) :
    residual { q with network := n } = { q.residual with network := n } := by
  unfold residual
  cases q.mode with
  | certification => rfl
  | authentication => exact foldl_cap_network _ { network := q.network, mode := .authentication } n

theorem find?_foldl_cap {roots : List Root} {r : Residual} {amount : Int}
    (hsame : ∀ root ∈ roots, root.fingerprint = f → root.amount = amount)
    (h : (∃ root ∈ roots, root.fingerprint = f) ∨ r.caps.find? f = some amount) :
    (roots.foldl (fun r root => r.cap root.fingerprint root.amount) r).caps.find? f =
      some amount := by
  induction roots generalizing r with
  | nil => simpa using h
  | cons root rest ih =>
      refine ih (fun other hother => hsame other (List.mem_cons_of_mem _ hother)) ?_
      simp only [Residual.cap, Table.find?_put]
      by_cases hroot : root.fingerprint = f
      · exact .inr (by rw [if_pos hroot, hsame root List.mem_cons_self hroot])
      · rw [if_neg hroot]
        refine h.imp_left ?_
        rintro ⟨other, hother, hf⟩
        rcases List.mem_cons.mp hother with rfl | hother
        · exact (hroot hf).elim
        · exact ⟨other, hother, hf⟩

/-- In authentication mode a root that is not of full trust is capped at its amount. -/
theorem find?_caps_residual (hmode : q.mode = .authentication) {amount : Int}
    (hroot : q.roots.amount? f = some amount) (hne : amount ≠ fullTrust) :
    q.residual.caps.find? f = some amount := by
  have hmem : ⟨f, amount⟩ ∈ q.roots.toList := by
    refine List.mem_filterMap.mpr ⟨f, ?_, by rw [hroot]; rfl⟩
    rw [Roots.fingerprints, Fingerprint.sorted, List.mem_mergeSort]
    exact Table.mem_keys_iff.mpr ⟨amount, hroot⟩
  unfold residual
  rw [hmode]
  refine find?_foldl_cap (fun root hroot' hf => ?_)
    (.inl ⟨⟨f, amount⟩, List.mem_filter.mpr ⟨hmem, by simpa using hne⟩, rfl⟩)
  have hamount := Roots.amount?_of_mem_toList (List.mem_of_mem_filter hroot')
  rw [hf, hroot, Option.some.injEq] at hamount
  exact hamount.symm

theorem exists_of_find?_foldl_cap {roots : List Root} {r : Residual} {limit : Int}
    (h : (roots.foldl (fun r root => r.cap root.fingerprint root.amount) r).caps.find? f =
      some limit) :
    (∃ root ∈ roots, root.fingerprint = f ∧ root.amount = limit) ∨ r.caps.find? f = some limit := by
  induction roots generalizing r with
  | nil => exact .inr h
  | cons root rest ih =>
      rcases ih h with ⟨other, hother, hsame⟩ | hcapped
      · exact .inl ⟨other, List.mem_cons_of_mem _ hother, hsame⟩
      · simp only [Residual.cap, Table.find?_put] at hcapped
        split at hcapped
        · next hroot => exact .inl ⟨root, List.mem_cons_self, hroot, Option.some.inj hcapped⟩
        · exact .inr hcapped

/-- In authentication mode nothing else is capped. -/
theorem amount?_of_find?_caps_residual (hmode : q.mode = .authentication) {limit : Int}
    (h : q.residual.caps.find? f = some limit) : q.roots.amount? f = some limit := by
  unfold residual at h
  rw [hmode] at h
  rcases exists_of_find?_foldl_cap h with ⟨root, hroot, rfl, rfl⟩ | hnone
  · exact Roots.amount?_of_mem_toList (List.mem_of_mem_filter hroot)
  · cases hnone

/-- At the start a signature carries its amount, up to full trust and, in authentication mode, up to
the amount of its issuer if that is a root. -/
theorem cappedAmount_residual (q : Query) (s : Signature) :
    q.residual.cappedAmount s =
      match q.mode, q.roots.amount? s.issuer.fingerprint with
      | .authentication, some amount => min (min s.trust fullTrust) amount
      | _, _ => min s.trust fullTrust := by
  rw [Residual.cappedAmount_eq]
  cases hmode : q.mode with
  | certification =>
      rw [show q.residual.caps = [] by simp [residual, hmode]]
      rfl
  | authentication =>
      cases hroot : q.roots.amount? s.issuer.fingerprint with
      | none =>
          cases hcap : q.residual.caps.find? s.issuer.fingerprint with
          | none => rfl
          | some limit => simp [amount?_of_find?_caps_residual hmode hcap] at hroot
      | some amount =>
          by_cases hfull : amount = fullTrust
          · cases hcap : q.residual.caps.find? s.issuer.fingerprint with
            | none => simp only; omega
            | some limit =>
                obtain rfl : limit = amount := by
                  simpa [hroot] using (amount?_of_find?_caps_residual hmode hcap).symm
                rfl
          · rw [find?_caps_residual hmode hroot hfull]

/-! ## Balance -/

/-- What holds between two searches: the residual is the one of the start but for what was taken,
and that is what the recorded paths carry. -/
structure Balanced (q : Query) (r : Residual) (ps : Paths) : Prop where
  residual : ∃ taken, r = { q.residual with taken }
  taken : ∀ k, r.takenFrom k = ps.carried k
  positive : ∀ i ∈ ps.items, 0 < i.amount
  within : ∀ k, ps.carried k ≤ fullTrust

theorem balanced_start (q : Query) : q.Balanced q.residual {} := by
  obtain ⟨caps, hr⟩ := q.residual_eq
  exact ⟨⟨q.residual.taken, rfl⟩, by simp [hr, Residual.takenFrom, Paths.carried], by simp,
    by simp [Paths.carried, fullTrust]⟩

namespace Balanced

theorem network (B : q.Balanced r ps) : r.network = q.network := by
  obtain ⟨taken, rfl⟩ := B.residual
  exact q.network_residual

theorem mode (B : q.Balanced r ps) : r.mode = q.mode := by
  obtain ⟨taken, rfl⟩ := B.residual
  exact q.mode_residual

theorem cappedAmount (B : q.Balanced r ps) (s : Signature) :
    r.cappedAmount s = q.residual.cappedAmount s := by
  obtain ⟨taken, rfl⟩ := B.residual
  rfl

theorem supports (B : q.Balanced r ps) {start : Fingerprint} {c : Chain}
    (h : (q.searchIn r f subject).Supports start c) :
    (q.searchIn q.residual f subject).Supports start c := by
  exact h.of_residual (by simp [searchIn, B.network]) (by simp [searchIn, B.mode])

/-- Together with the paths before it, a sound candidate carries no more over an edge than any of
its signatures there may. -/
theorem carried_le (B : q.Balanced r ps) (hsound : (q.searchIn r f subject).Sound best)
    {s : Signature} (hs : s ∈ best.path.signatures) :
    ps.carried s.endpoints + best.amount ≤ q.residual.cappedAmount s := by
  have hcarries : best.amount ≤ r.left s := hsound.carries s hs
  have hpositive := hsound.positive
  have hsum := Residual.left_add_takenFrom (r := r) (s := s) (by omega)
  rw [B.taken, B.cappedAmount] at hsum
  omega

/-- No bound on an amount is in the way of a sound candidate. -/
theorem room (B : q.Balanced r ps) (hsound : (q.searchIn r f subject).Sound best) {s : Signature}
    (hs : s ∈ best.path.signatures) :
    ps.carried s.endpoints + best.amount ≤ fullTrust ∧ best.amount ≤ fullTrust ∧
      best.amount ≤ s.trust := by
  have hnonneg := Paths.carried_nonneg B.positive s.endpoints
  have hle := B.carried_le hsound hs
  have hcapped := Residual.cappedAmount_le_min q.residual s
  omega

/-- A sound candidate is taken and recorded, and the balance stays. -/
theorem step (B : q.Balanced r ps) (hkeys : q.network.WellKeyed)
    (hsound : (q.searchIn r f subject).Sound best) :
    ∃ r', r.take best.path best.amount = (r', none) ∧
      ps.add best.path best.amount = .ok ⟨ps.items ++ [⟨best.path, best.amount⟩]⟩ ∧
      q.Balanced r' ⟨ps.items ++ [⟨best.path, best.amount⟩]⟩ := by
  obtain ⟨c, hc, hsignatures⟩ := hsound.chain
  have hkeys' : (q.searchIn r f subject).residual.network.WellKeyed := by
    rw [searchIn, B.network]
    exact hkeys
  have hnodup : (best.path.signatures.map (·.endpoints)).Nodup := by
    rw [hsignatures]
    exact hc.endpoints_nodup hkeys'
  obtain ⟨s, hs⟩ : ∃ s, s ∈ best.path.signatures := by
    rw [hsignatures]
    exact List.exists_mem_of_ne_nil _ hc.signatures_ne_nil
  have hfull : best.amount ≤ fullTrust := (B.room hsound hs).2.1
  obtain ⟨taken, htake, htaken⟩ := Residual.take_ok (r := r) hnodup hsound.positive hfull
    fun s hs => by rw [B.taken]; exact (B.room hsound hs).1
  have hadd : ¬best.path.amount < best.amount :=
    not_lt.mpr (Path.le_leastAmount (fun s hs => (B.room hsound hs).2.2) hfull)
  refine ⟨_, htake, if_neg hadd, ?_, fun k => ?_, fun i hi => ?_, fun k => ?_⟩
  · obtain ⟨taken', rfl⟩ := B.residual
    exact ⟨taken, rfl⟩
  · rw [htaken, Paths.carried_concat, B.taken]
  · rcases List.mem_append.mp hi with hi | hi
    · exact B.positive i hi
    · obtain rfl : i = ⟨best.path, best.amount⟩ := by simpa using hi
      exact hsound.positive
  · rw [Paths.carried_concat]
    split
    · next hk =>
        obtain ⟨s, hs, rfl⟩ := List.mem_map.mp hk
        exact (B.room hsound hs).1
    · simpa using B.within k

end Balanced

end Query

end TrustWeb
