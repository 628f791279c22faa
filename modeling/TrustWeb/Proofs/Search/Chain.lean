import TrustWeb.Proofs.Path.Growth
import TrustWeb.Proofs.Search.Exploration

/-! # Chains of signatures

A chain leads from a certificate to the target of a search over signatures of the network, and may
end with the certification of the target by itself. It is admissible if it shows the binding and
every signature of it has trust left. -/

namespace TrustWeb

/-- Signatures of the network one after the other, and the certification of the last certificate by
itself if the chain ends with that. -/
structure Chain where
  hops : List Signature
  closing : Option Signature

namespace Chain

def signatures (c : Chain) : List Signature := c.hops ++ c.closing.toList

def length (c : Chain) : Nat := c.signatures.length

theorem length_eq (c : Chain) : c.length = c.hops.length + c.closing.toList.length := by
  simp [length, signatures]

end Chain

namespace Connects

variable {start stop : Fingerprint} {ss : List Signature}

theorem stop_mem (h : Connects start ss stop) (hne : ss ≠ []) :
    stop ∈ ss.map (·.target.fingerprint) := by
  induction ss generalizing start with
  | nil => exact (hne rfl).elim
  | cons s rest ih =>
      cases rest with
      | nil =>
          obtain rfl : s.target.fingerprint = stop := h.2
          simp
      | cons t rest => exact List.mem_cons_of_mem _ (ih h.2 (by simp))

theorem append {mid : Fingerprint} {ts : List Signature} (h : Connects start ss mid)
    (h' : Connects mid ts stop) : Connects start (ss ++ ts) stop := by
  induction ss generalizing start with
  | nil =>
      obtain rfl : start = mid := h
      exact h'
  | cons s rest ih => exact ⟨h.1, ih h.2⟩

/-- Connected signatures that visit no certificate twice lead from one certificate to another. -/
theorem issuer_ne_target (h : Connects start ss stop)
    (hsimple : (start :: ss.map (·.target.fingerprint)).Nodup) {s : Signature} (hs : s ∈ ss) :
    s.issuer.fingerprint ≠ s.target.fingerprint := by
  induction ss generalizing start with
  | nil => cases hs
  | cons t rest ih =>
      rw [List.map_cons, List.nodup_cons] at hsimple
      rcases List.mem_cons.mp hs with rfl | hs
      · rw [h.1]
        exact fun he => hsimple.1 (he ▸ List.mem_cons_self)
      · exact ih h.2 hsimple.2 hs

end Connects

namespace Search

/-- A chain from `start` that shows the binding, whatever trust its signatures have left: it is
connected, ends with a certification of the binding by a signature of the network or by the target
itself, leads through no root that is trusted outright, stays within the scopes and depths where
these count, and visits no certificate twice. -/
structure Supports (q : Search) (start : Fingerprint) (c : Chain) : Prop where
  known : ∀ s ∈ c.hops, s ∈ q.residual.network.signatures
  connected : Connects start c.hops q.target
  closes : ∀ s, c.closing = some s → q.residual.selfSignature? q.target q.subject = some s
  certifies : c.closing = none →
    ∃ s, c.hops.getLast? = some s ∧ q.subject.isOver s.userId = true
  passable : ∀ s ∈ c.hops, q.roots.isFullyTrusted s.target.fingerprint = false
  covered : ∀ s ∈ c.hops, q.residual.Covers q.subject s
  deep : q.residual.mode = .authentication → LeavesRoom c.closing.toList.length c.hops
  simple : (start :: c.hops.map (·.target.fingerprint)).Nodup

/-- A chain that shows the binding and on which every signature has trust left. -/
structure Admissible (q : Search) (start : Fingerprint) (c : Chain) : Prop
    extends q.Supports start c where
  trusted : ∀ s ∈ c.signatures, 0 < q.residual.left s

variable {q : Search} {start : Fingerprint} {c : Chain} {s : Signature} {rest : List Signature}
  {closing : Option Signature}

theorem Supports.tail (h : q.Supports start ⟨s :: rest, closing⟩)
    (hmore : closing = none → rest ≠ []) : q.Supports s.target.fingerprint ⟨rest, closing⟩ := by
  refine ⟨fun t ht => h.known t (List.mem_cons_of_mem _ ht), h.connected.2, h.closes,
    fun hnone => ?_, fun t ht => h.passable t (List.mem_cons_of_mem _ ht),
    fun t ht => h.covered t (List.mem_cons_of_mem _ ht), fun hm => (h.deep hm).tail,
    (List.nodup_cons.mp h.simple).2⟩
  obtain ⟨t, ht, hover⟩ := h.certifies hnone
  cases rest with
  | nil => exact (hmore hnone rfl).elim
  | cons u rest => exact ⟨t, by simpa [List.getLast?_cons_cons] using ht, hover⟩

theorem Admissible.tail (h : q.Admissible start ⟨s :: rest, closing⟩)
    (hmore : closing = none → rest ≠ []) : q.Admissible s.target.fingerprint ⟨rest, closing⟩ :=
  ⟨h.toSupports.tail hmore, fun t ht => h.trusted t (by
    simp only [Chain.signatures, List.cons_append, List.mem_cons] at ht ⊢
    exact .inr ht)⟩

/-- A chain that visits a certificate before it comes to the target goes on from there. -/
theorem Admissible.exists_from {hops : List Signature} (h : q.Admissible start ⟨hops, closing⟩)
    (hs : s ∈ hops) (hne : s.target.fingerprint ≠ q.target) :
    ∃ onward, q.Admissible s.target.fingerprint ⟨onward, closing⟩ := by
  induction hops generalizing start with
  | nil => cases hs
  | cons t rest ih =>
      rcases List.mem_cons.mp hs with rfl | hs
      · refine ⟨rest, h.tail fun _ hnil => hne ?_⟩
        subst hnil
        exact h.connected.2
      · exact ih (h.tail fun _ => List.ne_nil_of_mem hs) hs

theorem Admissible.usable (h : q.Admissible start c) (hs : s ∈ c.hops) : q.Usable s :=
  ⟨h.known s hs, h.trusted s (List.mem_append_left _ hs), h.passable s hs, h.covered s hs⟩

theorem Supports.exists_closing (h : q.Supports start c) (hhops : c.hops = []) :
    ∃ s, c.closing = some s := by
  cases hc : c.closing with
  | some s => exact ⟨s, rfl⟩
  | none =>
      obtain ⟨s, hs, -⟩ := h.certifies hc
      simp [hhops] at hs

/-- From the target itself there is no chain but its own certification. -/
theorem Supports.of_target (h : q.Supports q.target c) : c.hops = [] ∧ ∃ s, c.closing = some s := by
  have hhops : c.hops = [] := by
    by_contra hne
    exact (List.nodup_cons.mp h.simple).1 (h.connected.stop_mem hne)
  exact ⟨hhops, h.exists_closing hhops⟩

/-- A chain of one hop certifies the binding. -/
theorem Admissible.costVia?_of_single (h : q.Admissible start ⟨[s], none⟩) (cost : Cost) :
    s.target.fingerprint = q.target ∧
      q.costVia? s.target.fingerprint cost s = some ⟨1, q.residual.left s⟩ := by
  have htarget : s.target.fingerprint = q.target := h.connected.2
  obtain ⟨t, ht, hover⟩ := h.certifies rfl
  obtain rfl : s = t := by simpa using ht
  exact ⟨htarget, costVia?_eq_some_iff.mpr ⟨h.trusted s (by simp [Chain.signatures]),
    .inl ⟨certifiesBinding_iff.mpr ⟨hover, htarget⟩, rfl⟩⟩⟩

theorem Supports.signatures_ne_nil (h : q.Supports start c) : c.signatures ≠ [] := by
  obtain ⟨hops, closing⟩ := c
  cases closing with
  | some own => simp [Chain.signatures]
  | none =>
      obtain ⟨s, hs, -⟩ := h.certifies rfl
      have hne : hops ≠ [] := by
        rintro rfl
        simp at hs
      simpa [Chain.signatures] using hne

theorem Supports.connects (hkeys : q.residual.network.WellKeyed) (h : q.Supports start c) :
    Connects start c.signatures q.target := by
  refine h.connected.append ?_
  cases hc : c.closing with
  | none => exact rfl
  | some own =>
      have hown := Residual.isOwn_of_selfSignature? hkeys (h.closes own hc)
      exact ⟨hown.issuer, hown.target⟩

/-- Every signature of a chain stands on an edge of the network or leads from the target to
itself. -/
theorem Supports.endpoints_mem (hkeys : q.residual.network.WellKeyed) (h : q.Supports start c)
    (hs : s ∈ c.signatures) :
    s.endpoints ∈ (q.target, q.target) :: q.residual.network.edges.keys := by
  rcases List.mem_append.mp hs with hs | hs
  · exact List.mem_cons_of_mem _ (hkeys.endpoints_mem_keys (h.known s hs))
  · have hown := Residual.isOwn_of_selfSignature? hkeys (h.closes s (by simpa using hs))
    simp [Signature.endpoints, hown.issuer, hown.target]

/-- Whether a chain shows a binding does not depend on caps and on what was taken. -/
theorem Supports.of_residual {r : Residual} (h : q.Supports start c)
    (hnetwork : r.network = q.residual.network) (hmode : r.mode = q.residual.mode) :
    Supports { q with residual := r } start c := by
  obtain ⟨⟨network, mode, caps, taken⟩, roots, target, subject⟩ := q
  obtain ⟨network', mode', caps', taken'⟩ := r
  obtain rfl : network' = network := hnetwork
  obtain rfl : mode' = mode := hmode
  exact ⟨h.known, h.connected, h.closes, h.certifies, h.passable, h.covered, h.deep, h.simple⟩

/-- Other roots are in the way of a chain only where it leads through them. -/
theorem Supports.of_roots {roots : Roots} (h : q.Supports start c)
    (hpassable : ∀ s ∈ c.hops, roots.isFullyTrusted s.target.fingerprint = false) :
    Supports { q with roots } start c :=
  ⟨h.known, h.connected, h.closes, h.certifies, hpassable, h.covered, h.deep, h.simple⟩

/-- A target that is trusted outright is reached by its own certification alone. -/
theorem Supports.exists_own (h : q.Supports start c)
    (htarget : q.roots.isFullyTrusted q.target = true) :
    ∃ own, q.residual.selfSignature? q.target q.subject = some own := by
  have hhops : c.hops = [] := by
    by_contra hne
    obtain ⟨s, hs, hstop⟩ := List.mem_map.mp (h.connected.stop_mem hne)
    simpa [hstop, htarget] using h.passable s hs
  obtain ⟨own, hown⟩ := h.exists_closing hhops
  exact ⟨own, h.closes own hown⟩

/-- No two signatures of a chain stand on the same edge. -/
theorem Supports.endpoints_nodup (hkeys : q.residual.network.WellKeyed) (h : q.Supports start c) :
    (c.signatures.map (·.endpoints)).Nodup := by
  have hhops : (c.hops.map (·.endpoints)).Nodup := by
    refine List.Nodup.of_map (·.2) ?_
    simpa [Function.comp_def, Signature.endpoints] using (List.nodup_cons.mp h.simple).2
  cases hc : c.closing with
  | none => simpa [Chain.signatures, hc] using hhops
  | some own =>
      have hown := Residual.isOwn_of_selfSignature? hkeys (h.closes own hc)
      simp only [Chain.signatures, hc, Option.toList_some, List.map_append, List.map_cons,
        List.map_nil]
      refine List.nodup_append.mpr ⟨hhops, by simp, ?_⟩
      rintro k hk _ hself rfl
      obtain ⟨s, hs, hends⟩ := List.mem_map.mp hk
      rw [List.mem_singleton] at hself
      have hboth : s.issuer.fingerprint = own.issuer.fingerprint ∧
          s.target.fingerprint = own.target.fingerprint := by
        simpa [Signature.endpoints] using hends.trans hself
      refine h.connected.issuer_ne_target h.simple hs ?_
      rw [hboth.1, hboth.2, hown.issuer, hown.target]

/-- Where the target certifies itself with trust left, that is how it is labelled. -/
theorem Admissible.seedLabel_eq (h : q.Admissible q.target c) :
    ∃ own, c = ⟨[], some own⟩ ∧ q.seedLabel = ⟨some own, ⟨1, q.residual.left own⟩⟩ := by
  obtain ⟨hops, closing⟩ := c
  obtain ⟨rfl, own, rfl⟩ : hops = [] ∧ ∃ own, closing = some own := h.toSupports.of_target
  have hclose := h.closes own rfl
  have hleft : 0 < q.residual.left own := h.trusted own (by simp [Chain.signatures])
  rcases q.seedLabel_cases with ⟨own', hown', -, hseed⟩ | ⟨hnone, -⟩
  · obtain rfl : own = own' := by simpa [hclose] using hown'
    exact ⟨own, rfl, hseed⟩
  · have := hnone own hclose
    omega

/-! ## Chains are found -/

section Found

variable {layer : Int} {p : Progress} (E : q.Explored layer p) (hdone : p.queue = [])

include E

/-- A chain that goes on after its first signature leads over that signature to its first
certificate, at no more than its length. -/
theorem Explored.exists_costVia? (h : q.Admissible start ⟨s :: rest, closing⟩)
    (hmore : closing = none → rest ≠ []) {next : Label}
    (hnext : p.labels.find? s.target.fingerprint = some next)
    (hlength : next.cost.length ≤ (rest.length + closing.toList.length : Nat)) :
    ∃ cost, q.costVia? s.target.fingerprint next.cost s = some cost ∧
      cost.length ≤ (rest.length + closing.toList.length : Nat) + 1 := by
  have hleft := (h.usable (s := s) List.mem_cons_self).trusted
  cases hbinding : q.certifiesBinding s.target.fingerprint s with
  | true => exact ⟨_, costVia?_eq_some_iff.mpr ⟨hleft, .inl ⟨hbinding, rfl⟩⟩, by simp only; omega⟩
  | false =>
      refine ⟨_, costVia?_eq_some_iff.mpr ⟨hleft, .inr ⟨hbinding, ?_, fun hm => ?_, rfl⟩⟩, ?_⟩
      · rintro ⟨htarget, hzero⟩
        have htail := h.tail hmore
        rw [htarget] at htail hnext
        obtain ⟨own, -, hseed⟩ := htail.seedLabel_eq
        rw [E.target, Option.some.injEq] at hnext
        simp [← hnext, hseed] at hzero
      · exact Depth.belowNumber_of_le (h.deep hm).head hlength
      · simp only [Cost.extend]
        omega

include hdone

/-- Every signature on a labelled certificate was taken account of, once no certificate waits. -/
theorem Explored.reaches_over (husable : q.Usable s) {next : Label}
    (hnext : p.labels.find? s.target.fingerprint = some next) {cost : Cost}
    (hcost : q.costVia? s.target.fingerprint next.cost s = some cost) :
    p.Reaches s.issuer.fingerprint cost.length :=
  E.relaxed _ next (by simp [Progress.Closed, hdone]) hnext husable.passable next hnext s
    husable.known rfl husable.covers cost hcost

/-- No admissible chain is shorter than the label of its first certificate. -/
theorem Explored.reaches (h : q.Admissible start c) : p.Reaches start c.length := by
  obtain ⟨hops, closing⟩ := c
  rw [Chain.length_eq]
  induction hops generalizing start with
  | nil =>
      obtain rfl : start = q.target := h.connected
      obtain ⟨own, hc, hseed⟩ := h.seedLabel_eq
      obtain rfl : closing = some own := by simpa using hc
      exact ⟨q.seedLabel, E.target, by simp [hseed]⟩
  | cons s rest ih =>
      obtain ⟨rfl, -⟩ := h.connected
      have husable := h.usable (s := s) List.mem_cons_self
      by_cases hlast : closing = none ∧ rest = []
      · obtain ⟨rfl, rfl⟩ := hlast
        obtain ⟨htarget, hcost⟩ := h.costVia?_of_single q.seedLabel.cost
        exact E.reaches_over hdone husable (htarget ▸ E.target) hcost
      · have hmore : closing = none → rest ≠ [] := fun hnone hnil => hlast ⟨hnone, hnil⟩
        obtain ⟨next, hnext, hlength⟩ := ih (h.tail hmore)
        obtain ⟨cost, hcost, hle⟩ := E.exists_costVia? h hmore hnext hlength
        refine (E.reaches_over hdone husable hnext hcost).mono ?_
        simp only [List.length_cons]
        omega

end Found

end Search

end TrustWeb
