import TrustWeb.Proofs.Search.Labels

/-! # The invariant of a search

Between two looks at certificates, the frontier is ordered and holds entries of one layer and of the
next one, each entry stands at the length of its label or one behind it, and closed certificates lie
no further out than the layer. A look at a certificate keeps this, and closed certificates keep
their lengths. -/

namespace TrustWeb

namespace Search

/-- An entry of the frontier belongs to the layer or to the next one, and is no more than one hop
behind the label of its certificate. -/
structure Waiting (q : Search) (layer : Int) (p : Progress) (e : Fingerprint × Cost) : Prop where
  label : ∃ label, p.labels.find? e.1 = some label ∧ label.cost.length ≤ e.2.length ∧
    e.2.length ≤ label.cost.length + 1
  low : layer ≤ e.2.length
  high : e.2.length ≤ layer + 1
  start : e.1 = q.target → e.2.length ≤ 1

/-- What holds between two looks at certificates. -/
structure Invariant (q : Search) (layer : Int) (p : Progress) : Prop where
  target : p.labels.find? q.target = some q.seedLabel
  justified : ∀ f label, p.labels.find? f = some label → f ≠ q.target → q.Justified p f label
  keys : p.labels.keys.Nodup
  once : p.queue.Nodup
  ordered : p.frontier.entries.Pairwise fun a b => a.2.length ≤ b.2.length
  waiting : ∀ e ∈ p.frontier.entries, q.Waiting layer p e
  settled : ∀ f label, p.Closed f → p.labels.find? f = some label → label.cost.length ≤ layer

/-- A certificate that is being looked at: it has just left the frontier, and has the given cost. -/
structure Looking (q : Search) (layer : Int) (p : Progress) (f : Fingerprint) (cost : Cost) :
    Prop where
  label : ∃ via, p.labels.find? f = some ⟨via, cost⟩
  closed : p.Closed f
  passable : q.roots.isFullyTrusted f = false
  low : layer ≤ cost.length + 1
  start : f = q.target → layer ≤ 1

variable {q : Search} {layer : Int} {p : Progress} {f : Fingerprint} {cost c : Cost} {s : Signature}

theorem certifiesBinding_iff :
    q.certifiesBinding f s = true ↔ q.subject.isOver s.userId = true ∧ f = q.target := by
  simp [certifiesBinding]

namespace Invariant

theorem length_nonneg (I : q.Invariant layer p) {label : Label}
    (h : p.labels.find? f = some label) : 0 ≤ label.cost.length := by
  by_cases hf : f = q.target
  · rw [hf, I.target, Option.some.injEq] at h
    exact h ▸ q.seedLabel_length.1
  · have := (I.justified f label h hf).length_pos
    omega

theorem amount_pos (I : q.Invariant layer p) {label : Label}
    (h : p.labels.find? f = some label) : 0 < label.cost.amount := by
  by_cases hf : f = q.target
  · rw [hf, I.target, Option.some.injEq] at h
    exact h ▸ q.seedLabel_amount_pos
  · exact (I.justified f label h hf).amount_pos

theorem mem_queue (I : q.Invariant layer p) (h : f ∈ p.queue) :
    ∃ label, p.labels.find? f = some label := by
  obtain ⟨e, he, rfl⟩ := List.mem_map.mp h
  obtain ⟨label, hlabel, -⟩ := (I.waiting e he).label
  exact ⟨label, hlabel⟩

/-! ## The cost over one signature -/

section Cost

variable (I : q.Invariant layer p) (L : q.Looking layer p f cost)
  (hc : q.costVia? f cost s = some c)

include I L hc

theorem cost_bounds : 1 ≤ c.length ∧ layer ≤ c.length ∧ c.length ≤ layer + 1 := by
  obtain ⟨via, hlabel⟩ := L.label
  have hnonneg := I.length_nonneg hlabel
  have hsettled := I.settled f _ L.closed hlabel
  have hlow := L.low
  simp only at hnonneg hsettled
  obtain ⟨-, ⟨hbinding, rfl⟩ | ⟨-, -, -, rfl⟩⟩ := costVia?_eq_some_iff.mp hc
  · have hstart := L.start (certifiesBinding_iff.mp hbinding).2
    simp only
    omega
  · simp only [Cost.extend]
    omega

theorem justifies (hknown : s ∈ q.residual.network.signatures) (htarget : s.target.fingerprint = f)
    (hcovers : q.residual.Covers q.subject s) : q.Justified p s.issuer.fingerprint ⟨some s, c⟩ := by
  obtain ⟨via, hlabel⟩ := L.label
  have hpassable := L.passable
  have hclosed := L.closed
  rw [← htarget] at hlabel hpassable hclosed
  obtain ⟨hleft, hcases⟩ := costVia?_eq_some_iff.mp hc
  have husable : q.Usable s := ⟨hknown, hleft, hpassable, hcovers⟩
  rw [← htarget] at hcases
  rcases hcases with ⟨hbinding, rfl⟩ | ⟨hbinding, hstart, hdeep, rfl⟩
  · exact .certifies s husable hbinding
  · have hnonneg := I.length_nonneg hlabel
    have hamount := I.amount_pos hlabel
    simp only at hnonneg hamount
    have hlength : 1 ≤ cost.length := by
      by_cases hf : s.target.fingerprint = q.target
      · have hne : cost.length ≠ 0 := fun h => hstart ⟨hf, h⟩
        omega
      · exact (I.justified _ _ hlabel hf).length_pos
    exact .delegates s ⟨via, cost⟩ (min (q.residual.left s) cost.amount) husable hbinding hlabel
      hclosed hlength hdeep (by omega) (by omega) (by simp only; omega)

/-- The target keeps its first label: it reaches itself by no signature more cheaply. -/
theorem not_cheaper_seed (hkeys : q.residual.network.WellKeyed)
    (htarget : s.target.fingerprint = f) (hissuer : s.issuer.fingerprint = q.target) :
    ¬c.cheaper q.seedLabel.cost = true := by
  rw [Cost.cheaper_iff]
  have hlower := (I.cost_bounds L hc).1
  rcases q.seedLabel_cases with ⟨own, hown, -, hseed⟩ | ⟨-, hseed⟩
  · rw [hseed]
    simp only
    obtain ⟨-, ⟨hbinding, rfl⟩ | ⟨-, hstart, -, rfl⟩⟩ := costVia?_eq_some_iff.mp hc
    · have hf := (certifiesBinding_iff.mp hbinding).2
      have hleft := Residual.left_le_left_of_isOwn (r := q.residual)
        (Residual.isOwn_of_selfSignature? hkeys hown) hissuer (htarget.trans hf)
      simp only
      omega
    · obtain ⟨via, hlabel⟩ := L.label
      have hnonneg := I.length_nonneg hlabel
      have hne : cost.length ≠ 0 := by
        intro hzero
        by_cases hf : f = q.target
        · exact hstart ⟨hf, hzero⟩
        · have hlength := (I.justified _ _ hlabel hf).length_pos
          simp only at hlength
          omega
      simp only [Cost.extend] at hnonneg ⊢
      omega
  · rw [hseed]
    simp only
    omega

/-- A certificate does not reach the target more cheaply over itself. -/
theorem not_cheaper_self (hkeys : q.residual.network.WellKeyed)
    (htarget : s.target.fingerprint = f) (hissuer : s.issuer.fingerprint = f) :
    ¬c.cheaper cost = true := by
  obtain ⟨via, hlabel⟩ := L.label
  by_cases hf : f = q.target
  · have hcost : cost = q.seedLabel.cost := by
      rw [hf, I.target, Option.some.injEq] at hlabel
      rw [hlabel]
    rw [hcost]
    exact I.not_cheaper_seed L hc hkeys htarget (hissuer.trans hf)
  · obtain ⟨-, ⟨hbinding, -⟩ | ⟨-, -, -, rfl⟩⟩ := costVia?_eq_some_iff.mp hc
    · exact (hf (certifiesBinding_iff.mp hbinding).2).elim
    · rw [Cost.cheaper_iff]
      simp only [Cost.extend]
      omega

end Cost

end Invariant

end Search

/-! ## A change of one label -/

namespace Progress

/-- The state after a certificate was reached for the first time, which then starts to wait. -/
def discover (p : Progress) (g : Fingerprint) (new : Label) : Progress :=
  ⟨p.labels.put g new, p.frontier.insert g new.cost⟩

/-- The state after a certificate was reached more cheaply; if it waits, it keeps its place. -/
def relabel (p : Progress) (g : Fingerprint) (new : Label) : Progress :=
  { p with labels := p.labels.put g new }

variable {p : Progress} {f g : Fingerprint} {old new label : Label}

@[simp] theorem labels_discover : (p.discover g new).labels = p.labels.put g new := rfl

@[simp] theorem labels_relabel : (p.relabel g new).labels = p.labels.put g new := rfl

/-! ### Discovery -/

theorem find?_discover (new : Label) (hnone : p.labels.find? g = none)
    (hf : p.labels.find? f = some label) :
    f ≠ g ∧ (p.discover g new).labels.find? f = some label := by
  have hne : f ≠ g := by
    rintro rfl
    simp [hnone] at hf
  exact ⟨hne, by rw [labels_discover, Table.find?_put_of_ne _ _ (Ne.symm hne), hf]⟩

theorem entries_discover (new : Label) (hwaits : g ∉ p.queue) :
    (p.discover g new).frontier.entries.Perm ((g, new.cost) :: p.frontier.entries) := by
  rw [discover, Frontier.insert_of_not_mem hwaits]
  exact Frontier.place_perm (g, new.cost) p.frontier.entries

theorem queue_discover (new : Label) (hwaits : g ∉ p.queue) :
    (p.discover g new).queue.Perm (g :: p.queue) :=
  (entries_discover new hwaits).map Prod.fst

theorem closed_discover (hwaits : g ∉ p.queue) :
    (p.discover g new).Closed f ↔ f ≠ g ∧ p.Closed f := by
  simp only [Closed, (queue_discover new hwaits).mem_iff, List.mem_cons, not_or, ne_eq]

theorem later_discover (new : Label) (hnone : p.labels.find? g = none) (hwaits : g ∉ p.queue) :
    p.Later (p.discover g new) := by
  refine ⟨fun f label hf => ⟨label, (find?_discover new hnone hf).2, Int.le_refl _⟩,
    fun f label hclosed hf => ?_⟩
  obtain ⟨hne, hf'⟩ := find?_discover new hnone hf
  exact ⟨(closed_discover hwaits).mpr ⟨hne, hclosed⟩, label, hf', rfl, Int.le_refl _⟩

theorem closesNone_discover (hwaits : g ∉ p.queue) : p.ClosesNone (p.discover g new) := by
  intro f label hclosed hf
  obtain ⟨hne, hclosed⟩ := (closed_discover hwaits).mp hclosed
  rw [labels_discover, Table.find?_put_of_ne _ _ (Ne.symm hne)] at hf
  exact ⟨hclosed, label, hf⟩

/-! ### Relabelling -/

/-- A cheaper label makes a later state, if it is no shorter in case the certificate is closed. -/
theorem later_relabel (hold : p.labels.find? g = some old)
    (hcheaper : new.cost.cheaper old.cost = true)
    (hclosed : p.Closed g → old.cost.length ≤ new.cost.length) : p.Later (p.relabel g new) := by
  rw [Cost.cheaper_iff] at hcheaper
  refine ⟨fun f label hf => ?_, fun f label hc hf => ⟨hc, ?_⟩⟩
  · rw [labels_relabel, Table.find?_put]
    split
    · next h =>
        subst h
        obtain rfl : old = label := by simpa [hold] using hf
        exact ⟨new, rfl, by omega⟩
    · exact ⟨label, hf, Int.le_refl _⟩
  · rw [labels_relabel, Table.find?_put]
    split
    · next h =>
        subst h
        obtain rfl : old = label := by simpa [hold] using hf
        have hlength := hclosed hc
        exact ⟨new, rfl, by omega, by omega⟩
    · exact ⟨label, hf, rfl, Int.le_refl _⟩

theorem closesNone_relabel (hold : p.labels.find? g = some old) :
    p.ClosesNone (p.relabel g new) := by
  intro f label hclosed hf
  refine ⟨hclosed, ?_⟩
  rw [labels_relabel, Table.find?_put] at hf
  split at hf
  · next h => exact ⟨old, h ▸ hold⟩
  · exact ⟨label, hf⟩

end Progress

namespace Search

namespace Invariant

variable {q : Search} {layer : Int} {p : Progress} {g : Fingerprint} {old new : Label}

theorem not_waiting (I : q.Invariant layer p) (hnone : p.labels.find? g = none) : g ∉ p.queue := by
  intro hg
  obtain ⟨label, hlabel⟩ := I.mem_queue hg
  simp [hnone] at hlabel

/-- Every label of a changed state is justified if the changed one is. -/
theorem justified_put (I : q.Invariant layer p) {p' : Progress} (hlater : p.Later p')
    (hlabels : p'.labels = p.labels.put g new) (hnew : q.Justified p g new) :
    ∀ f label, p'.labels.find? f = some label → f ≠ q.target → q.Justified p' f label := by
  intro f label hf hne
  rw [hlabels, Table.find?_put] at hf
  split at hf
  · next h =>
      subst h
      obtain rfl : new = label := by simpa using hf
      exact hnew.mono hlater
  · exact (I.justified f label hf hne).mono hlater

/-- A certificate may be discovered at the distance of the layer or at the next one. -/
theorem discover (I : q.Invariant layer p) (hnone : p.labels.find? g = none)
    (hnew : q.Justified p g new) (hlow : layer ≤ new.cost.length)
    (hhigh : new.cost.length ≤ layer + 1) : q.Invariant layer (p.discover g new) := by
  have hwaits := I.not_waiting hnone
  have htarget := Progress.find?_discover new hnone I.target
  refine ⟨htarget.2, I.justified_put (Progress.later_discover new hnone hwaits) rfl hnew, ?_, ?_, ?_,
    fun e he => ?_, fun f label hclosed hf => ?_⟩
  · have hg := Table.not_mem_keys hnone
    rw [Progress.labels_discover, Table.keys_put, if_neg hg]
    exact List.nodup_append.mpr ⟨I.keys, by simp, fun a ha b hb hab => hg (by simp_all)⟩
  · exact (Progress.queue_discover new hwaits).nodup_iff.mpr (List.nodup_cons.mpr ⟨hwaits, I.once⟩)
  · rw [Progress.discover, Frontier.insert_of_not_mem hwaits]
    exact Frontier.pairwise_place I.ordered
  · rcases List.mem_cons.mp ((Progress.entries_discover new hwaits).mem_iff.mp he) with rfl | he
    · exact ⟨⟨new, by simp, Int.le_refl _, by simp only; omega⟩, hlow, hhigh,
        fun h => (htarget.1 h.symm).elim⟩
    · obtain ⟨⟨label, hlabel, hlengths⟩, hl, hh, hs⟩ := I.waiting e he
      exact ⟨⟨label, (Progress.find?_discover new hnone hlabel).2, hlengths⟩, hl, hh, hs⟩
  · obtain ⟨hne, hclosed⟩ := (Progress.closed_discover hwaits).mp hclosed
    rw [Progress.labels_discover, Table.find?_put_of_ne _ _ (Ne.symm hne)] at hf
    exact I.settled f label hclosed hf

/-- A closed certificate gains in amount only: it lies no further out than the layer, and no shorter
way is found any more. -/
theorem later_relabel (I : q.Invariant layer p) (hold : p.labels.find? g = some old)
    (hcheaper : new.cost.cheaper old.cost = true) (hlow : layer ≤ new.cost.length) :
    p.Later (p.relabel g new) :=
  Progress.later_relabel hold hcheaper fun hclosed =>
    Int.le_trans (I.settled g old hclosed hold) hlow

/-- A certificate other than the target may be relabelled at the distance of the layer or further
out. -/
theorem relabel (I : q.Invariant layer p) (hold : p.labels.find? g = some old)
    (hcheaper : new.cost.cheaper old.cost = true) (hne : g ≠ q.target) (hnew : q.Justified p g new)
    (hlow : layer ≤ new.cost.length) : q.Invariant layer (p.relabel g new) := by
  refine ⟨?_, I.justified_put (I.later_relabel hold hcheaper hlow) rfl hnew, ?_, I.once, I.ordered,
    fun e he => ?_, fun f label hclosed hf => ?_⟩
  · rw [Progress.labels_relabel, Table.find?_put_of_ne _ _ hne]
    exact I.target
  · rw [Progress.labels_relabel, Table.keys_put, if_pos (Table.mem_keys_iff.mpr ⟨old, hold⟩)]
    exact I.keys
  · obtain ⟨⟨label, hlabel, hle, hge⟩, hl, hh, hs⟩ := I.waiting e he
    rw [Cost.cheaper_iff] at hcheaper
    refine ⟨?_, hl, hh, hs⟩
    rw [Progress.labels_relabel, Table.find?_put]
    split
    · next h =>
        obtain rfl : old = label := by simpa [← h, hold] using hlabel
        exact ⟨new, rfl, by omega, by omega⟩
    · exact ⟨label, hlabel, hle, hge⟩
  · rw [Progress.labels_relabel, Table.find?_put] at hf
    rw [Cost.cheaper_iff] at hcheaper
    split at hf
    · next h =>
        subst h
        obtain rfl : new = label := by simpa using hf
        have hsettled := I.settled g old hclosed hold
        omega
    · exact I.settled f label hclosed hf

end Invariant

end Search

end TrustWeb
