import TrustWeb.Proofs.Residual.Amounts
import TrustWeb.Search

/-! # The labels of a search

A label that is not the target's own rests on a signature of the network and on the label of the
certificate that this signature leads to. That certificate has left the frontier, and from then on
its distance to the target stays as it is, although its label may still gain in amount. This is
because the frontier spans two neighbouring distances at most: a certificate that is relabelled
while it waits keeps its old place, one distance too late at worst. -/

namespace TrustWeb

/-! ## What a label rests on -/

namespace Progress

/-- The certificates that are still to be looked at. -/
def queue (p : Progress) : List Fingerprint := p.frontier.entries.map (·.1)

/-- A certificate that is not waiting: if it has a label, it was looked at. -/
def Closed (p : Progress) (f : Fingerprint) : Prop := f ∉ p.queue

/-- A later state of the search: labels get no longer, and those of closed certificates keep their
length and lose nothing of their amount. -/
structure Later (p p' : Progress) : Prop where
  labels : ∀ f label, p.labels.find? f = some label →
    ∃ label', p'.labels.find? f = some label' ∧ label'.cost.length ≤ label.cost.length
  closed : ∀ f label, p.Closed f → p.labels.find? f = some label →
    p'.Closed f ∧ ∃ label', p'.labels.find? f = some label' ∧
      label'.cost.length = label.cost.length ∧ label.cost.amount ≤ label'.cost.amount

/-- No certificate left the frontier: those that are closed now were closed before. -/
def ClosesNone (p p' : Progress) : Prop :=
  ∀ f label', p'.Closed f → p'.labels.find? f = some label' →
    p.Closed f ∧ ∃ label, p.labels.find? f = some label

theorem Later.refl (p : Progress) : p.Later p :=
  ⟨fun _ label h => ⟨label, h, Int.le_refl _⟩,
    fun _ label hc h => ⟨hc, label, h, rfl, Int.le_refl _⟩⟩

theorem Later.trans {p p' p'' : Progress} (h : p.Later p') (h' : p'.Later p'') : p.Later p'' := by
  refine ⟨fun f label hf => ?_, fun f label hc hf => ?_⟩
  · obtain ⟨label', hf', hle⟩ := h.labels f label hf
    obtain ⟨label'', hf'', hle'⟩ := h'.labels f label' hf'
    exact ⟨label'', hf'', Int.le_trans hle' hle⟩
  · obtain ⟨hc', label', hf', hlength, hamount⟩ := h.closed f label hc hf
    obtain ⟨hc'', label'', hf'', hlength', hamount'⟩ := h'.closed f label' hc' hf'
    exact ⟨hc'', label'', hf'', hlength'.trans hlength, Int.le_trans hamount hamount'⟩

theorem ClosesNone.refl (p : Progress) : p.ClosesNone p :=
  fun _ label hclosed hf => ⟨hclosed, label, hf⟩

theorem ClosesNone.trans {p p' p'' : Progress} (h : p.ClosesNone p') (h' : p'.ClosesNone p'') :
    p.ClosesNone p'' := by
  intro f label'' hclosed hf
  obtain ⟨hclosed', label', hf'⟩ := h' f label'' hclosed hf
  exact h f label' hclosed' hf'

end Progress

namespace Search

/-- A signature that a search may take on its way: it is in the network, has trust left, covers the
subject, and is not over a root that is trusted outright. -/
structure Usable (q : Search) (s : Signature) : Prop where
  known : s ∈ q.residual.network.signatures
  trusted : 0 < q.residual.left s
  passable : q.roots.isFullyTrusted s.target.fingerprint = false
  covers : q.residual.Covers q.subject s

/-- What the label of a certificate other than the target rests on: a certification of the binding,
or a delegation that leaves room for the hops from a closed certificate. -/
inductive Justified (q : Search) (p : Progress) : Fingerprint → Label → Prop where
  | certifies (s : Signature) (husable : q.Usable s)
      (hbinding : q.certifiesBinding s.target.fingerprint s = true) :
      Justified q p s.issuer.fingerprint ⟨some s, ⟨1, q.residual.left s⟩⟩
  | delegates (s : Signature) (next : Label) (amount : Int) (husable : q.Usable s)
      (hbinding : q.certifiesBinding s.target.fingerprint s = false)
      (hnext : p.labels.find? s.target.fingerprint = some next)
      (hclosed : p.Closed s.target.fingerprint) (hlength : 1 ≤ next.cost.length)
      (hdeep : q.residual.mode = .authentication → s.depth.belowNumber next.cost.length = false)
      (hpos : 0 < amount) (hleft : amount ≤ q.residual.left s)
      (hamount : amount ≤ next.cost.amount) :
      Justified q p s.issuer.fingerprint ⟨some s, ⟨next.cost.length + 1, amount⟩⟩

variable {q : Search} {p p' : Progress} {f : Fingerprint} {label : Label}

theorem Justified.mono (h : q.Justified p f label) (hlater : p.Later p') :
    q.Justified p' f label := by
  cases h with
  | certifies s husable hbinding => exact .certifies s husable hbinding
  | delegates s next amount husable hbinding hnext hclosed hlength hdeep hpos hleft hamount =>
      obtain ⟨hclosed', next', hnext', hsame, hmore⟩ := hlater.closed _ _ hclosed hnext
      rw [← hsame] at hlength hdeep ⊢
      exact .delegates s next' amount husable hbinding hnext' hclosed' hlength hdeep hpos hleft
        (Int.le_trans hamount hmore)

theorem Justified.length_pos (h : q.Justified p f label) : 1 ≤ label.cost.length := by
  cases h with
  | certifies s _ _ => exact Int.le_refl _
  | delegates s next amount _ _ _ _ hlength _ _ _ _ => simp only; omega

theorem Justified.amount_pos (h : q.Justified p f label) : 0 < label.cost.amount := by
  cases h with
  | certifies s husable _ => exact husable.trusted
  | delegates s next amount _ _ _ _ _ _ hpos _ _ => exact hpos

/-! ## The label of the target -/

/-- The label that the target gets first, and keeps. -/
def seedLabel (q : Search) : Label :=
  match q.residual.selfSignature? q.target q.subject with
  | some s =>
    if q.residual.left s > 0 then ⟨some s, ⟨1, q.residual.left s⟩⟩ else ⟨none, ⟨0, fullTrust⟩⟩
  | none => ⟨none, ⟨0, fullTrust⟩⟩

theorem seed_eq (q : Search) :
    q.seed = ⟨[(q.target, q.seedLabel)], ⟨[(q.target, q.seedLabel.cost)]⟩⟩ := rfl

theorem seedLabel_cases (q : Search) :
    (∃ s, q.residual.selfSignature? q.target q.subject = some s ∧ 0 < q.residual.left s ∧
      q.seedLabel = ⟨some s, ⟨1, q.residual.left s⟩⟩) ∨
    (∀ s, q.residual.selfSignature? q.target q.subject = some s → q.residual.left s ≤ 0) ∧
      q.seedLabel = ⟨none, ⟨0, fullTrust⟩⟩ := by
  unfold seedLabel
  cases hs : q.residual.selfSignature? q.target q.subject with
  | none => simp
  | some s =>
      by_cases hleft : 0 < q.residual.left s
      · exact .inl ⟨s, rfl, hleft, by simp [hleft]⟩
      · refine .inr ⟨fun t ht => ?_, by simp [hleft]⟩
        obtain rfl : s = t := by simpa using ht
        exact Int.not_lt.mp hleft

theorem seedLabel_length (q : Search) :
    0 ≤ q.seedLabel.cost.length ∧ q.seedLabel.cost.length ≤ 1 := by
  rcases q.seedLabel_cases with ⟨s, -, -, h⟩ | ⟨-, h⟩ <;> simp [h]

theorem seedLabel_amount_pos (q : Search) : 0 < q.seedLabel.cost.amount := by
  rcases q.seedLabel_cases with ⟨s, -, hleft, h⟩ | ⟨-, h⟩
  · simpa [h] using hleft
  · simp [h, fullTrust]

/-! ## The cost over a signature -/

theorem costVia?_eq_some_iff {cost c : Cost} {s : Signature} :
    q.costVia? f cost s = some c ↔ 0 < q.residual.left s ∧
      (q.certifiesBinding f s = true ∧ c = ⟨1, q.residual.left s⟩ ∨
      q.certifiesBinding f s = false ∧ ¬(f = q.target ∧ cost.length = 0) ∧
        (q.residual.mode = .authentication → s.depth.belowNumber cost.length = false) ∧
        c = cost.extend (q.residual.left s)) := by
  have hnonneg := q.residual.left_nonneg s
  have hpos : 0 < q.residual.left s ↔ q.residual.left s ≠ 0 := by omega
  simp only [costVia?, beq_iff_eq, Bool.and_eq_true, hpos]
  by_cases hzero : q.residual.left s = 0
  · simp [hzero]
  · cases hbinding : q.certifiesBinding f s with
    | true =>
        simp only [hzero, if_false, if_true, Option.some.injEq, not_false_eq_true, true_and, ne_eq,
          Bool.true_eq_false, false_and, or_false]
        exact eq_comm
    | false =>
        by_cases hstart : f = q.target ∧ cost.length = 0
        · simp [hzero, hstart]
        · rw [if_neg hzero, if_neg Bool.false_ne_true, if_neg hstart]
          by_cases hshallow :
              q.residual.mode = .authentication ∧ s.depth.belowNumber cost.length = true
          · simp [hshallow]
          · rw [if_neg hshallow]
            have hdeep : q.residual.mode = .authentication →
                s.depth.belowNumber cost.length = false :=
              fun hm => Bool.eq_false_iff.mpr fun hd => hshallow ⟨hm, hd⟩
            simp only [hzero, hstart, Option.some.injEq, not_false_eq_true, true_and,
              Bool.false_eq_true, false_and, false_or, ne_eq]
            exact ⟨fun h => ⟨hdeep, h.symm⟩, fun h => h.2.symm⟩

/-- The length of the cost over a signature depends on the length of the given cost alone. -/
theorem exists_costVia?_of_length {cost cost' c : Cost} {s : Signature}
    (h : q.costVia? f cost s = some c) (hlength : cost'.length = cost.length) :
    ∃ c', q.costVia? f cost' s = some c' ∧ c'.length = c.length := by
  obtain ⟨hleft, ⟨hbinding, rfl⟩ | ⟨hbinding, hstart, hdeep, rfl⟩⟩ := costVia?_eq_some_iff.mp h
  · exact ⟨_, costVia?_eq_some_iff.mpr ⟨hleft, .inl ⟨hbinding, rfl⟩⟩, rfl⟩
  · rw [← hlength] at hstart hdeep
    exact ⟨_, costVia?_eq_some_iff.mpr ⟨hleft, .inr ⟨hbinding, hstart, hdeep, rfl⟩⟩,
      by simp [Cost.extend, hlength]⟩

end Search

end TrustWeb
