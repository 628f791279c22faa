import Mathlib
import TrustWeb.Authentication
import TrustWeb.Proofs.Search.Reachability

/-! # How much the reported chains carry

A label never promises more than its chain carries. It may promise less: a certificate that is found
over an introduction of the target first, and as a certifier of the binding then, keeps its old place
in the frontier and is looked at too late, when certificates behind it were already labelled. Where
no certificate that leads further is found in both ways the search looks at each one in time. Then
closed certificates keep their labels, a label promises just what its chain carries, and no chain of
the same length carries more. -/

namespace TrustWeb

/-! ## Costs that are no dearer -/

/-- The first cost is the cheaper one, or neither is. -/
def Cost.NoDearer (a b : Cost) : Prop := ¬b.cheaper a = true

theorem Cost.noDearer_iff {a b : Cost} :
    a.NoDearer b ↔ a.length < b.length ∨ a.length = b.length ∧ b.amount ≤ a.amount := by
  rw [NoDearer, cheaper_iff]
  omega

theorem Cost.NoDearer.refl (a : Cost) : a.NoDearer a :=
  noDearer_iff.mpr (.inr ⟨rfl, Int.le_refl _⟩)

theorem Cost.NoDearer.trans {a b c : Cost} (h : a.NoDearer b) (h' : b.NoDearer c) :
    a.NoDearer c := by
  rw [noDearer_iff] at h h' ⊢
  omega

namespace Progress

/-- A label of a certificate that costs no more than the given cost. -/
def Affords (p : Progress) (f : Fingerprint) (cost : Cost) : Prop :=
  ∃ label, p.labels.find? f = some label ∧ label.cost.NoDearer cost

/-- A later state in which no label got dearer and the closed certificates kept theirs. -/
structure Onward (p p' : Progress) : Prop where
  affords : ∀ f cost, p.Affords f cost → p'.Affords f cost
  closed : ∀ f label, p.Closed f → p.labels.find? f = some label →
    p'.Closed f ∧ p'.labels.find? f = some label

/-- Every entry of the frontier among the given certificates stands at the length of its label. -/
def TimelyOn (p : Progress) (certificates : Fingerprint → Prop) : Prop :=
  ∀ e ∈ p.frontier.entries, certificates e.1 → ∃ label, p.labels.find? e.1 = some label ∧
    label.cost.length = e.2.length

variable {p p' p'' : Progress} {g : Fingerprint} {old new : Label}
  {certificates : Fingerprint → Prop}

theorem Onward.refl (p : Progress) : p.Onward p := ⟨fun _ _ h => h, fun _ _ hc h => ⟨hc, h⟩⟩

theorem Onward.trans (h : p.Onward p') (h' : p'.Onward p'') : p.Onward p'' := by
  refine ⟨fun f cost hf => h'.affords f cost (h.affords f cost hf), fun f label hc hf => ?_⟩
  obtain ⟨hc', hf'⟩ := h.closed f label hc hf
  exact h'.closed f label hc' hf'

/-! ### Discovery and relabelling -/

theorem onward_discover (new : Label) (hnone : p.labels.find? g = none) (hwaits : g ∉ p.queue) :
    p.Onward (p.discover g new) := by
  refine ⟨fun f cost ⟨label, hf, hcost⟩ => ⟨label, (find?_discover new hnone hf).2, hcost⟩,
    fun f label hc hf => ?_⟩
  obtain ⟨hne, hf'⟩ := find?_discover new hnone hf
  exact ⟨(closed_discover hwaits).mpr ⟨hne, hc⟩, hf'⟩

theorem TimelyOn.discover (h : p.TimelyOn certificates) (new : Label)
    (hnone : p.labels.find? g = none) (hwaits : g ∉ p.queue) :
    (p.discover g new).TimelyOn certificates := by
  intro e he hcertificate
  rcases List.mem_cons.mp ((entries_discover new hwaits).mem_iff.mp he) with rfl | he
  · exact ⟨new, by simp, rfl⟩
  · obtain ⟨label, hlabel, hlength⟩ := h e he hcertificate
    exact ⟨label, (find?_discover new hnone hlabel).2, hlength⟩

/-- A waiting certificate may get a label that is cheaper. -/
theorem onward_relabel (new : Label) (hold : p.labels.find? g = some old)
    (hcheaper : new.cost.cheaper old.cost = true) (hwaits : ¬p.Closed g) :
    p.Onward (p.relabel g new) := by
  have hcost : new.cost.NoDearer old.cost := by
    rw [Cost.noDearer_iff]
    rw [Cost.cheaper_iff] at hcheaper
    omega
  refine ⟨fun f cost ⟨label, hf, hlabel⟩ => ?_, fun f label hc hf => ⟨hc, ?_⟩⟩
  · rw [Affords, labels_relabel, Table.find?_put]
    by_cases h : g = f
    · subst h
      obtain rfl : old = label := by simpa [hold] using hf
      exact ⟨new, by simp, hcost.trans hlabel⟩
    · exact ⟨label, by rw [if_neg h, hf], hlabel⟩
  · have hne : g ≠ f := fun h => hwaits (h ▸ hc)
    rw [labels_relabel, Table.find?_put_of_ne _ _ hne, hf]

theorem TimelyOn.relabel (h : p.TimelyOn certificates) (new : Label)
    (hold : p.labels.find? g = some old)
    (hlength : certificates g → new.cost.length = old.cost.length) :
    (p.relabel g new).TimelyOn certificates := by
  intro e he hcertificate
  obtain ⟨label, hlabel, hentry⟩ := h e he hcertificate
  rw [labels_relabel, Table.find?_put]
  by_cases hg : g = e.1
  · obtain rfl : old = label := by simpa [← hg, hold] using hlabel
    exact ⟨new, by rw [if_pos hg], (hlength (hg ▸ hcertificate)).trans hentry⟩
  · exact ⟨label, by rw [if_neg hg, hlabel], hentry⟩

end Progress

namespace Search

/-- A signature leads further from the certificate. -/
def LeadsOn (q : Search) (f : Fingerprint) : Prop :=
  ∃ s, q.Usable s ∧ s.target.fingerprint = f

/-- The issuer of `s` is found in two ways: the target certifies itself with trust left, `s` certifies
the binding, and `t` introduces the target. Over `t` the issuer is two hops from the target, over `s`
one hop. The search leads further from it. Which of the two ways carries more does not matter: a
certificate that is looked at too late may bring another one forward that waits behind it, and that
one is looked at too late in its turn. -/
structure FoundTwice (q : Search) (s t : Signature) : Prop where
  own : q.seedLabel.cost.length = 1
  issuer : t.issuer.fingerprint = s.issuer.fingerprint
  certification : q.Usable s
  introduction : q.Usable t
  certifies : q.certifiesBinding s.target.fingerprint s = true
  target : t.target.fingerprint = q.target
  introduces : q.certifiesBinding t.target.fingerprint t = false
  deep : q.residual.mode = .authentication → t.depth.belowNumber 1 = false
  onward : q.LeadsOn s.issuer.fingerprint

/-- No certificate that leads further is found in two ways. -/
def Punctual (q : Search) : Prop := ∀ s t, ¬q.FoundTwice s t

variable {q : Search} {layer : Int} {p p' : Progress} {f g : Fingerprint} {cost c : Cost}
  {s : Signature} {old : Label}

/-! ## Looking at a certificate in time -/

/-- A certificate that is looked at in time: if it leads further it belongs to the layer, the
frontier is timely, and where it is the target no other one was looked at before. -/
structure InTime (q : Search) (layer : Int) (p : Progress) (f : Fingerprint) (cost : Cost) : Prop
    extends q.Looking layer p f cost where
  timely : p.TimelyOn q.LeadsOn
  exact : q.LeadsOn f → cost.length = layer
  first : f = q.target → ∀ g label, p.Closed g → p.labels.find? g = some label → g = q.target

/-- A cost of the layer itself belongs to a certification of the binding, and the search is just at
its start. -/
theorem InTime.of_length_eq (T : q.InTime layer p f cost) (hleads : q.LeadsOn f)
    (hc : q.costVia? f cost s = some c) (hlength : c.length = layer) :
    f = q.target ∧ q.certifiesBinding f s = true ∧ layer = 1 := by
  have hexact := T.exact hleads
  obtain ⟨-, ⟨hbinding, rfl⟩ | ⟨-, -, -, rfl⟩⟩ := costVia?_eq_some_iff.mp hc
  · exact ⟨(certifiesBinding_iff.mp hbinding).2, hbinding, hlength.symm⟩
  · simp only [Cost.extend] at hlength
    omega

section Relabel

variable (I : q.Invariant layer p) (T : q.InTime layer p f cost)
  (hc : q.costVia? f cost s = some c) (hold : p.labels.find? g = some old)
  (hcheaper : c.cheaper old.cost = true) (hne : g ≠ q.target) (husable : q.Usable s)
  (htarget : s.target.fingerprint = f)

include I T hc hold hcheaper hne husable htarget

/-- No cheaper way is found to a closed certificate. -/
theorem InTime.not_closed : ¬p.Closed g := by
  intro hclosed
  have hsettled := I.settled g old hclosed hold
  obtain ⟨-, hlow, -⟩ := I.cost_bounds T.toLooking hc
  rw [Cost.cheaper_iff] at hcheaper
  obtain ⟨hfirst, -, -⟩ := T.of_length_eq ⟨s, husable, htarget⟩ hc (by omega)
  exact hne (T.first hfirst g old hclosed hold)

/-- In a punctual search a cheaper way to a waiting certificate that leads further is no shorter. -/
theorem InTime.length_eq (hpunctual : q.Punctual) (hissuer : s.issuer.fingerprint = g)
    (honward : q.LeadsOn g) : c.length = old.cost.length := by
  obtain ⟨e, he, heg⟩ : ∃ e ∈ p.frontier.entries, e.1 = g := by
    simpa [Progress.Closed, Progress.queue] using
      T.not_closed I hc hold hcheaper hne husable htarget
  obtain ⟨label, hlabel, hentry⟩ := T.timely e he (heg ▸ honward)
  obtain rfl : old = label := by simpa [heg, hold] using hlabel
  have hhigh := (I.waiting e he).high
  obtain ⟨-, hlow, -⟩ := I.cost_bounds T.toLooking hc
  rw [Cost.cheaper_iff] at hcheaper
  by_contra hlength
  have hleads : q.LeadsOn f := ⟨s, husable, htarget⟩
  obtain ⟨hfirst, hbinding, hone⟩ := T.of_length_eq hleads hc (by omega)
  obtain ⟨via, hseed⟩ := T.label
  rw [hfirst, I.target, Option.some.injEq] at hseed
  have hcost : q.seedLabel.cost.length = 1 := by
    rw [hseed]
    exact (T.exact hleads).trans hone
  -- The longer way leads over the target, the only certificate that was looked at.
  cases I.justified g old hold hne with
  | certifies t _ _ => simp only at hcheaper hlength hhigh; omega
  | delegates t next amount hintroduction hintroduces hnext hclosed _ hdeep _ _ _ =>
      have hover : t.target.fingerprint = q.target := T.first hfirst _ next hclosed hnext
      rw [hover, I.target, Option.some.injEq] at hnext
      subst hnext
      rw [hcost] at hdeep
      exact hpunctual s t ⟨hcost, hissuer.symm, husable, hintroduction, htarget ▸ hbinding, hover,
        hintroduces, hdeep, hissuer.symm ▸ honward⟩

end Relabel

/-- What a look in time does to the state of the search, signature by signature. -/
structure Keeps (q : Search) (p p' : Progress) : Prop where
  onward : p.Onward p'
  timely : p'.TimelyOn q.LeadsOn
  closesNone : p.ClosesNone p'

theorem InTime.relax (hkeys : q.residual.network.WellKeyed) (hpunctual : q.Punctual)
    (I : q.Invariant layer p) (T : q.InTime layer p f cost)
    (hknown : s ∈ q.residual.network.signatures) (htarget : s.target.fingerprint = f)
    (hcovers : q.residual.Covers q.subject s) :
    q.Keeps p (q.relax f cost p s) ∧ ∀ c, q.costVia? f cost s = some c →
      (q.relax f cost p s).Affords s.issuer.fingerprint c := by
  unfold Search.relax
  cases hc : q.costVia? f cost s with
  | none => exact ⟨⟨.refl p, T.timely, .refl p⟩, by simp⟩
  | some c =>
      have husable : q.Usable s := ⟨hknown, (costVia?_eq_some_iff.mp hc).1, htarget ▸ T.passable,
        hcovers⟩
      simp only [Option.some.injEq, forall_eq']
      cases hissuer : p.labels.find? s.issuer.fingerprint with
      | none =>
          have hwaits := I.not_waiting hissuer
          exact ⟨⟨Progress.onward_discover ⟨some s, c⟩ hissuer hwaits,
            T.timely.discover ⟨some s, c⟩ hissuer hwaits, Progress.closesNone_discover hwaits⟩,
            ⟨some s, c⟩, by simp, .refl c⟩
      | some old =>
          simp only
          by_cases hcheaper : c.cheaper old.cost = true
          · have hne : s.issuer.fingerprint ≠ q.target := fun h => by
              rw [h, I.target, Option.some.injEq] at hissuer
              exact I.not_cheaper_seed T.toLooking hc hkeys htarget h (hissuer ▸ hcheaper)
            have hwaits := T.not_closed I hc hissuer hcheaper hne husable htarget
            have hlength :=
              T.length_eq I hc hissuer hcheaper hne husable htarget hpunctual rfl
            rw [if_pos hcheaper]
            exact ⟨⟨Progress.onward_relabel ⟨some s, c⟩ hissuer hcheaper hwaits,
              T.timely.relabel ⟨some s, c⟩ hissuer hlength, Progress.closesNone_relabel hissuer⟩,
              ⟨some s, c⟩, by simp, .refl c⟩
          · rw [if_neg hcheaper]
            exact ⟨⟨.refl p, T.timely, .refl p⟩, old, hissuer, hcheaper⟩

theorem InTime.foldl_relax (hkeys : q.residual.network.WellKeyed) (hpunctual : q.Punctual)
    {ss : List Signature} (I : q.Invariant layer p) (T : q.InTime layer p f cost)
    (hss : ∀ s ∈ ss, s ∈ q.residual.network.signatures ∧ s.target.fingerprint = f ∧
      q.residual.Covers q.subject s) :
    q.Keeps p (ss.foldl (q.relax f cost) p) ∧ ∀ s ∈ ss, ∀ c, q.costVia? f cost s = some c →
      (ss.foldl (q.relax f cost) p).Affords s.issuer.fingerprint c := by
  induction ss generalizing p with
  | nil => exact ⟨⟨.refl p, T.timely, .refl p⟩, by simp⟩
  | cons s rest ih =>
      obtain ⟨hknown, htarget, hcovers⟩ := hss s List.mem_cons_self
      obtain ⟨A, -⟩ := relax_advance hkeys I T.toLooking hknown htarget hcovers
      obtain ⟨K, haffords⟩ := T.relax hkeys hpunctual I hknown htarget hcovers
      have T' : q.InTime layer (q.relax f cost p s) f cost :=
        ⟨A.looking, K.timely, T.exact, fun hf g label hc hg => by
          obtain ⟨hc₀, label₀, hg₀⟩ := K.closesNone g label hc hg
          exact T.first hf g label₀ hc₀ hg₀⟩
      obtain ⟨K', hrest⟩ := ih A.invariant T' fun t ht => hss t (List.mem_cons_of_mem _ ht)
      refine ⟨⟨K.onward.trans K'.onward, K'.timely, K.closesNone.trans K'.closesNone⟩,
        fun t ht c hc => ?_⟩
      rcases List.mem_cons.mp ht with rfl | ht
      · exact K'.onward.affords _ c (haffords c hc)
      · exact hrest t ht c hc

/-- Every signature that leads on from a certificate was taken account of at its cost. -/
def Exhausted (q : Search) (p : Progress) (f : Fingerprint) : Prop :=
  ∀ label, p.labels.find? f = some label → ∀ s ∈ q.residual.network.signatures,
    s.target.fingerprint = f → q.residual.Covers q.subject s →
      ∀ c, q.costVia? f label.cost s = some c → p.Affords s.issuer.fingerprint c

theorem Exhausted.onward (h : q.Exhausted p f) (honward : p.Onward p') (hclosed : p.Closed f)
    {label : Label} (hlabel : p.labels.find? f = some label) : q.Exhausted p' f := by
  intro label' hlabel' s hs htarget hcovers c hc
  rw [(honward.closed f label hclosed hlabel).2, Option.some.injEq] at hlabel'
  exact honward.affords _ c (h label hlabel s hs htarget hcovers c (hlabel' ▸ hc))

theorem InTime.lookAt (hkeys : q.residual.network.WellKeyed) (hpunctual : q.Punctual)
    (I : q.Invariant layer p) {label : Label} (hlabel : p.labels.find? f = some label)
    (T : q.roots.isFullyTrusted f = false → q.InTime layer p f label.cost) (htimely : p.TimelyOn q.LeadsOn)
    (h : q.lookAt f p = .ok p') :
    q.Keeps p p' ∧ (q.roots.isFullyTrusted f = false → q.Exhausted p' f) := by
  rcases lookAt_cases hlabel h with ⟨htrusted, rfl⟩ | ⟨htrusted, ss, hss, rfl⟩
  · exact ⟨⟨.refl p', htimely, .refl p'⟩, by simp [htrusted]⟩
  · have hmem := fun s => Residual.mem_signaturesOn hkeys hss (s := s)
    obtain ⟨K, haffords⟩ := (T htrusted).foldl_relax hkeys hpunctual I fun s hs => by
      obtain ⟨⟨hknown, htarget⟩, hcovers, -⟩ := (hmem s).mp hs
      exact ⟨hknown, htarget, hcovers⟩
    refine ⟨K, fun _ label' hlabel' s hs htarget hcovers c hc => ?_⟩
    rw [(K.onward.closed f label (T htrusted).closed hlabel).2, Option.some.injEq] at hlabel'
    subst hlabel'
    exact haffords s ((hmem s).mpr ⟨⟨hs, htarget⟩, hcovers, I.deep_of_costVia? hlabel hc⟩) c hc

/-! ## The whole exploration -/

/-- What holds between two looks of a punctual search. -/
structure Tidy (q : Search) (layer : Int) (p : Progress) : Prop extends q.Explored layer p where
  timely : p.TimelyOn q.LeadsOn
  exhausted : ∀ f label, p.Closed f → p.labels.find? f = some label →
    q.roots.isFullyTrusted f = false → q.Exhausted p f
  begun : p.Closed q.target ∨ ∀ g label, p.labels.find? g = some label → g = q.target

theorem seed_tidy (q : Search) : q.Tidy q.seedLabel.cost.length q.seed := by
  have honly : ∀ g label, q.seed.labels.find? g = some label → g = q.target := by
    intro g label hg
    by_contra hne
    simp [seed_eq, Table.find?_cons, Ne.symm hne] at hg
  refine ⟨q.seed_explored, fun e he _ => ?_, fun f label hc hf => ?_, .inr honly⟩
  · obtain rfl : e = (q.target, q.seedLabel.cost) := by simpa [seed_eq] using he
    exact ⟨q.seedLabel, by simp [seed_eq, Table.find?_cons], rfl⟩
  · exact (hc (by simp [Progress.queue, seed_eq, honly f label hf])).elim

section Pop

variable (D : q.Tidy layer p) {rest : List (Fingerprint × Cost)}
  (hentries : p.frontier.entries = (f, cost) :: rest)

include D hentries

theorem Tidy.onward_pop : p.Onward { p with frontier := ⟨rest⟩ } :=
  ⟨fun _ _ hg => hg, fun g label hc hg =>
    ⟨((D.toExplored.pop hentries).1.closed g label hc hg).1, hg⟩⟩

theorem Tidy.timely_pop :
    Progress.TimelyOn { p with frontier := ⟨rest⟩ } q.LeadsOn := fun e he =>
  D.timely e (by rw [hentries]; exact List.mem_cons_of_mem _ he)

/-- The first certificate of the frontier is looked at in time. -/
theorem Tidy.inTime {label : Label} (hlabel : p.labels.find? f = some label)
    (hpassable : q.roots.isFullyTrusted f = false) :
    q.InTime cost.length { p with frontier := ⟨rest⟩ } f label.cost := by
  have hentry : (f, cost) ∈ p.frontier.entries := by
    rw [hentries]
    exact List.mem_cons_self
  have hopen : ¬p.Closed f := fun hc => hc (List.mem_map.mpr ⟨_, hentry, rfl⟩)
  obtain ⟨⟨label', hlabel', -, hlow⟩, -, -, hstart⟩ := D.waiting _ hentry
  obtain rfl : label = label' := by simpa [hlabel] using hlabel'
  refine
    { label := ⟨label.via, hlabel⟩
      closed := (D.toExplored.pop hentries).2.2
      passable := hpassable
      low := hlow
      start := hstart
      timely := D.timely_pop hentries
      exact := fun hleads => by
        obtain ⟨timely, htimely, hexact⟩ := D.timely _ hentry hleads
        obtain rfl : label = timely := by simpa [hlabel] using htimely
        exact hexact
      first := fun hf g l _ hg => ?_ }
  rcases D.begun with hbegun | honly
  · exact (hopen (hf ▸ hbegun)).elim
  · exact honly g l hg

end Pop

theorem Tidy.step (hkeys : q.residual.network.WellKeyed) (hpunctual : q.Punctual)
    (D : q.Tidy layer p) {rest : List (Fingerprint × Cost)}
    (hentries : p.frontier.entries = (f, cost) :: rest)
    (h : q.lookAt f { p with frontier := ⟨rest⟩ } = .ok p') : q.Tidy cost.length p' := by
  obtain ⟨⟨label, hlabel⟩, E', -⟩ := D.toExplored.step hkeys hentries h
  obtain ⟨-, I, hclosed⟩ := D.toExplored.pop hentries
  obtain ⟨K, hexhausted⟩ :=
    InTime.lookAt hkeys hpunctual I hlabel (D.inTime hentries hlabel) (D.timely_pop hentries) h
  have honward := (D.onward_pop hentries).trans K.onward
  refine ⟨E', K.timely, fun g l hc hg hpassable => ?_, .inl ?_⟩
  · by_cases hgf : g = f
    · exact hgf ▸ hexhausted (hgf ▸ hpassable)
    · obtain ⟨hc₁, l₁, hg₁⟩ := K.closesNone g l hc hg
      have hc₀ := Progress.closed_of_pop hentries hgf hc₁
      exact (D.exhausted g l₁ hc₀ hg₁ hpassable).onward honward hc₀ hg₁
  · rcases D.begun with hbegun | honly
    · exact (honward.closed _ _ hbegun D.target).1
    · obtain rfl := honly f label hlabel
      exact (K.onward.closed _ _ hclosed hlabel).1

theorem Explores.tidy (h : q.Explores p p') (hkeys : q.residual.network.WellKeyed)
    (hpunctual : q.Punctual) (D : q.Tidy layer p) : ∃ layer', q.Tidy layer' p' := by
  induction h generalizing layer with
  | done p _ => exact ⟨layer, D⟩
  | @look p _ _ f cost rest _ hpop _ hlook _ ih =>
      exact ih (D.step hkeys hpunctual (Frontier.pop?_eq_some_iff.mp hpop) hlook)

/-! ## No chain of the same length carries more -/

/-- Some signature of an admissible chain has no more left than the label of its first certificate
says, unless the chain is longer than the label. The induction is on the hops of the chain. -/
theorem Tidy.exists_left_le (D : q.Tidy layer p) (hdone : p.queue = []) {start : Fingerprint}
    {ch : Chain} (h : q.Admissible start ch) {label : Label}
    (hlabel : p.labels.find? start = some label) (hlength : (ch.length : Int) ≤ label.cost.length) :
    ∃ s ∈ ch.signatures, q.residual.left s ≤ label.cost.amount := by
  obtain ⟨hops, closing⟩ := ch
  rw [Chain.length_eq] at hlength
  induction hops generalizing start label with
  | nil =>
      obtain rfl : start = q.target := h.connected
      obtain ⟨own, hc, hseed⟩ := h.seedLabel_eq
      obtain rfl : closing = some own := by simpa using hc
      obtain rfl : q.seedLabel = label := by simpa [D.target] using hlabel
      exact ⟨own, by simp [Chain.signatures], by simp [hseed]⟩
  | cons s rest ih =>
      obtain ⟨rfl, -⟩ := h.connected
      have husable := h.usable (s := s) List.mem_cons_self
      simp only [List.length_cons] at hlength
      have hnoDearer : ∀ next, p.labels.find? s.target.fingerprint = some next → ∀ c,
          q.costVia? s.target.fingerprint next.cost s = some c → label.cost.NoDearer c := by
        intro next hnext c hc
        obtain ⟨label', hlabel', hle⟩ := D.exhausted _ next (by simp [Progress.Closed, hdone]) hnext
          husable.passable next hnext s husable.known rfl husable.covers c hc
        rw [hlabel, Option.some.injEq] at hlabel'
        exact hlabel' ▸ hle
      by_cases hlast : closing = none ∧ rest = []
      · obtain ⟨rfl, rfl⟩ := hlast
        obtain ⟨htarget, hcost⟩ := h.costVia?_of_single q.seedLabel.cost
        have hle := Cost.noDearer_iff.mp (hnoDearer _ (htarget ▸ D.target) _ hcost)
        simp only [List.length_nil, Option.toList_none] at hlength hle
        exact ⟨s, by simp [Chain.signatures], by omega⟩
      · have hmore : closing = none → rest ≠ [] := fun hnone hnil => hlast ⟨hnone, hnil⟩
        obtain ⟨next, hnext, hnextLength⟩ := D.reaches hdone (h.tail hmore)
        rw [Chain.length_eq] at hnextLength
        obtain ⟨c, hc, hcLength⟩ := D.exists_costVia? h hmore hnext hnextLength
        have hle := Cost.noDearer_iff.mp (hnoDearer next hnext c hc)
        obtain ⟨-, ⟨-, rfl⟩ | ⟨-, -, -, rfl⟩⟩ := costVia?_eq_some_iff.mp hc
        · simp only at hle hcLength
          exact ⟨s, by simp [Chain.signatures], by omega⟩
        · simp only [Cost.extend] at hle hcLength
          obtain ⟨t, ht, htleft⟩ := ih hnext (h.tail hmore) (by simp only; omega)
          rcases Int.le_total (q.residual.left s) next.cost.amount with hmin | hmin
          · exact ⟨s, by simp [Chain.signatures], by omega⟩
          · exact ⟨t, List.mem_cons_of_mem s ht, by omega⟩

theorem Reports.exists_left_le {found : List Candidate} (h : q.Reports found)
    (hkeys : q.residual.network.WellKeyed) (hpunctual : q.Punctual) {c : Candidate} (hc : c ∈ found)
    {ch : Chain} (hch : q.Admissible c.start ch)
    (hlength : ch.length = c.path.signatures.length) :
    ∃ s ∈ ch.signatures, q.residual.left s ≤ c.amount := by
  cases h with
  | invalid _ => cases hc
  | valid _ hexplores hfound =>
      obtain ⟨hdone, -⟩ := hexplores.explored hkeys q.seed_explored
      obtain ⟨layer, D⟩ := hexplores.tidy hkeys hpunctual q.seed_tidy
      obtain ⟨-, label, hlabel, hlabelLength, hamount⟩ := hfound.sound D.toInvariant hkeys hc
      rw [← hamount]
      exact D.exists_left_le hdone hch hlabel (by omega)

/-- A search reports no more for a chain than it carries. A punctual search reports just what it
carries, and no admissible chain of the same length from there carries more. -/
theorem candidates_widest (hkeys : q.residual.network.WellKeyed)
    (hsearchable : q.residual.network.Searchable) {userId : String}
    (hsubject : q.subject = .userId userId) :
    ∃ found, q.candidates = .ok found ∧ ∀ c ∈ found,
      (∀ s ∈ c.path.signatures, c.amount ≤ q.residual.left s) ∧
      (q.Punctual → (∃ s ∈ c.path.signatures, q.residual.left s = c.amount) ∧
        ∀ ch, q.Admissible c.start ch → ch.length = c.path.signatures.length →
          ∃ s ∈ ch.signatures, q.residual.left s ≤ c.amount) := by
  obtain ⟨found, hfound⟩ := exists_candidates hkeys hsearchable hsubject
  have hreports := reports_of_candidates hkeys hfound
  refine ⟨found, hfound, fun c hc => ?_⟩
  obtain ⟨hsound, -⟩ := hreports.sound hkeys hc
  refine ⟨hsound.carries, fun hpunctual => ?_⟩
  have hwidest := fun ch (hch : q.Admissible c.start ch) =>
    hreports.exists_left_le hkeys hpunctual hc hch
  obtain ⟨ch, hch, hsignatures⟩ := hsound.admissible
  obtain ⟨s, hs, hle⟩ := hwidest ch hch (by rw [hsignatures, Chain.length])
  rw [← hsignatures] at hs
  exact ⟨⟨s, hs, Int.le_antisymm hle (hsound.carries s hs)⟩, hwidest⟩

end Search

namespace Introduction

/-- Nobody but `A` and `B` issues anything, and `B` only certifies. -/
theorem punctual_search : search.Punctual := by
  intro s t h
  have hknown := h.introduction.known
  simp only [search, signatures_eq, List.mem_cons, List.not_mem_nil, or_false] at hknown
  rcases hknown with rfl | rfl | rfl
  · exact absurd h.introduces (by decide)
  · exact absurd h.target (by decide)
  · exact absurd h.introduces (by decide)

end Introduction

theorem Search.candidates_widest_introduction :
    Introduction.network.WellKeyed ∧ Introduction.network.Searchable ∧
      Introduction.search.Punctual ∧
      ∃ found, Introduction.search.candidates = .ok found ∧ found.map (·.amount) = [20] ∧
        ∀ c ∈ found, ∃ s ∈ c.path.signatures, Introduction.search.residual.left s = c.amount := by
  have hamounts : Introduction.search.candidates.toOption.map (·.map (·.amount)) = some [20] := by
    cbv
  obtain ⟨found, hfound, hwidest⟩ := Search.candidates_widest (q := Introduction.search)
    Introduction.wellKeyed Introduction.searchable
    (rfl : Introduction.search.subject = .userId "carol@example.org")
  exact ⟨Introduction.wellKeyed, Introduction.searchable, Introduction.punctual_search, found, hfound,
    by simpa [hfound, Except.toOption] using hamounts,
    fun c hc => ((hwidest c hc).2 Introduction.punctual_search).1⟩

/-! ## A certificate that is found twice

`X` introduces `T` with an amount of 10 and certifies the user ID of `T` with full trust. It waits
for longer than `Z`, which is found over `Y` first, and so `W` is labelled with what `Z` promised
before it was found over `X`. -/

namespace Overtaken

-- Amounts and depths are written as numerals below.
local instance neZero_depths : NeZero 255 := ⟨by decide⟩

local instance neZero_amounts : NeZero 256 := ⟨by decide⟩

def node (text : String) : Node := { fingerprint := ⟨text⟩ }

def target : Node := { fingerprint := ⟨"T"⟩, userIds := [("t@example.org", .none)] }

def introduction (issuer target : Node) (amount : Fin 256) (depth : Fin 255) : Signature where
  issuer := issuer
  target := target
  userId := none
  created := Introduction.moment
  amount := amount
  depth := .limited depth

def certification (issuer : Node) (amount : Fin 256) : Signature where
  issuer := issuer
  target := target
  userId := some "t@example.org"
  created := Introduction.moment
  amount := amount

def signatures : List Signature :=
  [introduction (node "X") target 10 1, certification (node "X") 120, certification (node "Y") 50,
    introduction (node "Z") (node "X") 120 1, introduction (node "Z") (node "Y") 50 1,
    introduction (node "W") (node "Z") 120 2]

def query : Query where
  network := (signatures.foldl Builder.addSignature (({} : Builder).addNode target).1).build
    Introduction.moment
  roots := ⟨[(⟨"W"⟩, fullTrust)]⟩

/-- Here `X` introduces `T` with more than it certifies the user ID with. `H`, which is found over
`Y`, still comes before `X` and discovers `G` and `J`. Then `X` brings `G` forward, but `G` keeps its
place behind `J`, and `K` is labelled with what `J` promised before it was found over `G`. -/
def detour : List Signature :=
  [introduction (node "X") target 100 1, certification (node "X") 90, certification (node "Y") 120,
    introduction (node "H") (node "Y") 110 1, introduction (node "G") (node "H") 10 2,
    introduction (node "J") (node "H") 50 2, introduction (node "G") (node "X") 120 2,
    introduction (node "J") (node "G") 120 3, introduction (node "K") (node "J") 120 3]

def detourQuery : Query where
  network := (detour.foldl Builder.addSignature (({} : Builder).addNode target).1).build
    Introduction.moment
  roots := ⟨[(⟨"K"⟩, fullTrust)]⟩

end Overtaken

/-- A search may report less for a chain than every signature of it has. -/
theorem Query.candidates_less_than_trust :
    ∃ found, Overtaken.query.candidates ⟨"T"⟩ (.userId "t@example.org") = .ok found ∧
      ∃ c ∈ found, c.start = ⟨"W"⟩ ∧ c.amount = 50 ∧
        ∀ s ∈ c.path.signatures,
          Residual.left { network := Overtaken.query.network, mode := .authentication } s = 120 := by
  have hshown : (Overtaken.query.candidates ⟨"T"⟩ (.userId "t@example.org")).toOption.map
      (·.map fun c => (c.start, c.amount, c.path.signatures.map
        (Residual.left { network := Overtaken.query.network, mode := .authentication }))) =
      some [(⟨"W"⟩, 50, [120, 120, 120])] := by
    cbv
  obtain ⟨found, hfound, hone⟩ := exists_ok_of_toOption hshown
  simp only [List.map_eq_singleton_iff, Prod.mk.injEq] at hone
  obtain ⟨c, rfl, hstart, hamount, hleft⟩ := hone
  refine ⟨[c], hfound, c, List.mem_singleton_self c, hstart, hamount, fun s hs => ?_⟩
  have hmem := List.mem_map_of_mem
    (f := Residual.left { network := Overtaken.query.network, mode := .authentication }) hs
  rw [hleft] at hmem
  simpa using hmem

/-- The introduction of the issuer may also carry more than its certification. -/
example :
    (Overtaken.detourQuery.candidates ⟨"T"⟩ (.userId "t@example.org")).toOption.map (·.map fun c =>
      (c.start, c.amount, c.path.signatures.map
        (Residual.left { network := Overtaken.detourQuery.network, mode := .authentication }))) =
      some [(⟨"K"⟩, 50, [120, 120, 120, 90])] := by
  cbv

end TrustWeb
