import TrustWeb.Proofs.Search.Invariant

/-! # Exploration

A look at a certificate keeps the invariant and takes account of every signature that leads on from
it. Exploring ends with an empty frontier: each certificate enters it once, and all of them but the
target issue an edge. -/

namespace TrustWeb

/-- A certificate has a label of at most the given length. -/
def Progress.Reaches (p : Progress) (f : Fingerprint) (length : Int) : Prop :=
  ∃ label, p.labels.find? f = some label ∧ label.cost.length ≤ length

theorem Progress.Reaches.mono {p : Progress} {f : Fingerprint} {length length' : Int}
    (h : p.Reaches f length) (hle : length ≤ length') : p.Reaches f length' := by
  obtain ⟨label, hlabel, hle'⟩ := h
  exact ⟨label, hlabel, Int.le_trans hle' hle⟩

theorem Progress.Later.reaches {p p' : Progress} (h : p.Later p') {f : Fingerprint} {length : Int}
    (hf : p.Reaches f length) : p'.Reaches f length := by
  obtain ⟨label, hlabel, hle⟩ := hf
  obtain ⟨label', hlabel', hle'⟩ := h.labels f label hlabel
  exact ⟨label', hlabel', Int.le_trans hle' hle⟩

/-- When the first certificate leaves the frontier, no other one is closed. -/
theorem Progress.closed_of_pop {p : Progress} {f g : Fingerprint} {cost : Cost}
    {rest : List (Fingerprint × Cost)} (h : p.frontier.entries = (f, cost) :: rest) (hne : g ≠ f)
    (hg : Progress.Closed { p with frontier := ⟨rest⟩ } g) : p.Closed g := by
  simp only [Closed, queue, h, List.map_cons, List.mem_cons, not_or]
  exact ⟨hne, hg⟩

namespace Search

variable {q : Search} {layer : Int} {p p' : Progress} {f : Fingerprint} {cost : Cost}

/-! ## Looking at a certificate -/

/-- What looking at a certificate does to the state of the search, signature by signature. -/
structure Advance (q : Search) (layer : Int) (f : Fingerprint) (cost : Cost) (p p' : Progress) :
    Prop where
  later : p.Later p'
  closesNone : p.ClosesNone p'
  invariant : q.Invariant layer p'
  looking : q.Looking layer p' f cost
  balance : p'.labels.length + p.queue.length = p.labels.length + p'.queue.length

/-- Every signature that leads on from a certificate was taken account of. -/
def Relaxed (q : Search) (p : Progress) (f : Fingerprint) : Prop :=
  ∀ label, p.labels.find? f = some label → ∀ s ∈ q.residual.network.signatures,
    s.target.fingerprint = f → q.residual.Covers q.subject s →
      ∀ c, q.costVia? f label.cost s = some c → p.Reaches s.issuer.fingerprint c.length

theorem Relaxed.later (h : q.Relaxed p f) (hlater : p.Later p') (hclosed : p.Closed f)
    {label : Label} (hlabel : p.labels.find? f = some label) : q.Relaxed p' f := by
  intro label' hlabel' s hs htarget hcovers c' hc'
  obtain ⟨-, label'', hlabel'', hlength, -⟩ := hlater.closed f label hclosed hlabel
  obtain rfl : label'' = label' := by simpa [hlabel''] using hlabel'
  obtain ⟨c, hc, hlength'⟩ := exists_costVia?_of_length hc' hlength.symm
  rw [← hlength']
  exact hlater.reaches (h label hlabel s hs htarget hcovers c hc)

theorem Looking.of_label_eq (L : q.Looking layer p f cost) (hlater : p.Later p')
    (h : p'.labels.find? f = p.labels.find? f) : q.Looking layer p' f cost := by
  obtain ⟨via, hlabel⟩ := L.label
  exact ⟨⟨via, h.trans hlabel⟩, (hlater.closed f _ L.closed hlabel).1, L.passable, L.low, L.start⟩

theorem Advance.refl (I : q.Invariant layer p) (L : q.Looking layer p f cost) :
    q.Advance layer f cost p p :=
  ⟨.refl p, .refl p, I, L, rfl⟩

theorem Advance.trans {p'' : Progress} (A : q.Advance layer f cost p p')
    (A' : q.Advance layer f cost p' p'') : q.Advance layer f cost p p'' := by
  refine ⟨A.later.trans A'.later, A.closesNone.trans A'.closesNone, A'.invariant, A'.looking, ?_⟩
  have h := A.balance
  have h' := A'.balance
  omega

section Change

variable (I : q.Invariant layer p) (L : q.Looking layer p f cost) {g : Fingerprint}
  {old new : Label}

include I L

theorem discover_advance (hnone : p.labels.find? g = none) (hnew : q.Justified p g new)
    (hlow : layer ≤ new.cost.length) (hhigh : new.cost.length ≤ layer + 1) :
    q.Advance layer f cost p (p.discover g new) := by
  have hwaits := I.not_waiting hnone
  have hlater := Progress.later_discover new hnone hwaits
  obtain ⟨via, hlabel⟩ := L.label
  obtain ⟨-, hlabel'⟩ := Progress.find?_discover new hnone hlabel
  refine ⟨hlater, Progress.closesNone_discover hwaits, I.discover hnone hnew hlow hhigh,
    L.of_label_eq hlater (hlabel'.trans hlabel.symm), ?_⟩
  have hqueue := (Progress.queue_discover new hwaits).length_eq
  rw [Progress.labels_discover, Table.length_put, if_neg (Table.not_mem_keys hnone), hqueue,
    List.length_cons]
  omega

theorem relabel_advance (hold : p.labels.find? g = some old)
    (hcheaper : new.cost.cheaper old.cost = true) (hne : g ≠ q.target) (hself : g ≠ f)
    (hnew : q.Justified p g new) (hlow : layer ≤ new.cost.length) :
    q.Advance layer f cost p (p.relabel g new) := by
  have hlater := I.later_relabel hold hcheaper hlow
  refine ⟨hlater, Progress.closesNone_relabel hold, I.relabel hold hcheaper hne hnew hlow,
    L.of_label_eq hlater (Table.find?_put_of_ne _ _ hself), ?_⟩
  rw [Progress.labels_relabel, Table.length_put, if_pos (Table.mem_keys_iff.mpr ⟨old, hold⟩)]
  rfl

end Change

/-- A signature that leads to its issuer more cheaply changes the issuer's label; neither the target
nor the certificate that is looked at changes its own. -/
theorem relax_advance (hkeys : q.residual.network.WellKeyed) (I : q.Invariant layer p)
    (L : q.Looking layer p f cost) {s : Signature} (hknown : s ∈ q.residual.network.signatures)
    (htarget : s.target.fingerprint = f) (hcovers : q.residual.Covers q.subject s) :
    q.Advance layer f cost p (q.relax f cost p s) ∧
      ∀ c, q.costVia? f cost s = some c →
        (q.relax f cost p s).Reaches s.issuer.fingerprint c.length := by
  unfold relax
  cases hc : q.costVia? f cost s with
  | none => exact ⟨.refl I L, by simp⟩
  | some c =>
      obtain ⟨-, hlow, hhigh⟩ := I.cost_bounds L hc
      have hnew := I.justifies L hc hknown htarget hcovers
      simp only [Option.some.injEq, forall_eq']
      cases hissuer : p.labels.find? s.issuer.fingerprint with
      | none =>
          exact ⟨discover_advance I L hissuer hnew hlow hhigh, ⟨some s, c⟩, by simp, Int.le_refl _⟩
      | some old =>
          simp only
          by_cases hcheaper : c.cheaper old.cost = true
          · have hseed : s.issuer.fingerprint ≠ q.target := fun h => by
              rw [h, I.target, Option.some.injEq] at hissuer
              exact I.not_cheaper_seed L hc hkeys htarget h (hissuer ▸ hcheaper)
            have hself : s.issuer.fingerprint ≠ f := fun h => by
              obtain ⟨via, hlabel⟩ := L.label
              rw [h, hlabel, Option.some.injEq] at hissuer
              rw [← hissuer] at hcheaper
              exact I.not_cheaper_self L hc hkeys htarget h hcheaper
            rw [if_pos hcheaper]
            exact ⟨relabel_advance I L hissuer hcheaper hseed hself hnew hlow, ⟨some s, c⟩, by simp,
              Int.le_refl _⟩
          · rw [if_neg hcheaper]
            refine ⟨.refl I L, old, hissuer, ?_⟩
            rw [Cost.cheaper_iff] at hcheaper
            omega

theorem foldl_relax_advance (hkeys : q.residual.network.WellKeyed) {ss : List Signature}
    (I : q.Invariant layer p) (L : q.Looking layer p f cost)
    (hss : ∀ s ∈ ss, s ∈ q.residual.network.signatures ∧ s.target.fingerprint = f ∧
      q.residual.Covers q.subject s) :
    q.Advance layer f cost p (ss.foldl (q.relax f cost) p) ∧
      ∀ s ∈ ss, ∀ c, q.costVia? f cost s = some c →
        (ss.foldl (q.relax f cost) p).Reaches s.issuer.fingerprint c.length := by
  induction ss generalizing p with
  | nil => exact ⟨.refl I L, by simp⟩
  | cons s rest ih =>
      obtain ⟨hknown, htarget, hcovers⟩ := hss s List.mem_cons_self
      obtain ⟨A, hreaches⟩ := relax_advance hkeys I L hknown htarget hcovers
      obtain ⟨A', hrest⟩ := ih A.invariant A.looking fun t ht => hss t (List.mem_cons_of_mem _ ht)
      refine ⟨A.trans A', fun t ht c hc => ?_⟩
      rcases List.mem_cons.mp ht with rfl | ht
      · exact A'.later.reaches (hreaches c hc)
      · exact hrest t ht c hc

/-- What holds between two looks at certificates, and that all closed ones were looked at. -/
structure Explored (q : Search) (layer : Int) (p : Progress) : Prop
    extends q.Invariant layer p where
  relaxed : ∀ f label, p.Closed f → p.labels.find? f = some label →
    q.roots.isFullyTrusted f = false → q.Relaxed p f

/-- The look-up drops no signature that leads on: it asks for one hop less than needed. -/
theorem Invariant.deep_of_costVia? (I : q.Invariant layer p) {label : Label}
    (hlabel : p.labels.find? f = some label) {s : Signature} {c : Cost}
    (hc : q.costVia? f label.cost s = some c) (hm : q.residual.mode = .authentication) :
    s.depth.belowNumber (max 0 (label.cost.length - 1)) = false := by
  obtain ⟨-, ⟨hbinding, -⟩ | ⟨-, -, hdeep, -⟩⟩ := costVia?_eq_some_iff.mp hc
  · have hlength : label.cost.length ≤ 1 := by
      rw [(certifiesBinding_iff.mp hbinding).2, I.target, Option.some.injEq] at hlabel
      exact hlabel ▸ q.seedLabel_length.2
    rw [show max 0 (label.cost.length - 1) = 0 by omega, Depth.belowNumber_zero]
  · have hnonneg := I.length_nonneg hlabel
    exact Depth.belowNumber_of_le (hdeep hm) (by omega)

theorem lookAt_cases {label : Label} (hlabel : p.labels.find? f = some label)
    (h : q.lookAt f p = .ok p') :
    q.roots.isFullyTrusted f = true ∧ p' = p ∨
      q.roots.isFullyTrusted f = false ∧ ∃ ss,
        q.residual.signaturesOn f q.subject (max 0 (label.cost.length - 1)) = .ok ss ∧
          p' = ss.foldl (q.relax f label.cost) p := by
  unfold lookAt at h
  cases htrusted : q.roots.isFullyTrusted f with
  | true =>
      rw [htrusted, if_pos rfl, Except.ok.injEq] at h
      exact .inl ⟨rfl, h.symm⟩
  | false =>
      simp only [htrusted, Bool.false_eq_true, if_false, hlabel] at h
      cases hss : q.residual.signaturesOn f q.subject (max 0 (label.cost.length - 1)) with
      | error fault => simp [hss, Except.map] at h
      | ok ss =>
          simp only [hss, Except.map, Except.ok.injEq] at h
          exact .inr ⟨rfl, ss, rfl, h.symm⟩

theorem lookAt_spec (hkeys : q.residual.network.WellKeyed) (I : q.Invariant layer p) {label : Label}
    (hlabel : p.labels.find? f = some label) (hclosed : p.Closed f)
    (hlow : layer ≤ label.cost.length + 1) (hstart : f = q.target → layer ≤ 1)
    (h : q.lookAt f p = .ok p') :
    p.Later p' ∧ p.ClosesNone p' ∧ q.Invariant layer p' ∧
      p'.labels.length + p.queue.length = p.labels.length + p'.queue.length ∧
      (q.roots.isFullyTrusted f = false → q.Relaxed p' f) := by
  rcases lookAt_cases hlabel h with ⟨htrusted, rfl⟩ | ⟨htrusted, ss, hss, rfl⟩
  · exact ⟨.refl p', .refl p', I, rfl, by simp [htrusted]⟩
  · have L : q.Looking layer p f label.cost :=
      ⟨⟨label.via, hlabel⟩, hclosed, htrusted, hlow, hstart⟩
    have hmem := fun s => Residual.mem_signaturesOn hkeys hss (s := s)
    obtain ⟨A, hreaches⟩ := foldl_relax_advance hkeys I L fun s hs => by
      obtain ⟨⟨hknown, htarget⟩, hcovers, -⟩ := (hmem s).mp hs
      exact ⟨hknown, htarget, hcovers⟩
    refine ⟨A.later, A.closesNone, A.invariant, A.balance, fun _ label' hlabel' => ?_⟩
    obtain ⟨via, hvia⟩ := A.looking.label
    obtain rfl : ⟨via, label.cost⟩ = label' := by simpa [hvia] using hlabel'
    intro s hs htarget hcovers c hc
    exact hreaches s
      ((hmem s).mpr ⟨⟨hs, htarget⟩, hcovers, I.deep_of_costVia? hlabel hc⟩) c hc

/-! ## The next certificate -/

/-- The first entry of the frontier gives the next layer. -/
theorem Explored.pop (E : q.Explored layer p) {rest : List (Fingerprint × Cost)}
    (h : p.frontier.entries = (f, cost) :: rest) :
    p.Later { p with frontier := ⟨rest⟩ } ∧ q.Invariant cost.length { p with frontier := ⟨rest⟩ } ∧
      Progress.Closed { p with frontier := ⟨rest⟩ } f := by
  have hqueue : p.queue = f :: rest.map (·.1) := by simp [Progress.queue, h]
  have hclosed : ∀ g, Progress.Closed { p with frontier := ⟨rest⟩ } g ↔ g ∉ rest.map (·.1) :=
    fun g => Iff.rfl
  have honce := E.once
  rw [hqueue, List.nodup_cons] at honce
  have hordered := E.ordered
  rw [h, List.pairwise_cons] at hordered
  have hwaiting := E.waiting
  rw [h] at hwaiting
  obtain ⟨⟨label, hlabel, hle, -⟩, hlow, hhigh, -⟩ := hwaiting _ List.mem_cons_self
  have hlater : p.Later { p with frontier := ⟨rest⟩ } := by
    refine ⟨fun g label hg => ⟨label, hg, Int.le_refl _⟩, fun g label hc hg =>
      ⟨(hclosed g).mpr fun hmem => hc ?_, label, hg, rfl, Int.le_refl _⟩⟩
    rw [hqueue]
    exact List.mem_cons_of_mem _ hmem
  refine ⟨hlater, ⟨E.target, fun g l hg hne => (E.justified g l hg hne).mono hlater, E.keys,
    honce.2, hordered.2, fun e he => ?_, fun g l hc hg => ?_⟩, honce.1⟩
  · obtain ⟨hl, -, hh, hs⟩ := hwaiting e (List.mem_cons_of_mem _ he)
    exact ⟨hl, hordered.1 e he, by simp only at hlow; omega, hs⟩
  · by_cases hgf : g = f
    · subst hgf
      obtain rfl : label = l := by simpa [hlabel] using hg
      exact hle
    · have hsettled := E.settled g l (by
        rw [Progress.Closed, hqueue, List.mem_cons, not_or]
        exact ⟨hgf, hc⟩) hg
      simp only at hlow
      omega

theorem Explored.step (hkeys : q.residual.network.WellKeyed) (E : q.Explored layer p)
    {rest : List (Fingerprint × Cost)} (hentries : p.frontier.entries = (f, cost) :: rest)
    (h : q.lookAt f { p with frontier := ⟨rest⟩ } = .ok p') :
    (∃ label, p.labels.find? f = some label) ∧ q.Explored cost.length p' ∧
      p'.labels.length + p.queue.length = p.labels.length + p'.queue.length + 1 := by
  obtain ⟨hlater, I, hclosed⟩ := E.pop hentries
  obtain ⟨⟨label, hlabel, -, hge⟩, -, -, hstart⟩ :=
    E.waiting (f, cost) (by rw [hentries]; exact List.mem_cons_self)
  obtain ⟨hlater', hcloses, I', hbalance, hrelaxed⟩ :=
    lookAt_spec hkeys I hlabel hclosed hge hstart h
  refine ⟨⟨label, hlabel⟩, ⟨I', fun g l hc hg hpassable => ?_⟩, ?_⟩
  · by_cases hgf : g = f
    · exact hgf ▸ hrelaxed (hgf ▸ hpassable)
    · obtain ⟨hcg, l₀, hl₀⟩ := hcloses g l hc hg
      have hcg' := Progress.closed_of_pop hentries hgf hcg
      exact (E.relaxed g l₀ hcg' hl₀ hpassable).later (hlater.trans hlater') hcg' hl₀
  · simp only [Progress.queue, hentries, List.map_cons, List.length_cons] at hbalance ⊢
    omega

/-! ## The whole exploration -/

theorem seed_explored (q : Search) : q.Explored q.seedLabel.cost.length q.seed := by
  rw [seed_eq]
  have honly : ∀ g label, Table.find? [(q.target, q.seedLabel)] g = some label →
      g = q.target ∧ label = q.seedLabel := by
    intro g label hg
    by_cases h : q.target = g
    · simp only [Table.find?_cons, h, if_true, Option.some.injEq] at hg
      exact ⟨h.symm, hg.symm⟩
    · simp [Table.find?_cons, h] at hg
  have hwaits : ∀ g label, Progress.Closed ⟨[(q.target, q.seedLabel)],
      ⟨[(q.target, q.seedLabel.cost)]⟩⟩ g →
        Table.find? [(q.target, q.seedLabel)] g ≠ some label := by
    intro g label hclosed hg
    exact hclosed (by simp [Progress.queue, (honly g label hg).1])
  refine ⟨⟨by simp [Table.find?_cons], fun g label hg hne => (hne (honly g label hg).1).elim,
    by simp [Table.keys], by simp [Progress.queue], by simp, fun e he => ?_,
    fun g label hc hg => (hwaits g label hc hg).elim⟩,
    fun g label hc hg => (hwaits g label hc hg).elim⟩
  obtain rfl : e = (q.target, q.seedLabel.cost) := by simpa using he
  have hlength := q.seedLabel_length
  refine ⟨⟨q.seedLabel, by simp [Table.find?_cons], ?_, ?_⟩, ?_, ?_, fun _ => hlength.2⟩ <;>
    simp only <;> omega

/-- All certificates with a label but the target issue an edge. -/
theorem Invariant.length_labels_le (I : q.Invariant layer p)
    (hkeys : q.residual.network.WellKeyed) :
    p.labels.length ≤ q.residual.network.edges.length + 1 := by
  have hsubset : p.labels.keys ⊆ q.target :: q.residual.network.edges.keys.map (·.1) := by
    intro g hg
    obtain ⟨label, hlabel⟩ := Table.mem_keys_iff.mp hg
    by_cases hne : g = q.target
    · exact hne ▸ List.mem_cons_self
    · obtain ⟨s, hknown, rfl⟩ : ∃ s ∈ q.residual.network.signatures, s.issuer.fingerprint = g := by
        cases I.justified g label hlabel hne with
        | certifies s husable _ => exact ⟨s, husable.known, rfl⟩
        | delegates s _ _ husable => exact ⟨s, husable.known, rfl⟩
      exact List.mem_cons_of_mem _ (List.mem_map.mpr ⟨_, hkeys.endpoints_mem_keys hknown, rfl⟩)
  simpa [Table.keys] using List.Nodup.length_le_of_subset I.keys hsubset

/-- A run of the exploration: certificates that have a label are looked at until none waits. -/
inductive Explores (q : Search) : Progress → Progress → Prop where
  | done (p : Progress) (h : p.frontier.pop? = none) : Explores q p p
  | look {p next last : Progress} {f cost rest label}
      (hpop : p.frontier.pop? = some ((f, cost), rest))
      (hlabel : p.labels.find? f = some label)
      (hlook : q.lookAt f { p with frontier := rest } = .ok next) (hrest : Explores q next last) :
      Explores q p last

theorem Explores.explored (h : q.Explores p p') (hkeys : q.residual.network.WellKeyed)
    (E : q.Explored layer p) : p'.queue = [] ∧ ∃ layer', q.Explored layer' p' := by
  induction h generalizing layer with
  | done p hpop =>
      refine ⟨?_, layer, E⟩
      cases hentries : p.frontier.entries with
      | nil => simp [Progress.queue, hentries]
      | cons entry rest => simp [Frontier.pop?, hentries] at hpop
  | @look p _ _ f cost rest _ hpop _ hlook _ ih =>
      obtain ⟨-, E', -⟩ := E.step hkeys (Frontier.pop?_eq_some_iff.mp hpop) hlook
      exact ih E'

/-- There is enough fuel for every certificate. -/
theorem explores_of_exploreWith (hkeys : q.residual.network.WellKeyed) {fuel : Nat}
    (E : q.Explored layer p)
    (hfuel : q.residual.network.edges.length + 1 + p.queue.length ≤ fuel + p.labels.length)
    (h : q.exploreWith fuel p = .ok p') : q.Explores p p' := by
  induction fuel generalizing p layer with
  | zero =>
      obtain rfl : p = p' := by simpa [exploreWith] using h
      have hlabels := E.length_labels_le hkeys
      have hqueue : p.queue = [] := List.eq_nil_of_length_eq_zero (by omega)
      rw [Progress.queue, List.map_eq_nil_iff] at hqueue
      exact .done p (by simp [Frontier.pop?, hqueue])
  | succ fuel ih =>
      cases hentries : p.frontier.entries with
      | nil =>
          have hpop : p.frontier.pop? = none := by simp [Frontier.pop?, hentries]
          obtain rfl : p = p' := by simpa [exploreWith, hpop] using h
          exact .done p hpop
      | cons entry rest =>
          obtain ⟨f, cost⟩ := entry
          have hpop : p.frontier.pop? = some ((f, cost), ⟨rest⟩) := by
            simp [Frontier.pop?, hentries]
          simp only [exploreWith, hpop] at h
          cases hlook : q.lookAt f { p with frontier := ⟨rest⟩ } with
          | error fault => simp [hlook] at h
          | ok next =>
              simp only [hlook] at h
              obtain ⟨⟨label, hlabel⟩, E', hbalance⟩ := E.step hkeys hentries hlook
              exact .look hpop hlabel hlook (ih E' (by omega) h)

theorem explores_of_explore (hkeys : q.residual.network.WellKeyed) (h : q.explore = .ok p) :
    q.Explores q.seed p :=
  explores_of_exploreWith hkeys q.seed_explored (by simp [seed_eq, Progress.queue]) h

/-- A search fails only where the scope of a signature does. -/
theorem exists_explore (hkeys : q.residual.network.WellKeyed)
    (hcovers : ∀ s ∈ q.residual.network.signatures, ∃ found, s.scope.covers q.subject = .ok found) :
    ∃ p, q.explore = .ok p := by
  have hlook : ∀ f p, ∃ p', q.lookAt f p = .ok p' := by
    intro f p
    unfold lookAt
    split
    · exact ⟨p, rfl⟩
    · split
      · exact ⟨p, rfl⟩
      · next label _ =>
          obtain ⟨ss, hss⟩ := Residual.exists_signaturesOn (f := f) hkeys
            (max 0 (label.cost.length - 1)) hcovers
          exact ⟨_, by rw [hss]; rfl⟩
  have hexplore : ∀ fuel p, ∃ p', q.exploreWith fuel p = .ok p' := by
    intro fuel
    induction fuel with
    | zero => exact fun p => ⟨p, rfl⟩
    | succ fuel ih =>
        intro p
        cases hpop : p.frontier.pop? with
        | none => exact ⟨p, by simp [exploreWith, hpop]⟩
        | some popped =>
            obtain ⟨⟨f, cost⟩, rest⟩ := popped
            obtain ⟨next, hnext⟩ := hlook f { p with frontier := rest }
            obtain ⟨p', hp'⟩ := ih next
            exact ⟨p', by simp [exploreWith, hpop, hnext, hp']⟩
  exact hexplore _ q.seed

end Search

end TrustWeb
