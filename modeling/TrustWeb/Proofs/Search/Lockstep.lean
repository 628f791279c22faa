import Mathlib
import TrustWeb.Proofs.Search.Reachability

/-! # Searches in lockstep

A search sees of a signature which certificates it connects, over which datum, and at which cost it
leads to the target; depth, scope and dates matter only for whether it leads there. Two searches that
are offered the same on every certificate therefore take the same steps. Their states agree in
outline, and so do the chains that they report. -/

namespace TrustWeb

/-! ## Outlines -/

def Label.outline (l : Label) : Cost × Option Place :=
  (l.cost, l.via.map Signature.outline)

/-- The labels in outline. -/
def Progress.outline (p : Progress) : Table Fingerprint (Cost × Option Place) :=
  p.labels.mapValues Label.outline

def Path.outline (p : Path) : Fingerprint × List Place :=
  (p.root.fingerprint, p.signatures.map Signature.outline)

def Candidate.outline (c : Candidate) : Fingerprint × (Fingerprint × List Place) × Int :=
  (c.start, c.path.outline, c.amount)

/-- Two states of a search that differ in nothing that it sees. -/
structure Progress.Alike (p p' : Progress) : Prop where
  outline : p.outline = p'.outline
  frontier : p.frontier = p'.frontier

namespace Progress.Alike

variable {p p' : Progress} {f : Fingerprint}

theorem find? (h : p.Alike p') (f : Fingerprint) :
    (p.labels.find? f).map Label.outline = (p'.labels.find? f).map Label.outline := by
  simpa [Progress.outline, Table.find?_mapValues] using congrArg (Table.find? · f) h.outline

theorem find?_eq_none (h : p.Alike p') (hnone : p.labels.find? f = none) :
    p'.labels.find? f = none := by
  have hf := h.find? f
  rw [hnone, Option.map_none, eq_comm, Option.map_eq_none_iff] at hf
  exact hf

theorem find?_eq_some (h : p.Alike p') {label : Label} (hlabel : p.labels.find? f = some label) :
    ∃ label', p'.labels.find? f = some label' ∧ label.cost = label'.cost ∧
      label.via.map Signature.outline = label'.via.map Signature.outline := by
  have hf := h.find? f
  rw [hlabel, Option.map_some, eq_comm, Option.map_eq_some_iff] at hf
  obtain ⟨label', hlabel', houtline⟩ := hf
  exact ⟨label', hlabel', (congrArg Prod.fst houtline).symm, (congrArg Prod.snd houtline).symm⟩

theorem find?_via (h : p.Alike p') {s : Signature} {cost : Cost}
    (hlabel : p.labels.find? f = some ⟨some s, cost⟩) :
    ∃ s', p'.labels.find? f = some ⟨some s', cost⟩ ∧ s.outline = s'.outline := by
  obtain ⟨⟨via, _⟩, hlabel', rfl, hvia⟩ := h.find?_eq_some hlabel
  cases via with
  | none => cases hvia
  | some s' => exact ⟨s', hlabel', Option.some.inj hvia⟩

theorem symm (h : p.Alike p') : p'.Alike p := ⟨h.outline.symm, h.frontier.symm⟩

theorem keys (h : p.Alike p') : p.labels.keys = p'.labels.keys := by
  simpa [Progress.outline] using congrArg Table.keys h.outline

theorem pop (h : p.Alike p') (rest : Frontier Fingerprint) :
    Progress.Alike { p with frontier := rest } { p' with frontier := rest } :=
  ⟨h.outline, rfl⟩

theorem put (h : p.Alike p') {label label' : Label} (hlabel : label.outline = label'.outline)
    (frontier : Frontier Fingerprint) :
    Progress.Alike ⟨p.labels.put f label, frontier⟩ ⟨p'.labels.put f label', frontier⟩ := by
  refine ⟨?_, rfl⟩
  simp only [Progress.outline, Table.mapValues_put, hlabel]
  exact congrArg (Table.put · f label'.outline) h.outline

end Progress.Alike

/-! ## Residuals that look the same -/

/-- Two residuals with the same certificates and the same trust left on every signature. -/
structure Residual.Alike (r r' : Residual) : Prop where
  node? : ∀ f, r'.network.node? f = r.network.node? f
  referenceTime : r'.network.referenceTime = r.network.referenceTime
  left : ∀ s, r'.left s = r.left s

namespace Residual.Alike

variable {r r' : Residual} (A : r.Alike r')

include A

theorem validTarget? (f : Fingerprint) (subject : Subject) :
    r'.validTarget? f subject = r.validTarget? f subject := by
  simp only [Residual.validTarget?, A.node?, A.referenceTime]

theorem selfSignature? (f : Fingerprint) (subject : Subject) :
    r'.selfSignature? f subject = r.selfSignature? f subject := by
  simp only [Residual.selfSignature?, Residual.selfSignature, A.node?, A.referenceTime]

end Residual.Alike

namespace Search

/-! ## What a search is offered -/

/-- Whether a signature leads to the target. -/
def leadsOn (q : Search) (f : Fingerprint) (cost : Cost) (s : Signature) : Bool :=
  (q.costVia? f cost s).isSome

/-- Two lists of signatures that lead to the target alike, one by one, if those that do not are
left out. -/
def OfferSame (q q' : Search) (f : Fingerprint) (cost : Cost) (ss ss' : List Signature) : Prop :=
  List.Forall₂ (fun s s' => s.outline = s'.outline ∧ q.costVia? f cost s = q'.costVia? f cost s')
    (ss.filter (q.leadsOn f cost)) (ss'.filter (q'.leadsOn f cost))

/-- The searches look for the same binding from the same roots, and are offered the same on every
certificate. -/
structure Mirrors (q q' : Search) : Prop where
  roots : q'.roots = q.roots
  target : q'.target = q.target
  subject : q'.subject = q.subject
  residual : q.residual.Alike q'.residual
  offers : ∀ f cost ss ss',
    q.residual.signaturesOn f q.subject (max 0 (cost.length - 1)) = .ok ss →
      q'.residual.signaturesOn f q'.subject (max 0 (cost.length - 1)) = .ok ss' →
        q.OfferSame q' f cost ss ss'

variable {q q' : Search} {f : Fingerprint} {cost : Cost} {p p' last last' : Progress}

theorem foldl_relax_filter (ss : List Signature) :
    (ss.filter (q.leadsOn f cost)).foldl (q.relax f cost) p = ss.foldl (q.relax f cost) p := by
  rw [List.foldl_filter]
  refine congrArg (fun step => ss.foldl step p) (funext fun p => funext fun s => ?_)
  cases hc : q.costVia? f cost s <;> simp [leadsOn, relax, hc]

theorem Mirrors.certifiesBinding (M : q.Mirrors q') {s s' : Signature}
    (h : s.outline = s'.outline) :
    q'.certifiesBinding s'.target.fingerprint s' = q.certifiesBinding s.target.fingerprint s := by
  rw [Search.certifiesBinding, Search.certifiesBinding, M.subject, M.target,
    Signature.userId_of_outline h, Signature.target_of_outline h]

/-! ## Steps -/

theorem relax_alike (A : p.Alike p') {s s' : Signature} (houtline : s.outline = s'.outline)
    (hcost : q.costVia? f cost s = q'.costVia? f cost s') :
    (q.relax f cost p s).Alike (q'.relax f cost p' s') := by
  unfold relax
  rw [← hcost, ← Signature.issuer_of_outline houtline, ← A.frontier]
  cases q.costVia? f cost s with
  | none => exact A
  | some c =>
      have hlabel : Label.outline ⟨some s, c⟩ = Label.outline ⟨some s', c⟩ := by
        simp [Label.outline, houtline]
      cases hissuer : p.labels.find? s.issuer.fingerprint with
      | none =>
          simp only [hissuer, A.find?_eq_none hissuer]
          exact A.put hlabel _
      | some old =>
          obtain ⟨old', hold', holdCost, -⟩ := A.find?_eq_some hissuer
          simp only [hissuer, hold', ← holdCost]
          split
          · exact A.put hlabel _
          · exact A

theorem foldl_relax_alike (A : p.Alike p') {ss ss' : List Signature}
    (h : q.OfferSame q' f cost ss ss') :
    (ss.foldl (q.relax f cost) p).Alike (ss'.foldl (q'.relax f cost) p') := by
  rw [← foldl_relax_filter ss, ← foldl_relax_filter ss']
  unfold OfferSame at h
  generalize ss.filter (q.leadsOn f cost) = ts at h ⊢
  generalize ss'.filter (q'.leadsOn f cost) = ts' at h ⊢
  induction h generalizing p p' with
  | nil => exact A
  | cons hs _ ih => exact ih (relax_alike A hs.1 hs.2)

theorem Mirrors.lookAt (M : q.Mirrors q') (A : p.Alike p') {label : Label}
    (hlabel : p.labels.find? f = some label) (h : q.lookAt f p = .ok last)
    (h' : q'.lookAt f p' = .ok last') : last.Alike last' := by
  obtain ⟨label', hlabel', hcost, -⟩ := A.find?_eq_some hlabel
  have hroots : q'.roots.isFullyTrusted f = q.roots.isFullyTrusted f := by rw [M.roots]
  rcases lookAt_cases hlabel h with ⟨htrusted, rfl⟩ | ⟨htrusted, ss, hss, rfl⟩
  · rcases lookAt_cases hlabel' h' with ⟨-, rfl⟩ | ⟨hother, -⟩
    · exact A
    · simp [hroots, htrusted] at hother
  · rcases lookAt_cases hlabel' h' with ⟨hother, -⟩ | ⟨-, ss', hss', rfl⟩
    · simp [hroots, htrusted] at hother
    · rw [← hcost] at hss' ⊢
      exact foldl_relax_alike A (M.offers f label.cost ss ss' hss hss')

/-! ## Runs -/

theorem Mirrors.valid (M : q.Mirrors q') :
    q'.residual.validTarget? q'.target q'.subject = q.residual.validTarget? q.target q.subject := by
  rw [M.target, M.subject, M.residual.validTarget?]

theorem Mirrors.seed_alike (M : q.Mirrors q') : q.seed.Alike q'.seed := by
  have hseed : q'.seedLabel = q.seedLabel := by
    simp only [seedLabel, M.target, M.subject, M.residual.selfSignature?, M.residual.left]
  rw [seed_eq, seed_eq, hseed, M.target]
  exact ⟨rfl, rfl⟩

theorem Mirrors.explores (M : q.Mirrors q') (A : p.Alike p') (h : q.Explores p last)
    (h' : q'.Explores p' last') : last.Alike last' := by
  -- The frontiers are equal, so that the second run stops, or looks, where the first one does.
  induction h generalizing p' with
  | done p hpop =>
      rw [A.frontier] at hpop
      cases h' with
      | done _ _ => exact A
      | look hpop' _ _ _ => simp [hpop] at hpop'
  | @look _ _ _ _ _ rest _ hpop hlabel hlook _ ih =>
      rw [A.frontier] at hpop
      cases h' with
      | done _ hpop' => simp [hpop] at hpop'
      | look hpop' _ hlook' hrest' =>
          obtain ⟨⟨rfl, -⟩, rfl⟩ : (_ ∧ _) ∧ _ := by simpa [hpop] using hpop'
          exact ih (M.lookAt (A.pop rest) hlabel hlook hlook') hrest'

/-! ## Reports -/

theorem Mirrors.leads (M : q.Mirrors q') (A : p.Alike p') {via via' : Option Signature}
    {ss ss' : List Signature} (h : q.Leads p.labels via ss) (h' : q'.Leads p'.labels via' ss')
    (hvia : via.map Signature.outline = via'.map Signature.outline) :
    ss.map Signature.outline = ss'.map Signature.outline := by
  induction h generalizing via' ss' with
  | certifies hbinding =>
      cases h' with
      | certifies _ => simpa using hvia
      | delegates hopen _ _ =>
          rw [M.certifiesBinding (by simpa using hvia), hbinding] at hopen
          cases hopen
  | delegates hopen hnext _ ih =>
      cases h' with
      | certifies hbinding =>
          rw [M.certifiesBinding (by simpa using hvia), hopen] at hbinding
          cases hbinding
      | delegates _ hnext' hrest' =>
          have houtline := Option.some.inj hvia
          obtain ⟨label, hlabel, -, hlabelVia⟩ := A.find?_eq_some hnext
          rw [Signature.target_of_outline houtline, hnext', Option.some.injEq] at hlabel
          subst hlabel
          rw [List.map_cons, List.map_cons, houtline, ih hrest' hlabelVia]

theorem Mirrors.follows (M : q.Mirrors q') (A : p.Alike p') {s s' : Signature} {path path' : Path}
    (houtline : s.outline = s'.outline) (h : q.Follows p.labels { root := s.issuer } s path)
    (h' : q'.Follows p'.labels { root := s'.issuer } s' path') : path.outline = path'.outline := by
  obtain ⟨ss, hleads, hgrows⟩ := h
  obtain ⟨ss', hleads', hgrows'⟩ := h'
  obtain ⟨hroot, hsignatures⟩ := hgrows.root_signatures
  obtain ⟨hroot', hsignatures'⟩ := hgrows'.root_signatures
  have hss := M.leads A hleads hleads' (congrArg some houtline)
  simp only [Path.outline, hroot, hroot', hsignatures, hsignatures', List.nil_append, hss,
    Signature.issuer_of_outline houtline]

theorem Mirrors.starts (M : q.Mirrors q') : q'.Starts f ↔ q.Starts f := by
  rw [Starts, Starts, M.roots]

theorem Mirrors.reportsFrom (M : q.Mirrors q') (A : p.Alike p') {fs : List Fingerprint}
    {found found' : List Candidate} (h : q.ReportsFrom p.labels fs found)
    (h' : q'.ReportsFrom p'.labels fs found') :
    found.map Candidate.outline = found'.map Candidate.outline := by
  induction h generalizing found' with
  | nil =>
      cases h'
      rfl
  | skip hskip _ ih =>
      cases h' with
      | skip _ hrest' => exact ih hrest'
      | report hstarts' hlabel' _ _ =>
          obtain ⟨s, hlabel, -⟩ := A.symm.find?_via hlabel'
          exact (hskip s _ hlabel (M.starts.mp hstarts')).elim
  | report hstarts hlabel hfollows _ ih =>
      obtain ⟨s', hlabel', houtline⟩ := A.find?_via hlabel
      cases h' with
      | skip hskip _ => exact (hskip s' _ hlabel' (M.starts.mpr hstarts)).elim
      | report _ hother hfollows' hrest' =>
          obtain ⟨rfl, rfl⟩ : _ = s' ∧ _ = _ := by simpa [hlabel'] using hother.symm
          rw [List.map_cons, List.map_cons, ih hrest']
          simp only [Candidate.outline, M.follows A houtline hfollows hfollows']

/-- Searches that are offered the same report the same, in outline. -/
theorem Mirrors.reports (M : q.Mirrors q') {found found' : List Candidate} (h : q.Reports found)
    (h' : q'.Reports found') : found.map Candidate.outline = found'.map Candidate.outline := by
  cases h with
  | invalid hnone => rw [h'.eq_nil (M.valid.trans hnone), List.map_nil]
  | valid hsome hexplores hfound =>
      cases h' with
      | invalid hnone => simp [M.valid, hsome] at hnone
      | valid _ hexplores' hfound' =>
          have A := M.explores M.seed_alike hexplores hexplores'
          rw [← A.keys] at hfound'
          exact M.reportsFrom A hfound hfound'

end Search

end TrustWeb
