import TrustWeb.Proofs.Search.Chain

/-! # Following the labels

From every labelled certificate the labels lead over a chain that shows the binding, of the length
that the label says and with at least its amount left on each signature. The lengths go down along
the chain, so that no certificate comes twice, and a path takes all signatures of it. -/

namespace TrustWeb

namespace Search

/-- The signatures over which the labels lead: each one reaches a certificate whose label gives the
next one, up to the first that certifies the binding. -/
inductive Leads (q : Search) (labels : Table Fingerprint Label) :
    Option Signature → List Signature → Prop where
  | certifies {s} (hbinding : q.certifiesBinding s.target.fingerprint s = true) :
      Leads q labels (some s) [s]
  | delegates {s next rest} (hbinding : q.certifiesBinding s.target.fingerprint s = false)
      (hnext : labels.find? s.target.fingerprint = some next)
      (hrest : Leads q labels next.via rest) : Leads q labels (some s) (s :: rest)

/-- What following the labels gives, whatever the fuel: a path grows by all signatures over which
they lead. -/
def Follows (q : Search) (labels : Table Fingerprint Label) (p : Path) (s : Signature)
    (last : Path) : Prop :=
  ∃ ss, q.Leads labels (some s) ss ∧ Path.Grows q.residual.mode p ss last

variable {q : Search} {labels : Table Fingerprint Label} {via : Option Signature}
  {ss : List Signature} {s : Signature}

theorem Leads.ne_nil (h : q.Leads labels via ss) : ss ≠ [] := by
  cases h <;> simp

theorem Leads.head (h : q.Leads labels (some s) ss) : ∃ rest, ss = s :: rest := by
  cases h with
  | certifies _ => exact ⟨[], rfl⟩
  | delegates _ _ _ => exact ⟨_, rfl⟩

/-- Only the last signature certifies the binding. -/
theorem Leads.front (h : q.Leads labels via ss) :
    ∀ t ∈ ss.dropLast, q.certifiesBinding t.target.fingerprint t = false := by
  induction h with
  | certifies _ => simp
  | delegates hbinding _ hrest ih =>
      rw [List.dropLast_cons_of_ne_nil hrest.ne_nil]
      intro t ht
      rcases List.mem_cons.mp ht with rfl | ht
      · exact hbinding
      · exact ih t ht

theorem Leads.unique {ss' : List Signature} (h : q.Leads labels via ss)
    (h' : q.Leads labels via ss') : ss = ss' := by
  induction h generalizing ss' with
  | certifies hbinding =>
      cases h' with
      | certifies _ => rfl
      | delegates hbinding' _ _ => simp [hbinding] at hbinding'
  | delegates hbinding hnext _ ih =>
      cases h' with
      | certifies hbinding' => simp [hbinding] at hbinding'
      | delegates _ hnext' hrest' =>
          rw [hnext, Option.some.injEq] at hnext'
          subst hnext'
          rw [ih hrest']

/-- Fuel for every signature is enough. -/
theorem follow_of_leads (h : q.Leads labels via ss) {p last : Path}
    (hgrows : Path.Grows q.residual.mode p ss last) {fuel : Nat} (hfuel : ss.length ≤ fuel) :
    q.follow labels fuel p via = .ok last := by
  induction h generalizing p fuel with
  | certifies hbinding =>
      obtain ⟨fuel, rfl⟩ : ∃ k, fuel = k + 1 := ⟨fuel - 1, by simp at hfuel; omega⟩
      cases hgrows with
      | cons happend hrest =>
          cases hrest with
          | nil => simp [follow, happend, hbinding]
  | delegates hbinding hnext _ ih =>
      obtain ⟨fuel, rfl⟩ : ∃ k, fuel = k + 1 := ⟨fuel - 1, by simp at hfuel; omega⟩
      cases hgrows with
      | cons happend hrest =>
          have hrun := ih hrest (show _ ≤ fuel by simpa using hfuel)
          simp [follow, happend, hbinding, hnext, hrun]

/-! ## The chain that the labels tell -/

/-- The chain over which the labels lead from a certificate. -/
structure Trail (q : Search) (p : Progress) (f : Fingerprint) (label : Label) (c : Chain) :
    Prop where
  supports : q.Supports f c
  leads : q.Leads p.labels label.via c.signatures
  length : label.cost.length = c.length
  carries : ∀ s ∈ c.signatures, label.cost.amount ≤ q.residual.left s
  near : ∀ g ∈ c.hops.map (·.target.fingerprint), p.Reaches g label.cost.length

variable {layer : Int} {p : Progress} {f : Fingerprint} {label next : Label} {c : Chain}

theorem Trail.of_target (hkeys : q.residual.network.WellKeyed)
    (hlength : 1 ≤ q.seedLabel.cost.length) : ∃ c, q.Trail p q.target q.seedLabel c := by
  rcases q.seedLabel_cases with ⟨own, hown, -, hseed⟩ | ⟨-, hseed⟩
  · have hisOwn := Residual.isOwn_of_selfSignature? hkeys hown
    have hbinding : q.certifiesBinding own.target.fingerprint own = true :=
      certifiesBinding_iff.mpr ⟨hisOwn.isOver, hisOwn.target⟩
    refine ⟨⟨[], some own⟩, ⟨⟨by simp, rfl, ?_, by simp, by simp, by simp, ?_, by simp⟩, ?_, ?_, ?_,
      by simp⟩⟩
    · intro s hs
      obtain rfl : own = s := by simpa using hs
      exact hown
    · exact fun _ i s hs => by simp at hs
    · simpa [hseed, Chain.signatures] using Leads.certifies hbinding
    · simp [hseed, Chain.length, Chain.signatures]
    · simp [hseed, Chain.signatures]
  · simp [hseed] at hlength

theorem Trail.of_certification (I : q.Invariant layer p) (husable : q.Usable s)
    (hbinding : q.certifiesBinding s.target.fingerprint s = true)
    (hne : s.issuer.fingerprint ≠ q.target) :
    q.Trail p s.issuer.fingerprint ⟨some s, ⟨1, q.residual.left s⟩⟩ ⟨[s], none⟩ := by
  obtain ⟨hover, htarget⟩ := certifiesBinding_iff.mp hbinding
  refine ⟨⟨?_, ⟨rfl, htarget⟩, by simp, fun _ => ⟨s, rfl, hover⟩, ?_, ?_, fun _ => ?_, ?_⟩,
    by simpa [Chain.signatures] using Leads.certifies hbinding,
    by simp [Chain.length, Chain.signatures], by simp [Chain.signatures], ?_⟩
  · simpa using husable.known
  · simpa using husable.passable
  · simpa using husable.covers
  · exact fun i t _ hi => by simp at hi
  · simpa [htarget] using hne
  · have := q.seedLabel_length.2
    simpa [htarget] using ⟨q.seedLabel, I.target, this⟩

/-- A delegation leads on over the chain from the certificate that it reaches. -/
theorem Trail.cons (T : q.Trail p s.target.fingerprint next c) (husable : q.Usable s)
    (hbinding : q.certifiesBinding s.target.fingerprint s = false)
    (hnext : p.labels.find? s.target.fingerprint = some next)
    (hdeep : q.residual.mode = .authentication → s.depth.belowNumber next.cost.length = false)
    {amount : Int} (hleft : amount ≤ q.residual.left s) (hamount : amount ≤ next.cost.amount)
    (hlabel : p.labels.find? s.issuer.fingerprint = some ⟨some s, ⟨next.cost.length + 1, amount⟩⟩) :
    q.Trail p s.issuer.fingerprint ⟨some s, ⟨next.cost.length + 1, amount⟩⟩
      ⟨s :: c.hops, c.closing⟩ := by
  have S := T.supports
  have hlength := T.length
  rw [Chain.length_eq] at hlength
  have hnear : ∀ g ∈ s.target.fingerprint :: c.hops.map (·.target.fingerprint),
      p.Reaches g next.cost.length := by
    intro g hg
    rcases List.mem_cons.mp hg with rfl | hg
    · exact ⟨next, hnext, Int.le_refl _⟩
    · exact T.near g hg
  have hnew : s.issuer.fingerprint ∉ s.target.fingerprint :: c.hops.map (·.target.fingerprint) := by
    intro hg
    obtain ⟨label, hlabel', hle⟩ := hnear _ hg
    rw [hlabel, Option.some.injEq] at hlabel'
    subst hlabel'
    simp only at hle
    omega
  refine ⟨⟨?_, ⟨rfl, S.connected⟩, S.closes, fun hnone => ?_, ?_, ?_, fun hm => ?_, ?_⟩,
    .delegates hbinding hnext T.leads, ?_, ?_, fun g hg => (hnear g hg).mono (by simp only; omega)⟩
  · simpa using ⟨husable.known, S.known⟩
  · obtain ⟨t, ht, hover⟩ := S.certifies hnone
    exact ⟨t, by simp [List.getLast?_cons, ht], hover⟩
  · simpa using ⟨husable.passable, S.passable⟩
  · simpa using ⟨husable.covers, S.covered⟩
  · exact (S.deep hm).cons (hlength ▸ hdeep hm)
  · exact List.nodup_cons.mpr ⟨hnew, S.simple⟩
  · simp only [hlength, Chain.length_eq, List.length_cons]
    omega
  · intro t ht
    rcases List.mem_cons.mp ht with rfl | ht
    · exact hleft
    · exact Int.le_trans hamount (T.carries t ht)

/-- From every labelled certificate the labels lead over a chain, from the target if it certifies
itself. The induction is on the length of the label. -/
theorem Invariant.exists_trail (I : q.Invariant layer p) (hkeys : q.residual.network.WellKeyed)
    (hlabel : p.labels.find? f = some label) (hlength : 1 ≤ label.cost.length) :
    ∃ c, q.Trail p f label c := by
  obtain ⟨n, hn⟩ : ∃ n : Nat, label.cost.length ≤ n := ⟨label.cost.length.toNat, by omega⟩
  induction n generalizing f label with
  | zero => omega
  | succ n ih =>
      by_cases hf : f = q.target
      · subst hf
        rw [I.target, Option.some.injEq] at hlabel
        subst hlabel
        exact Trail.of_target hkeys hlength
      · cases I.justified f label hlabel hf with
        | certifies s husable hbinding => exact ⟨_, Trail.of_certification I husable hbinding hf⟩
        | delegates s next amount husable hbinding hnext _ hnextLength hdeep _ hleft hamount =>
            simp only at hn
            obtain ⟨c, T⟩ := ih hnext hnextLength (by omega)
            exact ⟨_, T.cons husable hbinding hnext hdeep hleft hamount hlabel⟩

/-! ## The path that takes it -/

theorem Trail.issuer (T : q.Trail p f label c) (hkeys : q.residual.network.WellKeyed)
    (hvia : label.via = some s) : s.issuer.fingerprint = f := by
  obtain ⟨hops, closing⟩ := c
  have hleads := T.leads
  rw [hvia] at hleads
  obtain ⟨rest, hss⟩ := hleads.head
  cases hops with
  | cons t hops =>
      obtain rfl : t = s := (List.cons.inj hss).1
      exact T.supports.connected.1
  | nil =>
      cases closing with
      | none => simp [Chain.signatures] at hss
      | some own =>
          obtain rfl : own = s := (List.cons.inj hss).1
          have hown := Residual.isOwn_of_selfSignature? hkeys (T.supports.closes own rfl)
          exact hown.issuer.trans (show f = q.target from T.supports.connected).symm

/-- A path over the hops of a chain takes the certification of the target by itself as well. -/
theorem Trail.exists_append (T : q.Trail p f label c) (hkeys : q.residual.network.WellKeyed)
    {own : Signature} (hc : c.closing = some own) {root : Node} (hroot : root.fingerprint = f)
    {mid : Path} (hgrows : Path.Grows q.residual.mode { root } c.hops mid)
    (hstop : mid.target.fingerprint = q.target)
    (hroom : q.residual.mode = .authentication → mid.residual.belowNumber 1 = false) :
    ∃ path, mid.append own q.residual.mode = .ok path := by
  have hown := Residual.isOwn_of_selfSignature? hkeys (T.supports.closes own hc)
  obtain ⟨hmidRoot, hmid⟩ := hgrows.root_signatures
  simp only [List.nil_append] at hmidRoot hmid
  have hnodup : mid.visited.Nodup := by
    rw [Path.visited_eq, hmidRoot, hmid, hroot]
    exact T.supports.simple
  -- The last hop does not certify the binding, so it is over another datum.
  have hlast : ∀ t, mid.signatures.getLast? = some t → t.userId ≠ own.userId := by
    intro t ht hsame
    have htarget : t.target.fingerprint = q.target := by simpa [Path.target, ht] using hstop
    have hdropLast : c.signatures.dropLast = mid.signatures := by simp [Chain.signatures, hc, hmid]
    have hopen := T.leads.front t (hdropLast ▸ List.mem_of_getLast? ht)
    rw [certifiesBinding_iff.mpr ⟨hsame ▸ hown.isOver, htarget⟩] at hopen
    cases hopen
  obtain ⟨d, happend, -⟩ := Path.append_ok q.residual.mode (hown.issuer.trans hstop.symm) hroom
    (Path.closesCycle_of_certification (hown.target.trans hstop.symm) hown.certifies hlast hnodup)
  exact ⟨_, happend⟩

theorem Trail.exists_grows (T : q.Trail p f label c) (hkeys : q.residual.network.WellKeyed)
    {root : Node} (hroot : root.fingerprint = f) :
    ∃ path, Path.Grows q.residual.mode { root } c.signatures path := by
  have S := T.supports
  have hconnected : Connects (Path.target { root }).fingerprint c.hops q.target := by
    simpa [Path.target, hroot] using S.connected
  have hnodup : (Path.visited { root } ++ c.hops.map (·.target.fingerprint)).Nodup := by
    simpa [Path.visited_eq, hroot] using S.simple
  obtain ⟨mid, hgrows, hstop, hroom⟩ :=
    Path.exists_grows hconnected hnodup S.deep (fun _ => rfl)
  cases hc : c.closing with
  | none => exact ⟨mid, by simpa [Chain.signatures, hc] using hgrows⟩
  | some own =>
      obtain ⟨path, happend⟩ := T.exists_append hkeys hc hroot hgrows hstop fun hm => by
        simpa [hc] using hroom hm
      refine ⟨path, ?_⟩
      rw [Chain.signatures, hc]
      exact hgrows.append (.cons happend (.nil path))

/-- A path that follows the labels takes all signatures of the chain. -/
theorem Trail.signatures_eq (T : q.Trail p f label c) (hvia : label.via = some s) {path : Path}
    (h : q.Follows p.labels { root := s.issuer } s path) :
    path.root = s.issuer ∧ path.signatures = c.signatures := by
  obtain ⟨ss, hleads, hgrows⟩ := h
  have htrail := T.leads
  rw [hvia] at htrail
  rw [← hleads.unique htrail]
  simpa using hgrows.root_signatures

/-- From every labelled certificate a path follows the labels. -/
theorem Trail.pathVia (T : q.Trail p f label c)
    (hkeys : q.residual.network.WellKeyed) (hlabel : p.labels.find? f = some label)
    (hvia : label.via = some s) :
    ∃ path, q.pathVia p.labels s = .ok path ∧ q.Follows p.labels { root := s.issuer } s path := by
  have hleads := T.leads
  rw [hvia] at hleads
  obtain ⟨path, hgrows⟩ := T.exists_grows hkeys (T.issuer hkeys hvia)
  have hkeysLength : c.hops.length + 1 ≤ p.labels.length := by
    have hsubset : f :: c.hops.map (·.target.fingerprint) ⊆ p.labels.keys := by
      intro g hg
      rcases List.mem_cons.mp hg with rfl | hg
      · exact Table.mem_keys_iff.mpr ⟨label, hlabel⟩
      · obtain ⟨l, hl, -⟩ := T.near g hg
        exact Table.mem_keys_iff.mpr ⟨l, hl⟩
    simpa [Table.keys] using List.Nodup.length_le_of_subset T.supports.simple hsubset
  have hfuel : c.signatures.length ≤ p.labels.length + 1 := by
    have : c.closing.toList.length ≤ 1 := by cases c.closing <;> simp
    simp only [Chain.signatures, List.length_append]
    omega
  exact ⟨path, follow_of_leads hleads hgrows hfuel, _, hleads, hgrows⟩

end Search

end TrustWeb
