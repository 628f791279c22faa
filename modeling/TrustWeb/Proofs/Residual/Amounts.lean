import Mathlib.Data.List.Nodup
import TrustWeb.Proofs.Network.Keys
import TrustWeb.Residual

/-! # Look-ups and amounts in a residual

Which signatures on a certificate a residual offers, what the certification of a certificate by
itself looks like, how much trust a signature has left, and what is left after taking an amount
from the edges of a path. -/

namespace TrustWeb

namespace Residual

variable {r : Residual} {subject : Subject} {f : Fingerprint}

/-! ## Signatures on a certificate -/

theorem filterAll_eq_filter {test : Signature → Except Fault Bool} {ss kept : List Signature}
    (h : filterAll test ss = .ok kept) : kept = ss.filter fun s => decide (test s = .ok true) := by
  induction ss generalizing kept with
  | nil => simpa [filterAll] using h.symm
  | cons s rest ih =>
      simp only [filterAll] at h
      cases hs : test s with
      | error fault => simp [hs] at h
      | ok keep =>
          cases hrest : filterAll test rest with
          | error fault => simp [hs, hrest] at h
          | ok others =>
              simp only [hs, hrest, Except.ok.injEq] at h
              rw [← h, ih hrest, List.filter_cons, hs]
              cases keep <;> simp

theorem exists_filterAll {test : Signature → Except Fault Bool} {ss : List Signature}
    (h : ∀ s ∈ ss, ∃ keep, test s = .ok keep) : ∃ kept, filterAll test ss = .ok kept := by
  induction ss with
  | nil => exact ⟨[], rfl⟩
  | cons t rest ih =>
      obtain ⟨keep, hkeep⟩ := h t List.mem_cons_self
      obtain ⟨kept, hkept⟩ := ih fun s hs => h s (List.mem_cons_of_mem _ hs)
      exact ⟨if keep then t :: kept else kept, by simp only [filterAll, hkeep, hkept]⟩

/-- The scope of a signature covers the subject, where scopes count. -/
def Covers (r : Residual) (subject : Subject) (s : Signature) : Prop :=
  r.mode = .authentication → s.scope.covers subject = .ok true

theorem admits_eq_true_iff {k : Int} {s : Signature} :
    r.admits subject k s = .ok true ↔
      r.Covers subject s ∧ (r.mode = .authentication → s.depth.belowNumber k = false) := by
  unfold admits Covers
  cases r.mode with
  | certification => simp
  | authentication => cases h : s.depth.belowNumber k <;> simp

/-- A residual offers the admitted ones of the signatures on a certificate, in order. -/
theorem signaturesOn_eq {k : Int} {ss : List Signature} (h : r.signaturesOn f subject k = .ok ss) :
    ss = Signature.sorted (((r.network.edgesTo f).flatMap (·.signatures)).filter fun s =>
      decide (r.admits subject k s = .ok true)) := by
  unfold signaturesOn at h
  cases hkept : filterAll (r.admits subject k) ((r.network.edgesTo f).flatMap (·.signatures)) with
  | error fault => simp [hkept, Except.map] at h
  | ok kept =>
      simp only [hkept, Except.map, Except.ok.injEq] at h
      rw [← h, filterAll_eq_filter hkept]

/-- A residual offers the signatures on a certificate that cover the subject and are deep enough. -/
theorem mem_signaturesOn (hkeys : r.network.WellKeyed) {k : Int} {ss : List Signature}
    (h : r.signaturesOn f subject k = .ok ss) {s : Signature} :
    s ∈ ss ↔ (s ∈ r.network.signatures ∧ s.target.fingerprint = f) ∧ r.Covers subject s ∧
      (r.mode = .authentication → s.depth.belowNumber k = false) := by
  rw [signaturesOn_eq h, Signature.sorted, List.mem_mergeSort, List.mem_filter, hkeys.mem_edgesTo,
    decide_eq_true_eq, admits_eq_true_iff]

theorem exists_signaturesOn (hkeys : r.network.WellKeyed) (k : Int)
    (h : ∀ s ∈ r.network.signatures, ∃ found, s.scope.covers subject = .ok found) :
    ∃ ss, r.signaturesOn f subject k = .ok ss := by
  have hadmits : ∀ s ∈ (r.network.edgesTo f).flatMap (·.signatures),
      ∃ keep, r.admits subject k s = .ok keep := by
    intro s hs
    obtain ⟨found, hfound⟩ := h s (hkeys.mem_edgesTo.mp hs).1
    unfold admits
    cases r.mode with
    | certification => exact ⟨true, rfl⟩
    | authentication => cases hd : s.depth.belowNumber k <;> simp [hfound]
  obtain ⟨kept, hkept⟩ := exists_filterAll hadmits
  exact ⟨Signature.sorted kept, by simp only [signaturesOn, hkept, Except.map]⟩

/-! ## Bindings that may be authenticated -/

/-- The certificate is known, and neither is it expired or revoked nor the user ID revoked on it. It
need not carry the user ID. -/
structure Valid (r : Residual) (f : Fingerprint) (userId : String) (n : Node) : Prop where
  known : r.network.node? f = some n
  unexpired : n.isExpiredAt r.network.referenceTime = false
  unrevoked : n.revocation.holdsAt r.network.referenceTime = false
  carried : ∀ revocation, n.userIds.find? userId = some revocation →
    revocation.holdsAt r.network.referenceTime = false

theorem Valid.of_network {r' : Residual} {userId : String} {n : Node} (h : r.Valid f userId n)
    (hnetwork : r'.network = r.network) : r'.Valid f userId n := by
  obtain ⟨hknown, hunexpired, hunrevoked, hcarried⟩ := h
  rw [← hnetwork] at hknown hunexpired hunrevoked hcarried
  exact ⟨hknown, hunexpired, hunrevoked, hcarried⟩

/-- For a user ID the check of the target never fails. -/
theorem validTarget?_cases (r : Residual) (f : Fingerprint) (userId : String) :
    (∃ n, r.validTarget? f (.userId userId) = .ok (some n) ∧ r.Valid f userId n) ∨
      r.validTarget? f (.userId userId) = .ok none ∧ ∀ n, ¬r.Valid f userId n := by
  unfold validTarget?
  cases hn : r.network.node? f with
  | none => exact .inr ⟨rfl, fun n h => by simp [h.known] at hn⟩
  | some n =>
      have hsame : ∀ m, r.Valid f userId m → m = n := fun m h => by simpa [h.known] using hn
      cases hexpired : n.isExpiredAt r.network.referenceTime with
      | true => exact .inr ⟨by simp [hexpired], fun m h => by
          simpa [hsame m h, hexpired] using h.unexpired⟩
      | false =>
          cases hrevoked : n.revocation.holdsAt r.network.referenceTime with
          | true => exact .inr ⟨by simp [hexpired, hrevoked], fun m h => by
              simpa [hsame m h, hrevoked] using h.unrevoked⟩
          | false =>
              cases hid : n.userIds.find? userId with
              | none => exact .inl ⟨n, by simp [hexpired, hrevoked, subjectRevocation?, hid], hn,
                  hexpired, hrevoked, by simp [hid]⟩
              | some revocation =>
                  cases hholds : revocation.holdsAt r.network.referenceTime with
                  | true => exact .inr ⟨by
                      simp [hexpired, hrevoked, subjectRevocation?, hid, hholds], fun m h => by
                        simpa [hholds] using h.carried revocation (by rw [hsame m h, hid])⟩
                  | false => exact .inl ⟨n, by
                      simp [hexpired, hrevoked, subjectRevocation?, hid, hholds], hn, hexpired,
                      hrevoked, by simp [hid, hholds]⟩

/-! ## The certification of a certificate by itself -/

theorem selfSignature?_eq_some_iff {s : Signature} :
    r.selfSignature? f subject = some s ↔
      ∃ n userId, r.network.node? f = some n ∧ subject = .userId userId ∧
        n.userIds.contains userId = true ∧ s = r.selfSignature n userId := by
  unfold selfSignature?
  cases hn : r.network.node? f with
  | none => simp
  | some n =>
      cases subject with
      | userId userId =>
          by_cases h : n.userIds.contains userId = true
          · simp only [h, if_true, Option.some.injEq, Subject.userId.injEq]
            constructor
            · rintro rfl
              exact ⟨n, userId, rfl, rfl, h, rfl⟩
            · rintro ⟨_, _, rfl, rfl, -, rfl⟩
              rfl
          · simp only [h, Bool.false_eq_true, if_false, Option.some.injEq, Subject.userId.injEq]
            constructor
            · intro hs
              cases hs
            · rintro ⟨_, _, rfl, rfl, hcontains, -⟩
              exact (h hcontains).elim
      | certificate => simp
      | other v => simp

theorem selfSignature?_of_network {r' : Residual} (hnetwork : r'.network = r.network) :
    r'.selfSignature? = r.selfSignature? := by
  funext f subject
  simp only [selfSignature?, selfSignature, hnetwork]

theorem exists_selfSignature?_iff {userId : String} :
    (∃ s, r.selfSignature? f (.userId userId) = some s) ↔
      ∃ n, r.network.node? f = some n ∧ n.userIds.contains userId = true := by
  constructor
  · rintro ⟨s, hs⟩
    obtain ⟨n, other, hn, hsame, hcarried, -⟩ := selfSignature?_eq_some_iff.mp hs
    cases hsame
    exact ⟨n, hn, hcarried⟩
  · rintro ⟨n, hn, hcarried⟩
    exact ⟨_, selfSignature?_eq_some_iff.mpr ⟨n, userId, hn, rfl, hcarried, rfl⟩⟩

/-- What a search relies on in the certification of its target by itself. -/
structure IsOwn (f : Fingerprint) (subject : Subject) (s : Signature) : Prop where
  issuer : s.issuer.fingerprint = f
  target : s.target.fingerprint = f
  trust : s.trust = fullTrust
  certifies : s.isDelegation = false
  isOver : subject.isOver s.userId = true

theorem isOwn_of_selfSignature? (hkeys : r.network.WellKeyed) {s : Signature}
    (h : r.selfSignature? f subject = some s) : IsOwn f subject s := by
  obtain ⟨n, userId, hn, rfl, -, rfl⟩ := selfSignature?_eq_some_iff.mp h
  have hf := hkeys.fingerprint_of_node? hn
  exact ⟨hf, hf, rfl, rfl, by simp [Subject.isOver, selfSignature]⟩

/-! ## Amounts -/

theorem cappedAmount_eq (r : Residual) (s : Signature) :
    r.cappedAmount s =
      match r.caps.find? s.issuer.fingerprint with
      | some limit => min (min s.trust fullTrust) limit
      | none => min s.trust fullTrust := by
  unfold cappedAmount
  cases r.caps.find? s.issuer.fingerprint with
  | none => rfl
  | some limit =>
      simp only
      split <;> omega

theorem cappedAmount_le_min (r : Residual) (s : Signature) :
    r.cappedAmount s ≤ min s.trust fullTrust := by
  rw [cappedAmount_eq]
  cases r.caps.find? s.issuer.fingerprint with
  | none => exact Int.le_refl _
  | some limit => exact Int.min_le_left _ _

theorem cappedAmount_le_cap {s : Signature} {limit : Int}
    (h : r.caps.find? s.issuer.fingerprint = some limit) : r.cappedAmount s ≤ limit := by
  rw [cappedAmount_eq, h]
  exact Int.min_le_right _ _

theorem left_nonneg (r : Residual) (s : Signature) : 0 ≤ r.left s := Int.le_max_left _ _

theorem left_congr {r' : Residual} {s : Signature} (hcapped : r'.cappedAmount s = r.cappedAmount s)
    (htaken : r'.takenFrom s.endpoints = r.takenFrom s.endpoints) : r'.left s = r.left s := by
  rw [left, left, hcapped, htaken]

theorem left_add_takenFrom {s : Signature} (h : 0 < r.left s) :
    r.left s + r.takenFrom s.endpoints = r.cappedAmount s := by
  unfold left at h ⊢
  omega

/-- Of two signatures between the same certificates the one that gives no less has no less left. -/
theorem left_le_left {s t : Signature} (hendpoints : s.endpoints = t.endpoints)
    (hgives : min s.trust fullTrust ≤ min t.trust fullTrust) : r.left s ≤ r.left t := by
  have hissuer : s.issuer.fingerprint = t.issuer.fingerprint := congrArg Prod.fst hendpoints
  have hcapped : r.cappedAmount s ≤ r.cappedAmount t := by
    rw [cappedAmount_eq, cappedAmount_eq, hissuer]
    cases r.caps.find? t.issuer.fingerprint with
    | none => exact hgives
    | some limit => simp only; omega
  unfold left
  rw [hendpoints]
  omega

/-- No signature of a certificate on itself has more left than the one that every certificate makes
for its user IDs. -/
theorem left_le_left_of_isOwn {own s : Signature} (h : IsOwn f subject own)
    (hissuer : s.issuer.fingerprint = f) (htarget : s.target.fingerprint = f) :
    r.left s ≤ r.left own := by
  have hendpoints : s.endpoints = own.endpoints := by
    simp [Signature.endpoints, hissuer, htarget, h.issuer, h.target]
  refine left_le_left hendpoints ?_
  rw [h.trust]
  omega

/-! ## Taking an amount from edges -/

theorem takenFrom_put (r : Residual) (k k' : EdgeKey) (total : Int) :
    takenFrom { r with taken := r.taken.put k total } k' =
      if k = k' then total else r.takenFrom k' := by
  unfold takenFrom
  split
  · next h => simp [← h]
  · next h => rw [Table.find?_put_of_ne _ _ h]

/-- An amount that every edge still has is taken from each of them and from no other one. -/
theorem takeFromEdges_ok {amount : Int} {ss : List Signature}
    (hnodup : (ss.map (·.endpoints)).Nodup)
    (hroom : ∀ s ∈ ss, r.takenFrom s.endpoints + amount ≤ fullTrust) :
    ∃ taken, r.takeFromEdges amount ss = ({ r with taken }, none) ∧
      ∀ k, takenFrom { r with taken } k =
        r.takenFrom k + if k ∈ ss.map (·.endpoints) then amount else 0 := by
  induction ss generalizing r with
  | nil => exact ⟨r.taken, rfl, by simp [takenFrom]⟩
  | cons s rest ih =>
      rw [List.map_cons, List.nodup_cons] at hnodup
      obtain ⟨hs, hrest⟩ := hnodup
      obtain ⟨taken, htake, htaken⟩ :=
        ih (r := { r with taken := r.taken.put s.endpoints (r.takenFrom s.endpoints + amount) })
        hrest (fun t ht => by
          have hne : s.endpoints ≠ t.endpoints := fun he => hs (List.mem_map.mpr ⟨t, ht, he.symm⟩)
          rw [takenFrom_put, if_neg hne]
          exact hroom t (List.mem_cons_of_mem _ ht))
      refine ⟨taken, ?_, fun k => ?_⟩
      · rw [takeFromEdges, if_neg (Int.not_lt.mpr (hroom s List.mem_cons_self)), htake]
      · have hk := htaken k
        rw [takenFrom_put] at hk
        refine hk.trans ?_
        by_cases he : s.endpoints = k
        · simp [he, he ▸ hs]
        · simp [he, Ne.symm he]

theorem take_ok {amount : Int} {p : Path} (hnodup : (p.signatures.map (·.endpoints)).Nodup)
    (hpos : 0 < amount) (hle : amount ≤ fullTrust)
    (hroom : ∀ s ∈ p.signatures, r.takenFrom s.endpoints + amount ≤ fullTrust) :
    ∃ taken, r.take p amount = ({ r with taken }, none) ∧
      ∀ k, takenFrom { r with taken } k =
        r.takenFrom k + if k ∈ p.signatures.map (·.endpoints) then amount else 0 := by
  obtain ⟨taken, htake, htaken⟩ := takeFromEdges_ok hnodup hroom
  refine ⟨taken, ?_, htaken⟩
  have hzero : (amount == 0) = false := by simp; omega
  rw [take, hzero, if_neg Bool.false_ne_true, if_neg (Int.not_lt.mpr hle), htake]

end Residual

end TrustWeb
