import Mathlib
import TrustWeb.Proofs.Residual.Amounts
import TrustWeb.Proofs.Network.Newest

/-! # Signatures on offer

A residual offers the signatures on a certificate that are admitted, in the order of their keys. The
keys leave depth and scope out, so that signatures with one key may stand in any order. -/

namespace TrustWeb

/-! ## The order of keys -/

namespace Signature

/-- The parts of a key, the first one counting most. -/
def Key.rank (k : Key) : String ×ₗ String ×ₗ String ×ₗ Int ×ₗ Int :=
  toLex (k.issuer, toLex (k.target, toLex (k.datum, toLex (k.created, k.loss))))

theorem Key.rank_injective : Function.Injective Key.rank := by
  rintro ⟨⟩ ⟨⟩ h
  simpa [Key.rank] using h

theorem Key.le_iff {a b : Key} : a.le b = true ↔ a.rank ≤ b.rank := by
  simp only [Key.rank, Prod.Lex.toLex_le_toLex, Key.le]
  by_cases hissuer : a.issuer = b.issuer
  · by_cases htarget : a.target = b.target
    · by_cases hdatum : a.datum = b.datum
      · by_cases hcreated : a.created = b.created
        · simp [hissuer, htarget, hdatum, hcreated]
        · simp [hissuer, htarget, hdatum, hcreated]
      · simp [hissuer, htarget, hdatum]
    · simp [hissuer, htarget]
  · simp [hissuer]

theorem Key.le_trans {a b c : Key} (h : a.le b = true) (h' : b.le c = true) : a.le c = true :=
  le_iff.mpr ((le_iff.mp h).trans (le_iff.mp h'))

theorem Key.le_total (a b : Key) : (a.le b || b.le a) = true := by
  simpa only [Bool.or_eq_true, le_iff] using LinearOrder.le_total a.rank b.rank

/-- The key tells which certificates a signature connects, and the datum. -/
theorem outline_of_key {a b : Signature} (h : a.key = b.key) : a.outline = b.outline := by
  simp only [key, Key.mk.injEq] at h
  obtain ⟨hissuer, htarget, hdatum, -⟩ := h
  have hends : a.endpoints = b.endpoints :=
    Prod.ext (congrArg Fingerprint.mk hissuer) (congrArg Fingerprint.mk htarget)
  have huserId : a.userId = b.userId := by
    cases ha : a.userId with
    | none =>
        cases hb : b.userId with
        | none => rfl
        | some userId => simp [ha, hb] at hdatum
    | some userId =>
        cases hb : b.userId with
        | none => simp [ha, hb] at hdatum
        | some other => simpa [ha, hb] using hdatum
  rw [outline, outline, hends, huserId]

theorem trust_of_key {a b : Signature} (h : a.key = b.key) : a.trust = b.trust :=
  Int.neg_inj.mp (congrArg Key.loss h)

/-- Signatures in ascending order of their keys. -/
def Ordered (ss : List Signature) : Prop := ss.Pairwise fun a b => a.key.rank ≤ b.key.rank

theorem ordered_sorted (ss : List Signature) : Ordered (Signature.sorted ss) := by
  refine (List.pairwise_mergeSort (fun a b c => ?_) (fun a b => ?_) ss).imp Key.le_iff.mp
  · exact Key.le_trans
  · exact Key.le_total _ _

/-- Signatures in order have their keys in one order only. -/
theorem map_key_eq_of_perm {ss ts : List Signature} (hperm : (ss.map key).Perm (ts.map key))
    (hss : Ordered ss) (hts : Ordered ts) : ss.map key = ts.map key :=
  hperm.eq_of_pairwise (fun _ _ _ _ hle hge => Key.rank_injective (le_antisymm hle hge))
    (List.pairwise_map.mpr hss) (List.pairwise_map.mpr hts)

end Signature

/-! ## What is offered -/

/-- On the edges over data on a certificate stand the signatures that have it as their target. -/
theorem Network.flatMap_filter_target {entries : Table EdgeKey Edge}
    (h : ∀ entry ∈ entries, ∀ s ∈ entry.2.signatures, s.endpoints = entry.1) (f : Fingerprint) :
    (entries.filter (·.1.2 == f)).flatMap (·.2.signatures) =
      (entries.flatMap (·.2.signatures)).filter fun s => decide (s.target.fingerprint = f) := by
  induction entries with
  | nil => rfl
  | cons entry rest ih =>
      have htarget : ∀ s ∈ entry.2.signatures, s.target.fingerprint = entry.1.2 := fun s hs =>
        congrArg Prod.snd (h entry List.mem_cons_self s hs)
      have hrest := ih fun e he => h e (List.mem_cons_of_mem _ he)
      rw [List.flatMap_cons, List.filter_append, ← hrest]
      by_cases hf : entry.1.2 = f
      · have hall : (entry.2.signatures.filter fun s => decide (s.target.fingerprint = f)) =
            entry.2.signatures := List.filter_eq_self.mpr fun s hs => by simp [htarget s hs, hf]
        rw [List.filter_cons_of_pos (by simpa using hf), List.flatMap_cons, hall]
      · have hnone : (entry.2.signatures.filter fun s => decide (s.target.fingerprint = f)) = [] :=
          List.filter_eq_nil_iff.mpr fun s hs => by simp [htarget s hs, hf]
        rw [List.filter_cons_of_neg (by simpa using hf), hnone, List.nil_append]

theorem Network.WellKeyed.edgesTo_perm {n : Network} (h : n.WellKeyed) (f : Fingerprint) :
    ((n.edgesTo f).flatMap (·.signatures)).Perm
      (n.signatures.filter fun s => decide (s.target.fingerprint = f)) := by
  rw [Network.signatures, ← Network.flatMap_filter_target h.edges, edgesTo, List.flatMap_map]
  exact ((List.mergeSort_perm _ _).filter _).flatMap_right _

namespace Residual

variable {r : Residual} {subject : Subject} {f : Fingerprint} {k : Int}

theorem left_of_key {s t : Signature} (h : s.key = t.key) : r.left s = r.left t := by
  have houtline := Signature.outline_of_key h
  simp only [left, cappedAmount, Signature.trust_of_key h, Signature.issuer_of_outline houtline,
    Signature.endpoints_of_outline houtline]

/-- Whether a residual offers a signature among those over data on a certificate. -/
def offers (r : Residual) (f : Fingerprint) (subject : Subject) (k : Int) (s : Signature) : Bool :=
  decide (r.admits subject k s = .ok true) && decide (s.target.fingerprint = f)

theorem ordered_signaturesOn {ss : List Signature} (h : r.signaturesOn f subject k = .ok ss) :
    Signature.Ordered ss := by
  rw [signaturesOn_eq h]
  exact Signature.ordered_sorted _

theorem signaturesOn_perm (hkeys : r.network.WellKeyed) {ss : List Signature}
    (h : r.signaturesOn f subject k = .ok ss) :
    ss.Perm (r.network.signatures.filter (r.offers f subject k)) := by
  rw [signaturesOn_eq h]
  refine (List.mergeSort_perm _ _).trans (((hkeys.edgesTo_perm f).filter _).trans ?_)
  rw [List.filter_filter]
  exact .refl _

/-- What is offered depends, up to sameness, on the signatures of the network up to sameness. -/
theorem map_core_signaturesOn (hkeys : r.network.WellKeyed) {ss : List Signature}
    (h : r.signaturesOn f subject k = .ok ss) {P : Signature → Bool}
    (hP : ∀ s, P s.core = P s) :
    ((ss.filter P).map Signature.core).Perm
      (((r.network.signatures.map Signature.core).filter (r.offers f subject k)).filter P) := by
  have hcore : ∀ {P : Signature → Bool}, (∀ s, P s.core = P s) → ∀ ss : List Signature,
      (ss.filter P).map Signature.core = (ss.map Signature.core).filter P := by
    intro P hP ss
    rw [List.filter_map, show P ∘ Signature.core = P from funext hP]
  have hoffers : ∀ s, r.offers f subject k s.core = r.offers f subject k s := fun _ => rfl
  rw [← hcore hoffers, ← hcore hP]
  exact ((signaturesOn_perm hkeys h).filter P).map Signature.core

end Residual

end TrustWeb
