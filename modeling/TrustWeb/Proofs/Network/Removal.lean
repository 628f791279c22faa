import Mathlib
import TrustWeb.Proofs.Residual.Offers

/-! # Removing signatures

Signatures are taken out of the edges of a network, and the edges stay. A residual then offers on
each certificate the signatures that are left of those that it offered before, in the same order. -/

namespace TrustWeb

/-! ## Signatures in order -/

namespace Signature

/-- In order, one more signature at the front stands before the first one that it is not after. -/
theorem exists_sorted_cons (s : Signature) (ss : List Signature) :
    ∃ before after, sorted (s :: ss) = before ++ s :: after ∧ sorted ss = before ++ after ∧
      (∀ t ∈ before, s.key.le t.key = false) ∧ ∀ t ∈ after, s.key.le t.key = true := by
  obtain ⟨before, after, hcons, hsorted, hbefore⟩ :=
    @List.mergeSort_cons _ (fun a b : Signature => a.key.le b.key) (fun _ _ _ => Key.le_trans)
      (fun a b => Key.le_total a.key b.key) s ss
  refine ⟨before, after, hcons, hsorted, fun t ht => by simpa using hbefore t ht, fun t ht => ?_⟩
  have hordered : Ordered (before ++ s :: after) := hcons ▸ ordered_sorted (s :: ss)
  exact Key.le_iff.mpr ((List.pairwise_cons.mp (List.pairwise_append.mp hordered).2.1).1 t ht)

theorem sorted_cons (s : Signature) (ss : List Signature) :
    sorted (s :: ss) = (sorted ss).filter (fun t => !s.key.le t.key) ++
      s :: (sorted ss).filter (fun t => s.key.le t.key) ∧
    sorted ss = (sorted ss).filter (fun t => !s.key.le t.key) ++
      (sorted ss).filter (fun t => s.key.le t.key) := by
  obtain ⟨before, after, hcons, hsorted, hbefore, hafter⟩ := exists_sorted_cons s ss
  have hfirst : (sorted ss).filter (fun t => !s.key.le t.key) = before := by
    rw [hsorted, List.filter_append, List.filter_eq_self.mpr fun t ht => by simp [hbefore t ht],
      List.filter_eq_nil_iff.mpr fun t ht => by simp [hafter t ht], List.append_nil]
  have hlast : (sorted ss).filter (fun t => s.key.le t.key) = after := by
    rw [hsorted, List.filter_append, List.filter_eq_self.mpr hafter,
      List.filter_eq_nil_iff.mpr fun t ht => by simp [hbefore t ht], List.nil_append]
  rw [hfirst, hlast]
  exact ⟨hcons, hsorted⟩

/-- Signatures keep their places relative to each other when others are left out. -/
theorem sorted_filter (keep : Signature → Bool) (ss : List Signature) :
    sorted (ss.filter keep) = (sorted ss).filter keep := by
  induction ss with
  | nil => simp [sorted]
  | cons s rest ih =>
      obtain ⟨hcons, hsplit⟩ := sorted_cons s rest
      by_cases hkeep : keep s = true
      · rw [List.filter_cons_of_pos hkeep, (sorted_cons s _).1, ih, hcons, List.filter_append,
          List.filter_cons_of_pos hkeep, List.filter_comm keep, List.filter_comm keep]
      · rw [List.filter_cons_of_neg hkeep, ih, hcons, List.filter_append,
          List.filter_cons_of_neg hkeep, ← List.filter_append, ← hsplit]

end Signature

/-! ## Networks -/

/-- The edge without the signatures that are to be removed. -/
def Edge.without (remove : Signature → Bool) (e : Edge) : Edge :=
  { e with
    delegations := e.delegations.filter (!remove ·)
    certifications := e.certifications.mapValues (List.filter (!remove ·)) }

/-- The network without the signatures that are to be removed. -/
def Network.without (remove : Signature → Bool) (n : Network) : Network :=
  { n with edges := n.edges.mapValues (Edge.without remove) }

variable {remove : Signature → Bool}

@[simp] theorem Edge.signatures_without (remove : Signature → Bool) (e : Edge) :
    (e.without remove).signatures = e.signatures.filter (!remove ·) := by
  simp [signatures, without, Table.mapValues, List.flatMap_map, List.filter_flatMap]

namespace Network

variable {n : Network}

@[simp] theorem length_edges_without (remove : Signature → Bool) (n : Network) :
    (n.without remove).edges.length = n.edges.length := by
  simp [without, Table.mapValues]

theorem flatMap_edgesTo_without (f : Fingerprint) :
    ((n.without remove).edgesTo f).flatMap (·.signatures) =
      ((n.edgesTo f).flatMap (·.signatures)).filter (!remove ·) := by
  rw [without, edgesTo_mapValues, List.flatMap_map, List.filter_flatMap]
  simp only [Edge.signatures_without]

end Network

/-! ## What is offered -/

namespace Residual

variable {r : Residual} {f : Fingerprint} {subject : Subject} {k : Int}

theorem filterAll_filter {test : Signature → Except Fault Bool} (keep : Signature → Bool)
    {ss kept : List Signature} (h : filterAll test ss = .ok kept) :
    filterAll test (ss.filter keep) = .ok (kept.filter keep) := by
  induction ss generalizing kept with
  | nil =>
      obtain rfl : [] = kept := by simpa [filterAll] using h
      rfl
  | cons s rest ih =>
      simp only [filterAll] at h
      cases hs : test s with
      | error fault => simp [hs] at h
      | ok passes =>
          cases hrest : filterAll test rest with
          | error fault => simp [hs, hrest] at h
          | ok others =>
              simp only [hs, hrest, Except.ok.injEq] at h
              rw [← h, List.filter_cons]
              cases hkeep : keep s <;> cases passes <;> simp [filterAll, hs, ih hrest, hkeep]

/-- After signatures were removed, the remaining ones are offered as before. -/
theorem signaturesOn_without {ss : List Signature} (h : r.signaturesOn f subject k = .ok ss)
    (remove : Signature → Bool) :
    signaturesOn { r with network := r.network.without remove } f subject k =
      .ok (ss.filter (!remove ·)) := by
  have hadmits : admits { r with network := r.network.without remove } subject k =
      r.admits subject k := rfl
  unfold signaturesOn at h ⊢
  cases hkept : filterAll (r.admits subject k) ((r.network.edgesTo f).flatMap (·.signatures)) with
  | error fault => simp [hkept, Except.map] at h
  | ok kept =>
      obtain rfl : Signature.sorted kept = ss := by simpa [hkept, Except.map] using h
      rw [hadmits, Network.flatMap_edgesTo_without, filterAll_filter _ hkept, Except.map,
        Signature.sorted_filter]

end Residual

end TrustWeb
