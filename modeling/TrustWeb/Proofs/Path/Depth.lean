import Mathlib.Data.ENat.Lattice
import TrustWeb.Proofs.Path.Calls

/-! # How far a path may be extended

The depth of a signature counts the hops that may follow it, and each further hop uses one of them
up. A path takes connected signatures exactly if each of them leaves room for all that come after
it, and may then be extended by the least number of hops that one of them has left. -/

namespace TrustWeb

namespace Depth

/-- The number of hops that a depth leaves room for. -/
def hops : Depth → ℕ∞
  | .limited hops => (hops.val : ℕ∞)
  | .unconstrained => ⊤

theorem belowNumber_eq_false_iff {d : Depth} {k : ℕ} :
    d.belowNumber k = false ↔ (k : ℕ∞) ≤ d.hops := by
  cases d with
  | unconstrained => simp [belowNumber, hops]
  | limited n => simp [belowNumber, hops]

theorem hops_eq_top_iff {d : Depth} : d.hops = ⊤ ↔ d = .unconstrained := by
  cases d with
  | unconstrained => simp [hops]
  | limited n => simp [hops]

end Depth

/-! ## Room for the hops that follow -/

section Room

variable {extra : ℕ} {ss : List Signature}

/-- How many hops the signatures leave room for after them. -/
noncomputable def spareHops (ss : List Signature) : ℕ∞ :=
  ⨅ i : Fin ss.length, ss[i].depth.hops - (ss.length - (i + 1) : ℕ)

theorem leavesRoom_zero_iff :
    LeavesRoom 0 ss ↔ ∀ i : Fin ss.length, ((ss.length - (i + 1) : ℕ) : ℕ∞) ≤ ss[i].depth.hops := by
  simp only [leavesRoom_iff, Depth.belowNumber_eq_false_iff, Nat.add_zero]
  refine ⟨fun h i => h i ss[i] (by simp), fun h i s hs => ?_⟩
  obtain ⟨hi, rfl⟩ := List.getElem?_eq_some_iff.mp hs
  exact h ⟨i, hi⟩

/-- Signatures that leave room for one another leave room for as many more as they have to spare. -/
theorem leavesRoom_iff_le_spareHops (h : LeavesRoom 0 ss) :
    LeavesRoom extra ss ↔ (extra : ℕ∞) ≤ spareHops ss := by
  have hspare : ∀ i : Fin ss.length,
      (extra : ℕ∞) ≤ ss[i].depth.hops - (ss.length - (i + 1) : ℕ) ↔
        ((ss.length + extra - (i + 1) : ℕ) : ℕ∞) ≤ ss[i].depth.hops := fun i => by
    have hcount : ss.length + extra - (i + 1) = extra + (ss.length - (i + 1)) := by
      have := i.isLt
      omega
    rw [(ENat.addLECancellable_of_ne_top (ENat.natCast_ne_top _)).le_tsub_iff_right
      (leavesRoom_zero_iff.mp h i), hcount]
    push_cast
    rfl
  simp only [leavesRoom_iff, Depth.belowNumber_eq_false_iff, spareHops, le_iInf_iff, hspare]
  refine ⟨fun hextra i => hextra i ss[i] (by simp), fun hextra i s hs => ?_⟩
  obtain ⟨hi, rfl⟩ := List.getElem?_eq_some_iff.mp hs
  exact hextra ⟨i, hi⟩

theorem spareHops_eq_top_iff : spareHops ss = ⊤ ↔ ∀ s ∈ ss, s.depth = .unconstrained := by
  simp only [spareHops, iInf_eq_top, ENat.sub_eq_top_iff, ne_eq, ENat.natCast_ne_top,
    not_false_eq_true, and_true, Depth.hops_eq_top_iff, List.forall_mem_iff_getElem]
  exact ⟨fun h i hi => h ⟨i, hi⟩, fun h i => h i i.isLt⟩

end Room

namespace Path

variable {root : Node} {ss : List Signature} {stop : Fingerprint}

/-! ## Signatures one after the other -/

/-- The path after it has taken signatures one after the other, up to the first that it refuses. -/
def appendAll (p : Path) (mode : Mode) (ss : List Signature) : Except Fault Path :=
  ss.foldlM (fun p s => p.append s mode) p

theorem appendAll_concat (p : Path) (mode : Mode) (ss : List Signature) (s : Signature) :
    p.appendAll mode (ss ++ [s]) = (p.appendAll mode ss).bind (·.append s mode) := by
  rw [appendAll, List.foldlM_append]
  change (p.appendAll mode ss).bind _ = _
  congr 1
  funext q
  cases h : q.append s mode <;> simp [h, bind, Except.bind, pure, Except.pure]

/-- A path over the signatures comes back to no certificate, unless by a certification of the one
that it has just reached. -/
def Simple (root : Node) (ss : List Signature) : Prop :=
  ∀ front s, front ++ [s] <+: ss →
    s.target.fingerprint ∈ visited { root, signatures := front } →
      closesCycle { root, signatures := front } s = false

theorem simple_of_nodup (h : (root.fingerprint :: ss.map (·.target.fingerprint)).Nodup) :
    Simple root ss := by
  rintro front s ⟨rest, rfl⟩ hs
  rw [visited_eq] at hs
  rw [List.append_assoc, List.map_append, ← List.cons_append] at h
  exact ((List.nodup_append.mp h).2.2 _ hs _ (by simp) rfl).elim

theorem Simple.of_concat {s : Signature} (h : Simple root (ss ++ [s])) : Simple root ss :=
  fun front t hfront => h front t (hfront.trans (List.prefix_append _ _))

theorem Simple.closesCycle_eq_false {s : Signature} {d : Depth} (h : Simple root (ss ++ [s])) :
    closesCycle ⟨root, ss, d⟩ s = false := by
  by_cases hs : s.target.fingerprint ∈ visited ⟨root, ss, d⟩
  · exact h ss s List.prefix_rfl hs
  · exact closesCycle_of_not_visited hs

theorem target_of_connects {d : Depth} (h : Connects root.fingerprint ss stop) :
    (target ⟨root, ss, d⟩).fingerprint = stop := by
  cases hlast : ss.getLast? with
  | none =>
      obtain rfl := List.getLast?_eq_none_iff.mp hlast
      exact h
  | some s =>
      simp only [target, hlast]
      exact h.target_of_getLast? hlast

/-- A path takes the signatures if each leaves room for those after it, and is left with room for as
many more as all of them leave room for; otherwise it refuses one because it is used up. -/
theorem appendAll_cases (hconnected : Connects root.fingerprint ss stop)
    (hsimple : Simple root ss) :
    (LeavesRoom 0 ss ∧ ∃ d, appendAll { root } .authentication ss = .ok ⟨root, ss, d⟩ ∧
        ∀ extra : ℕ, d.belowNumber extra = false ↔ LeavesRoom extra ss) ∨
      ¬LeavesRoom 0 ss ∧
        appendAll { root } .authentication ss = .error (.pathUsedUp root.fingerprint) := by
  induction ss using List.reverseRecOn generalizing stop with
  | nil =>
      refine .inl ⟨by simp [LeavesRoom], .unconstrained, rfl, fun extra => ?_⟩
      simp [LeavesRoom, Depth.belowNumber]
  | append_singleton ss s ih =>
      obtain ⟨mid, hss, hs⟩ := hconnected.of_append
      rw [appendAll_concat, leavesRoom_concat_iff]
      rcases ih hss hsimple.of_concat with ⟨-, d, hok, hroom⟩ | ⟨hfull, herror⟩
      · have htail : s.issuer.fingerprint = (target ⟨root, ss, d⟩).fingerprint := by
          rw [target_of_connects hss]
          exact hs.1
        have hone : d.belowNumber 1 = false ↔ LeavesRoom 1 ss := hroom 1
        rw [hok, ← hone]
        cases hleft : d.belowNumber 1 with
        | false =>
            obtain ⟨d', happend, hd'⟩ :=
              append_ok .authentication htail (fun _ => hleft) hsimple.closesCycle_eq_false
            refine .inl ⟨rfl, d', happend, fun extra => ?_⟩
            rw [hd' rfl, Bool.or_eq_false_iff, leavesRoom_append_singleton_iff, and_comm,
              ← hroom (extra + 1)]
            push_cast
            rfl
        | true => exact .inr ⟨by simp, append_of_usedUp htail hleft⟩
      · rw [herror]
        exact .inr ⟨fun h => hfull (h.of_le (by omega)), rfl⟩

/-- A path from a root takes connected signatures that come back to no certificate if and only if
the depth of each is at least the number of those after it. It may then be extended by the least of
what the depths exceed these numbers by, without a limit if none of them has one. The first
signature that it refuses, it refuses because it is used up. -/
theorem exists_appendAll_iff (hconnected : Connects root.fingerprint ss stop)
    (hsimple : Simple root ss) :
    ((∃ p, appendAll { root } .authentication ss = .ok p) ↔
        ∀ i : Fin ss.length, ((ss.length - (i + 1) : ℕ) : ℕ∞) ≤ ss[i].depth.hops) ∧
      (∀ p, appendAll { root } .authentication ss = .ok p →
        p.residual.hops = (⨅ i : Fin ss.length, ss[i].depth.hops - (ss.length - (i + 1) : ℕ)) ∧
          (p.residual = .unconstrained ↔ ∀ s ∈ ss, s.depth = .unconstrained)) ∧
      ∀ fault, appendAll { root } .authentication ss = .error fault →
        fault = .pathUsedUp root.fingerprint := by
  rw [← leavesRoom_zero_iff]
  rcases appendAll_cases hconnected hsimple with ⟨hroom, d, hok, hextra⟩ | ⟨hfull, herror⟩
  · have hspare : d.hops = spareHops ss := ENat.eq_of_forall_natCast_le_iff fun extra => by
      rw [← Depth.belowNumber_eq_false_iff, hextra, leavesRoom_iff_le_spareHops hroom]
    refine ⟨⟨fun _ => hroom, fun _ => ⟨_, hok⟩⟩, fun p hp => ?_, fun fault h => ?_⟩
    · obtain rfl := Except.ok.inj (hok.symm.trans hp)
      exact ⟨hspare, by rw [← Depth.hops_eq_top_iff, hspare, spareHops_eq_top_iff]⟩
    · cases hok.symm.trans h
  · refine ⟨⟨fun ⟨p, hp⟩ => ?_, fun h => (hfull h).elim⟩, fun p hp => ?_, fun fault h => ?_⟩
    · cases herror.symm.trans hp
    · cases herror.symm.trans hp
    · exact (Except.error.inj (herror.symm.trans h)).symm

end Path

/-- `A` delegates to `B` over one hop, which `B` uses up by certifying. -/
theorem Path.exists_appendAll_iff_introduction :
    Connects ⟨"A"⟩ [Introduction.delegation, Introduction.introduced] ⟨"C"⟩ ∧
      Path.Simple { fingerprint := ⟨"A"⟩ } [Introduction.delegation, Introduction.introduced] ∧
      ∃ p, Path.appendAll { root := { fingerprint := ⟨"A"⟩ } } .authentication
          [Introduction.delegation, Introduction.introduced] = .ok p ∧ p.residual.hops = 0 := by
  have hconnected : Connects ⟨"A"⟩ [Introduction.delegation, Introduction.introduced] ⟨"C"⟩ :=
    ⟨rfl, rfl, rfl⟩
  have hsimple : Path.Simple { fingerprint := ⟨"A"⟩ }
      [Introduction.delegation, Introduction.introduced] := Path.simple_of_nodup (by decide)
  obtain ⟨htakes, hresidual, -⟩ := Path.exists_appendAll_iff hconnected hsimple
  obtain ⟨p, hp⟩ := htakes.mpr (by decide)
  refine ⟨hconnected, hsimple, p, hp, ?_⟩
  rw [(hresidual p hp).1, ← nonpos_iff_eq_zero]
  exact iInf_le _ (1 : Fin 2)

end TrustWeb
