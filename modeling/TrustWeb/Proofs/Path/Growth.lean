import Mathlib.Data.List.Nodup
import TrustWeb.Path

/-! # Which signatures a path takes

A path takes a signature that its last certificate issued, if the depths so far leave room and the
signature leads to a certificate that the path has not visited, or certifies the one it has just
reached. From this, a whole sequence of connected signatures is taken one after the other. -/

namespace TrustWeb

namespace Path

/-- Appending some signatures, one after the other, takes a path to another one. -/
inductive Grows (mode : Mode) : Path → List Signature → Path → Prop where
  | nil (p) : Grows mode p [] p
  | cons {p next last s rest} (h : p.append s mode = .ok next) (hrest : Grows mode next rest last) :
      Grows mode p (s :: rest) last

theorem Grows.append {mode : Mode} {p next last : Path} {ss ts : List Signature}
    (h : Grows mode p ss next) (h' : Grows mode next ts last) : Grows mode p (ss ++ ts) last := by
  induction h with
  | nil p => exact h'
  | cons hs _ ih => exact .cons hs (ih h')

theorem Grows.root_signatures {mode : Mode} {p last : Path} {ss : List Signature}
    (h : Grows mode p ss last) : last.root = p.root ∧ last.signatures = p.signatures ++ ss := by
  induction h with
  | nil p => simp
  | cons hs _ ih =>
      obtain ⟨hroot, hsignatures⟩ := signatures_of_append hs
      exact ⟨ih.1.trans hroot, by simp [ih.2, hsignatures]⟩

@[simp] theorem target_concat (root : Node) (ss : List Signature) (s : Signature) (d : Depth) :
    target ⟨root, ss ++ [s], d⟩ = s.target := by
  simp [target]

/-- The fingerprints of the certificates along the path. -/
def visited (p : Path) : List Fingerprint := p.certificates.map (·.fingerprint)

theorem visited_eq (p : Path) :
    p.visited = p.root.fingerprint :: p.signatures.map (·.target.fingerprint) := by
  simp [visited, certificates]

/-! ## One signature -/

theorem append_ok {p : Path} {s : Signature} (mode : Mode)
    (htail : s.issuer.fingerprint = p.target.fingerprint)
    (hroom : mode = .authentication → p.residual.belowNumber 1 = false)
    (hcycle : p.closesCycle s = false) :
    ∃ d, p.append s mode = .ok ⟨p.root, p.signatures ++ [s], d⟩ ∧
      (mode = .authentication →
        ∀ k, d.belowNumber k = (s.depth.belowNumber k || p.residual.belowNumber (k + 1))) := by
  cases mode with
  | certification =>
      exact ⟨p.residual, by simp [append, htail, hcycle, residualAfter, Except.map], by simp⟩
  | authentication =>
      obtain ⟨d, hd, hbelow⟩ := Depth.reduce_one (hroom rfl)
      have habove : p.residual.aboveNumber 0 = true := by
        rw [Depth.aboveNumber_eq, Int.zero_add, hroom rfl]
        rfl
      refine ⟨s.depth.min d, ?_, fun _ k => by rw [Depth.belowNumber_min, hbelow]⟩
      simp [append, htail, hcycle, habove, residualAfter, hd, Except.map]

theorem closesCycle_of_not_visited {p : Path} {s : Signature}
    (h : s.target.fingerprint ∉ p.visited) : p.closesCycle s = false := by
  rw [visited_eq, List.mem_cons, not_or] at h
  obtain ⟨hroot, hsignatures⟩ := h
  unfold closesCycle
  cases hlast : p.signatures.getLast? with
  | none => simp [hroot]
  | some last =>
      have hmem := List.mem_of_getLast? hlast
      have hne : ∀ t ∈ p.signatures, t.target.fingerprint ≠ s.target.fingerprint :=
        fun t ht he => hsignatures (List.mem_map.mpr ⟨t, ht, he⟩)
      have hfront : p.signatures.dropLast.any
          (·.target.fingerprint == s.target.fingerprint) = false := by
        simp only [List.any_eq_false, beq_iff_eq]
        exact fun t ht => hne t (List.dropLast_subset _ ht)
      simp [hroot, hfront, hne last hmem]

/-- A certification of the certificate just reached closes no cycle, if the signature that reached
it is over something else. -/
theorem closesCycle_of_certification {p : Path} {s : Signature}
    (htarget : s.target.fingerprint = p.target.fingerprint) (hcert : s.isDelegation = false)
    (hlast : ∀ t, p.signatures.getLast? = some t → t.userId ≠ s.userId) (hnodup : p.visited.Nodup) :
    p.closesCycle s = false := by
  obtain ⟨root, signatures, residual⟩ := p
  rcases List.eq_nil_or_concat signatures with rfl | ⟨front, last, rfl⟩
  · simp [closesCycle, hcert]
  · simp only [List.concat_eq_append, target_concat] at htarget hlast ⊢
    rw [visited_eq] at hnodup
    simp only [List.concat_eq_append, List.map_append, List.map_cons, List.map_nil,
      List.nodup_cons, List.nodup_append, List.mem_append, List.mem_singleton, not_or] at hnodup
    obtain ⟨⟨-, hroot⟩, -, -, hfront⟩ := hnodup
    have hne : last.userId ≠ s.userId := hlast last (by simp)
    have hany : front.any (·.target.fingerprint == last.target.fingerprint) = false := by
      simp only [List.any_eq_false, beq_iff_eq]
      exact fun t ht he => hfront _ (List.mem_map_of_mem ht) _ rfl he
    simp [closesCycle, htarget, hany, hcert, Ne.symm hroot, Ne.symm hne]

end Path

/-! ## Connected signatures -/

/-- Each signature is issued by the certificate that the one before it reached; the first one by
`start`, and the last one reaches `stop`. -/
def Connects (start : Fingerprint) : List Signature → Fingerprint → Prop
  | [], stop => start = stop
  | s :: rest, stop => s.issuer.fingerprint = start ∧ Connects s.target.fingerprint rest stop

/-- Signature `i` of the list leaves room for all signatures after it and for `extra` more ones. -/
def LeavesRoom (extra : Nat) (ss : List Signature) : Prop :=
  ∀ i s, ss[i]? = some s → i + 1 < ss.length + extra →
    s.depth.belowNumber (ss.length + extra - (i + 1) : Nat) = false

theorem LeavesRoom.tail {extra : Nat} {s : Signature} {rest : List Signature}
    (h : LeavesRoom extra (s :: rest)) : LeavesRoom extra rest := by
  intro i t ht hi
  have hroom := h (i + 1) t (by simpa using ht) (by simp only [List.length_cons]; omega)
  rw [show rest.length + extra - (i + 1) = (s :: rest).length + extra - (i + 1 + 1) by
    simp only [List.length_cons]; omega]
  exact hroom

theorem LeavesRoom.head {extra : Nat} {s : Signature} {rest : List Signature}
    (h : LeavesRoom extra (s :: rest)) :
    s.depth.belowNumber (rest.length + extra : Nat) = false := by
  by_cases hzero : rest.length + extra = 0
  · simp [hzero]
  · have hroom := h 0 s rfl (by simp only [List.length_cons]; omega)
    rwa [show (s :: rest).length + extra - (0 + 1) = rest.length + extra by
      simp only [List.length_cons]; omega] at hroom

theorem LeavesRoom.cons {extra : Nat} {s : Signature} {rest : List Signature}
    (h : LeavesRoom extra rest) (hs : s.depth.belowNumber (rest.length + extra : Nat) = false) :
    LeavesRoom extra (s :: rest) := by
  intro i t ht hi
  cases i with
  | zero =>
      obtain rfl : s = t := by simpa using ht
      rwa [show (s :: rest).length + extra - (0 + 1) = rest.length + extra by
        simp only [List.length_cons]; omega]
  | succ i =>
      have hroom := h i t (by simpa using ht) (by simp only [List.length_cons] at hi; omega)
      rwa [show (s :: rest).length + extra - (i + 1 + 1) = rest.length + extra - (i + 1) by
        simp only [List.length_cons]; omega]

theorem LeavesRoom.of_le {few many : Nat} {ss : List Signature} (h : LeavesRoom many ss)
    (hle : few ≤ many) : LeavesRoom few ss := by
  intro i s hs hi
  exact Depth.belowNumber_of_le (h i s hs (by omega)) (by omega)

/-- For the last signature, after which none comes, nothing is asked. -/
theorem leavesRoom_iff {extra : Nat} {ss : List Signature} :
    LeavesRoom extra ss ↔ ∀ (i : Nat) (s : Signature), ss[i]? = some s →
      s.depth.belowNumber (ss.length + extra - (i + 1) : Nat) = false := by
  refine ⟨fun h i s hs => ?_, fun h i s hs _ => h i s hs⟩
  by_cases hi : i + 1 < ss.length + extra
  · exact h i s hs hi
  · rw [show ss.length + extra - (i + 1) = 0 by omega]
    exact s.depth.belowNumber_zero

theorem leavesRoom_append_singleton_iff {extra : Nat} {front : List Signature}
    {last : Signature} :
    LeavesRoom extra (front ++ [last]) ↔
      LeavesRoom (extra + 1) front ∧ last.depth.belowNumber extra = false := by
  have hlength : (front ++ [last]).length + extra = front.length + (extra + 1) := by
    rw [List.length_append, List.length_singleton]
    omega
  have hlast : front.length + (extra + 1) - (front.length + 1) = extra := by omega
  rw [leavesRoom_iff, leavesRoom_iff, hlength]
  constructor
  · intro h
    refine ⟨fun i s hs => h i s ?_, ?_⟩
    · rwa [List.getElem?_append_left (List.getElem?_eq_some_iff.mp hs).1]
    · have hroom := h front.length last (by simp)
      rwa [hlast] at hroom
  · rintro ⟨hfront, hroom⟩ i s hs
    rcases Nat.lt_or_ge i front.length with hlt | hge
    · rw [List.getElem?_append_left hlt] at hs
      exact hfront i s hs
    · have hi := (List.getElem?_eq_some_iff.mp hs).1
      obtain rfl : i = front.length := by simp at hi; omega
      obtain rfl : last = s := by simpa using hs
      rwa [hlast]

theorem leavesRoom_concat_iff {front : List Signature} {last : Signature} :
    LeavesRoom 0 (front ++ [last]) ↔ LeavesRoom 1 front := by
  rw [leavesRoom_append_singleton_iff, Nat.zero_add]
  exact and_iff_left last.depth.belowNumber_zero

theorem targets_eq_of_endpoints {ss ts : List Signature}
    (h : ss.map (·.endpoints) = ts.map (·.endpoints)) :
    ts.map (·.target.fingerprint) = ss.map (·.target.fingerprint) := by
  have htargets := congrArg (List.map Prod.snd) h
  simpa [Function.comp_def, Signature.endpoints] using htargets.symm

namespace Connects

variable {start stop : Fingerprint} {ss ts : List Signature}

theorem stop_unique {stop' : Fingerprint} (h : Connects start ss stop)
    (h' : Connects start ss stop') : stop = stop' := by
  induction ss generalizing start with
  | nil => exact Eq.trans (Eq.symm h) h'
  | cons s rest ih => exact ih h.2 h'.2

theorem of_append (h : Connects start (ss ++ ts) stop) :
    ∃ mid, Connects start ss mid ∧ Connects mid ts stop := by
  induction ss generalizing start with
  | nil => exact ⟨start, rfl, h⟩
  | cons s rest ih =>
      obtain ⟨mid, hrest, hts⟩ := ih h.2
      exact ⟨mid, ⟨h.1, hrest⟩, hts⟩

theorem target_of_getLast? {s : Signature} (h : Connects start ss stop)
    (hs : ss.getLast? = some s) : s.target.fingerprint = stop := by
  induction ss generalizing start with
  | nil => cases hs
  | cons t rest ih =>
      cases rest with
      | nil =>
          obtain rfl : t = s := by simpa using hs
          exact h.2
      | cons u rest => exact ih h.2 (by simpa [List.getLast?_cons_cons] using hs)

/-- Whether signatures are connected depends on their certificates alone. -/
theorem of_endpoints (h : Connects start ss stop)
    (hsame : ss.map (·.endpoints) = ts.map (·.endpoints)) : Connects start ts stop := by
  induction ss generalizing start ts with
  | nil =>
      obtain rfl : ts = [] := by simpa using hsame.symm
      exact h
  | cons s ss ih =>
      cases ts with
      | nil => cases hsame
      | cons t ts =>
          rw [List.map_cons, List.map_cons, List.cons.injEq] at hsame
          obtain ⟨hissuer, htarget⟩ := Prod.mk.inj hsame.1
          refine ⟨hissuer ▸ h.1, ih ?_ hsame.2⟩
          rw [← htarget]
          exact h.2

/-- Connected signatures that reach the same certificates connect the same ones. -/
theorem endpoints_eq {stop' : Fingerprint} (h : Connects start ss stop)
    (h' : Connects start ts stop')
    (hsame : ss.map (·.target.fingerprint) = ts.map (·.target.fingerprint)) :
    ss.map (·.endpoints) = ts.map (·.endpoints) := by
  induction ss generalizing start ts with
  | nil =>
      obtain rfl : ts = [] := by simpa using hsame.symm
      rfl
  | cons s ss ih =>
      cases ts with
      | nil => cases hsame
      | cons t ts =>
          rw [List.map_cons, List.map_cons, List.cons.injEq] at hsame
          have hrest := h'.2
          rw [← hsame.1] at hrest
          rw [List.map_cons, List.map_cons, ih h.2 hrest hsame.2, Signature.endpoints,
            Signature.endpoints, h.1, h'.1, hsame.1]

end Connects

namespace Path

/-- A path takes connected signatures that visit no certificate twice and leave enough room. -/
theorem exists_grows {mode : Mode} {extra : Nat} {stop : Fingerprint} {ss : List Signature}
    {p : Path} (hconnected : Connects p.target.fingerprint ss stop)
    (hnodup : (p.visited ++ ss.map (·.target.fingerprint)).Nodup)
    (hdeep : mode = .authentication → LeavesRoom extra ss)
    (hroom : mode = .authentication → p.residual.belowNumber (ss.length + extra : Nat) = false) :
    ∃ last, Grows mode p ss last ∧ last.target.fingerprint = stop ∧
      (mode = .authentication → last.residual.belowNumber extra = false) := by
  induction ss generalizing p with
  | nil => exact ⟨p, .nil p, hconnected, by simpa using hroom⟩
  | cons s rest ih =>
      obtain ⟨hissuer, hrest⟩ := hconnected
      simp only [List.map_cons] at hnodup
      have hnew : s.target.fingerprint ∉ p.visited :=
        fun hmem => (List.nodup_append.mp hnodup).2.2 _ hmem _ List.mem_cons_self rfl
      obtain ⟨d, happend, hd⟩ := append_ok mode hissuer
        (fun hm => Depth.belowNumber_of_le (hroom hm) (by simp only [List.length_cons]; omega))
        (closesCycle_of_not_visited hnew)
      have hvisited : visited ⟨p.root, p.signatures ++ [s], d⟩ =
          p.visited ++ [s.target.fingerprint] := by
        simp [visited_eq]
      obtain ⟨last, hgrows, hstop, hleft⟩ := ih (p := ⟨p.root, p.signatures ++ [s], d⟩)
        (by simpa using hrest) (by simpa [hvisited] using hnodup) (fun hm => (hdeep hm).tail)
        (fun hm => by
          rw [hd hm, (hdeep hm).head, Bool.false_or]
          have := hroom hm
          simp only [List.length_cons] at this
          rwa [show ((rest.length + 1 + extra : Nat) : Int) = (rest.length + extra : Nat) + 1 by
            omega] at this)
      exact ⟨last, .cons happend hgrows, hstop, hleft⟩

end Path

end TrustWeb
