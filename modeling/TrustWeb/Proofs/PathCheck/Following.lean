import TrustWeb.Proofs.Path.Growth
import TrustWeb.Proofs.Residual.Amounts
import TrustWeb.Web.PathCheck

/-! # Following the hops of a path

A path check takes the best usable signature for each hop. The signatures that it takes serve the
hops, and wherever some signatures serve them, it takes some that have no less trust left. Which
signatures are taken does not depend on the path so far; whether the path accepts them is a question
of its own. -/

namespace TrustWeb

namespace Network

variable {n : Network} {issuer target : Fingerprint} {e : Edge} {s : Signature}

/-- The creation times of the signatures on one edge can be compared. -/
def Comparable (n : Network) : Prop :=
  ∀ entry ∈ n.edges, ∀ s ∈ entry.2.signatures, ∀ t ∈ entry.2.signatures,
    s.created.comparable t.created = true

theorem WellKeyed.of_mem_edge? (h : n.WellKeyed) (he : n.edge? issuer target = some e)
    (hs : s ∈ e.signatures) :
    s ∈ n.signatures ∧ s.issuer.fingerprint = issuer ∧ s.target.fingerprint = target := by
  have hmem := Table.mem_of_find? he
  have hendpoints := h.edges _ hmem s hs
  exact ⟨mem_signatures.mpr ⟨_, hmem, hs⟩, congrArg Prod.fst hendpoints,
    congrArg Prod.snd hendpoints⟩

/-- No second edge hides the one on which a signature stands. -/
theorem WellKeyed.exists_edge? (h : n.WellKeyed) (hplaces : n.edges.keys.Nodup)
    (hs : s ∈ n.signatures) :
    ∃ e, n.edge? s.issuer.fingerprint s.target.fingerprint = some e ∧ s ∈ e.signatures := by
  obtain ⟨⟨k, e⟩, hentry, hs⟩ := mem_signatures.mp hs
  obtain rfl : s.endpoints = k := h.edges _ hentry s hs
  exact ⟨e, Table.find?_of_mem hplaces hentry, hs⟩

end Network

namespace PathCheck

variable {r : Residual} {subject : Subject} {remaining : Nat} {issuer target start stop : Fingerprint}
  {best s t last : Signature} {rest ss : List Signature} {fs : List Fingerprint} {p reached : Path}

/-! ## The best of some signatures -/

theorem left_le_of_preferred {better : Bool} (h : preferred r s best = .ok better) :
    r.left s ≤ r.left (if better then s else best) ∧
      r.left best ≤ r.left (if better then s else best) := by
  unfold preferred at h
  split at h
  · obtain rfl : decide (r.left s > r.left best) = better := by simpa using h
    by_cases hmore : r.left s > r.left best
    · simp only [hmore, decide_true, if_true]
      omega
    · simp only [hmore, decide_false, Bool.false_eq_true, if_false]
      omega
  · next heq =>
      have heq : r.left s = r.left best := by simpa using heq
      cases better <;> simp [heq]

/-- Of the signatures compared none has more left than the best one. -/
theorem bestFrom_spec (h : bestFrom r best rest = .ok t) :
    t ∈ best :: rest ∧ ∀ s ∈ best :: rest, r.left s ≤ r.left t := by
  induction rest generalizing best with
  | nil =>
      obtain rfl : best = t := by simpa [bestFrom] using h
      simp
  | cons s rest ih =>
      simp only [bestFrom] at h
      cases hpreferred : preferred r s best with
      | error fault => simp [hpreferred] at h
      | ok better =>
          simp only [hpreferred] at h
          obtain ⟨hmem, hleft⟩ := ih h
          obtain ⟨hs, hbest⟩ := left_le_of_preferred hpreferred
          have hkept := hleft _ List.mem_cons_self
          constructor
          · rcases List.mem_cons.mp hmem with rfl | hmem
            · cases better <;> simp
            · exact List.mem_cons_of_mem _ (List.mem_cons_of_mem _ hmem)
          · intro u hu
            rcases List.mem_cons.mp hu with rfl | hu
            · exact Int.le_trans hbest hkept
            · rcases List.mem_cons.mp hu with rfl | hu
              · exact Int.le_trans hs hkept
              · exact hleft u (List.mem_cons_of_mem _ hu)

theorem exists_bestFrom (h : ∀ s ∈ best :: rest, ∀ t ∈ best :: rest,
    s.created.comparable t.created = true) : ∃ t, bestFrom r best rest = .ok t := by
  induction rest generalizing best with
  | nil => exact ⟨best, rfl⟩
  | cons s rest ih =>
      obtain ⟨better, hbetter⟩ : ∃ better, preferred r s best = .ok better := by
        rw [preferred, if_pos (h s (by simp) best (by simp))]
        split
        · exact ⟨_, rfl⟩
        · split <;> exact ⟨_, rfl⟩
      simp only [bestFrom, hbetter]
      apply ih
      intro u hu v hv
      have hsub : ∀ w ∈ (if better then s else best) :: rest, w ∈ best :: s :: rest := by
        intro w hw
        rcases List.mem_cons.mp hw with rfl | hw
        · cases better <;> simp
        · exact List.mem_cons_of_mem _ (List.mem_cons_of_mem _ hw)
      exact h u (hsub u hu) v (hsub v hv)

/-! ## One hop -/

/-- A signature of the network between two certificates that may be used for a hop after which
`remaining` hops follow. -/
structure Usable (r : Residual) (subject : Subject) (remaining : Nat)
    (issuer target : Fingerprint) (s : Signature) : Prop where
  known : s ∈ r.network.signatures
  issuer : s.issuer.fingerprint = issuer
  target : s.target.fingerprint = target
  fits : isUsable r subject remaining s = .ok true

theorem Usable.endpoints_eq (h : Usable r subject remaining issuer target s)
    (h' : Usable r subject remaining issuer target t) : s.endpoints = t.endpoints := by
  rw [Signature.endpoints, Signature.endpoints, h.issuer, h.target, h'.issuer, h'.target]

theorem isUsable_zero_iff :
    isUsable r subject 0 s = .ok true ↔ subject.isOver s.userId = true := by
  simp [isUsable]

theorem isUsable_iff (h : 0 < remaining) :
    isUsable r subject remaining s = .ok true ↔ r.Covers subject s ∧
      (r.mode = .authentication → s.depth.belowNumber remaining = false) := by
  rw [isUsable, if_neg (Nat.ne_of_gt h), Residual.admits_eq_true_iff]

/-- The best signature for a hop is usable. -/
theorem usable_of_bestSignature? (hkeys : r.network.WellKeyed)
    (h : bestSignature? r subject remaining issuer target = .ok (some s)) :
    Usable r subject remaining issuer target s := by
  unfold bestSignature? at h
  cases he : r.network.edge? issuer target with
  | none => simp [he] at h
  | some e =>
      cases hkept : Residual.filterAll (isUsable r subject remaining) e.signatures with
      | error fault => simp [he, hkept] at h
      | ok kept =>
          cases kept with
          | nil => simp [he, hkept] at h
          | cons first rest =>
              cases hbest : bestFrom r first rest with
              | error fault => simp [he, hkept, hbest, Except.map] at h
              | ok best =>
                  obtain rfl : best = s := by simpa [he, hkept, hbest, Except.map] using h
                  have hmem := (bestFrom_spec hbest).1
                  rw [Residual.filterAll_eq_filter hkept, List.mem_filter,
                    decide_eq_true_eq] at hmem
                  obtain ⟨hknown, hissuer, htarget⟩ := hkeys.of_mem_edge? he hmem.1
                  exact ⟨hknown, hissuer, htarget, hmem.2⟩

section Total

variable (hkeys : r.network.WellKeyed) (hcomparable : r.network.Comparable)
  (hcovers : ∀ s ∈ r.network.signatures, ∃ found, s.scope.covers subject = .ok found)

include hkeys hcomparable hcovers

theorem exists_bestSignature? (remaining : Nat) (issuer target : Fingerprint) :
    ∃ s?, bestSignature? r subject remaining issuer target = .ok s? := by
  unfold bestSignature?
  cases he : r.network.edge? issuer target with
  | none => exact ⟨none, rfl⟩
  | some e =>
      have husable : ∀ s ∈ e.signatures, ∃ keep, isUsable r subject remaining s = .ok keep := by
        intro s hs
        obtain ⟨found, hfound⟩ := hcovers s (hkeys.of_mem_edge? he hs).1
        unfold isUsable Residual.admits
        split
        · exact ⟨_, rfl⟩
        · cases r.mode with
          | certification => exact ⟨true, rfl⟩
          | authentication => cases hd : s.depth.belowNumber remaining <;> simp [hfound]
      obtain ⟨kept, hkept⟩ := Residual.exists_filterAll husable
      have hmem : ∀ s ∈ kept, s ∈ e.signatures := by
        intro s hs
        rw [Residual.filterAll_eq_filter hkept] at hs
        exact (List.mem_filter.mp hs).1
      cases kept with
      | nil => exact ⟨none, by simp [hkept]⟩
      | cons first rest =>
          obtain ⟨t, ht⟩ := exists_bestFrom (r := r) fun s hs u hu =>
            hcomparable _ (Table.mem_of_find? he) s (hmem s hs) u (hmem u hu)
          exact ⟨some t, by simp [hkept, ht, Except.map]⟩

/-- Where some signature is usable for a hop, one is taken, and none that is usable has more
left. -/
theorem exists_best_of_usable (hplaces : r.network.edges.keys.Nodup)
    (h : Usable r subject remaining issuer target s) :
    ∃ t, bestSignature? r subject remaining issuer target = .ok (some t) ∧ r.left s ≤ r.left t := by
  obtain ⟨hknown, rfl, rfl, hfits⟩ := h
  obtain ⟨e, he, hs⟩ := hkeys.exists_edge? hplaces hknown
  obtain ⟨t?, ht⟩ := exists_bestSignature? hkeys hcomparable hcovers remaining
    s.issuer.fingerprint s.target.fingerprint
  refine ⟨t?.getD s, ?_⟩
  unfold bestSignature? at ht ⊢
  simp only [he] at ht ⊢
  cases hkept : Residual.filterAll (isUsable r subject remaining) e.signatures with
  | error fault => simp [hkept] at ht
  | ok kept =>
      have hmem : s ∈ kept := by
        rw [Residual.filterAll_eq_filter hkept, List.mem_filter, decide_eq_true_eq]
        exact ⟨hs, hfits⟩
      cases kept with
      | nil => cases hmem
      | cons first rest =>
          cases hbest : bestFrom r first rest with
          | error fault => simp [hkept, hbest, Except.map] at ht
          | ok best =>
              obtain rfl : some best = t? := by simpa [hkept, hbest, Except.map] using ht
              simp only [hbest, Except.map]
              exact ⟨rfl, (bestFrom_spec hbest).2 s hmem⟩

end Total

/-! ## All hops -/

/-- Signatures of the network that lead from one certificate to another, each usable for its hop:
the last one is over the subject, the ones before it cover the subject and leave room. -/
structure Serves (r : Residual) (subject : Subject) (start : Fingerprint) (ss : List Signature)
    (stop : Fingerprint) : Prop where
  known : ∀ s ∈ ss, s ∈ r.network.signatures
  connected : Connects start ss stop
  covered : ∀ s ∈ ss.dropLast, r.Covers subject s
  deep : r.mode = .authentication → LeavesRoom 0 ss
  certifies : ∀ s, ss.getLast? = some s → subject.isOver s.userId = true

namespace Serves

theorem cons (hs : Usable r subject rest.length start s.target.fingerprint s)
    (h : Serves r subject s.target.fingerprint rest stop) :
    Serves r subject start (s :: rest) stop := by
  obtain ⟨hknown, hissuer, -, hfits⟩ := hs
  cases rest with
  | nil =>
      rw [List.length_nil, isUsable_zero_iff] at hfits
      exact ⟨by simpa using hknown, ⟨hissuer, h.connected⟩, by simp,
        fun hmode => (h.deep hmode).cons (by simp), by simpa using hfits⟩
  | cons t rest =>
      rw [isUsable_iff (by simp)] at hfits
      refine ⟨?_, ⟨hissuer, h.connected⟩, ?_, fun hmode => (h.deep hmode).cons (hfits.2 hmode), ?_⟩
      · intro u hu
        rcases List.mem_cons.mp hu with rfl | hu
        · exact hknown
        · exact h.known u hu
      · intro u hu
        rw [List.dropLast_cons_cons, List.mem_cons] at hu
        rcases hu with rfl | hu
        · exact hfits.1
        · exact h.covered u hu
      · intro u hu
        exact h.certifies u (by simpa [List.getLast?_cons_cons] using hu)

theorem head (h : Serves r subject start (s :: rest) stop) :
    Usable r subject rest.length start s.target.fingerprint s := by
  refine ⟨h.known s List.mem_cons_self, h.connected.1, rfl, ?_⟩
  cases rest with
  | nil => exact isUsable_zero_iff.mpr (h.certifies s rfl)
  | cons t rest =>
      exact (isUsable_iff (by simp)).mpr ⟨h.covered s (by simp), fun hmode => (h.deep hmode).head⟩

theorem tail (h : Serves r subject start (s :: rest) stop) :
    Serves r subject s.target.fingerprint rest stop := by
  refine ⟨fun t ht => h.known t (List.mem_cons_of_mem _ ht), h.connected.2, fun t ht => ?_,
    fun hmode => (h.deep hmode).tail, fun t ht => ?_⟩
  · cases rest with
    | nil => cases ht
    | cons u rest => exact h.covered t (List.mem_cons_of_mem _ ht)
  · cases rest with
    | nil => cases ht
    | cons u rest => exact h.certifies t (by simpa [List.getLast?_cons_cons] using ht)

end Serves

/-- The best usable signature for each of the hops from a certificate. -/
inductive Chooses (r : Residual) (subject : Subject) :
    Fingerprint → List Fingerprint → List Signature → Prop where
  | nil (start : Fingerprint) : Chooses r subject start [] []
  | cons {start target : Fingerprint} {fs : List Fingerprint} {s : Signature} {ss : List Signature}
      (hbest : bestSignature? r subject fs.length start target = .ok (some s))
      (hrest : Chooses r subject target fs ss) : Chooses r subject start (target :: fs) (s :: ss)

namespace Chooses

theorem targets (hkeys : r.network.WellKeyed) (h : Chooses r subject start fs ss) :
    ss.map (·.target.fingerprint) = fs := by
  induction h with
  | nil => rfl
  | cons hbest _ ih => rw [List.map_cons, ih, (usable_of_bestSignature? hkeys hbest).target]

/-- What is chosen serves the hops. -/
theorem serves (hkeys : r.network.WellKeyed) (h : Chooses r subject start fs ss) :
    Serves r subject start ss (fs.getLast?.getD start) := by
  induction h with
  | nil start => exact ⟨by simp, rfl, by simp, fun _ => by simp [LeavesRoom], by simp⟩
  | @cons start target fs s ss hbest hrest ih =>
      have husable := usable_of_bestSignature? hkeys hbest
      have hlength : fs.length = ss.length := by rw [← hrest.targets hkeys, List.length_map]
      have hstop : (target :: fs).getLast?.getD start = fs.getLast?.getD target := by
        cases fs <;> simp [List.getLast?_cons]
      rw [hlength] at husable
      rw [hstop]
      obtain rfl := husable.target
      exact ih.cons husable

end Chooses

/-- Signatures between the same certificates as others, each with no less left. -/
structure Replaces (r : Residual) (front front' : List Signature) : Prop where
  endpoints : front.map (·.endpoints) = front'.map (·.endpoints)
  left : ∀ t ∈ front', ∃ s ∈ front, s.endpoints = t.endpoints ∧ r.left s ≤ r.left t

theorem Replaces.cons {front front' : List Signature} (h : Replaces r front front')
    (hends : s.endpoints = t.endpoints) (hleft : r.left s ≤ r.left t) :
    Replaces r (s :: front) (t :: front') := by
  constructor
  · rw [List.map_cons, List.map_cons, hends, h.endpoints]
  · intro u hu
    rcases List.mem_cons.mp hu with rfl | hu
    · exact ⟨s, List.mem_cons_self, hends, hleft⟩
    · obtain ⟨v, hv, hsame⟩ := h.left u hu
      exact ⟨v, List.mem_cons_of_mem _ hv, hsame⟩

/-- Wherever some signatures serve the hops, some are chosen, and these may replace them. -/
theorem Serves.exists_chooses (hkeys : r.network.WellKeyed) (hcomparable : r.network.Comparable)
    (hcovers : ∀ s ∈ r.network.signatures, ∃ found, s.scope.covers subject = .ok found)
    (hplaces : r.network.edges.keys.Nodup) {front : List Signature}
    (h : Serves r subject start (front ++ [last]) stop) :
    ∃ front' last', Chooses r subject start ((front ++ [last]).map (·.target.fingerprint))
        (front' ++ [last']) ∧
      Replaces r front front' ∧ last.endpoints = last'.endpoints ∧ r.left last ≤ r.left last' := by
  induction front generalizing start with
  | nil =>
      obtain ⟨t, hbest, hleft⟩ := exists_best_of_usable hkeys hcomparable hcovers hplaces h.head
      have husable := usable_of_bestSignature? hkeys hbest
      exact ⟨[], t, .cons hbest (.nil _), ⟨rfl, by simp⟩, h.head.endpoints_eq husable, hleft⟩
  | cons s rest ih =>
      obtain ⟨t, hbest, hleft⟩ := exists_best_of_usable hkeys hcomparable hcovers hplaces h.head
      have husable := usable_of_bestSignature? hkeys hbest
      obtain ⟨rest', last', hchooses, hrest, hlast⟩ := ih h.tail
      refine ⟨t :: rest', last', .cons ?_ hchooses, ?_, hlast⟩
      · rw [List.length_map]
        exact hbest
      · exact hrest.cons (h.head.endpoints_eq husable) hleft

/-! ## The function -/

/-- A path is followed without an objection exactly if for each hop there is a usable signature and
the path accepts the best ones, one after the other. -/
theorem follow_eq_ok_nil_iff (hkeys : r.network.WellKeyed) :
    follow r subject p fs = .ok (reached, []) ↔
      ∃ ss, Chooses r subject p.target.fingerprint fs ss ∧ Path.Grows r.mode p ss reached := by
  induction fs generalizing p with
  | nil =>
      constructor
      · intro h
        obtain rfl : p = reached := by simpa [follow] using h
        exact ⟨[], .nil _, .nil p⟩
      · rintro ⟨ss, hchooses, hgrows⟩
        cases hchooses
        cases hgrows
        rfl
  | cons target fs ih =>
      have hnext : ∀ {s next}, bestSignature? r subject fs.length p.target.fingerprint target =
          .ok (some s) → p.append s r.mode = .ok next → next.target.fingerprint = target := by
        intro s next hbest happend
        rw [← (usable_of_bestSignature? hkeys hbest).target, Path.target,
          (Path.signatures_of_append happend).2]
        simp
      constructor
      · intro h
        simp only [follow] at h
        cases hbest : bestSignature? r subject fs.length p.target.fingerprint target with
        | error fault => simp [hbest] at h
        | ok s? =>
            cases s? with
            | none => simp [hbest] at h
            | some s =>
                cases happend : p.append s r.mode with
                | error fault => simp [hbest, happend] at h
                | ok next =>
                    simp only [hbest, happend] at h
                    obtain ⟨ss, hchooses, hgrows⟩ := ih.mp h
                    rw [hnext hbest happend] at hchooses
                    exact ⟨s :: ss, .cons hbest hchooses, .cons happend hgrows⟩
      · rintro ⟨ss, hchooses, hgrows⟩
        cases hchooses with
        | cons hbest hrest =>
            cases hgrows with
            | cons happend hgrows =>
                simp only [follow, hbest, happend]
                refine ih.mpr ⟨_, ?_, hgrows⟩
                rw [hnext hbest happend]
                exact hrest

theorem exists_follow (hkeys : r.network.WellKeyed) (hcomparable : r.network.Comparable)
    (hcovers : ∀ s ∈ r.network.signatures, ∃ found, s.scope.covers subject = .ok found)
    (p : Path) (fs : List Fingerprint) : ∃ outcome, follow r subject p fs = .ok outcome := by
  induction fs generalizing p with
  | nil => exact ⟨_, rfl⟩
  | cons target fs ih =>
      obtain ⟨s?, hbest⟩ :=
        exists_bestSignature? hkeys hcomparable hcovers fs.length p.target.fingerprint target
      cases s? with
      | none =>
          simp only [follow, hbest]
          exact ⟨_, rfl⟩
      | some s =>
          cases happend : p.append s r.mode with
          | error fault =>
              simp only [follow, hbest, happend]
              exact ⟨_, rfl⟩
          | ok next =>
              simp only [follow, hbest, happend]
              exact ih next

/-! ### A path of one certificate -/

/-- A certificate is followed to itself if it carries the subject; else the path stays empty. -/
theorem followSelf_cases {q : Path} {objections : List Objection}
    (h : followSelf r subject p = .ok (q, objections)) :
    (r.selfSignature? p.root.fingerprint subject = none ∧ q = p ∧
        objections = [.notCarried p.root.fingerprint subject]) ∨
      ∃ s, r.selfSignature? p.root.fingerprint subject = some s ∧ p.append s r.mode = .ok q ∧
        objections = [] := by
  unfold followSelf at h
  cases hlookup : Residual.subjectRevocation? p.root subject with
  | error fault => simp [hlookup] at h
  | ok _ =>
      cases hown : r.selfSignature? p.root.fingerprint subject with
      | none =>
          simp only [hlookup, hown, Except.ok.injEq, Prod.mk.injEq] at h
          exact .inl ⟨rfl, h.1.symm, h.2.symm⟩
      | some s =>
          simp only [hlookup, hown, map_eq_ok_iff, Prod.mk.injEq] at h
          obtain ⟨next, happend, rfl, rfl⟩ := h
          exact .inr ⟨s, rfl, happend, rfl⟩

/-- A certificate accepts its own certification as a first signature. -/
theorem exists_followSelf (hkeys : r.network.WellKeyed) (userId : String) (n : Node) :
    ∃ outcome, followSelf r (.userId userId) { root := n } = .ok outcome := by
  simp only [followSelf, Residual.subjectRevocation?]
  cases hown : r.selfSignature? n.fingerprint (.userId userId) with
  | none => exact ⟨_, rfl⟩
  | some s =>
      have howns := Residual.isOwn_of_selfSignature? hkeys hown
      have hcycle : Path.closesCycle { root := n } s = false :=
        Path.closesCycle_of_certification howns.target howns.certifies (by simp)
          (by simp [Path.visited_eq])
      obtain ⟨d, happend, -⟩ := Path.append_ok r.mode (p := { root := n }) howns.issuer
        (fun _ => rfl) hcycle
      simp only [happend]
      exact ⟨_, rfl⟩

end PathCheck

end TrustWeb
