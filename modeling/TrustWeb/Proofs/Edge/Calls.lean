import Mathlib
import TrustWeb.Proofs.Network.Sharing

/-! # Calls on an edge

Signatures come to an edge one by one, or all those of another edge at once. Whatever comes, and in
whatever order, the edge holds over each datum the newest of the signatures that connect its
certificates, in the order in which they came. -/

namespace TrustWeb

/-! ## The newest signatures, in order -/

/-- One more element at the end stays if it is not related to one that stays before it. -/
theorem eraseDupsBy_concat {α : Type} (r : α → α → Bool) (as : List α) (a : α) :
    (as ++ [a]).eraseDupsBy r =
      if (as.eraseDupsBy r).any (r a) then as.eraseDupsBy r else as.eraseDupsBy r ++ [a] := by
  have hloop : ∀ as bs : List α, List.eraseDupsBy.loop r (as ++ [a]) bs =
      if (List.eraseDupsBy.loop r as bs).any (r a) then List.eraseDupsBy.loop r as bs
      else List.eraseDupsBy.loop r as bs ++ [a] := by
    intro as
    induction as with
    | nil =>
        intro bs
        simp only [List.nil_append, List.eraseDupsBy.loop, List.any_reverse]
        cases bs.any (r a) <;> simp
    | cons b rest ih =>
        intro bs
        cases hb : bs.any (r b) with
        | true => simpa only [List.cons_append, List.eraseDupsBy.loop, hb] using ih bs
        | false => simpa only [List.cons_append, List.eraseDupsBy.loop, hb] using ih (b :: bs)
  exact hloop as []

namespace Signature

/-- The signatures of the latest second. -/
def latest (ss : List Signature) : List Signature :=
  ss.filter fun s => decide (∀ t ∈ ss, t.created.seconds ≤ s.created.seconds)

/-- The signatures of the latest second in order, and of those that are the same the first one. -/
def newestOf (ss : List Signature) : List Signature := (latest ss).eraseDupsBy same

variable {ss : List Signature} {s t : Signature}

theorem same_comm (a b : Signature) : a.same b = b.same a :=
  Bool.eq_iff_iff.mpr (by rw [same_iff, same_iff, eq_comm])

theorem latest_concat_of_later (h : ∀ t ∈ ss, t.created.seconds < s.created.seconds) :
    latest (ss ++ [s]) = [s] := by
  have hss : ss.filter (fun t => decide (∀ u ∈ ss ++ [s],
      u.created.seconds ≤ t.created.seconds)) = [] := by
    rw [List.filter_eq_nil_iff]
    intro t ht hlatest
    exact absurd (of_decide_eq_true hlatest s (by simp)) (not_le.mpr (h t ht))
  have hs : ∀ t ∈ ss ++ [s], t.created.seconds ≤ s.created.seconds := by
    rw [List.forall_mem_append, List.forall_mem_singleton]
    exact ⟨fun t ht => (h t ht).le, le_rfl⟩
  rw [latest, List.filter_append, hss, List.filter_singleton, decide_eq_true hs]
  rfl

theorem latest_concat_of_not_later (ht : t ∈ ss)
    (h : s.created.seconds ≤ t.created.seconds) :
    latest (ss ++ [s]) = latest ss ++
      if ∀ u ∈ ss ++ [s], u.created.seconds ≤ s.created.seconds then [s] else [] := by
  have hss : ss.filter (fun u => decide (∀ v ∈ ss ++ [s],
      v.created.seconds ≤ u.created.seconds)) = latest ss := by
    refine List.filter_congr fun u _ => decide_eq_decide.mpr ?_
    rw [List.forall_mem_append, List.forall_mem_singleton, and_iff_left_iff_imp]
    exact fun hu => h.trans (hu t ht)
  rw [latest, List.filter_append, hss, List.filter_singleton, Bool.cond_decide]

end Signature

namespace Edge

variable {e other : Edge} {s : Signature} {ss ts : List Signature}

/-- One more signature over a datum. -/
theorem newest_newestOf (h : Latest ss (Signature.newestOf ss)) (s : Signature) :
    newest (Signature.newestOf ss) s = Signature.newestOf (ss ++ [s]) := by
  cases hbucket : Signature.newestOf ss with
  | nil =>
      rw [h.empty hbucket]
      simp [newest, Signature.newestOf, Signature.latest, List.eraseDupsBy_cons]
  | cons first rest =>
      -- The first one that is kept is one of the latest that came.
      obtain ⟨hfirst, hmax⟩ := h.newest first (by simp [hbucket])
      rw [Signature.newestOf] at hbucket ⊢
      rcases lt_trichotomy s.created.seconds first.created.seconds with hs | hs | hs
      · have hnot : ¬∀ u ∈ ss ++ [s], u.created.seconds ≤ s.created.seconds := fun hall =>
          not_le.mpr hs (hall first (List.mem_append_left _ hfirst))
        rw [Signature.latest_concat_of_not_later hfirst hs.le, if_neg hnot, List.append_nil,
          hbucket]
        simp [newest, not_lt.mpr hs.le, hs.ne]
      · have hall : ∀ u ∈ ss ++ [s], u.created.seconds ≤ s.created.seconds := by
          rw [List.forall_mem_append, List.forall_mem_singleton, hs]
          exact ⟨hmax, le_rfl⟩
        have hsame : s.same = (·.same s) := funext (Signature.same_comm s)
        rw [Signature.latest_concat_of_not_later hfirst hs.le, if_pos hall, eraseDupsBy_concat,
          hbucket, hsame]
        cases h : (first :: rest).any (·.same s) <;> simp [newest, hs, h, -List.any_cons]
      · rw [Signature.latest_concat_of_later fun t ht => (hmax t ht).trans_lt hs]
        simp [newest, hs, List.eraseDupsBy_cons]

/-- Signatures that come to a bucket one after the other leave the newest of them in it. -/
theorem foldl_newest_eq (ss : List Signature) : ss.foldl newest [] = Signature.newestOf ss := by
  induction ss using List.reverseRecOn with
  | nil => rfl
  | append_singleton front s ih =>
      have hlatest := Latest.nil.foldl front
      rw [List.nil_append, ih] at hlatest
      rw [List.foldl_concat, ih, newest_newestOf hlatest]

theorem newest_ne_nil (bucket : List Signature) (s : Signature) : newest bucket s ≠ [] := by
  unfold newest
  split
  · simp
  · split
    · simp
    · split <;> simp

/-- A bucket that is made receives a signature at once. -/
theorem certifications_insert_ne_nil (h : ∀ entry ∈ e.certifications, entry.2 ≠ [])
    (s : Signature) : ∀ entry ∈ (e.insert s).certifications, entry.2 ≠ [] := by
  unfold insert
  cases s.userId with
  | none => exact h
  | some userId =>
      intro entry hentry
      rcases Table.mem_put hentry with rfl | hentry
      · exact newest_ne_nil _ s
      · exact h entry hentry

/-! ## Signatures that fit -/

/-- The signature connects the certificates of the edge. -/
def Fits (e : Edge) (s : Signature) : Prop := s.endpoints = e.ends

instance (e : Edge) : DecidablePred e.Fits := fun _ => inferInstanceAs (Decidable (_ = _))

theorem foldl_insert_ends (e : Edge) (ss : List Signature) :
    (ss.foldl insert e).issuer = e.issuer ∧ (ss.foldl insert e).target = e.target := by
  induction ss generalizing e with
  | nil => exact ⟨rfl, rfl⟩
  | cons s rest ih =>
      rw [← insert_issuer e s, ← insert_target e s]
      exact ih (e.insert s)

theorem fits_foldl_insert (e : Edge) (ss : List Signature) :
    (ss.foldl insert e).Fits s ↔ e.Fits s := by
  rw [Fits, Fits, ends, ends, (foldl_insert_ends e ss).1, (foldl_insert_ends e ss).2]

theorem addAll_of_fits (h : ∀ s ∈ ss, e.Fits s) : e.addAll ss = (ss.foldl insert e, none) := by
  induction ss generalizing e with
  | nil => rfl
  | cons s rest ih =>
      obtain ⟨hs, hrest⟩ := List.forall_mem_cons.mp h
      rw [addAll, (add_eq_ok_iff e _ s).mpr ⟨hs, rfl⟩]
      exact ih fun t ht => (fits_foldl_insert e [s]).mpr (hrest t ht)

theorem addAll_cons_of_not_fits (h : ¬e.Fits s) (rest : List Signature) :
    ∃ fault, e.add s = .error fault ∧ e.addAll (s :: rest) = (e, some fault) := by
  rw [addAll]
  cases hadd : e.add s with
  | ok e' => exact absurd ((add_eq_ok_iff e e' s).mp hadd).1 h
  | error fault => exact ⟨fault, rfl, rfl⟩

/-- Of signatures that connect the same certificates, an edge takes all or none. -/
theorem addAll_cases (h : ∀ s ∈ ss, ∀ t ∈ ss, s.endpoints = t.endpoints) :
    ((∀ s ∈ ss, e.Fits s) ∧ e.addAll ss = (ss.foldl insert e, none)) ∨
      ((∀ s ∈ ss, ¬e.Fits s) ∧ ∃ s ∈ ss, ∃ fault,
        e.add s = .error fault ∧ e.addAll ss = (e, some fault)) := by
  cases ss with
  | nil => exact .inl ⟨by simp, rfl⟩
  | cons first rest =>
      by_cases hfirst : e.Fits first
      · have hfits : ∀ s ∈ first :: rest, e.Fits s := fun s hs =>
          (h s hs first List.mem_cons_self).trans hfirst
        exact .inl ⟨hfits, addAll_of_fits hfits⟩
      · have hnone : ∀ s ∈ first :: rest, ¬e.Fits s := fun s hs hfits =>
          hfirst ((h first List.mem_cons_self s hs).trans hfits)
        exact .inr ⟨hnone, first, List.mem_cons_self, addAll_cons_of_not_fits hfirst rest⟩

/-! ## What came to an edge -/

/-- The signatures came to the edge one after the other, and each of them fits. -/
structure Gathered (e : Edge) (ss : List Signature) : Prop where
  fits : ∀ s ∈ ss, e.Fits s
  inserted : ss.foldl insert ⟨e.issuer, e.target, [], []⟩ = e

theorem gathered_blank (issuer target : Node) : Gathered ⟨issuer, target, [], []⟩ [] :=
  ⟨by simp, rfl⟩

namespace Gathered

theorem foldl_insert (h : e.Gathered ss) (hts : ∀ t ∈ ts, e.Fits t) :
    (ts.foldl insert e).Gathered (ss ++ ts) := by
  obtain ⟨hissuer, htarget⟩ := foldl_insert_ends e ts
  refine ⟨fun s hs => (fits_foldl_insert e ts).mpr ?_, ?_⟩
  · rcases List.mem_append.mp hs with hs | hs
    · exact h.fits s hs
    · exact hts s hs
  · rw [hissuer, htarget, List.foldl_append, h.inserted]

theorem bucket_eq (h : e.Gathered ss) (datum : Option String) :
    e.bucket datum =
      (ss.filter fun s => decide (s.userId = datum)).foldl newest [] := by
  have hblank : bucket ⟨e.issuer, e.target, [], []⟩ datum = [] := by cases datum <;> rfl
  rw [← hblank, ← bucket_foldl_insert, h.inserted]

theorem latest (h : e.Gathered ss) (datum : Option String) :
    Latest (ss.filter fun s => decide (s.userId = datum)) (e.bucket datum) := by
  rw [h.bucket_eq]
  exact Latest.nil.foldl _

theorem current (h : e.Gathered ss) : e.Current := fun datum => ⟨_, h.latest datum⟩

/-- What holds of an edge without signatures, and of an edge with one more signature. -/
theorem induct {motive : Edge → Prop} (h : e.Gathered ss)
    (hblank : motive ⟨e.issuer, e.target, [], []⟩)
    (hinsert : ∀ e s, motive e → motive (e.insert s)) : motive e := by
  rw [← h.inserted]
  exact List.foldlRecOn ss insert hblank fun e he s _ => hinsert e s he

theorem filed (h : e.Gathered ss) : e.Filed :=
  h.induct ⟨by simp, by simp, by simp [Table.keys]⟩ fun _ s he => he.insert s

theorem certifications_ne_nil (h : e.Gathered ss) : ∀ entry ∈ e.certifications, entry.2 ≠ [] :=
  h.induct (motive := fun e => ∀ entry ∈ e.certifications, entry.2 ≠ []) (by simp)
    fun _ s he => certifications_insert_ne_nil he s

theorem mem_of_mem_signatures (h : e.Gathered ss) (hs : s ∈ e.signatures) : s ∈ ss := by
  have hbucket := h.filed.mem_signatures.mp hs
  exact List.mem_of_mem_filter ((h.latest s.userId).newest s hbucket).1

/-- Signatures that came before change nothing. -/
theorem foldl_insert_eq (h : e.Gathered ss) (hts : ts ⊆ ss) : ts.foldl insert e = e := by
  refine (h.current.foldl_insert_eq_iff ts).mpr fun s hs => (h.latest s.userId).superseded ?_
  exact List.mem_filter.mpr ⟨hts hs, by simp⟩

end Gathered

/-! ## Calls -/

/-- The edges that come about from ones without signatures by adding and joining. -/
inductive Built : Edge → Prop where
  | blank (issuer target : Node) : Built ⟨issuer, target, [], []⟩
  | add (e e' : Edge) (s : Signature) (h : Built e) (hs : e.add s = .ok e') : Built e'
  | join (e other : Edge) (h : Built e) (h' : Built other) : Built (e.join other).1

/-- A call on an edge: another edge that is joined came about in the same way. -/
inductive Call where
  | add (s : Signature)
  | join (other : Edge) (built : other.Built)
  | joinSelf

/-- The signatures that a call passes to the edge; those of the edge itself are there already. -/
def Call.passed : Call → List Signature
  | .add s => [s]
  | .join other _ => other.signatures
  | .joinSelf => []

/-- The edge after a call, and its fault. -/
def perform (e : Edge) : Call → Edge × Option Fault
  | .add s =>
    match e.add s with
    | .ok e' => (e', none)
    | .error fault => (e, some fault)
  | .join other _ => e.join other
  | .joinSelf => e.join e

/-- The edge between two certificates after calls, whether they succeed or not. -/
def after (issuer target : Node) (calls : List Call) : Edge :=
  calls.foldl (fun e call => (e.perform call).1) ⟨issuer, target, [], []⟩

/-- The signatures between two certificates that calls pass, in order of arrival. -/
def arrived (issuer target : Node) (calls : List Call) : List Signature :=
  (calls.flatMap Call.passed).filter fun s =>
    decide (s.endpoints = (issuer.fingerprint, target.fingerprint))

theorem Gathered.join_self (h : e.Gathered ss) : e.join e = (e, none) := by
  have hsub : e.signatures ⊆ ss := fun _ hs => h.mem_of_mem_signatures hs
  rw [join, addAll_of_fits fun s hs => h.fits s (hsub hs), h.foldl_insert_eq hsub]

theorem Gathered.signatures_endpoints (h : e.Gathered ss) :
    ∀ s ∈ e.signatures, ∀ t ∈ e.signatures, s.endpoints = t.endpoints := fun s hs t ht =>
  (h.fits s (h.mem_of_mem_signatures hs)).trans (h.fits t (h.mem_of_mem_signatures ht)).symm

theorem Built.exists_gathered (h : e.Built) : ∃ ss, e.Gathered ss := by
  induction h with
  | blank issuer target => exact ⟨[], gathered_blank issuer target⟩
  | add e e' s _ hs ih =>
      obtain ⟨ss, hss⟩ := ih
      obtain ⟨hfits, rfl⟩ := (add_eq_ok_iff _ _ s).mp hs
      exact ⟨ss ++ [s], hss.foldl_insert (List.forall_mem_singleton.mpr hfits)⟩
  | join e other _ _ ih ih' =>
      obtain ⟨ss, hss⟩ := ih
      obtain ⟨ts, hts⟩ := ih'
      rcases addAll_cases (e := e) hts.signatures_endpoints with ⟨hfits, heq⟩ | ⟨-, _, -, _, -, heq⟩
      · rw [Edge.join, heq]
        exact ⟨ss ++ other.signatures, hss.foldl_insert hfits⟩
      · rw [Edge.join, heq]
        exact ⟨ss, hss⟩

/-- A call passes signatures between the same certificates. -/
theorem Call.endpoints_eq (call : Call) :
    ∀ s ∈ call.passed, ∀ t ∈ call.passed, s.endpoints = t.endpoints := by
  cases call with
  | add s => simp [passed]
  | join other built =>
      obtain ⟨ss, hss⟩ := built.exists_gathered
      exact hss.signatures_endpoints
  | joinSelf => simp [passed]

/-- What one call does: the edge takes all that is passed, or the call fails and changes nothing. -/
theorem Gathered.perform_cases (h : e.Gathered ss) (call : Call) :
    ((∀ s ∈ call.passed, e.Fits s) ∧ e.perform call = (call.passed.foldl insert e, none)) ∨
      ((∀ s ∈ call.passed, ¬e.Fits s) ∧ ∃ s ∈ call.passed, ∃ fault,
        e.add s = .error fault ∧ e.perform call = (e, some fault)) := by
  have hcases := addAll_cases (e := e) call.endpoints_eq
  cases call with
  | add s =>
      have hadd : e.perform (.add s) = e.addAll [s] := by
        rw [perform, addAll]
        cases e.add s <;> rfl
      rwa [hadd]
  | join other built => exact hcases
  | joinSelf => exact .inl ⟨by simp [Call.passed], h.join_self⟩

theorem Gathered.exists_fault_iff (h : e.Gathered ss) (call : Call) :
    (∃ fault, (e.perform call).2 = some fault) ↔ ∃ s ∈ call.passed, ¬e.Fits s := by
  rcases h.perform_cases call with ⟨hall, heq⟩ | ⟨hnone, s, hs, fault, -, heq⟩
  · simpa [heq] using hall
  · exact iff_of_true ⟨fault, by rw [heq]⟩ ⟨s, hs, hnone s hs⟩

/-- A call that fails changes nothing, and its fault is that of a signature that does not fit. -/
theorem Gathered.eq_of_fault (h : e.Gathered ss) {call : Call} {fault : Fault} {e' : Edge}
    (hcall : e.perform call = (e', some fault)) :
    e' = e ∧ ∃ s ∈ call.passed, e.add s = .error fault := by
  rcases h.perform_cases call with ⟨-, heq⟩ | ⟨-, s, hs, fault', hadd, heq⟩
  · rw [heq] at hcall
    cases hcall
  · rw [heq] at hcall
    cases hcall
    exact ⟨rfl, s, hs, hadd⟩

/-- A call changes nothing if all that fits of what it passes came before. -/
theorem Gathered.perform_again (h : e.Gathered ss) {call : Call}
    (hpassed : ∀ s ∈ call.passed, e.Fits s → s ∈ ss) : (e.perform call).1 = e := by
  rcases h.perform_cases call with ⟨hall, heq⟩ | ⟨-, _, -, _, -, heq⟩
  · rw [heq]
    exact h.foldl_insert_eq fun s hs => hpassed s hs (hall s hs)
  · rw [heq]

/-- What calls in a row do: the edge takes what fits of all that they pass. -/
theorem gathered_after (issuer target : Node) (calls : List Call) :
    (after issuer target calls).issuer = issuer ∧ (after issuer target calls).target = target ∧
      (after issuer target calls).Gathered (arrived issuer target calls) := by
  induction calls using List.reverseRecOn with
  | nil => exact ⟨rfl, rfl, gathered_blank issuer target⟩
  | append_singleton front call ih =>
      obtain ⟨hissuer, htarget, hgathered⟩ := ih
      have harrived : arrived issuer target (front ++ [call]) = arrived issuer target front ++
          call.passed.filter fun s => decide ((after issuer target front).Fits s) := by
        simp [arrived, Fits, ends, hissuer, htarget]
      have hafter : after issuer target (front ++ [call]) =
          ((after issuer target front).perform call).1 := by
        simp [after]
      rw [hafter, harrived]
      rcases hgathered.perform_cases call with ⟨hfits, heq⟩ | ⟨hnone, _, -, _, -, heq⟩
      · obtain ⟨hissuer', htarget'⟩ := foldl_insert_ends (after issuer target front) call.passed
        rw [heq, List.filter_eq_self.mpr fun s hs => decide_eq_true (hfits s hs)]
        exact ⟨hissuer'.trans hissuer, htarget'.trans htarget, hgathered.foldl_insert hfits⟩
      · rw [heq, List.filter_eq_nil_iff.mpr fun s hs => by simpa using hnone s hs,
          List.append_nil]
        exact ⟨hissuer, htarget, hgathered⟩

/-- Whatever calls are made on an edge, and whichever of them fail: over each datum the edge holds
the newest of the signatures between its certificates that were passed, in order of arrival and
without duplicates; it has no empty bucket; a call fails exactly if something is passed that does
not connect its certificates, and changes nothing then. So the order of the calls changes at most
the order within a bucket, and an edge that was joined, or the edge itself, can be joined again
without a change. -/
theorem after_holds_newest (issuer target : Node) (calls : List Call) :
    (after issuer target calls).issuer = issuer ∧ (after issuer target calls).target = target ∧
      (∀ datum, (after issuer target calls).bucket datum = Signature.newestOf
        ((arrived issuer target calls).filter fun s => decide (s.userId = datum))) ∧
      (after issuer target calls).certifications.keys.Nodup ∧
      (∀ entry ∈ (after issuer target calls).certifications, entry.2 ≠ []) ∧
      (∀ call, (∃ fault, ((after issuer target calls).perform call).2 = some fault) ↔
        ∃ s ∈ call.passed, s.endpoints ≠ (issuer.fingerprint, target.fingerprint)) ∧
      (∀ call fault e, (after issuer target calls).perform call = (e, some fault) →
        e = after issuer target calls ∧
          ∃ s ∈ call.passed, (after issuer target calls).add s = .error fault) ∧
      (∀ calls' datum, calls.Perm calls' →
        (((after issuer target calls).bucket datum).map Signature.core).Perm
          (((after issuer target calls').bucket datum).map Signature.core)) ∧
      (∀ other built, .join other built ∈ calls →
        ((after issuer target calls).perform (.join other built)).1 = after issuer target calls) ∧
      (after issuer target calls).perform .joinSelf = (after issuer target calls, none) := by
  obtain ⟨hissuer, htarget, hgathered⟩ := gathered_after issuer target calls
  have hfits : ∀ s, (after issuer target calls).Fits s ↔
      s.endpoints = (issuer.fingerprint, target.fingerprint) := fun s => by
    rw [Fits, ends, hissuer, htarget]
  refine ⟨hissuer, htarget, fun datum => ?_, hgathered.filed.keys, hgathered.certifications_ne_nil,
    fun call => ?_, fun call fault e => hgathered.eq_of_fault, fun calls' datum hperm => ?_,
    fun other built hother => ?_, hgathered.join_self⟩
  · rw [hgathered.bucket_eq, foldl_newest_eq]
  · simp only [hgathered.exists_fault_iff, hfits, ne_eq]
  · obtain ⟨-, -, hgathered'⟩ := gathered_after issuer target calls'
    exact (hgathered.latest datum).perm (hgathered'.latest datum)
      (((hperm.flatMap_right _).filter _).filter _)
  · refine hgathered.perform_again fun s hs hfit => List.mem_filter.mpr ⟨?_, ?_⟩
    · exact List.mem_flatMap.mpr ⟨_, hother, hs⟩
    · exact decide_eq_true ((hfits s).mp hfit)

end Edge

end TrustWeb
