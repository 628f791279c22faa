import TrustWeb.Proofs.PathCheck.Following

/-! # The outcome of a path check

A check finds nothing to object to exactly if all certificates are known, the binding may be
authenticated, and the path takes the best usable signature for each hop or, from the root to itself,
the certification of the root by itself. -/

namespace TrustWeb

theorem Path.leastAmount_le {s : Signature} {ss : List Signature} (hs : s ∈ ss) :
    leastAmount ss ≤ s.trust := by
  cases ss with
  | nil => cases hs
  | cons t rest => exact le_leastAmount_cons_iff.mp (Int.le_refl _) s hs

namespace Web

variable {w : Web} {root : Fingerprint} {others : List Fingerprint} {userId : String}
  {c : PathCheck} {p : Path}

/-- The network as a path check looks at it: nothing is capped and nothing is taken. -/
def fresh (w : Web) : Residual := { network := w.network, mode := w.mode }

@[simp] theorem mode_fresh (w : Web) : w.fresh.mode = w.mode := rfl

theorem left_fresh (w : Web) (s : Signature) : w.fresh.left s = min s.trust fullTrust := by
  have hcapped : w.fresh.cappedAmount s = min s.trust fullTrust := rfl
  have htaken : w.fresh.takenFrom s.endpoints = 0 := rfl
  have htrust : 0 ≤ s.trust := Int.natCast_nonneg _
  rw [Residual.left, hcapped, htaken, fullTrust]
  omega

/-- The signatures of a path over the given certificates: the best usable one for each hop, or the
certification of the root by itself. -/
inductive Picks (w : Web) (root : Fingerprint) (userId : String) :
    List Fingerprint → List Signature → Prop where
  | own {s : Signature} (h : w.fresh.selfSignature? root (.userId userId) = some s) :
      Picks w root userId [] [s]
  | hops {others : List Fingerprint} {ss : List Signature} (hne : others ≠ [])
      (h : PathCheck.Chooses w.fresh (.userId userId) root others ss) :
      Picks w root userId others ss

theorem Picks.chooses {ss : List Signature} (h : w.Picks root userId others ss)
    (hne : others ≠ []) : PathCheck.Chooses w.fresh (.userId userId) root others ss := by
  cases h with
  | own _ => exact (hne rfl).elim
  | hops _ hchooses => exact hchooses

/-- A path over the given certificates that nothing speaks against. -/
structure Leads (w : Web) (root : Fingerprint) (others : List Fingerprint) (userId : String)
    (p : Path) : Prop where
  known : ∀ f ∈ root :: others, ∃ n, w.network.node? f = some n
  valid : ∃ n, w.fresh.Valid (others.getLast?.getD root) userId n
  picked : ∃ n ss, w.network.node? root = some n ∧ w.Picks root userId others ss ∧
    Path.Grows w.mode { root := n } ss p

/-! ## The function -/

/-- How a check follows a path from its root. -/
def followed (w : Web) (others : List Fingerprint) (subject : Subject) (n : Node) :
    Except Fault (Path × List Objection) :=
  if others.isEmpty then PathCheck.followSelf w.fresh subject { root := n }
  else PathCheck.follow w.fresh subject { root := n } others

theorem followed_eq_ok_nil_iff (hkeys : w.network.WellKeyed) {n : Node}
    (hroot : w.network.node? root = some n) :
    w.followed others (.userId userId) n = .ok (p, []) ↔
      ∃ ss, w.Picks root userId others ss ∧ Path.Grows w.mode { root := n } ss p := by
  have hf : n.fingerprint = root := hkeys.fingerprint_of_node? hroot
  cases others with
  | nil =>
      simp only [followed, List.isEmpty_nil, if_true]
      constructor
      · intro h
        rcases PathCheck.followSelf_cases h with ⟨-, -, hobjections⟩ | ⟨s, hown, happend, -⟩
        · cases hobjections
        · rw [hf] at hown
          exact ⟨[s], .own hown, .cons happend (.nil p)⟩
      · rintro ⟨ss, hpicks, hgrows⟩
        cases hpicks with
        | hops hne _ => exact (hne rfl).elim
        | own hown =>
            cases hgrows with
            | cons happend hgrows =>
                cases hgrows
                simp [PathCheck.followSelf, Residual.subjectRevocation?, hf, hown, happend,
                  Except.map]
  | cons f fs =>
      simp only [followed, List.isEmpty_cons, Bool.false_eq_true, if_false]
      rw [PathCheck.follow_eq_ok_nil_iff hkeys]
      have htarget : Path.target { root := n } = n := rfl
      rw [htarget, hf]
      constructor
      · rintro ⟨ss, hchooses, hgrows⟩
        exact ⟨ss, .hops (by simp) hchooses, hgrows⟩
      · rintro ⟨ss, hpicks, hgrows⟩
        exact ⟨ss, hpicks.chooses (by simp), hgrows⟩

theorem known_or_unknown (w : Web) (fs : List Fingerprint) :
    (∀ f ∈ fs, ∃ n, w.network.node? f = some n) ∨ ∃ f ∈ fs, w.network.node? f = none := by
  rw [or_iff_not_imp_right]
  intro hnot f hf
  rw [← Option.ne_none_iff_exists']
  exact fun hnone => hnot ⟨f, hf, hnone⟩

theorem unknown_eq_nil_iff :
    (root :: others).filter (fun f => (w.network.node? f).isNone) = [] ↔
      ∀ f ∈ root :: others, ∃ n, w.network.node? f = some n := by
  simp only [List.filter_eq_nil_iff, Option.isNone_iff_eq_none, ← ne_eq, Option.ne_none_iff_exists']

theorem unknown_ne_nil {f : Fingerprint} (hf : f ∈ root :: others)
    (hnone : w.network.node? f = none) :
    (root :: others).filter (fun f => (w.network.node? f).isNone) ≠ [] := by
  rw [ne_eq, unknown_eq_nil_iff]
  intro hknown
  obtain ⟨n, hn⟩ := hknown f hf
  simp [hnone] at hn

/-- A check of certificates of which one is unknown names those that are. -/
theorem checkPath_names_unknown {f : Fingerprint} (hf : f ∈ root :: others)
    (hnone : w.network.node? f = none) (subject : Subject) :
    w.checkPath root others subject = .ok ⟨none, 0, w.wanted,
      ((root :: others).filter fun f => (w.network.node? f).isNone).map .unknown⟩ := by
  have hne := unknown_ne_nil hf hnone
  unfold checkPath
  cases w.network.node? root with
  | none => rfl
  | some n => exact if_pos (by simpa using hne)

/-- A check of certificates of which one is unknown. -/
theorem checkPath_of_unknown {f : Fingerprint} (hf : f ∈ root :: others)
    (hnone : w.network.node? f = none) (subject : Subject) :
    ∃ objections, objections ≠ [] ∧
      w.checkPath root others subject = .ok ⟨none, 0, w.wanted, objections⟩ := by
  refine ⟨_, ?_, checkPath_names_unknown hf hnone subject⟩
  rw [ne_eq, List.map_eq_nil_iff]
  exact unknown_ne_nil hf hnone

/-- A check of certificates that are known follows the path from the root. -/
theorem checkPath_of_known (hknown : ∀ f ∈ root :: others, ∃ n, w.network.node? f = some n)
    {n : Node} (hroot : w.network.node? root = some n) (subject : Subject) :
    w.checkPath root others subject =
      match w.fresh.validTarget? (others.getLast?.getD root) subject with
      | .error fault => .error fault
      | .ok valid =>
        let first := if valid.isNone then
          [Objection.invalidTarget (others.getLast?.getD root) subject] else []
        (w.followed others subject n).map fun (p, more) =>
          ⟨some p, if (first ++ more).isEmpty then w.amountFrom root p else 0, w.wanted,
            first ++ more⟩ := by
  have hempty := unknown_eq_nil_iff.mpr hknown
  unfold checkPath
  simp only [hroot, hempty, List.isEmpty_nil, Bool.not_true, Bool.false_eq_true, if_false]
  rfl

/-- A check of known certificates reports the path that it followed; but for what was found on the
way, it objects at most to the binding. -/
theorem exists_followed_of_checkPath
    (hknown : ∀ f ∈ root :: others, ∃ n, w.network.node? f = some n) {n : Node}
    (hroot : w.network.node? root = some n) {subject : Subject}
    (h : w.checkPath root others subject = .ok c) :
    ∃ p first more, w.followed others subject n = .ok (p, more) ∧
      (∀ o ∈ first, o = .invalidTarget (others.getLast?.getD root) subject) ∧
      c = ⟨some p, if (first ++ more).isEmpty then w.amountFrom root p else 0, w.wanted,
        first ++ more⟩ := by
  rw [checkPath_of_known hknown hroot] at h
  split at h
  · cases h
  · obtain ⟨⟨p, more⟩, hfollowed, rfl⟩ := map_eq_ok_iff.mp h
    refine ⟨p, _, more, hfollowed, fun o ho => ?_, rfl⟩
    split at ho
    · exact List.mem_singleton.mp ho
    · cases ho

/-- A check for a user ID answers if the scopes can be searched and creation times on the same edge
be compared. -/
theorem exists_checkPath (hkeys : w.network.WellKeyed) (hsearchable : w.network.Searchable)
    (hcomparable : w.network.Comparable) (root : Fingerprint) (others : List Fingerprint)
    (userId : String) : ∃ c, w.checkPath root others (.userId userId) = .ok c := by
  rcases w.known_or_unknown (root :: others) with hknown | ⟨f, hf, hnone⟩
  · obtain ⟨n, hroot⟩ := hknown root List.mem_cons_self
    have hfollowed : ∃ outcome, w.followed others (.userId userId) n = .ok outcome := by
      unfold followed
      split
      · exact PathCheck.exists_followSelf hkeys _ n
      · exact PathCheck.exists_follow hkeys hcomparable (fun s hs => hsearchable.covers hs userId)
          _ others
    obtain ⟨⟨p, more⟩, hfollowed⟩ := hfollowed
    rw [checkPath_of_known hknown hroot, hfollowed]
    rcases w.fresh.validTarget?_cases (others.getLast?.getD root) userId with
      ⟨m, hvalid, -⟩ | ⟨hvalid, -⟩
    · exact ⟨_, by rw [hvalid]; rfl⟩
    · exact ⟨_, by rw [hvalid]; rfl⟩
  · obtain ⟨objections, -, hcheck⟩ := checkPath_of_unknown hf hnone (.userId userId)
    exact ⟨_, hcheck⟩

/-- A check finds nothing to object to exactly if there is such a path, and that is what it
reports, with what the root passes on over it. -/
theorem checkPath_valid_iff (hkeys : w.network.WellKeyed) :
    w.checkPath root others (.userId userId) = .ok c ∧ c.isValid = true ↔
      ∃ p, w.Leads root others userId p ∧ c = ⟨some p, w.amountFrom root p, w.wanted, []⟩ := by
  constructor
  · rintro ⟨h, hvalid⟩
    have hnil : c.objections = [] := by simpa [PathCheck.isValid] using hvalid
    have hknown : ∀ f ∈ root :: others, ∃ n, w.network.node? f = some n := by
      rcases w.known_or_unknown (root :: others) with hknown | ⟨f, hf, hnone⟩
      · exact hknown
      · obtain ⟨objections, hne, hcheck⟩ := checkPath_of_unknown hf hnone (.userId userId)
        obtain rfl := Except.ok.inj (hcheck.symm.trans h)
        exact (hne hnil).elim
    obtain ⟨n, hroot⟩ := hknown root List.mem_cons_self
    rw [checkPath_of_known hknown hroot] at h
    cases hfollowed : w.followed others (.userId userId) n with
    | error fault =>
        rw [hfollowed] at h
        rcases w.fresh.validTarget?_cases (others.getLast?.getD root) userId with
          ⟨m, htarget, -⟩ | ⟨htarget, -⟩
        · simp [htarget, Except.map] at h
        · simp [htarget, Except.map] at h
    | ok outcome =>
        obtain ⟨p, more⟩ := outcome
        rw [hfollowed] at h
        rcases w.fresh.validTarget?_cases (others.getLast?.getD root) userId with
          ⟨m, htarget, hm⟩ | ⟨htarget, -⟩
        · simp only [htarget, Option.isNone_some, Bool.false_eq_true, if_false, List.nil_append,
            Except.map, Except.ok.injEq] at h
          subst h
          obtain rfl : more = [] := hnil
          obtain ⟨ss, hpicks, hgrows⟩ := (followed_eq_ok_nil_iff hkeys hroot).mp hfollowed
          exact ⟨p, ⟨hknown, ⟨m, hm⟩, n, ss, hroot, hpicks, hgrows⟩, rfl⟩
        · simp only [htarget, Option.isNone_none, if_true, Except.map, Except.ok.injEq] at h
          subst h
          cases hnil
  · rintro ⟨p, ⟨hknown, ⟨m, hm⟩, n, ss, hroot, hpicks, hgrows⟩, rfl⟩
    have hfollowed := (followed_eq_ok_nil_iff hkeys hroot).mpr ⟨ss, hpicks, hgrows⟩
    refine ⟨?_, rfl⟩
    rw [checkPath_of_known hknown hroot, hfollowed]
    rcases w.fresh.validTarget?_cases (others.getLast?.getD root) userId with
      ⟨m', htarget, -⟩ | ⟨-, hinvalid⟩
    · rw [htarget]
      rfl
    · exact (hinvalid m hm).elim

/-! ## The amount -/

/-- A path that something speaks against carries nothing. -/
theorem checkPath_amount {subject : Subject} (h : w.checkPath root others subject = .ok c)
    (hpath : c.path = some p) : c.amount = if c.isValid then w.amountFrom root p else 0 := by
  rcases w.known_or_unknown (root :: others) with hknown | ⟨f, hf, hnone⟩
  · obtain ⟨n, hroot⟩ := hknown root List.mem_cons_self
    obtain ⟨q, first, more, -, -, rfl⟩ := exists_followed_of_checkPath hknown hroot h
    obtain rfl : q = p := by simpa using hpath
    rfl
  · obtain ⟨objections, -, hcheck⟩ := checkPath_of_unknown hf hnone subject
    obtain rfl := Except.ok.inj (hcheck.symm.trans h)
    cases hpath

theorem amountFrom_le_trust {s : Signature} (hs : s ∈ p.signatures) :
    w.amountFrom root p ≤ s.trust := by
  have hle : p.amount ≤ s.trust := Path.leastAmount_le hs
  have hne : p.signatures.isEmpty = false := by
    cases hsignatures : p.signatures with
    | nil => simp [hsignatures] at hs
    | cons t rest => rfl
  unfold amountFrom
  simp only [hne, Bool.false_eq_true, if_false]
  split
  · omega
  · exact hle

theorem amountFrom_le_root {limit : Int} (hmode : w.mode = .authentication)
    (hroot : w.roots.amount? root = some limit) : w.amountFrom root p ≤ limit := by
  simp only [amountFrom, hmode, hroot]
  omega

theorem le_amountFrom {amount : Int} (hne : p.signatures ≠ [])
    (htrust : ∀ s ∈ p.signatures, amount ≤ s.trust) (hfull : amount ≤ fullTrust)
    (hroot : w.mode = .authentication → ∀ limit, w.roots.amount? root = some limit →
      amount ≤ limit) : amount ≤ w.amountFrom root p := by
  have hle : amount ≤ p.amount := Path.le_leastAmount htrust hfull
  unfold amountFrom
  simp only [List.isEmpty_iff, hne, if_false]
  split
  · next limit hmode hlimit => exact Int.le_min.mpr ⟨hle, hroot hmode limit hlimit⟩
  · exact hle

end Web

end TrustWeb
