import Mathlib
import TrustWeb.Proofs.Path.Calls
import TrustWeb.Proofs.Residual.Amounts

/-! # Taking an amount from the edges of a path

The edges of a path are gone through in order, and the amount is taken from one before the next one
is looked at. Whatever was taken before: if all edges have room, the amount is taken from each of
them and from no other. If one of them is full, the taking fails, and the amount stays taken from
the edges before the first full one; nothing has changed exactly if that is the first of all. -/

namespace TrustWeb

namespace Residual

variable {r r' : Residual} {amount : Int} {p : Path} {s : Signature}
  {ss front back : List Signature}

/-! ## One edge after the other -/

/-- The edge of a signature has room for an amount. -/
def HasRoom (r : Residual) (amount : Int) (s : Signature) : Prop :=
  r.takenFrom s.endpoints + amount ≤ fullTrust

instance (r : Residual) (amount : Int) (s : Signature) : Decidable (r.HasRoom amount s) :=
  inferInstanceAs (Decidable (_ ≤ _))

/-- The second residual is the first one after an amount was taken once from the edge of each of
some signatures. -/
structure Lessened (r : Residual) (amount : Int) (ss : List Signature) (r' : Residual) : Prop where
  others : ∃ taken, r' = { r with taken }
  taken : ∀ k, r'.takenFrom k = r.takenFrom k + if k ∈ ss.map (·.endpoints) then amount else 0

theorem takeFromEdges_of_hasRoom (hnodup : (ss.map (·.endpoints)).Nodup)
    (hroom : ∀ s ∈ ss, r.HasRoom amount s) :
    ∃ r', r.takeFromEdges amount ss = (r', none) ∧ r.Lessened amount ss r' := by
  obtain ⟨taken, htake, htaken⟩ := takeFromEdges_ok hnodup hroom
  exact ⟨_, htake, ⟨taken, rfl⟩, htaken⟩

theorem takeFromEdges_append (h : r.takeFromEdges amount front = (r', none)) :
    r.takeFromEdges amount (front ++ back) = r'.takeFromEdges amount back := by
  induction front generalizing r with
  | nil =>
      obtain rfl : r = r' := congrArg Prod.fst h
      rfl
  | cons t rest ih =>
      simp only [takeFromEdges] at h
      split at h
      · cases h
      · next hroom =>
          rw [List.cons_append, takeFromEdges]
          simp only [hroom, if_false]
          exact ih h

/-- The fault for an edge that has no room for an amount. -/
def overflow (r : Residual) (amount : Int) (s : Signature) : Fault :=
  .edgeSuppression s.issuer.fingerprint s.target.fingerprint (r.takenFrom s.endpoints + amount)

/-- The first full edge ends the taking; the edges before it are as if they were all. -/
theorem takeFromEdges_of_full (hnodup : ((front ++ s :: back).map (·.endpoints)).Nodup)
    (hroom : ∀ t ∈ front, r.HasRoom amount t) (hfull : ¬r.HasRoom amount s) :
    ∃ r', r.takeFromEdges amount (front ++ s :: back) = (r', some (r.overflow amount s)) ∧
      r.Lessened amount front r' := by
  rw [List.map_append, List.map_cons, List.nodup_append] at hnodup
  obtain ⟨hfront, -, hapart⟩ := hnodup
  obtain ⟨r', htake, hless⟩ := takeFromEdges_of_hasRoom hfront hroom
  -- The full edge is none of those before it, so that nothing was taken from it on the way.
  have hkept : r'.takenFrom s.endpoints = r.takenFrom s.endpoints := by
    have hnew : s.endpoints ∉ front.map (·.endpoints) := fun hmem =>
      hapart _ hmem _ List.mem_cons_self rfl
    rw [hless.taken, if_neg hnew, Int.add_zero]
  have htotal : r'.takenFrom s.endpoints + amount > fullTrust := by
    rw [hkept]
    exact Int.not_le.mp hfull
  refine ⟨r', ?_, hless⟩
  rw [takeFromEdges_append htake, takeFromEdges, if_pos htotal, hkept]
  rfl

/-! ## Paths -/

/-- Some signatures have room, or there is a first one that has none. -/
theorem hasRoom_cases (r : Residual) (amount : Int) (ss : List Signature) :
    (∀ s ∈ ss, r.HasRoom amount s) ∨
      ∃ front s back, ss = front ++ s :: back ∧ (∀ t ∈ front, r.HasRoom amount t) ∧
        ¬r.HasRoom amount s := by
  induction ss with
  | nil => exact .inl (by simp)
  | cons t rest ih =>
      by_cases ht : r.HasRoom amount t
      · refine ih.imp (fun hrest => List.forall_mem_cons.mpr ⟨ht, hrest⟩) ?_
        rintro ⟨front, s, back, rfl, hfront, hs⟩
        exact ⟨t :: front, s, back, rfl, List.forall_mem_cons.mpr ⟨ht, hfront⟩, hs⟩
      · exact .inr ⟨[], t, rest, rfl, by simp, ht⟩

/-- What taking an amount from the edges of a path comes to, told without going along the path. -/
inductive Takes (r : Residual) (p : Path) (amount : Int) : Residual → Option Fault → Prop where
  | nothing (hamount : amount = 0) : Takes r p amount r none
  | excessive (hamount : fullTrust < amount) : Takes r p amount r (some (.suppression amount))
  | whole {r' : Residual} (hamount : amount ≤ fullTrust)
      (hroom : ∀ s ∈ p.signatures, r.HasRoom amount s)
      (hless : r.Lessened amount p.signatures r') : Takes r p amount r' none
  | part {r' : Residual} {front back : List Signature} {s : Signature}
      (hamount : amount ≠ 0 ∧ amount ≤ fullTrust) (hsplit : p.signatures = front ++ s :: back)
      (hroom : ∀ t ∈ front, r.HasRoom amount t) (hfull : ¬r.HasRoom amount s)
      (hless : r.Lessened amount front r') : Takes r p amount r' (some (r.overflow amount s))

theorem takes_take (hnodup : (p.signatures.map (·.endpoints)).Nodup) (r : Residual) (amount : Int) :
    r.Takes p amount (r.take p amount).1 (r.take p amount).2 := by
  unfold take
  split
  · next hzero => exact .nothing (by simpa using hzero)
  · next hne =>
      split
      · next hamount => exact .excessive hamount
      · next hamount =>
          have hle : amount ≤ fullTrust := Int.not_lt.mp hamount
          rcases hasRoom_cases r amount p.signatures with hroom | ⟨front, s, back, hsplit, hrest⟩
          · obtain ⟨r', htake, hless⟩ := takeFromEdges_of_hasRoom hnodup hroom
            rw [htake]
            exact .whole hle hroom hless
          · rw [hsplit] at hnodup
            obtain ⟨r', htake, hless⟩ := takeFromEdges_of_full hnodup hrest.1 hrest.2
            rw [hsplit, htake]
            exact .part ⟨by simpa using hne, hle⟩ hsplit hrest.1 hrest.2 hless

/-! ## One taking after the other -/

/-- A path that is grown by offering it signatures, and the amount to take from its edges. -/
structure Taking where
  root : Node
  offers : List (Signature × Mode)
  amount : Int

/-- The path that has grown. -/
def Taking.path (t : Taking) : Path := Path.offerAll { root := t.root } t.offers

theorem Taking.nodup_endpoints (t : Taking) : (t.path.signatures.map (·.endpoints)).Nodup :=
  ((Path.regular_start t.root).offerAll t.offers).nodup_endpoints

/-- The residual after takings, whether they failed or not. -/
def afterTakings (r : Residual) (ts : List Taking) : Residual :=
  ts.foldl (fun r t => (r.take t.path t.amount).1) r

/-- From no edge more than full trust is taken. -/
def Within (r : Residual) : Prop := ∀ k, r.takenFrom k ≤ fullTrust

theorem Lessened.within (h : r.Lessened amount ss r') (hr : r.Within)
    (hroom : ∀ s ∈ ss, r.HasRoom amount s) : r'.Within := by
  intro k
  rw [h.taken]
  split
  · next hk =>
      obtain ⟨s, hs, rfl⟩ := List.mem_map.mp hk
      exact hroom s hs
  · simpa using hr k

theorem Takes.within {fault? : Option Fault} (h : r.Takes p amount r' fault?) (hr : r.Within) :
    r'.Within := by
  cases h with
  | nothing => exact hr
  | excessive => exact hr
  | whole _ hroom hless => exact hless.within hr hroom
  | part _ _ hroom _ hless => exact hless.within hr hroom

theorem within_afterTakings (hr : r.Within) (ts : List Taking) : (r.afterTakings ts).Within := by
  induction ts generalizing r with
  | nil => exact hr
  | cons t rest ih => exact ih ((takes_take t.nodup_endpoints r t.amount).within hr)

/-- Taking an amount changes nothing exactly if there are no signatures to take it from. -/
theorem Lessened.unchanged_iff (h : r.Lessened amount ss r') (hne : amount ≠ 0) :
    (∀ k, r'.takenFrom k = r.takenFrom k) ↔ ss = [] := by
  constructor
  · intro hsame
    cases ss with
    | nil => rfl
    | cons s rest =>
        have hs := h.taken s.endpoints
        rw [if_pos (by simp), hsame] at hs
        omega
  · rintro rfl k
    simpa using h.taken k

/-- Whatever was taken before, in part or in full: from no edge more than full trust is taken. A
further taking succeeds exactly if its amount is within full trust and every edge of the path has
room for it, and then it takes the amount from each of them and from no other edge. If it fails, the
amount alone is too great, and nothing is changed, or the amount is taken from the edges before the
first full one and from no other, so that nothing is changed exactly if no edge comes before it. -/
theorem take_unchanged_iff (n : Network) (mode : Mode) (caps : Table Fingerprint Int)
    (earlier : List Taking) (t : Taking) :
    let r := afterTakings { network := n, mode, caps } earlier
    let r' := (r.take t.path t.amount).1
    (∀ k, r.takenFrom k ≤ fullTrust) ∧
      ((r.take t.path t.amount).2 = none ↔
        t.amount ≤ fullTrust ∧ ∀ s ∈ t.path.signatures, r.HasRoom t.amount s) ∧
      ((r.take t.path t.amount).2 = none → ∀ k, r'.takenFrom k =
        r.takenFrom k + if k ∈ t.path.signatures.map (·.endpoints) then t.amount else 0) ∧
      ∀ fault, (r.take t.path t.amount).2 = some fault →
        fault = .suppression t.amount ∧ fullTrust < t.amount ∧ r' = r ∨
          ∃ front s back, t.path.signatures = front ++ s :: back ∧
            (∀ u ∈ front, r.HasRoom t.amount u) ∧ ¬r.HasRoom t.amount s ∧
            fault = r.overflow t.amount s ∧
            (∀ k, r'.takenFrom k =
              r.takenFrom k + if k ∈ front.map (·.endpoints) then t.amount else 0) ∧
            ((∀ k, r'.takenFrom k = r.takenFrom k) ↔ front = []) := by
  intro r r'
  have hfresh : Within { network := n, mode, caps } := fun k => by simp [takenFrom, fullTrust]
  have hwithin : r.Within := within_afterTakings hfresh earlier
  refine ⟨hwithin, ?_⟩
  have htakes : r.Takes t.path t.amount r' (r.take t.path t.amount).2 :=
    takes_take t.nodup_endpoints r t.amount
  generalize (r.take t.path t.amount).2 = fault? at htakes
  generalize r' = r' at htakes
  cases htakes with
  | nothing hamount =>
      have hroom : ∀ s ∈ t.path.signatures, r.HasRoom t.amount s := fun s _ => by
        simpa [HasRoom, hamount] using hwithin s.endpoints
      exact ⟨iff_of_true rfl ⟨by simp [hamount, fullTrust], hroom⟩, fun _ k => by simp [hamount],
        by simp⟩
  | excessive hamount =>
      refine ⟨iff_of_false (by simp) fun h => Int.not_lt.mpr h.1 hamount, by simp, ?_⟩
      rintro _ ⟨⟩
      exact .inl ⟨rfl, hamount, rfl⟩
  | whole hamount hroom hless =>
      exact ⟨iff_of_true rfl ⟨hamount, hroom⟩, fun _ => hless.taken, by simp⟩
  | @part _ front back s hamount hsplit hroom hfull hless =>
      refine ⟨iff_of_false (by simp) fun h => hfull (h.2 s (by simp [hsplit])), by simp, ?_⟩
      rintro _ ⟨⟩
      exact .inr ⟨front, s, back, hsplit, hroom, hfull, rfl, hless.taken,
        hless.unchanged_iff hamount.1⟩

/-! ### A full edge behind one with room

From the edge of `B` and `C` 100 was taken, from the one of `A` and `B` nothing. Then 60 is to be
taken from both. -/

namespace Overfull

open Introduction

def bob : Node := { fingerprint := ⟨"B"⟩ }

def residual : Residual :=
  afterTakings { network := Introduction.network, mode := .certification }
    [⟨bob, [(introduced, .certification)], 100⟩]

def taking : Taking :=
  ⟨{ fingerprint := ⟨"A"⟩ }, [(delegation, .certification), (introduced, .certification)], 60⟩

end Overfull

/-- The taking fails at the second edge, and 60 stays taken from the first one. -/
theorem take_leaves_trace :
    (Overfull.residual.take Overfull.taking.path Overfull.taking.amount).2 =
        some (.edgeSuppression ⟨"B"⟩ ⟨"C"⟩ 160) ∧
      Overfull.residual.takenFrom (⟨"A"⟩, ⟨"B"⟩) = 0 ∧
      (Overfull.residual.take Overfull.taking.path Overfull.taking.amount).1.takenFrom
        (⟨"A"⟩, ⟨"B"⟩) = 60 := by
  decide +kernel

end Residual

end TrustWeb
