import Mathlib
import TrustWeb.Proofs.Authentication.Soundness
import TrustWeb.Proofs.Network.Delivery
import TrustWeb.Web

/-! # Listings and look-ups

All queries over bindings tell of one and the same list: the bindings of the network that have a
path, by ascending certificate and user ID. Listing a certificate and looking up a user ID or an
e-mail address give parts of it, and authenticating by e-mail address gives the best of a part. -/

namespace TrustWeb

/-! ## Ascending order -/

section Ascending

variable {α κ : Type} (key : α → String)

theorem pairwise_le_mergeSort (as : List α) :
    (as.mergeSort fun a b => !decide (key b < key a)).Pairwise fun a b => key a ≤ key b := by
  have hle : ∀ a b : α, (!decide (key b < key a)) = true ↔ key a ≤ key b := by
    intro a b
    rw [Bool.not_eq_true', decide_eq_false_iff_not, String.not_lt]
  refine (List.pairwise_mergeSort (fun a b c hab hbc => ?_) (fun a b => ?_) as).imp (hle _ _).mp
  · exact (hle a c).mpr (String.le_trans ((hle a b).mp hab) ((hle b c).mp hbc))
  · rw [Bool.or_eq_true, hle, hle]
    exact String.le_total (key a) (key b)

theorem pairwise_lt_mergeSort (hkey : Function.Injective key) {as : List α} (h : as.Nodup) :
    (as.mergeSort fun a b => !decide (key b < key a)).Pairwise fun a b => key a < key b := by
  refine ((pairwise_le_mergeSort key as).and (List.nodup_mergeSort.mpr h)).imp ?_
  rintro a b ⟨hle, hne⟩
  exact String.not_le.mp fun hge => hne (hkey (String.le_antisymm hle hge))

/-- The part with one key, of what is put together from parts with different keys. -/
theorem filter_flatMap_of_key [DecidableEq κ] {ks : List κ} (hks : ks.Nodup) {part : κ → List α}
    {keyOf : α → κ} (hpart : ∀ k, ∀ a ∈ part k, keyOf a = k) {k : κ} (hk : k ∉ ks → part k = []) :
    (ks.flatMap part).filter (fun a => decide (keyOf a = k)) = part k := by
  induction ks with
  | nil => simpa using (hk List.not_mem_nil).symm
  | cons k' rest ih =>
      obtain ⟨hk', hrest⟩ := List.nodup_cons.mp hks
      rw [List.flatMap_cons, List.filter_append]
      by_cases hkk' : k' = k
      · subst hkk'
        have hother : (rest.flatMap part).filter (fun a => decide (keyOf a = k')) = [] := by
          refine List.filter_eq_nil_iff.mpr fun a ha => ?_
          obtain ⟨k'', hk'', ha⟩ := List.mem_flatMap.mp ha
          have hne : k'' ≠ k' := fun he => hk' (he ▸ hk'')
          simpa [hpart k'' a ha] using hne
        rw [hother, List.append_nil]
        exact List.filter_eq_self.mpr fun a ha => decide_eq_true (hpart k' a ha)
      · have hnone : (part k').filter (fun a => decide (keyOf a = k)) = [] :=
          List.filter_eq_nil_iff.mpr fun a ha => by simpa [hpart k' a ha] using hkk'
        rw [hnone, List.nil_append]
        exact ih hrest fun hk'' => hk (by simpa [Ne.symm hkk'] using hk'')

end Ascending

theorem Network.ascending_fingerprints {n : Network} (h : n.nodes.keys.Nodup) :
    n.fingerprints.Pairwise (· < ·) :=
  pairwise_lt_mergeSort Fingerprint.text (fun _ _ h => congrArg Fingerprint.mk h) h

namespace Web

theorem ascending_sortedUserIds {userIds : List String} (h : userIds.Nodup) :
    (sortedUserIds userIds).Pairwise (· < ·) :=
  pairwise_lt_mergeSort id Function.injective_id h

/-- User IDs keep their places relative to each other when others are left out. -/
theorem sortedUserIds_filter (keep : String → Bool) (userIds : List String) :
    sortedUserIds (userIds.filter keep) = (sortedUserIds userIds).filter keep := by
  refine List.Perm.eq_of_pairwise (fun _ _ _ _ => String.le_antisymm)
    (pairwise_le_mergeSort id _) ((pairwise_le_mergeSort id userIds).filter keep) ?_
  exact (List.mergeSort_perm _ _).trans ((List.mergeSort_perm userIds _).symm.filter keep)

theorem occursIn_iff {part cs : List Char} : occursIn part cs = true ↔ part <:+: cs := by
  induction cs with
  | nil => simp [occursIn]
  | cons c cs ih => simp [occursIn, ih, List.infix_cons_iff]

end Web

/-! ## The first of the largest -/

/-- The first of those with the largest amount. -/
def FirstLargest {α : Type} (amount : α → Int) (as : List α) (best : α) : Prop :=
  ∃ front back, as = front ++ best :: back ∧ (∀ a ∈ front, amount a < amount best) ∧
    ∀ a ∈ back, amount a ≤ amount best

namespace FirstLargest

variable {α β : Type} {amount : α → Int} {as : List α} {best : α}

theorem singleton (a : α) : FirstLargest amount [a] a := ⟨[], [], rfl, by simp, by simp⟩

/-- One more is the first of the largest only if it is larger. -/
theorem concat (h : FirstLargest amount as best) (a : α) :
    FirstLargest amount (as ++ [a]) (if amount a > amount best then a else best) := by
  obtain ⟨front, back, rfl, hfront, hback⟩ := h
  by_cases hlarger : amount a > amount best
  · rw [if_pos hlarger]
    refine ⟨front ++ best :: back, [], rfl, fun b hb => ?_, by simp⟩
    rcases List.mem_append.mp hb with hb | hb
    · exact (hfront b hb).trans hlarger
    · rcases List.mem_cons.mp hb with rfl | hb
      · exact hlarger
      · exact (hback b hb).trans_lt hlarger
  · rw [if_neg hlarger]
    refine ⟨front, back ++ [a], by simp, hfront, fun b hb => ?_⟩
    rcases List.mem_append.mp hb with hb | hb
    · exact hback b hb
    · exact List.mem_singleton.mp hb ▸ not_lt.mp hlarger

theorem foldl (h : FirstLargest amount as best) (others : List α) :
    FirstLargest amount (as ++ others)
      (others.foldl (fun best a => if amount a > amount best then a else best) best) := by
  induction others generalizing as best with
  | nil => simpa using h
  | cons a rest ih => simpa using ih (h.concat a)

theorem mem (h : FirstLargest amount as best) : best ∈ as := by
  obtain ⟨front, back, rfl, -, -⟩ := h
  simp

theorem le (h : FirstLargest amount as best) {a : α} (ha : a ∈ as) : amount a ≤ amount best := by
  obtain ⟨front, back, rfl, hfront, hback⟩ := h
  rcases List.mem_append.mp ha with ha | ha
  · exact (hfront a ha).le
  · rcases List.mem_cons.mp ha with rfl | ha
    · exact le_rfl
    · exact hback a ha

/-- It stays the first of the largest if only others are left out. -/
theorem filter (h : FirstLargest amount as best) {keep : α → Bool} (hbest : keep best = true) :
    FirstLargest amount (as.filter keep) best := by
  obtain ⟨front, back, rfl, hfront, hback⟩ := h
  refine ⟨front.filter keep, back.filter keep, ?_, fun a ha => hfront a (List.mem_of_mem_filter ha),
    fun a ha => hback a (List.mem_of_mem_filter ha)⟩
  rw [List.filter_append, List.filter_cons_of_pos hbest]

theorem of_map {f : β → α} {bs : List β} (h : FirstLargest amount (bs.map f) best) :
    ∃ b, f b = best ∧ FirstLargest (fun b => amount (f b)) bs b := by
  obtain ⟨front, back, hbs, hfront, hback⟩ := h
  obtain ⟨front', rest, rfl, rfl, hrest⟩ := List.map_eq_append_iff.mp hbs
  obtain ⟨b, back', rfl, rfl, rfl⟩ := List.map_eq_cons_iff.mp hrest
  exact ⟨b, rfl, front', back', rfl, fun a ha => hfront _ (List.mem_map_of_mem ha),
    fun a ha => hback _ (List.mem_map_of_mem ha)⟩

end FirstLargest

theorem Web.largest?_cases (bs : List Binding) :
    (bs = [] ∧ largest? bs = none) ∨
      ∃ best, largest? bs = some best ∧ FirstLargest Binding.amount bs best := by
  cases bs with
  | nil => exact .inl ⟨rfl, rfl⟩
  | cons b rest => exact .inr ⟨_, rfl, (FirstLargest.singleton b).foldl rest⟩

/-! ## Entries -/

@[simp] theorem Subject.shown_userId (userId : String) : (Subject.userId userId).shown = userId :=
  rfl

/-- A certificate, one of its user IDs, and the paths that authenticate them. -/
@[ext]
structure Entry where
  fingerprint : Fingerprint
  userId : String
  paths : Paths

namespace Entry

/-- The entry as a binding. -/
def binding (e : Entry) : Binding := ⟨e.fingerprint, .userId e.userId, e.paths⟩

/-- The order of certificates, and of user IDs for one certificate. -/
def Before (e e' : Entry) : Prop :=
  e.fingerprint < e'.fingerprint ∨ e.fingerprint = e'.fingerprint ∧ e.userId < e'.userId

/-- The user ID contains the e-mail address between angle brackets. -/
def HasAddress (address : String) (e : Entry) : Prop :=
  ("<" ++ address ++ ">").toList <:+: e.userId.toList

instance (address : String) (e : Entry) : Decidable (e.HasAddress address) :=
  inferInstanceAs (Decidable (_ <:+: _))

end Entry

/-- The certificate with a fingerprint carries a user ID. -/
def Network.Carries (n : Network) (f : Fingerprint) (userId : String) : Prop :=
  ∃ node, n.node? f = some node ∧ userId ∈ node.userIds.keys

/-- What is found for the entries in a web. -/
def Web.listing (w : Web) (es : List Entry) : Listing := ⟨es.map Entry.binding, w.wanted⟩

/-- All queries over the bindings of a web tell of these entries: they are the bindings that are
carried in the network and have a path, each once and in ascending order. -/
structure Web.Catalog (w : Web) (es : List Entry) : Prop where
  ascending : es.Pairwise Entry.Before
  mem_iff : ∀ e, e ∈ es ↔
    w.network.Carries e.fingerprint e.userId ∧ e.paths.items ≠ [] ∧
      w.authenticate e.fingerprint (.userId e.userId) false = .ok ⟨e.binding, w.wanted⟩
  list : w.list = .ok (w.listing es)
  identify : ∀ f, w.identify f = .ok (w.listing (es.filter fun e => e.fingerprint = f))
  lookup : ∀ userId, w.lookup (.userId userId) false =
    .ok (w.listing (es.filter fun e => e.userId = userId))
  lookupAddress : ∀ address, w.lookup (.userId address) true =
    .ok (w.listing (es.filter fun e => e.HasAddress address))
  /-- By e-mail address the first of the largest of the entries for it is authenticated, or nothing
  if there is no entry for it. -/
  byAddress : ∀ f address, ∃ b, w.authenticate f (.userId address) true = .ok ⟨b, w.wanted⟩ ∧
    ((∃ e, FirstLargest (·.paths.amount)
        ((es.filter fun e => e.HasAddress address).filter fun e => e.fingerprint = f) e ∧
        b = e.binding) ∨
      ((es.filter fun e => e.HasAddress address).filter fun e => e.fingerprint = f) = [] ∧
        b.amount = 0)

/-! ## Amounts of recorded paths -/

/-- Paths that all have an amount have together at least as much as there are paths. -/
theorem Paths.length_le_amount {ps : Paths} (h : ∀ i ∈ ps.items, 1 ≤ i.amount) :
    (ps.items.length : Int) ≤ ps.amount := by
  obtain ⟨items⟩ := ps
  simp only [Paths.amount, ← List.foldl_map, ← List.sum_eq_foldl] at h ⊢
  induction items with
  | nil => simp
  | cons i rest ih =>
      obtain ⟨hi, hrest⟩ := List.forall_mem_cons.mp h
      have := ih hrest
      simp only [List.length_cons, List.map_cons, List.sum_cons]
      omega

theorem Paths.amount_eq_zero_iff {ps : Paths} (h : ∀ i ∈ ps.items, 1 ≤ i.amount) :
    ps.amount = 0 ↔ ps.items = [] := by
  constructor
  · intro hzero
    have := length_le_amount h
    exact List.length_eq_zero_iff.mp (by omega)
  · intro hitems
    rw [Paths.amount, hitems, List.foldl_nil]

namespace Web

variable {w : Web}

/-! ## Answers for all bindings -/

/-- What the authentications in a web give; every path that they record has an amount. -/
structure Answers (w : Web) (answer : Fingerprint → String → Paths) : Prop where
  authenticate : ∀ f userId,
    w.query.authenticate f (.userId userId) w.wanted = .ok (answer f userId)
  positive : ∀ f userId, ∀ i ∈ (answer f userId).items, 1 ≤ i.amount

theorem exists_answers (hkeys : w.network.WellKeyed) (hsearchable : w.network.Searchable) :
    ∃ answer, w.Answers answer := by
  choose answer hanswer using fun f userId =>
    Query.exists_authenticate (q := w.query) hkeys hsearchable f userId w.wanted
  refine ⟨answer, hanswer, fun f userId i hi => ?_⟩
  have hcollects := Query.collects_of_authenticate (q := w.query) hkeys (hanswer f userId)
  exact (hcollects.shows hkeys w.query.balanced_start (by simp) i hi).positive

/-- The user IDs of the certificate with a fingerprint, in ascending order. -/
def userIdsOf (w : Web) (f : Fingerprint) : List String :=
  match w.network.node? f with
  | none => []
  | some n => sortedUserIds n.userIds.keys

theorem mem_userIdsOf {f : Fingerprint} {userId : String} :
    userId ∈ w.userIdsOf f ↔ w.network.Carries f userId := by
  unfold userIdsOf Network.Carries
  cases w.network.node? f with
  | none => simp
  | some n => simp [sortedUserIds]

theorem mem_fingerprints {f : Fingerprint} :
    f ∈ w.network.fingerprints ↔ ∃ n, w.network.node? f = some n := by
  rw [Network.fingerprints, Fingerprint.sorted, List.mem_mergeSort, Table.mem_keys_iff]
  rfl

theorem ascending_userIdsOf (h : w.network.Tidy) (f : Fingerprint) :
    (w.userIdsOf f).Pairwise (· < ·) := by
  unfold userIdsOf
  cases hnode : w.network.node? f with
  | none => exact .nil
  | some n => exact ascending_sortedUserIds (h.orderly.userIds _ (Table.mem_of_find? hnode))

/-- Whether a user ID is one that is looked up. -/
def isWanted (subject : Subject) (byEmail : Bool) (userId : String) : Bool :=
  if byEmail then occursIn ("<" ++ subject.shown ++ ">").toList userId.toList
  else subject.isOver (some userId)

theorem eq_of_isOver {subject : Subject} {userId : String}
    (h : subject.isOver (some userId) = true) : subject = .userId userId := by
  cases subject with
  | userId s => exact congrArg Subject.userId (beq_iff_eq.mp h)
  | certificate => cases h
  | other v => cases h

/-- The user IDs that are looked up stand in ascending order, also where they are not sorted: then
they are all the same. -/
theorem matchingUserIds_eq (n : Node) (subject : Subject) (byEmail : Bool) :
    matchingUserIds n subject byEmail =
      (sortedUserIds n.userIds.keys).filter (isWanted subject byEmail) := by
  rw [← sortedUserIds_filter]
  cases byEmail with
  | true => rfl
  | false =>
      refine (List.mergeSort_of_pairwise (List.pairwise_of_forall_mem_list ?_)).symm
      intro s hs t ht
      have hs' := eq_of_isOver (List.mem_filter.mp hs).2
      have ht' := eq_of_isOver (List.mem_filter.mp ht).2
      obtain rfl : s = t := Subject.userId.inj (hs'.symm.trans ht')
      simp only [Bool.not_eq_true', decide_eq_false_iff_not]
      exact String.lt_irrefl s

/-! ## Lists of bindings -/

/-- The binding of a certificate and a user ID as an entry. -/
def entry (answer : Fingerprint → String → Paths) (f : Fingerprint) (userId : String) : Entry :=
  ⟨f, userId, answer f userId⟩

/-- The entries for all user IDs of a certificate. -/
def entriesOf (w : Web) (answer : Fingerprint → String → Paths) (f : Fingerprint) : List Entry :=
  (w.userIdsOf f).map (entry answer f)

/-- Whether an entry has a path. -/
def isShown (e : Entry) : Bool := !e.paths.isEmpty

/-- The entries for all certificates that have a path. -/
def catalog (w : Web) (answer : Fingerprint → String → Paths) : List Entry :=
  (w.network.fingerprints.flatMap (w.entriesOf answer)).filter isShown

variable {answer : Fingerprint → String → Paths} {f : Fingerprint}

theorem Answers.binding_eq (h : w.Answers answer) (userId : String) :
    w.binding f (.userId userId) = .ok (entry answer f userId).binding := by
  rw [binding, h.authenticate]
  rfl

theorem Answers.bindings_eq (h : w.Answers answer) (userIds : List String) :
    w.bindings f userIds = .ok ((userIds.map (entry answer f)).map Entry.binding) := by
  induction userIds with
  | nil => rfl
  | cons userId rest ih =>
      rw [bindings, h.binding_eq, ih]
      rfl

theorem forEach_eq (found : Fingerprint → List Entry)
    {find : Fingerprint → Except Fault (List Binding)}
    (h : ∀ f, find f = .ok ((found f).map Entry.binding)) (fs : List Fingerprint) :
    forEach find fs = .ok ((fs.flatMap found).map Entry.binding) := by
  induction fs with
  | nil => rfl
  | cons f rest ih =>
      rw [forEach, h f, ih, List.flatMap_cons, List.map_append]
      rfl

theorem filter_map_binding (es : List Entry) :
    (es.map Entry.binding).filter (fun b => !b.paths.isEmpty) =
      (es.filter isShown).map Entry.binding :=
  List.filter_map

/-- Of the bindings that are authenticated those with an amount are those with a path. -/
theorem Answers.filter_amount (h : w.Answers answer) (userIds : List String) :
    ((userIds.map (entry answer f)).map Entry.binding).filter (·.amount != 0) =
      ((userIds.map (entry answer f)).filter isShown).map Entry.binding := by
  rw [List.filter_map, List.filter_congr]
  intro e he
  obtain ⟨userId, -, rfl⟩ := List.mem_map.mp he
  have hzero := Paths.amount_eq_zero_iff (h.positive f userId)
  simp only [Function.comp_apply, Entry.binding, Binding.amount, isShown, entry, Paths.isEmpty]
  rw [Bool.eq_iff_iff]
  simp [hzero]

theorem Answers.bindingsOf_eq (h : w.Answers answer) (hkeys : w.network.WellKeyed)
    (f : Fingerprint) :
    w.bindingsOf f = .ok (((w.entriesOf answer f).filter isShown).map Entry.binding) := by
  unfold bindingsOf entriesOf userIdsOf
  cases hnode : w.network.node? f with
  | none => rfl
  | some n =>
      simp only [hkeys.fingerprint_of_node? hnode, h.bindings_eq, Except.map, h.filter_amount]

/-- What is looked up on one certificate. -/
theorem Answers.bindings_matching (h : w.Answers answer) (subject : Subject) (byEmail : Bool)
    {n : Node} (hnode : w.network.node? f = some n) :
    w.bindings f (matchingUserIds n subject byEmail) =
      .ok (((w.entriesOf answer f).filter fun e => isWanted subject byEmail e.userId).map
        Entry.binding) := by
  rw [h.bindings_eq, matchingUserIds_eq, entriesOf, userIdsOf, hnode, List.filter_map]
  rfl

theorem Answers.list_eq (h : w.Answers answer) (hkeys : w.network.WellKeyed) :
    w.list = .ok (w.listing (w.catalog answer)) := by
  rw [list, forEach_eq _ (h.bindingsOf_eq hkeys), ← List.filter_flatMap]
  rfl

theorem filter_catalog (h : w.network.Tidy) (answer : Fingerprint → String → Paths)
    (f : Fingerprint) : ((w.catalog answer).filter fun e => e.fingerprint = f) =
      (w.entriesOf answer f).filter isShown := by
  rw [catalog, List.filter_comm, filter_flatMap_of_key]
  · exact (Network.ascending_fingerprints h.orderly.keys).imp fun hlt he => by
      subst he
      exact String.lt_irrefl _ hlt
  · rintro f e he
    obtain ⟨userId, -, rfl⟩ := List.mem_map.mp he
    rfl
  · intro hf
    rw [mem_fingerprints] at hf
    unfold entriesOf userIdsOf
    cases hnode : w.network.node? f with
    | none => rfl
    | some n => exact (hf ⟨n, hnode⟩).elim

theorem Answers.identify_eq (h : w.Answers answer) (htidy : w.network.Tidy) (f : Fingerprint) :
    w.identify f =
      .ok (w.listing ((w.catalog answer).filter fun e => e.fingerprint = f)) := by
  rw [identify, h.bindingsOf_eq htidy.toWellKeyed, filter_catalog htidy]
  rfl

theorem Answers.lookup_eq (h : w.Answers answer) (subject : Subject) (byEmail : Bool) :
    w.lookup subject byEmail =
      .ok (w.listing ((w.catalog answer).filter fun e => isWanted subject byEmail e.userId)) := by
  rw [lookup, forEach_eq fun f => ((w.entriesOf answer f).filter fun e =>
    isWanted subject byEmail e.userId).filter isShown]
  · rw [← List.filter_flatMap, ← List.filter_flatMap, List.filter_comm]
    rfl
  · intro f
    cases hnode : w.network.node? f with
    | none => simp [entriesOf, userIdsOf, hnode]
    | some n =>
        simp only [h.bindings_matching subject byEmail hnode, Except.map, filter_map_binding]

theorem isWanted_userId (userId : String) (e : Entry) :
    isWanted (.userId userId) false e.userId = decide (e.userId = userId) := by
  change (userId == e.userId) = _
  rw [Bool.eq_iff_iff, beq_iff_eq, decide_eq_true_iff, eq_comm]

theorem isWanted_address (address : String) (e : Entry) :
    isWanted (.userId address) true e.userId = decide (e.HasAddress address) := by
  rw [Bool.eq_iff_iff, decide_eq_true_iff]
  exact occursIn_iff

/-! ## Authentications -/

theorem Answers.authenticate_eq (h : w.Answers answer) (f : Fingerprint) (userId : String) :
    w.authenticate f (.userId userId) false =
      .ok ⟨(entry answer f userId).binding, w.wanted⟩ := by
  simp only [Web.authenticate, h.binding_eq, Except.map, Bool.false_eq_true, if_false]

theorem Answers.authenticate_byAddress (h : w.Answers answer) (f : Fingerprint)
    (subject : Subject) : w.authenticate f subject true =
      .ok ⟨(largest? (((w.entriesOf answer f).filter fun e =>
        isWanted subject true e.userId).map Entry.binding)).getD { fingerprint := f, subject },
        w.wanted⟩ := by
  unfold Web.authenticate
  cases hnode : w.network.node? f with
  | none => simp [entriesOf, userIdsOf, hnode, bindings, Except.map]
  | some n => simp only [h.bindings_matching subject true hnode, Except.map, if_true]

/-- The first of the largest has a path, unless none of the entries has one. -/
theorem Answers.largest_shown (h : w.Answers answer) {es : List Entry} {best : Entry}
    (hes : ∀ e ∈ es, e ∈ w.entriesOf answer f) (hbest : FirstLargest (·.paths.amount) es best) :
    FirstLargest (·.paths.amount) (es.filter isShown) best ∨
      es.filter isShown = [] ∧ best.paths.amount = 0 := by
  have hpositive : ∀ e ∈ es, ∀ i ∈ e.paths.items, 1 ≤ i.amount := by
    intro e he
    obtain ⟨userId, -, rfl⟩ := List.mem_map.mp (hes e he)
    exact h.positive f userId
  have hzero : ∀ e ∈ es, (e.paths.amount = 0 ↔ isShown e = false) := by
    intro e he
    rw [Paths.amount_eq_zero_iff (hpositive e he)]
    simp [isShown, Paths.isEmpty]
  cases hshown : isShown best with
  | true => exact .inl (hbest.filter hshown)
  | false =>
      have hnothing := (hzero best hbest.mem).mpr hshown
      refine .inr ⟨List.filter_eq_nil_iff.mpr fun e he => ?_, hnothing⟩
      have hle := hbest.le he
      have := Paths.length_le_amount (hpositive e he)
      rw [(hzero e he).mp (by omega)]
      exact Bool.false_ne_true

theorem Answers.exists_byAddress (h : w.Answers answer) (f : Fingerprint) (subject : Subject) :
    ∃ b, w.authenticate f subject true = .ok ⟨b, w.wanted⟩ ∧
      ((∃ e, FirstLargest (·.paths.amount) (((w.entriesOf answer f).filter fun e =>
          isWanted subject true e.userId).filter isShown) e ∧ b = e.binding) ∨
        ((w.entriesOf answer f).filter fun e => isWanted subject true e.userId).filter isShown =
          [] ∧ b.amount = 0) := by
  refine ⟨_, h.authenticate_byAddress f subject, ?_⟩
  rcases largest?_cases (((w.entriesOf answer f).filter fun e =>
      isWanted subject true e.userId).map Entry.binding) with ⟨hnil, hnone⟩ | ⟨b, hb, hlargest⟩
  · rw [hnone, List.map_eq_nil_iff.mp hnil]
    exact .inr ⟨rfl, rfl⟩
  · obtain ⟨e, rfl, he⟩ := hlargest.of_map
    rw [hb, Option.getD_some]
    rcases h.largest_shown (fun e he => List.mem_of_mem_filter he) he with hshown | ⟨hnil, hzero⟩
    · exact .inl ⟨e, hshown, rfl⟩
    · exact .inr ⟨hnil, hzero⟩

/-! ## The catalog -/

theorem ascending_catalog (h : w.network.Tidy) (answer : Fingerprint → String → Paths) :
    (w.catalog answer).Pairwise Entry.Before := by
  refine List.Pairwise.filter _ (List.pairwise_flatMap.mpr ⟨fun f _ => ?_, ?_⟩)
  · exact List.pairwise_map.mpr ((ascending_userIdsOf h f).imp fun hlt => .inr ⟨rfl, hlt⟩)
  · refine (Network.ascending_fingerprints h.orderly.keys).imp fun hlt e he e' he' => ?_
    obtain ⟨userId, -, rfl⟩ := List.mem_map.mp he
    obtain ⟨userId', -, rfl⟩ := List.mem_map.mp he'
    exact .inl hlt

theorem Answers.mem_catalog (h : w.Answers answer) (e : Entry) :
    e ∈ w.catalog answer ↔
      w.network.Carries e.fingerprint e.userId ∧ e.paths.items ≠ [] ∧
        w.authenticate e.fingerprint (.userId e.userId) false = .ok ⟨e.binding, w.wanted⟩ := by
  have hentry : w.authenticate e.fingerprint (.userId e.userId) false =
      .ok ⟨e.binding, w.wanted⟩ ↔ entry answer e.fingerprint e.userId = e := by
    rw [h.authenticate_eq]
    simp [Entry.binding, entry, Entry.ext_iff]
  rw [hentry, catalog, List.mem_filter, List.mem_flatMap]
  constructor
  · rintro ⟨⟨f, -, he⟩, hshown⟩
    obtain ⟨userId, huserId, rfl⟩ := List.mem_map.mp he
    exact ⟨mem_userIdsOf.mp huserId, by simpa [isShown, Paths.isEmpty] using hshown, rfl⟩
  · rintro ⟨hcarries, hpaths, he⟩
    obtain ⟨n, hnode, -⟩ := id hcarries
    exact ⟨⟨e.fingerprint, mem_fingerprints.mpr ⟨n, hnode⟩,
      List.mem_map.mpr ⟨e.userId, mem_userIdsOf.mpr hcarries, he⟩⟩,
      by simpa [isShown, Paths.isEmpty] using hpaths⟩

/-- In a network that is delivered, and whose scopes can be searched, all queries over bindings tell
of one list of entries. -/
theorem exists_catalog (hdelivered : w.network.Delivered) (hsearchable : w.network.Searchable) :
    ∃ es, w.Catalog es := by
  have htidy := hdelivered.tidy
  obtain ⟨answer, h⟩ := exists_answers htidy.toWellKeyed hsearchable
  refine ⟨w.catalog answer, ?_⟩
  constructor
  case ascending => exact ascending_catalog htidy answer
  case mem_iff => exact h.mem_catalog
  case list => exact h.list_eq htidy.toWellKeyed
  case identify => exact h.identify_eq htidy
  case lookup =>
    intro userId
    rw [h.lookup_eq]
    simp only [isWanted_userId]
  case lookupAddress =>
    intro address
    rw [h.lookup_eq]
    simp only [isWanted_address]
  case byAddress =>
    intro f address
    have hpart : ((w.catalog answer).filter fun e => e.HasAddress address).filter
        (fun e => e.fingerprint = f) =
        ((w.entriesOf answer f).filter fun e =>
          isWanted (.userId address) true e.userId).filter isShown := by
      rw [List.filter_comm, filter_catalog htidy, List.filter_comm]
      simp only [isWanted_address]
    rw [hpart]
    exact h.exists_byAddress f (.userId address)

end Web

/-! ### A directory

`A` and `C` certify one user ID of `B` each, and nobody certifies the third one. The two have one
e-mail address and get the same amount. -/

namespace Directory

def moment : Moment := ⟨0, some 0⟩

def userIds : Table String Revocation := [("B <b>", .none), ("<b>", .none), ("R <b>", .none)]

def record (issuer userId : String) : Store.SignatureRecord where
  issuer := issuer
  type := .positiveCertification
  created := moment
  userId := some userId
  amount := 60

def certificates : List Store.CertificateRecord :=
  [{ fingerprint := "B", created := moment, userIds, signatures :=
      [record "A" "B <b>", record "C" "<b>"] },
    { fingerprint := "A", created := moment },
    { fingerprint := "C", created := moment }]

def certification (issuer userId : String) : Signature :=
  { Introduction.introduced with
    issuer := { fingerprint := ⟨issuer⟩ }
    target := { fingerprint := ⟨"B"⟩, userIds }
    userId := some userId
    created := moment }

def builder : Builder :=
  [{ fingerprint := ⟨"B"⟩, userIds }, { fingerprint := ⟨"A"⟩ }, { fingerprint := ⟨"C"⟩ }].foldl
    (fun b n => (b.addNode n).1) {}

def network : Network :=
  ((builder.addSignature (certification "A" "B <b>")).addSignature
    (certification "C" "<b>")).build moment

theorem load_eq : (Store.load {} moment certificates).network.toOption = some network := by
  decide +kernel

theorem delivered : network.Delivered := by
  cases hnetwork : (Store.load {} moment certificates).network with
  | error fault => simpa [hnetwork, Except.toOption] using load_eq
  | ok n =>
      obtain rfl : n = network := by simpa [hnetwork, Except.toOption] using load_eq
      exact .loaded (by decide) hnetwork

theorem searchable : network.Searchable := Network.searchable_of_read (by decide +kernel)

def web : Web where
  network := network
  roots := ⟨[(⟨"A"⟩, fullTrust), (⟨"C"⟩, fullTrust)]⟩
  mode := .authentication
  wanted := fullTrust
  maxSearches := none
  wanted_pos := fullTrust_pos

end Directory

/-- Two of the three bindings are in the catalog, and of these the first is the best for the e-mail
address. -/
theorem Web.exists_catalog_directory :
    Directory.web.network.Delivered ∧ Directory.web.network.Searchable ∧
      ∃ es, Directory.web.Catalog es ∧
        es.map (fun e => (e.userId, e.paths.amount)) = [("<b>", 60), ("B <b>", 60)] ∧
        ∃ v, Directory.web.authenticate ⟨"B"⟩ (.userId "b") true = .ok v ∧
          v.binding.subject.shown = "<b>" := by
  have hlist : Directory.web.list.toOption.map (fun l => l.bindings.map fun b =>
      (b.subject.shown, b.amount)) = some [("<b>", 60), ("B <b>", 60)] := by cbv
  have hbest : (Directory.web.authenticate ⟨"B"⟩ (.userId "b") true).toOption.map
      (fun v => v.binding.subject.shown) = some "<b>" := by cbv
  obtain ⟨es, hes⟩ : ∃ es, Directory.web.Catalog es :=
    exists_catalog Directory.delivered Directory.searchable
  refine ⟨Directory.delivered, Directory.searchable, es, hes, ?_, ?_⟩
  · rw [hes.list] at hlist
    simpa [Except.toOption, listing, Function.comp_def, Entry.binding, Binding.amount] using hlist
  · obtain ⟨b, hb, -⟩ := hes.byAddress ⟨"B"⟩ "b"
    exact ⟨_, hb, by simpa [hb, Except.toOption] using hbest⟩

end TrustWeb
