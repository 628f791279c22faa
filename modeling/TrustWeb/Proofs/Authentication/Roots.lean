import TrustWeb.Proofs.Authentication.Agreement
import TrustWeb.Proofs.Authentication.Exhaustion
import TrustWeb.Proofs.Authentication.Modes
import TrustWeb.Proofs.Search.Agreement

/-! # The roots of an authentication

Certification mode does not cap what roots pass on, but no chain leads through a root that is
trusted outright. An amount therefore matters for that alone. A further root that is trusted outright
cuts chains as well. It takes none away without a replacement, as it then has one of its own, unless
it is the target and does not carry the user ID. -/

namespace TrustWeb

/-! ## Amounts in certification mode -/

namespace Roots

theorem isEmpty_iff {roots : Roots} : roots.isEmpty = true ↔ ∀ f, roots.isRoot f = false := by
  obtain ⟨amounts⟩ := roots
  cases amounts with
  | nil => simp [isEmpty, isRoot, amount?]
  | cons entry rest =>
      obtain ⟨f, amount⟩ := entry
      simp only [isEmpty, List.isEmpty_cons, Bool.false_eq_true, false_iff]
      intro h
      simpa [isRoot, amount?, Table.find?_cons] using h f

/-- The same certificates are roots, and the same ones are trusted outright. -/
structure Alike (roots roots' : Roots) : Prop where
  isRoot : ∀ f, roots'.isRoot f = roots.isRoot f
  isFullyTrusted : ∀ f, roots'.isFullyTrusted f = roots.isFullyTrusted f

theorem Alike.isEmpty {roots roots' : Roots} (A : roots.Alike roots') :
    roots'.isEmpty = roots.isEmpty := by
  rw [Bool.eq_iff_iff, isEmpty_iff, isEmpty_iff]
  simp only [A.isRoot]

end Roots

/-- A search does not read the amounts of roots, except for whether one is trusted outright. -/
theorem Search.agrees_of_alike {q : Search} {roots : Roots} (A : q.roots.Alike roots) :
    q.Agrees { q with roots } fun _ => True where
  target := rfl
  subject := rfl
  mode := rfl
  size := rfl
  isEmpty := A.isEmpty
  isRoot := A.isRoot
  valid := rfl
  seed := rfl
  start := trivial
  lookAt := fun {_ f _ _} _ _ => by
    simp only [Search.lookAt, A.isFullyTrusted f]
    rfl
  kept := fun _ _ _ => trivial

namespace Query

variable {q : Query} {roots : Roots}

theorem agrees_of_alike (hmode : q.mode = .certification) (A : q.roots.Alike roots)
    (f : Fingerprint) (subject : Subject) :
    q.Agrees { q with roots } f subject fun r _ => ∃ taken, r = { q.residual with taken } := by
  have hresidual : residual { q with roots } = q.residual := by
    simp only [residual, hmode]
  refine ⟨rfl, rfl, A.isRoot, ⟨_, rfl⟩, ?_, ?_⟩
  · rintro r paths ⟨taken, hr⟩
    rw [hresidual, hr]
    exact (Search.agrees_of_alike (q := q.searchIn { q.residual with taken } f subject)
      A).candidates
  · rintro r paths best next paths' ⟨taken, hr⟩ - htake -
    have hnext := congrArg Prod.fst (Residual.take_of_taken r r best.path best.amount)
    rw [htake] at hnext
    exact ⟨next.taken, by simpa only [hr] using hnext⟩

/-- In certification mode an authentication depends on which certificates are roots and on which of
them are trusted outright, and on no other property of their amounts. -/
theorem authenticate_of_alike (hmode : q.mode = .certification) (A : q.roots.Alike roots)
    (f : Fingerprint) (subject : Subject) (wanted : Int) :
    authenticate { q with roots } f subject wanted = q.authenticate f subject wanted :=
  (agrees_of_alike hmode A f subject).authenticate wanted

end Query

/-! ### A root that blocks a chain

`A` delegates to `B`, which certifies a user ID of `C` with an amount of 60. There is a longer chain
from `A` that carries 100. If `B` is trusted outright, only that one is found from `A`; else the
shorter one hides it at first. -/

namespace Detour

def delegation (issuer target : String) : Signature :=
  { Introduction.delegation with
    issuer := { fingerprint := ⟨issuer⟩ }
    target := { fingerprint := ⟨target⟩ }
    depth := .unconstrained }

def certification : Signature :=
  { Introduction.introduced with
    issuer := { fingerprint := ⟨"E"⟩ }
    amount := Introduction.delegation.amount }

def signatures : List Signature :=
  [delegation "A" "B", Introduction.introduced, delegation "A" "D", delegation "D" "E",
    certification]

/-- An authentication from `A`, and from `B` with the given amount, in certification mode. -/
def query (amount : Int) : Query where
  network := (signatures.foldl Builder.addSignature
    (({} : Builder).addNode Introduction.carol).1).build Introduction.moment
  roots := ⟨[(⟨"A"⟩, fullTrust), (⟨"B"⟩, amount)]⟩
  mode := .certification

theorem amount?_query (amount : Int) (f : Fingerprint) :
    (query amount).roots.amount? f =
      if f = ⟨"A"⟩ then some fullTrust else if f = ⟨"B"⟩ then some amount else none := by
  simp [query, Roots.amount?, Table.find?_cons, eq_comm]

theorem isRoot_query (amount amount' : Int) (f : Fingerprint) :
    (query amount').roots.isRoot f = (query amount).roots.isRoot f := by
  simp only [Roots.isRoot, amount?_query]
  split_ifs <;> rfl

theorem alike {amount amount' : Int} (h : amount < fullTrust) (h' : amount' < fullTrust) :
    (query amount).roots.Alike (query amount').roots := by
  refine ⟨isRoot_query amount amount', fun f => ?_⟩
  simp only [Roots.isFullyTrusted, amount?_query]
  split_ifs
  · rfl
  · simp [Root.isFullyTrusted, not_le.mpr h, not_le.mpr h']
  · rfl

end Detour

theorem Query.authenticate_of_alike_detour :
    (Detour.query 60).mode = .certification ∧
      (Detour.query 60).roots.Alike (Detour.query 90).roots ∧
      (Detour.query 90).authenticate ⟨"C"⟩ (.userId "carol@example.org") 100 =
        (Detour.query 60).authenticate ⟨"C"⟩ (.userId "carol@example.org") 100 :=
  have halike : (Detour.query 60).roots.Alike (Detour.query 90).roots :=
    Detour.alike (by decide) (by decide)
  ⟨rfl, halike, Query.authenticate_of_alike rfl halike ⟨"C"⟩ (.userId "carol@example.org") 100⟩

/-- In certification mode the amount of a root may decide about the paths and their total. -/
theorem Query.authenticate_reads_amount :
    (Detour.query 60).mode = .certification ∧
      (∀ f, (Detour.query 120).roots.isRoot f = (Detour.query 60).roots.isRoot f) ∧
      ((Detour.query 60).authenticate ⟨"C"⟩ (.userId "carol@example.org") 100).toOption.map
        (·.shown) = some [([⟨"B"⟩, ⟨"C"⟩], 60), ([⟨"A"⟩, ⟨"D"⟩, ⟨"E"⟩, ⟨"C"⟩], 100)] ∧
      ((Detour.query 120).authenticate ⟨"C"⟩ (.userId "carol@example.org") 100).toOption.map
        (·.shown) = some [([⟨"A"⟩, ⟨"D"⟩, ⟨"E"⟩, ⟨"C"⟩], 100)] :=
  ⟨rfl, Detour.isRoot_query 60 120, by cbv, by cbv⟩

/-! ## A further root -/

namespace Roots

/-- The roots and one more; of two with one fingerprint the new one counts. -/
def insert (roots : Roots) (root : Root) : Roots :=
  ⟨roots.amounts.put root.fingerprint root.amount⟩

variable {roots : Roots} {root : Root}

theorem amount?_insert (f : Fingerprint) :
    (roots.insert root).amount? f =
      if root.fingerprint = f then some root.amount else roots.amount? f :=
  Table.find?_put _ _ _ _

theorem isRoot_insert {f : Fingerprint} :
    (roots.insert root).isRoot f = true ↔ root.fingerprint = f ∨ roots.isRoot f = true := by
  rw [isRoot, isRoot, amount?_insert]
  split_ifs with h <;> simp [h]

theorem isFullyTrusted_insert_of_ne {f : Fingerprint} (h : root.fingerprint ≠ f) :
    (roots.insert root).isFullyTrusted f = roots.isFullyTrusted f := by
  rw [isFullyTrusted, isFullyTrusted, amount?_insert, if_neg h]

theorem isFullyTrusted_insert_self (hfull : root.isFullyTrusted = true) :
    (roots.insert root).isFullyTrusted root.fingerprint = true := by
  rw [isFullyTrusted, amount?_insert, if_pos rfl]
  exact hfull

end Roots

namespace Query

variable {q : Query} {root : Root} {f start : Fingerprint} {subject : Subject} {userId : String}
  {wanted : Int} {paths : Paths} {c : Chain}

/-- An authentication for a user ID gives paths exactly if some are wanted and a search is allowed,
the binding may be authenticated, and a root has an admissible chain. -/
theorem items_ne_nil_iff (hkeys : q.network.WellKeyed)
    (h : q.authenticate f (.userId userId) wanted = .ok paths) :
    paths.items ≠ [] ↔ (0 < wanted ∧ q.isSpent 0 = false) ∧ (∃ n, q.residual.Valid f userId n) ∧
      ∃ start, q.roots.isRoot start = true ∧
        ∃ c, (q.searchIn q.residual f (.userId userId)).Admissible start c := by
  have B := q.balanced_start
  have hzero : Paths.amount {} = 0 := rfl
  cases collects_of_authenticate hkeys h with
  | reached hreached =>
      rw [hzero] at hreached
      exact iff_of_false (by simp) fun hpaths => by omega
  | spent _ hspent => exact iff_of_false (by simp) fun hpaths => by simp [hspent] at hpaths
  | exhausted _ _ hreports hnone =>
      refine iff_of_false (by simp) ?_
      rintro ⟨-, ⟨n, hvalid⟩, start, hroot, c, hc⟩
      exact B.not_admissible_residual hkeys hvalid hreports hnone hroot hc
  | @add _ _ _ _ best _ _ _ hmissing hspent hreports hbest htake hadd hrest =>
      obtain ⟨hroot, hsound⟩ := B.sound hkeys hreports hbest
      obtain ⟨rfl, B'⟩ := B.recorded hkeys hreports hbest htake hadd
      have hnonempty : paths.items ≠ [] :=
        (hrest.preserves (P := fun ps => ps.items ≠ []) hkeys B' (by simp) fun _ _ _ _ _ _ _ => by
          simp).1
      have hvalid : ∃ n, q.residual.Valid f userId n := by
        rcases q.residual.validTarget?_cases f userId with ⟨n, -, hn⟩ | ⟨hnone, -⟩
        · exact ⟨n, hn⟩
        · rw [hreports.eq_nil hnone] at hbest
          cases hbest
      obtain ⟨c, hc, -⟩ := hsound.admissible
      exact iff_of_true hnonempty ⟨⟨hzero ▸ hmissing, hspent⟩, hvalid, best.start, hroot, c, hc⟩

/-- The query with one more root. -/
def withRoot (q : Query) (root : Root) : Query := { q with roots := q.roots.insert root }

theorem network_residual_withRoot (q : Query) (root : Root) :
    (q.withRoot root).residual.network = q.residual.network := by
  rw [network_residual, network_residual, withRoot]

@[simp] theorem mode_withRoot (q : Query) (root : Root) : (q.withRoot root).mode = q.mode := rfl

theorem takenFrom_residual (q : Query) (k : EdgeKey) : q.residual.takenFrom k = 0 :=
  q.balanced_start.taken k

section FullyTrusted

variable (hfull : root.isFullyTrusted = true)

include hfull

/-- No signature has less left because of a further root that is trusted outright. -/
theorem left_le_left_withRoot (s : Signature) :
    q.residual.left s ≤ (q.withRoot root).residual.left s := by
  have hamount : fullTrust ≤ root.amount := by simpa [Root.isFullyTrusted] using hfull
  have hcapped : q.residual.cappedAmount s ≤ (q.withRoot root).residual.cappedAmount s := by
    rw [cappedAmount_residual, cappedAmount_residual, mode_withRoot, withRoot, Roots.amount?_insert]
    cases q.mode with
    | certification => exact Int.le_refl _
    | authentication =>
        by_cases hissuer : root.fingerprint = s.issuer.fingerprint
        · have hle : min s.trust fullTrust ≤ root.amount := (Int.min_le_right _ _).trans hamount
          simp only [if_pos hissuer, Int.min_eq_left hle]
          cases q.roots.amount? s.issuer.fingerprint with
          | none => exact Int.le_refl _
          | some amount => exact Int.min_le_left _ _
        · rw [if_neg hissuer]
  simp only [Residual.left, takenFrom_residual]
  omega

/-- A chain stays admissible if it does not lead through the further root. -/
theorem admissible_withRoot (h : (q.searchIn q.residual f subject).Admissible start c)
    (havoids : ∀ s ∈ c.hops, s.target.fingerprint ≠ root.fingerprint) :
    ((q.withRoot root).searchIn (q.withRoot root).residual f subject).Admissible start c := by
  have hsupports : Search.Supports
      { q.searchIn q.residual f subject with roots := (q.withRoot root).roots } start c :=
    h.toSupports.of_roots fun s hs => by
      rw [withRoot, Roots.isFullyTrusted_insert_of_ne (havoids s hs).symm]
      exact h.passable s hs
  refine ⟨hsupports.of_residual (q.network_residual_withRoot root) (by simp [searchIn]),
    fun s hs => ?_⟩
  exact (h.trusted s hs).trans_le (left_le_left_withRoot hfull s)

/-- A further root that is the target has an admissible chain if it carries the user ID. -/
theorem admissible_own_withRoot (hkeys : q.network.WellKeyed) {own : Signature}
    (hown : q.residual.selfSignature? root.fingerprint subject = some own) :
    ((q.withRoot root).searchIn (q.withRoot root).residual root.fingerprint subject).Admissible
      root.fingerprint ⟨[], some own⟩ := by
  have hamount : fullTrust ≤ root.amount := by simpa [Root.isFullyTrusted] using hfull
  have hisOwn := Residual.isOwn_of_selfSignature? (by simpa using hkeys) hown
  have hleft : (q.withRoot root).residual.left own = fullTrust := by
    have hcapped : (q.withRoot root).residual.cappedAmount own = fullTrust := by
      rw [cappedAmount_residual, withRoot, Roots.amount?_insert, if_pos hisOwn.issuer.symm,
        hisOwn.trust, Int.min_self]
      split
      · next hroot => exact Int.min_eq_left (Option.some.inj hroot ▸ hamount)
      · rfl
    rw [Residual.left, hcapped, takenFrom_residual]
    rfl
  refine ⟨⟨by simp, rfl, fun s hs => ?_, by simp, by simp, by simp, fun _ => by simp [LeavesRoom],
    by simp⟩, fun s hs => ?_⟩
  · obtain rfl := Option.some.inj hs
    rw [← hown, searchIn, Residual.selfSignature?_of_network (q.network_residual_withRoot root)]
  · obtain rfl : s = own := by simpa [Chain.signatures] using hs
    rw [searchIn, hleft]
    decide

/-- If a root has an admissible chain then there is one with a further root as well, except where
that is the target and does not carry the user ID. -/
theorem exists_admissible_withRoot (hkeys : q.network.WellKeyed)
    (hown : root.fingerprint = f → ∃ own, q.residual.selfSignature? f subject = some own)
    (hroot : q.roots.isRoot start = true)
    (h : (q.searchIn q.residual f subject).Admissible start c) :
    ∃ start', (q.withRoot root).roots.isRoot start' = true ∧ ∃ c',
      ((q.withRoot root).searchIn (q.withRoot root).residual f subject).Admissible start' c' := by
  by_cases hvisited : ∃ s ∈ c.hops, s.target.fingerprint = root.fingerprint
  · have hnew : (q.withRoot root).roots.isRoot root.fingerprint = true :=
      Roots.isRoot_insert.mpr (.inl rfl)
    refine ⟨root.fingerprint, hnew, ?_⟩
    by_cases htarget : root.fingerprint = f
    · obtain ⟨own, hself⟩ := hown htarget
      subst htarget
      exact ⟨_, admissible_own_withRoot hfull hkeys hself⟩
    · -- The rest of the chain starts at the further root and does not come back to it.
      obtain ⟨s, hs, hsame⟩ := hvisited
      obtain ⟨onward, honward⟩ := h.exists_from hs (hsame ▸ htarget)
      rw [hsame] at honward
      refine ⟨_, admissible_withRoot hfull honward fun t ht hback => ?_⟩
      exact (List.nodup_cons.mp honward.simple).1 (List.mem_map.mpr ⟨t, ht, hback⟩)
  · have havoids : ∀ s ∈ c.hops, s.target.fingerprint ≠ root.fingerprint :=
      fun s hs hsame => hvisited ⟨s, hs, hsame⟩
    exact ⟨start, Roots.isRoot_insert.mpr (.inr hroot), c, admissible_withRoot hfull h havoids⟩

/-- With a further root that is trusted outright, an authentication for a user ID that gave paths
gives paths still, except where that root is the target and does not carry the user ID. -/
theorem authenticate_withRoot (hkeys : q.network.WellKeyed) (hsearchable : q.network.Searchable)
    (f : Fingerprint) (userId : String) (wanted : Int) :
    ∃ paths paths', q.authenticate f (.userId userId) wanted = .ok paths ∧
      (q.withRoot root).authenticate f (.userId userId) wanted = .ok paths' ∧
      (paths.items ≠ [] → (paths'.items ≠ [] ↔
        (root.fingerprint = f → ∃ n, q.network.node? f = some n ∧
          n.userIds.contains userId = true))) := by
  obtain ⟨paths, hpaths⟩ := exists_authenticate hkeys hsearchable f userId wanted
  obtain ⟨paths', hpaths'⟩ :=
    exists_authenticate (q := q.withRoot root) hkeys hsearchable f userId wanted
  refine ⟨paths, paths', hpaths, hpaths', fun hitems => ?_⟩
  obtain ⟨hwanted, ⟨n, hvalid⟩, start, hroot, c, hc⟩ := (items_ne_nil_iff hkeys hpaths).mp hitems
  have hown : (∃ own, q.residual.selfSignature? f (.userId userId) = some own) ↔
      ∃ n, q.network.node? f = some n ∧ n.userIds.contains userId = true := by
    rw [Residual.exists_selfSignature?_iff, network_residual]
  rw [items_ne_nil_iff (q := q.withRoot root) hkeys hpaths', ← hown]
  constructor
  · rintro ⟨-, -, start', -, c', hc'⟩ rfl
    rw [← Residual.selfSignature?_of_network (q.network_residual_withRoot root)]
    exact hc'.exists_own (Roots.isFullyTrusted_insert_self hfull)
  · intro hcarries
    exact ⟨hwanted, ⟨n, hvalid.of_network (q.network_residual_withRoot root)⟩,
      exists_admissible_withRoot hfull hkeys hcarries hroot hc⟩

end FullyTrusted

end Query

/-- `B`, over which one of the two chains leads, becomes a root. -/
theorem Query.authenticate_withRoot_introduction :
    Root.isFullyTrusted ⟨⟨"B"⟩, 150⟩ = true ∧ Introduction.query.network.WellKeyed ∧
      Introduction.query.network.Searchable ∧
      ∃ paths paths',
        Introduction.query.authenticate ⟨"C"⟩ (.userId "carol@example.org") fullTrust = .ok paths ∧
        (Introduction.query.withRoot ⟨⟨"B"⟩, 150⟩).authenticate ⟨"C"⟩ (.userId "carol@example.org")
          fullTrust = .ok paths' ∧
        paths.shown = [([⟨"A"⟩, ⟨"C"⟩], 30), ([⟨"A"⟩, ⟨"B"⟩, ⟨"C"⟩], 60)] ∧ paths'.items ≠ [] := by
  have hfull : Root.isFullyTrusted ⟨⟨"B"⟩, 150⟩ = true := by decide
  have hpassed : (Introduction.query.authenticate ⟨"C"⟩ (.userId "carol@example.org")
      fullTrust).toOption.map (·.shown) =
        some [([⟨"A"⟩, ⟨"C"⟩], 30), ([⟨"A"⟩, ⟨"B"⟩, ⟨"C"⟩], 60)] := by
    cbv
  obtain ⟨paths, paths', hpaths, hpaths', hkept⟩ := Query.authenticate_withRoot
    (q := Introduction.query) hfull Introduction.wellKeyed Introduction.searchable ⟨"C"⟩
    "carol@example.org" fullTrust
  have hshown : paths.shown = [([⟨"A"⟩, ⟨"C"⟩], 30), ([⟨"A"⟩, ⟨"B"⟩, ⟨"C"⟩], 60)] := by
    simpa [hpaths, Except.toOption] using hpassed
  have hitems : paths.items ≠ [] := by
    intro hnil
    simp [Paths.shown, hnil] at hshown
  exact ⟨hfull, Introduction.wellKeyed, Introduction.searchable, paths, paths', hpaths, hpaths',
    hshown, (hkept hitems).mpr fun htarget => absurd htarget (by decide)⟩

/-! ### A root that does not carry the user ID

`A` certifies a user ID that `C` does not carry. -/

namespace Uncarried

def direct : Signature := { Introduction.direct with target := { fingerprint := ⟨"C"⟩ } }

def query : Query where
  network := ((({} : Builder).addNode { fingerprint := ⟨"C"⟩ }).1.addSignature direct).build
    Introduction.moment
  roots := ⟨[(⟨"A"⟩, fullTrust)]⟩

end Uncarried

/-- A further root that is trusted outright may take all paths away. -/
theorem Query.authenticate_lost_withRoot :
    (Uncarried.query.authenticate ⟨"C"⟩ (.userId "carol@example.org") fullTrust).toOption.map
        (·.shown) = some [([⟨"A"⟩, ⟨"C"⟩], 30)] ∧
      Uncarried.query.roots.isRoot ⟨"C"⟩ = false ∧
      Root.isFullyTrusted ⟨⟨"C"⟩, fullTrust⟩ = true ∧
      (Uncarried.query.withRoot ⟨⟨"C"⟩, fullTrust⟩).authenticate ⟨"C"⟩
        (.userId "carol@example.org") fullTrust = .ok {} :=
  ⟨by cbv, by decide, by decide, by cbv⟩

end TrustWeb
