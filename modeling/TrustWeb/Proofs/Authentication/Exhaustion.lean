import TrustWeb.Proofs.Authentication.Run

/-! # What an authentication leaves over

An authentication collects no path more than it needs: without the last one the wanted amount is not
reached. It stops short of the wanted amount, and of the number of searches that it is allowed, only
when the recorded paths have used up every chain from a root to the binding. -/

namespace TrustWeb

namespace Query

variable {q : Query} {r : Residual} {ps last : Paths} {f start : Fingerprint} {subject : Subject}
  {wanted : Int} {searches : Nat} {c : Chain}

/-! ## What recorded paths leave over -/

/-- The residual at the start, less what each recorded path contributes over each of its edges. -/
def leftOver (q : Query) (ps : Paths) : Residual :=
  { q.residual with
    taken := (ps.items.flatMap fun i => i.path.signatures.map (·.endpoints)).map fun k =>
      (k, ps.carried k) }

theorem takenFrom_leftOver (q : Query) (ps : Paths) (k : EdgeKey) :
    (q.leftOver ps).takenFrom k = ps.carried k := by
  rw [Residual.takenFrom, leftOver, Table.find?_map]
  split
  · rfl
  · next h =>
      rw [Paths.carried_of_not_used fun i hi hk => h (List.mem_flatMap.mpr ⟨i, hi, hk⟩)]
      rfl

/-- The residual between two searches has left what the recorded paths leave over. -/
theorem Balanced.left_eq (B : q.Balanced r ps) (s : Signature) :
    r.left s = (q.leftOver ps).left s := by
  refine Residual.left_congr (B.cappedAmount s) ?_
  rw [B.taken, takenFrom_leftOver]

theorem Balanced.admissible (B : q.Balanced r ps)
    (h : (q.searchIn (q.leftOver ps) f subject).Admissible start c) :
    (q.searchIn r f subject).Admissible start c := by
  obtain ⟨taken, hr⟩ := B.residual
  refine ⟨h.toSupports.of_residual (by rw [hr]; rfl) (by rw [hr]; rfl), fun s hs => ?_⟩
  rw [searchIn, B.left_eq]
  exact h.trusted s hs

/-! ## How a run ends -/

theorem isRoot_of_bestOf?_eq_none {found : List Candidate} (h : q.bestOf? found = none)
    {best : Candidate} (hbest : best ∈ found) : q.roots.isRoot best.start = false := by
  unfold bestOf? at h
  cases hroots : found.filter fun c => q.roots.isRoot c.start with
  | nil => simpa using List.filter_eq_nil_iff.mp hroots best hbest
  | cons c rest => simp [hroots, Candidate.best?] at h

/-- No root reports a path to a binding that may be authenticated: none has an admissible chain. -/
theorem Balanced.not_admissible_residual (B : q.Balanced r ps) (hkeys : q.network.WellKeyed)
    {userId : String} {n : Node} (hvalid : q.residual.Valid f userId n) {found : List Candidate}
    (hreports : (q.searchIn r f (.userId userId)).Reports found) (hnone : q.bestOf? found = none)
    (hroot : q.roots.isRoot start = true) :
    ¬(q.searchIn r f (.userId userId)).Admissible start c := by
  intro h
  obtain ⟨taken, rfl⟩ := B.residual
  rcases Residual.validTarget?_cases { q.residual with taken } f userId with
    ⟨m, hm, -⟩ | ⟨-, hinvalid⟩
  · obtain ⟨best, hbest, rfl⟩ := hreports.complete (B.wellKeyed hkeys) hm (.inr hroot) h
    simp [isRoot_of_bestOf?_eq_none hnone hbest] at hroot
  · exact hinvalid n ⟨hvalid.known, hvalid.unexpired, hvalid.unrevoked, hvalid.carried⟩

theorem Balanced.not_admissible (B : q.Balanced r ps) (hkeys : q.network.WellKeyed)
    {userId : String} {n : Node} (hvalid : q.residual.Valid f userId n) {found : List Candidate}
    (hreports : (q.searchIn r f (.userId userId)).Reports found) (hnone : q.bestOf? found = none)
    (hroot : q.roots.isRoot start = true) :
    ¬(q.searchIn (q.leftOver ps) f (.userId userId)).Admissible start c :=
  fun h => B.not_admissible_residual hkeys hvalid hreports hnone hroot (B.admissible h)

/-- Without its last path a collection does not have the wanted amount. -/
def NeedsLast (ps : Paths) (wanted : Int) : Prop :=
  ps.items ≠ [] → Paths.amount ⟨ps.items.dropLast⟩ < wanted

/-- A run ends with the wanted amount, with as many paths as searches are allowed, or with nothing
left over for a root. -/
theorem Collects.ends {userId : String}
    (h : q.Collects f (.userId userId) wanted searches r ps last) (hkeys : q.network.WellKeyed)
    (B : q.Balanced r ps) (hsearches : searches = ps.items.length) (hlast : NeedsLast ps wanted) :
    NeedsLast last wanted ∧ (wanted ≤ last.amount ∨ q.isSpent last.items.length = true ∨
      ∀ n, q.residual.Valid f userId n → ∀ start, q.roots.isRoot start = true → ∀ c,
        ¬(q.searchIn (q.leftOver last) f (.userId userId)).Admissible start c) := by
  induction h with
  | reached hreached => exact ⟨hlast, .inl hreached⟩
  | spent _ hspent => exact ⟨hlast, .inr (.inl (hsearches ▸ hspent))⟩
  | exhausted _ _ hreports hnone =>
      exact ⟨hlast, .inr (.inr fun n hvalid start hroot c =>
        B.not_admissible hkeys hvalid hreports hnone hroot)⟩
  | add hmissing _ hreports hbest htake hadd _ ih =>
      obtain ⟨rfl, B'⟩ := B.recorded hkeys hreports hbest htake hadd
      refine ih B' (by simp [hsearches]) fun _ => ?_
      rw [List.dropLast_concat]
      exact hmissing

/-- An authentication for a user ID gives paths the last of which is needed for the wanted amount. If
the binding may be authenticated, and the paths have less than the wanted amount and are fewer than
the searches allowed, then they leave over no chain from a root. -/
theorem authenticate_maximal (hkeys : q.network.WellKeyed) (hsearchable : q.network.Searchable)
    (f : Fingerprint) (userId : String) (wanted : Int) :
    ∃ paths, q.authenticate f (.userId userId) wanted = .ok paths ∧
      (paths.items ≠ [] → Paths.amount ⟨paths.items.dropLast⟩ < wanted) ∧
      ((∃ n, q.residual.Valid f userId n) → paths.amount < wanted →
        (∀ most, q.maxSearches = some most → (paths.items.length : Int) < most) →
          ∀ start, q.roots.isRoot start = true → ∀ c,
            ¬(q.searchIn (q.leftOver paths) f (.userId userId)).Admissible start c) := by
  obtain ⟨paths, hpaths⟩ := exists_authenticate hkeys hsearchable f userId wanted
  have hcollects := collects_of_authenticate hkeys hpaths
  obtain ⟨hlast, hends⟩ := hcollects.ends hkeys q.balanced_start rfl fun h => (h rfl).elim
  refine ⟨paths, hpaths, hlast, fun ⟨n, hvalid⟩ hless hfewer => ?_⟩
  rcases hends with hreached | hspent | hexhausted
  · exact absurd hreached (not_le.mpr hless)
  · unfold isSpent at hspent
    cases hmost : q.maxSearches with
    | none => simp [hmost] at hspent
    | some most =>
        have := hfewer most hmost
        simp only [hmost, ge_iff_le, decide_eq_true_eq] at hspent
        omega
  · exact hexhausted n hvalid

end Query

theorem Query.authenticate_maximal_introduction :
    Introduction.query.network.WellKeyed ∧ Introduction.query.network.Searchable ∧
      Introduction.query.residual.Valid ⟨"C"⟩ "carol@example.org" Introduction.carol ∧
      ∃ paths, Introduction.query.authenticate ⟨"C"⟩ (.userId "carol@example.org") fullTrust =
          .ok paths ∧
        paths.items.map (·.amount) = [30, 60] ∧
        ∀ start, Introduction.query.roots.isRoot start = true → ∀ c,
          ¬(Introduction.query.searchIn (Introduction.query.leftOver paths) ⟨"C"⟩
            (.userId "carol@example.org")).Admissible start c := by
  have hvalid : Introduction.query.residual.Valid ⟨"C"⟩ "carol@example.org" Introduction.carol := by
    refine ⟨?_, ?_, ?_, ?_⟩ <;> rw [Query.network_residual]
    · rfl
    · rfl
    · rfl
    · decide
  have hamounts : (Introduction.query.authenticate ⟨"C"⟩ (.userId "carol@example.org")
      fullTrust).toOption.map (·.items.map (·.amount)) = some [30, 60] := by cbv
  obtain ⟨paths, hpaths, -, hmaximal⟩ := Query.authenticate_maximal (q := Introduction.query)
    Introduction.wellKeyed Introduction.searchable ⟨"C"⟩ "carol@example.org" fullTrust
  have hitems : paths.items.map (·.amount) = [30, 60] := by
    simpa [hpaths, Except.toOption] using hamounts
  have hless : paths.amount < fullTrust := by
    rw [Paths.amount, ← List.foldl_map, hitems]
    decide
  exact ⟨Introduction.wellKeyed, Introduction.searchable, hvalid, paths, hpaths, hitems,
    hmaximal ⟨_, hvalid⟩ hless fun most hmost => by cases hmost⟩

/-! ## An expired certificate

`A` certifies a user ID of `C`, which is expired. -/

namespace Expired

def carol : Node := { Introduction.carol with expires := some Introduction.moment }

def direct : Signature := { Introduction.direct with target := carol }

def query : Query where
  network := ((({} : Builder).addNode carol).1.addSignature direct).build Introduction.moment
  roots := ⟨[(⟨"A"⟩, fullTrust)]⟩

def search : Search :=
  query.searchIn (query.leftOver {}) ⟨"C"⟩ (.userId "carol@example.org")

theorem admissible_direct : search.Admissible ⟨"A"⟩ ⟨[direct], none⟩ where
  known := by
    have hnetwork : search.residual.network = query.network :=
      query.network_residual
    rw [hnetwork]
    decide
  connected := ⟨rfl, rfl⟩
  closes := by simp
  certifies := fun _ => ⟨direct, rfl, by decide⟩
  passable := by decide
  covered := by
    intro s hs _
    obtain rfl : s = direct := by simpa using hs
    rfl
  deep := fun _ i s _ hi => by simp at hi
  simple := by decide
  trusted := by
    have hleft : search.residual.left direct = 30 := by cbv
    intro s hs
    obtain rfl : s = direct := by simpa [Chain.signatures] using hs
    rw [hleft]
    decide

end Expired

/-- Where the target is expired, an authentication without a bound on the searches may give less than
the wanted amount and leave over a chain from a root. -/
theorem Query.authenticate_leaves_chain_to_expired :
    Expired.query.authenticate ⟨"C"⟩ (.userId "carol@example.org") fullTrust = .ok {} ∧
      Paths.amount {} < fullTrust ∧ Expired.query.maxSearches = none ∧
      Expired.query.roots.isRoot ⟨"A"⟩ = true ∧
      (Expired.query.searchIn (Expired.query.leftOver {}) ⟨"C"⟩
        (.userId "carol@example.org")).Admissible ⟨"A"⟩ ⟨[Expired.direct], none⟩ :=
  ⟨by cbv, by decide, rfl, by decide, Expired.admissible_direct⟩

end TrustWeb
