import TrustWeb.Proofs.Authentication.Balance

/-! # Runs of an authentication

An authentication for a user ID ends without a fault if the scopes can be searched. It stops because
the wanted amount is reached, because the allowed searches are made, or because no root reports a
path: every recorded path takes some of what the edges, and the target's own certification, can
carry, and that is limited. -/

namespace TrustWeb

theorem Candidate.mem_of_best? {cs : List Candidate} {best : Candidate}
    (h : Candidate.best? cs = some best) : best ∈ cs := by
  cases cs with
  | nil => cases h
  | cons c rest =>
      have hfold : ∀ (c : Candidate) (rest : List Candidate),
          rest.foldl (fun best d => if d.better best then d else best) c ∈ c :: rest := by
        intro c rest
        induction rest generalizing c with
        | nil => simp
        | cons d rest ih =>
            simp only [List.foldl_cons]
            split
            · exact List.mem_cons_of_mem _ (ih d)
            · rcases List.mem_cons.mp (ih c) with he | hmem
              · exact List.mem_cons.mpr (.inl he)
              · exact List.mem_cons_of_mem _ (List.mem_cons_of_mem _ hmem)
      simp only [Candidate.best?, Option.some.injEq] at h
      exact h ▸ hfold c rest

namespace Query

/-- The best of the candidates that start at roots. -/
def bestOf? (q : Query) (found : List Candidate) : Option Candidate :=
  Candidate.best? (found.filter fun c => q.roots.isRoot c.start)

/-- A run of an authentication, told without fuel, from a number of searches, a residual and the
paths recorded so far to the paths that it ends with. -/
inductive Collects (q : Query) (f : Fingerprint) (subject : Subject) (wanted : Int) :
    Nat → Residual → Paths → Paths → Prop where
  | reached {searches r ps} (h : wanted ≤ ps.amount) :
      Collects q f subject wanted searches r ps ps
  | spent {searches r ps} (h : ps.amount < wanted) (hspent : q.isSpent searches = true) :
      Collects q f subject wanted searches r ps ps
  | exhausted {searches r ps found} (h : ps.amount < wanted) (hspent : q.isSpent searches = false)
      (hreports : (q.searchIn r f subject).Reports found) (hnone : q.bestOf? found = none) :
      Collects q f subject wanted searches r ps ps
  | add {searches r ps found best r' ps' last} (h : ps.amount < wanted)
      (hspent : q.isSpent searches = false) (hreports : (q.searchIn r f subject).Reports found)
      (hbest : q.bestOf? found = some best) (htake : r.take best.path best.amount = (r', none))
      (hadd : ps.add best.path best.amount = .ok ps')
      (hrest : Collects q f subject wanted (searches + 1) r' ps' last) :
      Collects q f subject wanted searches r ps last

variable {q : Query} {r : Residual} {ps last : Paths} {f : Fingerprint} {subject : Subject}
  {wanted : Int} {searches fuel : Nat} {best : Candidate}

/-! ## One search -/

theorem Balanced.wellKeyed (B : q.Balanced r ps) (hkeys : q.network.WellKeyed) :
    (q.searchIn r f subject).residual.network.WellKeyed := by
  rw [searchIn, B.network]
  exact hkeys

theorem Balanced.sound (B : q.Balanced r ps) (hkeys : q.network.WellKeyed) {found : List Candidate}
    (hreports : (q.searchIn r f subject).Reports found) (hbest : q.bestOf? found = some best) :
    q.roots.isRoot best.start = true ∧ (q.searchIn r f subject).Sound best := by
  obtain ⟨hmem, hroot⟩ := List.mem_filter.mp (Candidate.mem_of_best? hbest)
  exact ⟨hroot, (hreports.sound (B.wellKeyed hkeys) hmem).1⟩

/-- Taking and recording the best candidate keeps the balance. -/
theorem Balanced.recorded (B : q.Balanced r ps) (hkeys : q.network.WellKeyed)
    {found : List Candidate} {r' : Residual} {ps' : Paths}
    (hreports : (q.searchIn r f subject).Reports found) (hbest : q.bestOf? found = some best)
    (htake : r.take best.path best.amount = (r', none))
    (hadd : ps.add best.path best.amount = .ok ps') :
    ps' = ⟨ps.items ++ [⟨best.path, best.amount⟩]⟩ ∧ q.Balanced r' ps' := by
  obtain ⟨r'', htake', hadd', B'⟩ := B.step hkeys (B.sound hkeys hreports hbest).2
  obtain ⟨rfl, -⟩ := Prod.mk.inj (htake'.symm.trans htake)
  obtain rfl := Except.ok.inj (hadd'.symm.trans hadd)
  exact ⟨rfl, B'⟩

theorem Balanced.reports_of_bestFrom (B : q.Balanced r ps) (hkeys : q.network.WellKeyed)
    {found? : Option Candidate} (h : q.bestFrom r f subject = .ok found?) :
    ∃ found, (q.searchIn r f subject).Reports found ∧ q.bestOf? found = found? := by
  unfold bestFrom at h
  cases hfound : (q.searchIn r f subject).candidates with
  | error fault =>
      simp only [searchIn] at hfound
      simp [hfound, Except.map] at h
  | ok found =>
      refine ⟨found, Search.reports_of_candidates (B.wellKeyed hkeys) hfound, ?_⟩
      simp only [searchIn] at hfound
      simpa [hfound, Except.map, bestOf?] using h

theorem Balanced.exists_bestFrom (B : q.Balanced r ps) (hkeys : q.network.WellKeyed)
    (hsearchable : q.network.Searchable) (userId : String) :
    ∃ found?, q.bestFrom r f (.userId userId) = .ok found? := by
  obtain ⟨found, hfound⟩ := Search.exists_candidates (q := q.searchIn r f (.userId userId))
    (B.wellKeyed hkeys) (by rw [searchIn, B.network]; exact hsearchable) rfl
  simp only [searchIn] at hfound
  exact ⟨_, by rw [bestFrom, hfound]; rfl⟩

/-! ## What is left for further paths -/

/-- What the edges and the target's own certification can still carry together. -/
def capacity (q : Query) (f : Fingerprint) (ps : Paths) : Int :=
  (((f, f) :: q.network.edges.keys).map fun k => fullTrust - ps.carried k).sum

theorem capacity_start (q : Query) (f : Fingerprint) : q.capacity f {} < q.searchBound := by
  have hsum : q.capacity f {} = fullTrust * (q.network.edges.length + 1) := by
    simp [capacity, Paths.carried, Table.keys, Function.comp_def, Int.mul_add, add_comm,
      Int.mul_comm]
  rw [hsum, searchBound, fullTrust]
  push_cast
  omega

theorem Balanced.capacity_nonneg (B : q.Balanced r ps) : 0 ≤ q.capacity f ps := by
  refine List.sum_nonneg fun left hleft => ?_
  obtain ⟨k, -, rfl⟩ := List.mem_map.mp hleft
  have := B.within k
  omega

/-- A sound candidate takes from some edge. -/
theorem Balanced.capacity_lt (B : q.Balanced r ps) (hkeys : q.network.WellKeyed)
    (hsound : (q.searchIn r f subject).Sound best) :
    q.capacity f ⟨ps.items ++ [⟨best.path, best.amount⟩]⟩ < q.capacity f ps := by
  obtain ⟨c, hc, hsignatures⟩ := hsound.chain
  obtain ⟨s, hs⟩ := List.exists_mem_of_ne_nil _ hc.signatures_ne_nil
  have hpositive := hsound.positive
  have hkey := hc.endpoints_mem (B.wellKeyed hkeys) hs
  simp only [searchIn, B.network] at hkey
  refine List.sum_lt_sum _ _ (fun k _ => ?_) ⟨s.endpoints, hkey, ?_⟩
  · rw [Paths.carried_concat]
    split <;> omega
  · rw [Paths.carried_concat, if_pos (List.mem_map_of_mem (hsignatures ▸ hs))]
    omega

/-! ## All searches -/

theorem exists_collect (hkeys : q.network.WellKeyed) (hsearchable : q.network.Searchable)
    (userId : String) (B : q.Balanced r ps) :
    ∃ last, q.collect f (.userId userId) wanted fuel searches r ps = .ok last := by
  induction fuel generalizing searches r ps with
  | zero => exact ⟨ps, rfl⟩
  | succ fuel ih =>
      simp only [collect]
      split
      · exact ⟨ps, rfl⟩
      · obtain ⟨found?, hbestFrom⟩ := B.exists_bestFrom (f := f) hkeys hsearchable userId
        rw [hbestFrom]
        cases found? with
        | none => exact ⟨ps, rfl⟩
        | some best =>
            obtain ⟨found, hreports, hbest⟩ := B.reports_of_bestFrom hkeys hbestFrom
            obtain ⟨r', htake, hadd, B'⟩ := B.step hkeys (B.sound hkeys hreports hbest).2
            simp only [htake, hadd]
            exact ih B'

/-- There is enough fuel for as long as there is capacity. -/
theorem collects_of_collect (hkeys : q.network.WellKeyed) (B : q.Balanced r ps)
    (hfuel : q.capacity f ps < fuel)
    (h : q.collect f subject wanted fuel searches r ps = .ok last) :
    q.Collects f subject wanted searches r ps last := by
  induction fuel generalizing searches r ps with
  | zero =>
      have := B.capacity_nonneg (f := f)
      omega
  | succ fuel ih =>
      simp only [collect] at h
      by_cases hreached : wanted ≤ ps.amount
      · obtain rfl : ps = last := by simpa [hreached] using h
        exact .reached hreached
      · have hmissing : ps.amount < wanted := not_le.mp hreached
        cases hspent : q.isSpent searches with
        | true =>
            obtain rfl : ps = last := by simpa [hspent] using h
            exact .spent hmissing hspent
        | false =>
            simp only [hspent, ge_iff_le, hreached, decide_false, Bool.or_self, Bool.false_eq_true,
              if_false] at h
            cases hbestFrom : q.bestFrom r f subject with
            | error fault => simp [hbestFrom] at h
            | ok found? =>
                obtain ⟨found, hreports, hbest⟩ := B.reports_of_bestFrom hkeys hbestFrom
                cases found? with
                | none =>
                    obtain rfl : ps = last := by simpa [hbestFrom] using h
                    exact .exhausted hmissing hspent hreports hbest
                | some best =>
                    have hsound := (B.sound hkeys hreports hbest).2
                    obtain ⟨r', htake, hadd, B'⟩ := B.step hkeys hsound
                    simp only [hbestFrom, htake, hadd] at h
                    have hless := B.capacity_lt hkeys hsound
                    exact .add hmissing hspent hreports hbest htake hadd (ih B' (by omega) h)

/-- What recording the best of the reported candidates preserves holds of the paths in the end. -/
theorem Collects.preserves_of_reports {P : Paths → Prop}
    (h : q.Collects f subject wanted searches r ps last) (hkeys : q.network.WellKeyed)
    (B : q.Balanced r ps) (hstart : P ps)
    (hstep : ∀ r ps found best, q.Balanced r ps → P ps → (q.searchIn r f subject).Reports found →
      q.bestOf? found = some best → P ⟨ps.items ++ [⟨best.path, best.amount⟩]⟩) :
    P last ∧ ∃ r', q.Balanced r' last := by
  induction h with
  | reached _ => exact ⟨hstart, _, B⟩
  | spent _ _ => exact ⟨hstart, _, B⟩
  | exhausted _ _ _ _ => exact ⟨hstart, _, B⟩
  | add _ _ hreports hbest htake hadd _ ih =>
      obtain ⟨rfl, B'⟩ := B.recorded hkeys hreports hbest htake hadd
      exact ih B' (hstep _ _ _ _ B hstart hreports hbest)

/-- What every sound candidate from a root preserves holds of the paths in the end. -/
theorem Collects.preserves {P : Paths → Prop} (h : q.Collects f subject wanted searches r ps last)
    (hkeys : q.network.WellKeyed) (B : q.Balanced r ps) (hstart : P ps)
    (hstep : ∀ r ps best, q.Balanced r ps → P ps → q.roots.isRoot best.start = true →
      (q.searchIn r f subject).Sound best → P ⟨ps.items ++ [⟨best.path, best.amount⟩]⟩) :
    P last ∧ ∃ r', q.Balanced r' last := by
  refine h.preserves_of_reports hkeys B hstart fun r ps found best B hps hreports hbest => ?_
  obtain ⟨hroot, hsound⟩ := B.sound hkeys hreports hbest
  exact hstep r ps best B hps hroot hsound

/-- What is true of each best candidate, recorded, is true of all paths in the end. -/
theorem Collects.forall_items {P : PathItem → Prop}
    (h : q.Collects f subject wanted searches r ps last) (hkeys : q.network.WellKeyed)
    (B : q.Balanced r ps) (hps : ∀ i ∈ ps.items, P i)
    (hbest : ∀ r ps found best, q.Balanced r ps → (q.searchIn r f subject).Reports found →
      q.bestOf? found = some best → P ⟨best.path, best.amount⟩) : ∀ i ∈ last.items, P i := by
  refine (h.preserves_of_reports (P := fun ps => ∀ i ∈ ps.items, P i) hkeys B hps ?_).1
  intro r ps found best B hps hreports hfound i hi
  rcases List.mem_append.mp hi with hi | hi
  · exact hps i hi
  · obtain rfl : i = ⟨best.path, best.amount⟩ := by simpa using hi
    exact hbest r ps found best B hreports hfound

theorem collects_of_authenticate (hkeys : q.network.WellKeyed)
    (h : q.authenticate f subject wanted = .ok last) :
    q.Collects f subject wanted 0 q.residual {} last :=
  collects_of_collect hkeys q.balanced_start (q.capacity_start f) h

theorem exists_authenticate (hkeys : q.network.WellKeyed) (hsearchable : q.network.Searchable)
    (f : Fingerprint) (userId : String) (wanted : Int) :
    ∃ paths, q.authenticate f (.userId userId) wanted = .ok paths :=
  exists_collect hkeys hsearchable userId q.balanced_start

/-- If the scopes can be searched, an authentication for a user ID gives paths without a fault, and
they are those of a run to the end. -/
theorem authenticate_total (q : Query) (hkeys : q.network.WellKeyed)
    (hsearchable : q.network.Searchable) (f : Fingerprint) (userId : String) (wanted : Int) :
    ∃ paths, q.authenticate f (.userId userId) wanted = .ok paths ∧
      q.Collects f (.userId userId) wanted 0 q.residual {} paths := by
  obtain ⟨paths, hpaths⟩ := exists_authenticate hkeys hsearchable f userId wanted
  exact ⟨paths, hpaths, collects_of_authenticate hkeys hpaths⟩

end Query

namespace Introduction

/-- An authentication from `A`, without a bound on the searches. -/
def query : Query where
  network := network
  roots := ⟨[(⟨"A"⟩, fullTrust)]⟩

end Introduction

/-- The wanted amount of full trust is out of reach there. -/
theorem Query.authenticate_total_introduction :
    Introduction.query.network.WellKeyed ∧ Introduction.query.network.Searchable ∧
      ∃ paths, Introduction.query.authenticate ⟨"C"⟩ (.userId "carol@example.org") fullTrust =
          .ok paths ∧
        Introduction.query.Collects ⟨"C"⟩ (.userId "carol@example.org") fullTrust 0
          Introduction.query.residual {} paths :=
  ⟨Introduction.wellKeyed, Introduction.searchable,
    Query.authenticate_total Introduction.query Introduction.wellKeyed Introduction.searchable
      ⟨"C"⟩ "carol@example.org" fullTrust⟩

end TrustWeb
