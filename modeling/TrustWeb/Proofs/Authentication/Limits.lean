import TrustWeb.Proofs.Authentication.Run

/-! # Authentications with narrower limits

The wanted amount and the bound on the searches say only when an authentication stops. Until then it
looks at the same residuals and records the same paths, whatever its limits. With narrower limits it
gives the first of the paths that wider ones give, and misses the others only because it has the
wanted amount or has made all searches. -/

namespace TrustWeb

namespace Query

/-- The query with another bound on the searches. -/
def within (q : Query) (most : Option Int) : Query := { q with maxSearches := most }

/-- The first bound allows no more searches than the second one; without a bound any number is
allowed. -/
def NoWider (fewer more : Option Int) : Prop :=
  ∀ most, more = some most → ∃ least, fewer = some least ∧ least ≤ most

variable {q : Query} {r r' r'' : Residual} {ps ps' ps'' last last' : Paths} {f : Fingerprint}
  {subject : Subject} {wanted few many : Int} {fewer more : Option Int} {searches fuel : Nat}

theorem isSpent_within_iff :
    (q.within fewer).isSpent searches = true ↔ ∃ most, fewer = some most ∧ most ≤ searches := by
  cases fewer with
  | none => simp [isSpent, within]
  | some most => simp [isSpent, within]

theorem NoWider.isSpent (h : NoWider fewer more)
    (hspent : (q.within more).isSpent searches = true) :
    (q.within fewer).isSpent searches = true := by
  obtain ⟨most, hmore, hmost⟩ := isSpent_within_iff.mp hspent
  obtain ⟨least, hfewer, hle⟩ := h most hmore
  exact isSpent_within_iff.mpr ⟨least, hfewer, hle.trans hmost⟩

/-! ## One search -/

/-- The search in a residual reports a best candidate, which is taken and recorded. -/
def Records (q : Query) (f : Fingerprint) (subject : Subject) (r : Residual) (ps : Paths)
    (r' : Residual) (ps' : Paths) : Prop :=
  ∃ best, q.bestFrom r f subject = .ok (some best) ∧ r.take best.path best.amount = (r', none) ∧
    ps.add best.path best.amount = .ok ps'

theorem Records.unique (h : q.Records f subject r ps r' ps')
    (h' : q.Records f subject r ps r'' ps'') : r'' = r' ∧ ps'' = ps' := by
  obtain ⟨best, hbest, htake, hadd⟩ := h
  obtain ⟨best', hbest', htake', hadd'⟩ := h'
  obtain rfl : best = best' := by simpa using hbest.symm.trans hbest'
  obtain ⟨rfl, -⟩ := Prod.mk.inj (htake.symm.trans htake')
  exact ⟨rfl, Except.ok.inj (hadd'.symm.trans hadd)⟩

theorem Records.items (h : q.Records f subject r ps r' ps') :
    ∃ i, ps'.items = ps.items ++ [i] := by
  obtain ⟨best, -, -, hadd⟩ := h
  unfold Paths.add at hadd
  split at hadd
  · cases hadd
  · exact ⟨_, congrArg Paths.items (Except.ok.inj hadd).symm⟩

/-- A run stops at once because of its limits, or because nothing more is found, or it records a
path and goes on. -/
theorem collect_succ_cases (h : q.collect f subject wanted (fuel + 1) searches r ps = .ok last) :
    last = ps ∧ (wanted ≤ ps.amount ∨ q.isSpent searches = true) ∨
      (ps.amount < wanted ∧ q.isSpent searches = false) ∧
        (last = ps ∧ q.bestFrom r f subject = .ok none ∨
          ∃ r' ps', q.Records f subject r ps r' ps' ∧
            q.collect f subject wanted fuel (searches + 1) r' ps' = .ok last) := by
  simp only [collect] at h
  split at h
  · next hstop =>
      refine .inl ⟨(Except.ok.inj h).symm, ?_⟩
      simpa using hstop
  · next hgoes =>
      refine .inr ⟨by simpa using hgoes, ?_⟩
      cases hbest : q.bestFrom r f subject with
      | error fault => simp [hbest] at h
      | ok best? =>
          cases best? with
          | none =>
              simp only [hbest, Except.ok.injEq] at h
              exact .inl ⟨h.symm, rfl⟩
          | some best =>
              simp only [hbest] at h
              cases htake : r.take best.path best.amount with
              | mk next fault? =>
                  cases fault? with
                  | some fault => simp [htake] at h
                  | none =>
                      cases hadd : ps.add best.path best.amount with
                      | error fault => simp [htake, hadd] at h
                      | ok ps' =>
                          simp only [htake, hadd] at h
                          exact .inr ⟨next, ps', ⟨best, hbest, htake, hadd⟩, h⟩

/-! ## All searches -/

/-- What is recorded stays. -/
theorem isPrefix_of_collect (h : q.collect f subject wanted fuel searches r ps = .ok last) :
    ps.items <+: last.items := by
  induction fuel generalizing searches r ps with
  | zero =>
      obtain rfl : ps = last := Except.ok.inj h
      exact List.prefix_rfl
  | succ fuel ih =>
      rcases collect_succ_cases h with ⟨rfl, -⟩ | ⟨-, ⟨rfl, -⟩ | ⟨r', ps', hrecords, h⟩⟩
      · exact List.prefix_rfl
      · exact List.prefix_rfl
      · obtain ⟨i, hi⟩ := hrecords.items
        exact (hi ▸ List.prefix_append ps.items [i]).trans (ih h)

/-- Of two runs from the same residual and paths, the one with narrower limits stops first, and if
it misses something then because of its limits. -/
theorem collect_within (hwanted : few ≤ many) (hbound : NoWider fewer more)
    (hsearches : searches = ps.items.length)
    (h : (q.within fewer).collect f subject few fuel searches r ps = .ok last)
    (h' : (q.within more).collect f subject many fuel searches r ps = .ok last') :
    last.items <+: last'.items ∧ (last = last' ∨ few ≤ last.amount ∨
      (q.within fewer).isSpent last.items.length = true) := by
  induction fuel generalizing searches r ps with
  | zero =>
      obtain rfl : ps = last := Except.ok.inj h
      obtain rfl : ps = last' := Except.ok.inj h'
      exact ⟨List.prefix_rfl, .inl rfl⟩
  | succ fuel ih =>
      rcases collect_succ_cases h with ⟨rfl, hstops⟩ | ⟨⟨hmissing, hunspent⟩, hgoes⟩
      · exact ⟨isPrefix_of_collect h', .inr (hsearches ▸ hstops)⟩
      · -- Where the narrower limits let the first run go on, the wider ones let the second.
        rcases collect_succ_cases h' with ⟨-, hreached | hspent⟩ | ⟨-, hgoes'⟩
        · omega
        · simp [hbound.isSpent hspent] at hunspent
        · rcases hgoes with ⟨rfl, hnone⟩ | ⟨r', ps', hrecords, h⟩
          · rcases hgoes' with ⟨rfl, -⟩ | ⟨_, _, ⟨best, hbest, -⟩, -⟩
            · exact ⟨List.prefix_rfl, .inl rfl⟩
            · cases hnone.symm.trans hbest
          · rcases hgoes' with ⟨-, hnone⟩ | ⟨r'', ps'', hrecords', h'⟩
            · obtain ⟨best, hbest, -⟩ := hrecords
              cases hnone.symm.trans hbest
            · obtain ⟨rfl, rfl⟩ := Records.unique hrecords hrecords'
              obtain ⟨i, hi⟩ := hrecords.items
              exact ih (by rw [hi, hsearches, List.length_append, List.length_singleton]) h h'

/-- An authentication for a user ID that asks for no more, and is allowed no more searches, than
another one gives the first of its paths, with the same amounts. It gives all of them unless its
paths have the amount that it asks for or are as many as the searches that it is allowed. -/
theorem authenticate_within (hkeys : q.network.WellKeyed) (hsearchable : q.network.Searchable)
    (hwanted : few ≤ many) (hbound : NoWider fewer more) (f : Fingerprint) (userId : String) :
    ∃ ps rest, (q.within fewer).authenticate f (.userId userId) few = .ok ps ∧
      (q.within more).authenticate f (.userId userId) many = .ok ⟨ps.items ++ rest⟩ ∧
      (rest ≠ [] → few ≤ ps.amount ∨ ∃ most, fewer = some most ∧ most ≤ ps.items.length) := by
  obtain ⟨ps, hps⟩ :=
    exists_authenticate (q := q.within fewer) hkeys hsearchable f userId few
  obtain ⟨ps', hps'⟩ :=
    exists_authenticate (q := q.within more) hkeys hsearchable f userId many
  obtain ⟨⟨rest, hrest⟩, hends⟩ := collect_within hwanted hbound
    (rfl : 0 = ({} : Paths).items.length) hps hps'
  refine ⟨ps, rest, hps, by rw [hrest]; exact hps', fun hmore => ?_⟩
  rcases hends with rfl | hreached | hspent
  · exact (hmore (by simpa using hrest)).elim
  · exact .inl hreached
  · exact .inr (isSpent_within_iff.mp hspent)

end Query

/-- For an amount of 20 the path that is found first will do. -/
theorem Query.authenticate_within_introduction :
    Introduction.query.network.WellKeyed ∧ Introduction.query.network.Searchable ∧
      (20 : Int) ≤ fullTrust ∧ Query.NoWider (some 2) none ∧ ∃ ps rest,
      (Introduction.query.within (some 2)).authenticate ⟨"C"⟩ (.userId "carol@example.org") 20 =
          .ok ps ∧
        (Introduction.query.within none).authenticate ⟨"C"⟩ (.userId "carol@example.org")
          fullTrust = .ok ⟨ps.items ++ rest⟩ ∧
        ps.items.map (·.amount) = [30] ∧ rest.map (·.amount) = [60] := by
  have hfew : ((Introduction.query.within (some 2)).authenticate ⟨"C"⟩
      (.userId "carol@example.org") 20).toOption.map (·.items.map (·.amount)) = some [30] := by cbv
  have hmany : ((Introduction.query.within none).authenticate ⟨"C"⟩
      (.userId "carol@example.org") fullTrust).toOption.map (·.items.map (·.amount)) =
        some [30, 60] := by cbv
  have hwider : Query.NoWider (some 2) none := fun most hmost => by cases hmost
  obtain ⟨ps, rest, hps, hps', -⟩ := Query.authenticate_within (q := Introduction.query)
    Introduction.wellKeyed Introduction.searchable (by decide : (20 : Int) ≤ fullTrust) hwider
    ⟨"C"⟩ "carol@example.org"
  have hitems : ps.items.map (·.amount) = [30] := by simpa [hps, Except.toOption] using hfew
  refine ⟨Introduction.wellKeyed, Introduction.searchable, by decide, hwider, ps, rest, hps, hps',
    hitems, ?_⟩
  simpa [hps', Except.toOption, hitems] using hmany

end TrustWeb
