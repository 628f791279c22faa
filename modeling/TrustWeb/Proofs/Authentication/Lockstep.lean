import TrustWeb.Proofs.Authentication.Run
import TrustWeb.Proofs.Search.Lockstep

/-! # Authentications in lockstep

Two authentications whose searches are offered the same, whenever the same was taken from the edges,
record the same paths with the same amounts, in outline. What was taken is what the recorded paths
carry, so that the outlines of the paths so far decide how both runs go on. -/

namespace TrustWeb

/-! ## Outlines of recorded paths -/

def PathItem.outline (i : PathItem) : (Fingerprint × List Place) × Int :=
  (i.path.outline, i.amount)

namespace Paths

/-- The certificates along each recorded path, and its amount. -/
def shown (ps : Paths) : List (List Fingerprint × Int) :=
  ps.items.map fun i => (i.path.visited, i.amount)

def outline (ps : Paths) : List ((Fingerprint × List Place) × Int) :=
  ps.items.map PathItem.outline

theorem outline_concat (ps : Paths) (path : Path) (amount : Int) :
    outline ⟨ps.items ++ [⟨path, amount⟩]⟩ = ps.outline ++ [(path.outline, amount)] := by
  simp [outline, PathItem.outline]

theorem shown_eq (ps : Paths) :
    ps.shown = ps.outline.map fun o => (o.1.1 :: o.1.2.map (·.1.2), o.2) := by
  simp [shown, outline, PathItem.outline, Path.outline, Path.visited_eq, Signature.outline,
    Signature.endpoints, Function.comp_def]

theorem amount_eq (ps : Paths) : ps.amount = ps.outline.foldl (fun total o => total + o.2) 0 := by
  rw [outline, List.foldl_map]
  rfl

theorem carried_eq (ps : Paths) (k : EdgeKey) :
    ps.carried k =
      ((ps.outline.filter fun o => decide (k ∈ o.1.2.map (·.1))).map (·.2)).sum := by
  simp [carried, outline, List.filter_map, PathItem.outline, Path.outline, Signature.outline,
    Function.comp_def]

end Paths

/-! ## The best candidate -/

theorem Candidate.better_of_outline {a a' b b' : Candidate} (ha : a.outline = a'.outline)
    (hb : b.outline = b'.outline) : a.better b = a'.better b' := by
  have hlength : ∀ {c c' : Candidate}, c.outline = c'.outline → c.path.length = c'.path.length := by
    intro c c' h
    simpa [Path.length, Candidate.outline, Path.outline] using
      congrArg (fun o => o.2.1.2.length) h
  have hamount : ∀ {c c' : Candidate}, c.outline = c'.outline → c.amount = c'.amount :=
    fun h => congrArg (·.2.2) h
  have hroot : ∀ {c c' : Candidate}, c.outline = c'.outline →
      c.path.root.fingerprint = c'.path.root.fingerprint := fun h => congrArg (·.2.1.1) h
  rw [better, better, hamount ha, hamount hb, hlength ha, hlength hb, hroot ha, hroot hb]

theorem Candidate.foldl_best_of_outline {c c' : Candidate} {cs cs' : List Candidate}
    (hc : c.outline = c'.outline) (h : cs.map Candidate.outline = cs'.map Candidate.outline) :
    (cs.foldl (fun best d => if d.better best then d else best) c).outline =
      (cs'.foldl (fun best d => if d.better best then d else best) c').outline := by
  induction cs generalizing cs' c c' with
  | nil =>
      obtain rfl : cs' = [] := by simpa using h.symm
      exact hc
  | cons d rest ih =>
      cases cs' with
      | nil => cases h
      | cons d' rest' =>
          obtain ⟨hd, hrest⟩ := List.cons.inj h
          have hbest : (if d.better c then d else c).outline =
              (if d'.better c' then d' else c').outline := by
            rw [better_of_outline hd hc]
            split
            · exact hd
            · exact hc
          rw [List.foldl_cons, List.foldl_cons]
          exact ih hbest hrest

theorem Candidate.best?_of_outline {cs cs' : List Candidate}
    (h : cs.map Candidate.outline = cs'.map Candidate.outline) :
    (Candidate.best? cs).map Candidate.outline = (Candidate.best? cs').map Candidate.outline := by
  cases cs with
  | nil =>
      obtain rfl : cs' = [] := by simpa using h.symm
      rfl
  | cons c rest =>
      cases cs' with
      | nil => cases h
      | cons c' rest' =>
          obtain ⟨hc, hrest⟩ := List.cons.inj h
          exact congrArg some (foldl_best_of_outline hc hrest)

namespace Query

/-- The queries allow the same searches from the same roots, and the searches are offered the same
whenever the same was taken from the edges. -/
structure Mirrors (q q' : Query) (f : Fingerprint) (subject : Subject) : Prop where
  roots : q'.roots = q.roots
  maxSearches : q'.maxSearches = q.maxSearches
  searches : ∀ taken taken',
    (∀ k, Residual.takenFrom { q'.residual with taken := taken' } k =
      Residual.takenFrom { q.residual with taken } k) →
    (q.searchIn { q.residual with taken } f subject).Mirrors
      (q'.searchIn { q'.residual with taken := taken' } f subject)

variable {q q' : Query} {f : Fingerprint} {subject : Subject} {r r' : Residual}
  {ps ps' last last' : Paths} {wanted : Int} {searches : Nat}

theorem Mirrors.isSpent (M : q.Mirrors q' f subject) (n : Nat) : q'.isSpent n = q.isSpent n := by
  rw [Query.isSpent, Query.isSpent, M.maxSearches]

theorem Mirrors.bestOf? (M : q.Mirrors q' f subject) (B : q.Balanced r ps) (B' : q'.Balanced r' ps')
    (hps : ps.outline = ps'.outline) {found found' : List Candidate}
    (h : (q.searchIn r f subject).Reports found) (h' : (q'.searchIn r' f subject).Reports found') :
    (q.bestOf? found).map Candidate.outline = (q'.bestOf? found').map Candidate.outline := by
  have htaken : ∀ k, r'.takenFrom k = r.takenFrom k := fun k => by
    rw [B.taken, B'.taken, Paths.carried_eq, Paths.carried_eq, hps]
  obtain ⟨taken, rfl⟩ := B.residual
  obtain ⟨taken', rfl⟩ := B'.residual
  have hfound := (M.searches taken taken' htaken).reports h h'
  refine Candidate.best?_of_outline ?_
  rw [M.roots]
  have hfilter : ∀ cs : List Candidate,
      (cs.filter fun c => q.roots.isRoot c.start).map Candidate.outline =
        (cs.map Candidate.outline).filter fun o => q.roots.isRoot o.1 := fun cs => by
    rw [List.filter_map]
    rfl
  rw [hfilter, hfilter, hfound]

/-- Runs that start from the same paths, in outline, end with the same paths, in outline. -/
theorem Mirrors.collects (M : q.Mirrors q' f subject) (hkeys : q.network.WellKeyed)
    (hkeys' : q'.network.WellKeyed) (B : q.Balanced r ps) (B' : q'.Balanced r' ps')
    (hps : ps.outline = ps'.outline) (h : q.Collects f subject wanted searches r ps last)
    (h' : q'.Collects f subject wanted searches r' ps' last') : last.outline = last'.outline := by
  have hamount : ∀ {ps ps' : Paths}, ps.outline = ps'.outline → ps.amount = ps'.amount := by
    intro ps ps' hps
    rw [Paths.amount_eq, Paths.amount_eq, hps]
  -- Amounts, searches and candidates agree, so that only one case of the second run fits each case
  -- of the first.
  induction h generalizing r' ps' with
  | reached hreached =>
      rw [hamount hps] at hreached
      cases h' with
      | reached _ => exact hps
      | spent hmissing _ => omega
      | exhausted hmissing _ _ _ => omega
      | add hmissing _ _ _ _ _ _ => omega
  | spent hmissing hspent =>
      rw [hamount hps] at hmissing
      rw [← M.isSpent] at hspent
      cases h' with
      | reached _ => exact hps
      | spent _ _ => exact hps
      | exhausted _ hunspent _ _ => simp [hspent] at hunspent
      | add _ hunspent _ _ _ _ _ => simp [hspent] at hunspent
  | exhausted hmissing hunspent hreports hnone =>
      cases h' with
      | reached _ => exact hps
      | spent _ _ => exact hps
      | exhausted _ _ _ _ => exact hps
      | add _ _ hreports' hbest' _ _ _ =>
          have hbest := M.bestOf? B B' hps hreports hreports'
          simp [hnone, hbest'] at hbest
  | @add _ _ _ _ best _ _ _ hmissing hunspent hreports hbest htake hadd _ ih =>
      rw [hamount hps] at hmissing
      rw [← M.isSpent] at hunspent
      cases h' with
      | reached hreached => omega
      | spent _ hspent => simp [hunspent] at hspent
      | exhausted _ _ hreports' hnone' =>
          have hbests := M.bestOf? B B' hps hreports hreports'
          simp [hbest, hnone'] at hbests
      | @add _ _ _ _ best' _ _ _ _ _ hreports' hbest' htake' hadd' hrest' =>
          have hbests := M.bestOf? B B' hps hreports hreports'
          rw [hbest, hbest', Option.map_some, Option.map_some, Option.some.injEq] at hbests
          obtain ⟨rfl, C⟩ := B.recorded hkeys hreports hbest htake hadd
          obtain ⟨rfl, C'⟩ := B'.recorded hkeys' hreports' hbest' htake' hadd'
          refine ih C C' ?_ hrest'
          have hitem : (best.path.outline, best.amount) = (best'.path.outline, best'.amount) :=
            congrArg Prod.snd hbests
          rw [Paths.outline_concat, Paths.outline_concat, hps, hitem]

/-- Authentications whose searches are offered the same show the same. -/
theorem Mirrors.authenticate (M : q.Mirrors q' f subject) (hkeys : q.network.WellKeyed)
    (hkeys' : q'.network.WellKeyed) (h : q.authenticate f subject wanted = .ok last)
    (h' : q'.authenticate f subject wanted = .ok last') : last.shown = last'.shown := by
  rw [Paths.shown_eq, Paths.shown_eq, M.collects hkeys hkeys' q.balanced_start q'.balanced_start rfl
    (collects_of_authenticate hkeys h) (collects_of_authenticate hkeys' h')]

end Query

end TrustWeb
