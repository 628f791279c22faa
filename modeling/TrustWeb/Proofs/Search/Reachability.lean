import TrustWeb.Proofs.Search.Trail

/-! # What a search reports

A search for a binding that may be authenticated reports exactly the roots from which an admissible
chain leads to the target; without roots, exactly the certificates. Each path that it reports takes
the signatures of an admissible chain, and none has fewer. -/

namespace TrustWeb

namespace Search

/-- The starts that a search reports: roots, or any certificate if there are no roots. -/
def Starts (q : Search) (f : Fingerprint) : Prop :=
  q.roots.isEmpty = true ∨ q.roots.isRoot f = true

/-- What is reported of certificates, once no other waits: for each start with a label that leads
on, the path that follows the labels. -/
inductive ReportsFrom (q : Search) (labels : Table Fingerprint Label) :
    List Fingerprint → List Candidate → Prop where
  | nil : ReportsFrom q labels [] []
  | skip {f rest found} (hskip : ∀ s cost, labels.find? f = some ⟨some s, cost⟩ → ¬q.Starts f)
      (hrest : ReportsFrom q labels rest found) : ReportsFrom q labels (f :: rest) found
  | report {f rest found s cost path} (hstarts : q.Starts f)
      (hlabel : labels.find? f = some ⟨some s, cost⟩)
      (hfollows : q.Follows labels { root := s.issuer } s path)
      (hrest : ReportsFrom q labels rest found) :
      ReportsFrom q labels (f :: rest) (⟨f, path, cost.amount⟩ :: found)

/-- What a search reports, told without fuel: nothing if the binding may not be authenticated; else
it explores until no certificate waits and reports of all certificates with a label. -/
inductive Reports (q : Search) : List Candidate → Prop where
  | invalid (h : q.residual.validTarget? q.target q.subject = .ok none) : Reports q []
  | valid {n p found} (h : q.residual.validTarget? q.target q.subject = .ok (some n))
      (hexplores : q.Explores q.seed p)
      (hfound : q.ReportsFrom p.labels (Fingerprint.sorted p.labels.keys) found) : Reports q found

/-- What a reported candidate is good for: its path starts at a start of the search and takes the
signatures of a chain that shows the binding, each of which has the amount left. -/
structure Sound (q : Search) (c : Candidate) : Prop where
  starts : q.Starts c.start
  root : c.path.root.fingerprint = c.start
  chain : ∃ ch, q.Supports c.start ch ∧ c.path.signatures = ch.signatures
  positive : 0 < c.amount
  carries : ∀ s ∈ c.path.signatures, c.amount ≤ q.residual.left s

variable {q : Search} {labels : Table Fingerprint Label} {p : Progress} {layer : Int}
  {fs : List Fingerprint} {f : Fingerprint} {s : Signature} {cost : Cost} {found : List Candidate}
  {c : Candidate}

/-! ## What the labels tell -/

theorem Invariant.length_pos_of_via (I : q.Invariant layer p)
    (h : p.labels.find? f = some ⟨some s, cost⟩) : 1 ≤ cost.length := by
  by_cases hf : f = q.target
  · rw [hf, I.target, Option.some.injEq] at h
    rcases q.seedLabel_cases with ⟨own, -, -, hseed⟩ | ⟨-, hseed⟩
    · obtain ⟨-, rfl⟩ : own = s ∧ ⟨1, q.residual.left own⟩ = cost := by simpa [hseed] using h
      exact Int.le_refl _
    · simp [hseed] at h
  · exact (I.justified f _ h hf).length_pos

/-- A path that follows the labels is sound, and as long as the label of its start says. -/
theorem Invariant.sound (I : q.Invariant layer p) (hkeys : q.residual.network.WellKeyed)
    (hstarts : q.Starts f) (hlabel : p.labels.find? f = some ⟨some s, cost⟩) {path : Path}
    (hfollows : q.Follows p.labels { root := s.issuer } s path) :
    q.Sound ⟨f, path, cost.amount⟩ ∧ cost.length = path.signatures.length := by
  obtain ⟨ch, T⟩ := I.exists_trail hkeys hlabel (I.length_pos_of_via hlabel)
  obtain ⟨hroot, hsignatures⟩ := T.signatures_eq rfl hfollows
  have hcarries := T.carries
  have hlength := T.length
  rw [← hsignatures] at hcarries
  rw [Chain.length, ← hsignatures] at hlength
  exact ⟨⟨hstarts, by rw [hroot, T.issuer hkeys rfl], ⟨ch, T.supports, hsignatures⟩,
    I.amount_pos hlabel, hcarries⟩, hlength⟩

theorem ReportsFrom.sound (h : q.ReportsFrom p.labels fs found) (I : q.Invariant layer p)
    (hkeys : q.residual.network.WellKeyed) (hc : c ∈ found) :
    q.Sound c ∧ ∃ label, p.labels.find? c.start = some label ∧
      label.cost.length = c.path.signatures.length ∧ label.cost.amount = c.amount := by
  induction h with
  | nil => cases hc
  | skip _ _ ih => exact ih hc
  | report hstarts hlabel hfollows _ ih =>
      rcases List.mem_cons.mp hc with rfl | hc
      · obtain ⟨hsound, hlength⟩ := I.sound hkeys hstarts hlabel hfollows
        exact ⟨hsound, _, hlabel, hlength, rfl⟩
      · exact ih hc

theorem ReportsFrom.exists_mem (h : q.ReportsFrom labels fs found) (hf : f ∈ fs)
    (hstarts : q.Starts f) (hlabel : labels.find? f = some ⟨some s, cost⟩) :
    ∃ c ∈ found, c.start = f := by
  induction h with
  | nil => cases hf
  | skip hskip _ ih =>
      rcases List.mem_cons.mp hf with rfl | hf
      · exact (hskip s cost hlabel hstarts).elim
      · exact ih hf
  | report _ _ _ _ ih =>
      rcases List.mem_cons.mp hf with rfl | hf
      · exact ⟨_, List.mem_cons_self, rfl⟩
      · obtain ⟨c, hc, hstart⟩ := ih hf
        exact ⟨c, List.mem_cons_of_mem _ hc, hstart⟩

/-- From the first certificate of an admissible chain the labels lead on. -/
theorem Explored.exists_via (E : q.Explored layer p) (hdone : p.queue = []) {ch : Chain}
    (h : q.Admissible f ch) : ∃ s cost, p.labels.find? f = some ⟨some s, cost⟩ := by
  obtain ⟨⟨via, cost⟩, hlabel, -⟩ := E.reaches hdone h
  by_cases hf : f = q.target
  · subst hf
    obtain ⟨own, -, hseed⟩ := h.seedLabel_eq
    exact ⟨own, _, E.target.trans (congrArg some hseed)⟩
  · cases E.justified f _ hlabel hf with
    | certifies s _ _ => exact ⟨s, _, hlabel⟩
    | delegates s => exact ⟨s, _, hlabel⟩

/-! ## Reports -/

theorem Sound.admissible (h : q.Sound c) :
    ∃ ch, q.Admissible c.start ch ∧ c.path.signatures = ch.signatures := by
  obtain ⟨ch, hch, hsignatures⟩ := h.chain
  refine ⟨ch, ⟨hch, fun s hs => Int.lt_of_lt_of_le h.positive (h.carries s ?_)⟩, hsignatures⟩
  rw [hsignatures]
  exact hs

theorem Reports.sound (h : q.Reports found) (hkeys : q.residual.network.WellKeyed)
    (hc : c ∈ found) :
    q.Sound c ∧ ∀ ch, q.Admissible c.start ch → c.path.signatures.length ≤ ch.length := by
  cases h with
  | invalid _ => cases hc
  | valid _ hexplores hfound =>
      obtain ⟨hdone, layer, E⟩ := hexplores.explored hkeys q.seed_explored
      obtain ⟨hsound, label, hlabel, hlength, -⟩ := hfound.sound E.toInvariant hkeys hc
      refine ⟨hsound, fun ch hch => ?_⟩
      obtain ⟨label', hlabel', hle⟩ := E.reaches hdone hch
      obtain rfl : label = label' := by simpa [hlabel] using hlabel'
      omega

theorem Reports.complete (h : q.Reports found) (hkeys : q.residual.network.WellKeyed) {n : Node}
    (hvalid : q.residual.validTarget? q.target q.subject = .ok (some n)) (hstarts : q.Starts f)
    {ch : Chain} (hch : q.Admissible f ch) : ∃ c ∈ found, c.start = f := by
  cases h with
  | invalid hnone => simp [hnone] at hvalid
  | valid _ hexplores hfound =>
      obtain ⟨hdone, layer, E⟩ := hexplores.explored hkeys q.seed_explored
      obtain ⟨s, cost, hlabel⟩ := E.exists_via hdone hch
      refine hfound.exists_mem ?_ hstarts hlabel
      rw [Fingerprint.sorted, List.mem_mergeSort]
      exact Table.mem_keys_iff.mpr ⟨_, hlabel⟩

theorem Reports.eq_nil (h : q.Reports found)
    (hnone : q.residual.validTarget? q.target q.subject = .ok none) : found = [] := by
  cases h with
  | invalid _ => rfl
  | valid hsome _ _ => simp [hnone] at hsome

/-! ## The function -/

theorem Invariant.candidatesFrom_spec (I : q.Invariant layer p)
    (hkeys : q.residual.network.WellKeyed) (fs : List Fingerprint) :
    ∃ found, q.candidatesFrom p.labels fs = .ok found ∧ q.ReportsFrom p.labels fs found := by
  induction fs with
  | nil => exact ⟨[], rfl, .nil⟩
  | cons f rest ih =>
      obtain ⟨found, hfound, hreports⟩ := ih
      simp only [candidatesFrom]
      split
      · next s cost hlabel =>
          split
          · next hnot =>
              refine ⟨found, hfound, .skip (fun _ _ _ hstarts => ?_) hreports⟩
              rcases hstarts with hstart | hstart <;> simp [hstart] at hnot
          · next hstart =>
              obtain ⟨ch, T⟩ := I.exists_trail hkeys hlabel (I.length_pos_of_via hlabel)
              obtain ⟨path, hpath, hfollows⟩ := T.pathVia hkeys hlabel rfl
              have hstarts : q.Starts f := by
                by_cases hempty : q.roots.isEmpty = true
                · exact .inl hempty
                · exact .inr (by simpa [hempty] using hstart)
              exact ⟨⟨f, path, cost.amount⟩ :: found, by simp [hpath, hfound, Except.map],
                .report hstarts hlabel hfollows hreports⟩
      · next hnone =>
          exact ⟨found, hfound, .skip (fun s cost hlabel => (hnone s cost hlabel).elim) hreports⟩

theorem reports_of_candidates (hkeys : q.residual.network.WellKeyed)
    (h : q.candidates = .ok found) : q.Reports found := by
  unfold candidates at h
  cases hvalid : q.residual.validTarget? q.target q.subject with
  | error fault => simp [hvalid] at h
  | ok target =>
      cases target with
      | none =>
          obtain rfl : [] = found := by simpa [hvalid] using h
          exact .invalid hvalid
      | some n =>
          cases hexplore : q.explore with
          | error fault => simp [hvalid, hexplore] at h
          | ok p =>
              simp only [hvalid, hexplore] at h
              have hexplores := explores_of_explore hkeys hexplore
              obtain ⟨-, layer, E⟩ := hexplores.explored hkeys q.seed_explored
              obtain ⟨found', hfound', hreports⟩ :=
                E.toInvariant.candidatesFrom_spec hkeys (Fingerprint.sorted p.labels.keys)
              obtain rfl : found' = found := by simpa [hfound'] using h
              exact .valid hvalid hexplores hreports

/-- A search for a user ID gives an answer if the scopes do. -/
theorem exists_candidates (hkeys : q.residual.network.WellKeyed)
    (hsearchable : q.residual.network.Searchable) {userId : String}
    (hsubject : q.subject = .userId userId) : ∃ found, q.candidates = .ok found := by
  obtain ⟨p, hexplore⟩ := exists_explore hkeys fun s hs => by
    rw [hsubject]
    exact hsearchable.covers hs userId
  obtain ⟨-, layer, E⟩ := (explores_of_explore hkeys hexplore).explored hkeys q.seed_explored
  unfold candidates
  rw [hsubject]
  rcases q.residual.validTarget?_cases q.target userId with ⟨n, hsome, -⟩ | ⟨hnone, -⟩
  · obtain ⟨found, hfound, -⟩ :=
      E.toInvariant.candidatesFrom_spec hkeys (Fingerprint.sorted p.labels.keys)
    exact ⟨found, by simp only [hsome, hexplore, hfound]⟩
  · exact ⟨[], by simp only [hnone]⟩

/-- A search for a user ID answers, whatever the caps and the amounts taken. It reports nothing if
the binding may not be authenticated; else it reports exactly those starts from which there is an
admissible chain, and for each of them a shortest one. -/
theorem candidates_shortest (hkeys : q.residual.network.WellKeyed)
    (hsearchable : q.residual.network.Searchable) {userId : String}
    (hsubject : q.subject = .userId userId) :
    ∃ found, q.candidates = .ok found ∧
      ((∀ n, ¬q.residual.Valid q.target userId n) → found = []) ∧
      ((∃ n, q.residual.Valid q.target userId n) → ∀ start,
        (∃ c ∈ found, c.start = start) ↔ q.Starts start ∧ ∃ ch, q.Admissible start ch) ∧
      ∀ c ∈ found, c.path.root.fingerprint = c.start ∧
        (∃ ch, q.Admissible c.start ch ∧ c.path.signatures = ch.signatures) ∧
        ∀ ch, q.Admissible c.start ch → c.path.signatures.length ≤ ch.length := by
  obtain ⟨found, hfound⟩ := exists_candidates hkeys hsearchable hsubject
  have hreports := reports_of_candidates hkeys hfound
  have hvalid := q.residual.validTarget?_cases q.target userId
  rw [← hsubject] at hvalid
  refine ⟨found, hfound, fun hinvalid => ?_, fun hbinding start => ⟨?_, ?_⟩, fun c hc => ?_⟩
  · rcases hvalid with ⟨n, -, hn⟩ | ⟨hnone, -⟩
    · exact (hinvalid n hn).elim
    · exact hreports.eq_nil hnone
  · rintro ⟨c, hc, rfl⟩
    obtain ⟨hsound, -⟩ := hreports.sound hkeys hc
    obtain ⟨ch, hch, -⟩ := hsound.admissible
    exact ⟨hsound.starts, ch, hch⟩
  · rintro ⟨hstarts, ch, hch⟩
    rcases hvalid with ⟨n, hsome, -⟩ | ⟨-, hinvalid⟩
    · exact hreports.complete hkeys hsome hstarts hch
    · obtain ⟨n, hn⟩ := hbinding
      exact (hinvalid n hn).elim
  · obtain ⟨hsound, hshortest⟩ := hreports.sound hkeys hc
    exact ⟨hsound.root, hsound.admissible, hshortest⟩

end Search

namespace Introduction

/-- A search from `A`, which is capped, after some of the edge to `C` was taken. -/
def search : Search where
  residual :=
    { network := network
      mode := .authentication
      caps := [(⟨"A"⟩, 50)]
      taken := [((⟨"A"⟩, ⟨"C"⟩), 10)] }
  roots := ⟨[(⟨"A"⟩, 50)]⟩
  target := ⟨"C"⟩
  subject := .userId "carol@example.org"

theorem admissible_direct : search.Admissible ⟨"A"⟩ ⟨[direct], none⟩ where
  known := by simp [search, signatures_eq]
  connected := ⟨rfl, rfl⟩
  closes := by simp
  certifies := fun _ => ⟨direct, rfl, by decide⟩
  passable := by decide
  covered := by
    intro s hs _
    obtain rfl : s = direct := by simpa using hs
    rfl
  deep := fun _ i s _ hi => by simp at hi
  simple := by decide
  trusted := by decide

end Introduction

theorem Search.candidates_shortest_introduction :
    Introduction.network.WellKeyed ∧ Introduction.network.Searchable ∧
      ∃ found, Introduction.search.candidates = .ok found ∧ (∃ c ∈ found, c.start = ⟨"A"⟩) ∧
        ∀ c ∈ found, ∀ ch, Introduction.search.Admissible c.start ch →
          c.path.signatures.length ≤ ch.length := by
  obtain ⟨found, hfound, -, hreported, hshortest⟩ := Search.candidates_shortest
    (q := Introduction.search) Introduction.wellKeyed Introduction.searchable
    (rfl : Introduction.search.subject = .userId "carol@example.org")
  have hvalid : Introduction.search.residual.Valid ⟨"C"⟩ "carol@example.org" Introduction.carol :=
    ⟨rfl, rfl, rfl, by decide⟩
  exact ⟨Introduction.wellKeyed, Introduction.searchable, found, hfound,
    (hreported ⟨_, hvalid⟩ ⟨"A"⟩).mpr ⟨.inr rfl, _, Introduction.admissible_direct⟩,
    fun c hc => (hshortest c hc).2.2⟩

end TrustWeb
