import TrustWeb.Proofs.Authentication.Run

/-! # How the paths of an authentication were found

Each path of an authentication is a shortest one of a search in some residual of the run. Seen from
its end, it goes over signatures that cover the subject and leave room for one more, and ends with
one that certifies the binding; if it has reached the target before that, nothing between the same
certificates with as much left certifies the binding any earlier. -/

namespace TrustWeb

namespace Query

variable {q : Query} {r : Residual} {ps last : Paths} {f start : Fingerprint} {subject : Subject}
  {wanted : Int} {searches : Nat} {i : PathItem} {front front' : List Signature} {s t : Signature}

/-- How a recorded path was found: as a shortest one of a search in some residual of the run. -/
structure FoundIn (q : Query) (r : Residual) (f : Fingerprint) (subject : Subject) (i : PathItem) :
    Prop where
  balanced : ∃ ps, q.Balanced r ps
  sound : (q.searchIn r f subject).Sound ⟨i.path.root.fingerprint, i.path, i.amount⟩
  shortest : ∀ c, (q.searchIn r f subject).Admissible i.path.root.fingerprint c →
    i.path.signatures.length ≤ c.length

/-- The best of the candidates reported in a residual of the run is found like this. -/
theorem Balanced.foundIn {found : List Candidate} {best : Candidate} (B : q.Balanced r ps)
    (hkeys : q.network.WellKeyed) (hreports : (q.searchIn r f subject).Reports found)
    (hbest : q.bestOf? found = some best) : q.FoundIn r f subject ⟨best.path, best.amount⟩ := by
  have hmem := (List.mem_filter.mp (Candidate.mem_of_best? hbest)).1
  obtain ⟨hsound, hshortest⟩ := hreports.sound (B.wellKeyed hkeys) hmem
  rw [← hsound.root] at hshortest
  refine ⟨⟨ps, B⟩, ?_, hshortest⟩
  rw [hsound.root]
  exact hsound

/-- All paths of a run are found like this. -/
theorem Collects.foundIn (h : q.Collects f subject wanted searches r ps last)
    (hkeys : q.network.WellKeyed) (B : q.Balanced r ps)
    (hps : ∀ i ∈ ps.items, ∃ r, q.FoundIn r f subject i) :
    ∀ i ∈ last.items, ∃ r, q.FoundIn r f subject i := by
  refine h.forall_items hkeys B hps fun r ps found best B hreports hbest => ?_
  exact ⟨r, B.foundIn hkeys hreports hbest⟩

/-- What a search requires of a path, told of its last signature and of those before it. The path
reaches the target with the last signature, or has reached it before. -/
structure Ends (q : Query) (start f : Fingerprint) (subject : Subject) (front : List Signature)
    (s : Signature) : Prop where
  known : ∀ t ∈ front, t ∈ q.network.signatures
  covered : ∀ t ∈ front, q.mode = .authentication → t.scope.covers subject = .ok true
  passable : ∀ t ∈ front, q.roots.isFullyTrusted t.target.fingerprint = false
  deep : q.mode = .authentication → LeavesRoom 1 front
  simple : (start :: front.map (·.target.fingerprint)).Nodup
  certifies : subject.isOver s.userId = true
  reaches : s.target.fingerprint ∉ start :: front.map (·.target.fingerprint) ∨
    Connects start front f

theorem ends_of_supports {c : Chain} (hkeys : r.network.WellKeyed) (hnetwork : r.network = q.network)
    (hmode : r.mode = q.mode) (h : (q.searchIn r f subject).Supports start c)
    (hsignatures : c.signatures = front ++ [s]) : q.Ends start f subject front s := by
  obtain ⟨hops, closing⟩ := c
  have hknown : ∀ t ∈ hops, t ∈ q.network.signatures := fun t ht => hnetwork ▸ h.known t ht
  have hcovered : ∀ t ∈ hops, q.mode = .authentication → t.scope.covers subject = .ok true :=
    fun t ht hauth => h.covered t ht (hmode.trans hauth)
  cases closing with
  | none =>
      obtain rfl : hops = front ++ [s] := by simpa [Chain.signatures] using hsignatures
      have hsimple := h.simple
      rw [List.map_append, List.map_cons, List.map_nil, ← List.cons_append,
        List.nodup_append] at hsimple
      obtain ⟨t, ht, hover⟩ := h.certifies rfl
      obtain rfl : s = t := by simpa using ht
      have hsub : ∀ t ∈ front, t ∈ front ++ [s] := fun t ht => List.mem_append_left _ ht
      refine ⟨fun t ht => hknown t (hsub t ht), fun t ht => hcovered t (hsub t ht),
        fun t ht => h.passable t (hsub t ht), fun hauth => ?_, hsimple.1, hover, .inl ?_⟩
      · exact leavesRoom_concat_iff.mp (h.deep (hmode.trans hauth))
      · exact fun hmem => hsimple.2.2 _ hmem _ (by simp) rfl
  | some own =>
      obtain ⟨rfl, rfl⟩ : hops = front ∧ own = s := by
        simpa [Chain.signatures] using List.append_inj' hsignatures rfl
      have howns := Residual.isOwn_of_selfSignature? hkeys (h.closes own rfl)
      exact ⟨hknown, hcovered, h.passable, fun hauth => h.deep (hmode.trans hauth), h.simple,
        howns.isOver, .inr h.connected⟩

namespace FoundIn

variable (F : q.FoundIn r f subject i)

include F

theorem network : r.network = q.network := by
  obtain ⟨ps, B⟩ := F.balanced
  exact B.network

theorem mode : r.mode = q.mode := by
  obtain ⟨ps, B⟩ := F.balanced
  exact B.mode

theorem ne_nil : i.path.signatures ≠ [] := by
  obtain ⟨c, hc, hchain⟩ := F.sound.chain
  rw [show i.path.signatures = c.signatures from hchain]
  exact hc.signatures_ne_nil

theorem connects (hkeys : q.network.WellKeyed) :
    Connects i.path.root.fingerprint i.path.signatures f := by
  obtain ⟨c, hc, hchain⟩ := F.sound.chain
  rw [show i.path.signatures = c.signatures from hchain]
  exact hc.connects (by rw [searchIn, F.network]; exact hkeys)

theorem ends (hkeys : q.network.WellKeyed) (hsignatures : i.path.signatures = front ++ [s]) :
    q.Ends i.path.root.fingerprint f subject front s := by
  obtain ⟨c, hc, hchain⟩ := F.sound.chain
  exact ends_of_supports (F.network ▸ hkeys) F.network F.mode hc (hchain ▸ hsignatures)

/-- The last signature is one of the network, or the certification of the target by itself. -/
theorem known_or_own (hlast : i.path.signatures.getLast? = some s) :
    s ∈ q.network.signatures ∨ q.residual.selfSignature? f subject = some s := by
  obtain ⟨⟨hops, closing⟩, hc, hchain⟩ := F.sound.chain
  rw [show i.path.signatures = hops ++ closing.toList from hchain] at hlast
  cases closing with
  | none =>
      rw [Option.toList_none, List.append_nil] at hlast
      have hknown : s ∈ r.network.signatures := hc.known s (List.mem_of_getLast? hlast)
      exact .inl (F.network ▸ hknown)
  | some own =>
      rw [Option.toList_some, List.getLast?_concat, Option.some.injEq] at hlast
      subst hlast
      have hown : r.selfSignature? f subject = some own := hc.closes own rfl
      rw [Residual.selfSignature?_of_network (q.network_residual.trans F.network.symm)]
      exact .inr hown

/-- The amount of a path is within the amounts of its signatures, capped as they are. -/
theorem amount_le_cappedAmount (hs : s ∈ i.path.signatures) :
    i.amount ≤ q.residual.cappedAmount s := by
  obtain ⟨ps, B⟩ := F.balanced
  have hle : ps.carried s.endpoints + i.amount ≤ q.residual.cappedAmount s := B.carried_le F.sound hs
  have hnonneg := Paths.carried_nonneg B.positive s.endpoints
  omega

theorem amount_le (hs : s ∈ i.path.signatures) : i.amount ≤ min s.trust fullTrust :=
  (F.amount_le_cappedAmount hs).trans (Residual.cappedAmount_le_min _ s)

/-- In authentication mode a path carries no more than its root passes on. -/
theorem amount_le_root (hkeys : q.network.WellKeyed) (hmode : q.mode = .authentication) {limit : Int}
    (hroot : q.roots.amount? i.path.root.fingerprint = some limit) : i.amount ≤ limit := by
  have hconnects := F.connects hkeys
  cases hsignatures : i.path.signatures with
  | nil => exact (F.ne_nil hsignatures).elim
  | cons s rest =>
      rw [hsignatures] at hconnects
      have hle := F.amount_le_cappedAmount (hsignatures ▸ List.mem_cons_self)
      rw [cappedAmount_residual, hmode, hconnects.1, hroot] at hle
      exact hle.trans (Int.min_le_right _ _)

/-- A path that goes on after it has reached the target does so because no signatures over the same
certificates, with no less left, certify the binding before. -/
theorem isOver_eq_false (hkeys : q.network.WellKeyed)
    (hsignatures : i.path.signatures = front ++ [s])
    (hthere : Connects i.path.root.fingerprint front f)
    (hknown : ∀ t ∈ front', t ∈ q.network.signatures)
    (hcovered : ∀ t ∈ front', q.mode = .authentication → t.scope.covers subject = .ok true)
    (hdeep : q.mode = .authentication → LeavesRoom 0 front')
    (hends : front.map (·.endpoints) = front'.map (·.endpoints))
    (hleft : ∀ t ∈ front', ∃ u ∈ front, u.endpoints = t.endpoints ∧ r.left u ≤ r.left t)
    (ht : front'.getLast? = some t) : subject.isOver t.userId = false := by
  rw [← Bool.not_eq_true]
  intro hover
  have E := F.ends hkeys hsignatures
  have hshorter : (q.searchIn r f subject).Admissible i.path.root.fingerprint ⟨front', none⟩ := by
    refine ⟨⟨fun u hu => ?_, hthere.of_endpoints hends, by simp, fun _ => ⟨t, ht, hover⟩,
      fun u hu => ?_, fun u hu hauth => hcovered u hu (F.mode.symm.trans hauth),
      fun hauth => hdeep (F.mode.symm.trans hauth), ?_⟩, fun u hu => ?_⟩
    · rw [searchIn, F.network]
      exact hknown u hu
    · obtain ⟨v, hv, hsame, -⟩ := hleft u hu
      have hpassable := E.passable v hv
      rwa [show v.target.fingerprint = u.target.fingerprint from congrArg Prod.snd hsame]
        at hpassable
    · rw [targets_eq_of_endpoints hends]
      exact E.simple
    · obtain ⟨v, hv, -, hmore⟩ := hleft u (by simpa [Chain.signatures] using hu)
      have hcarries : i.amount ≤ r.left v :=
        F.sound.carries v (hsignatures ▸ List.mem_append_left _ hv)
      have hpositive : 0 < i.amount := F.sound.positive
      exact Int.lt_of_lt_of_le hpositive (hcarries.trans hmore)
  have hlength := F.shortest _ hshorter
  have hsame : front.length = front'.length := by simpa using congrArg List.length hends
  have hchain : Chain.length ⟨front', none⟩ = front'.length := by
    simp [Chain.length, Chain.signatures]
  rw [hsignatures, hchain, List.length_append, List.length_singleton] at hlength
  omega

end FoundIn

end Query

end TrustWeb
