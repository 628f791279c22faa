import TrustWeb.Proofs.Path.Calls
import TrustWeb.Proofs.PathCheck.Completeness

/-! # How far a check follows a path

A check follows the certificates it is given, one hop after the other, as far as it finds a
signature for the next hop. Which signature is best for a hop is decided by the hops that remain
after it, so that the depths of the signatures taken leave room for all of them: the path refuses a
signature only because it leads back. -/

namespace TrustWeb

namespace PathCheck

variable {r : Residual} {subject : Subject} {p q : Path} {s : Signature} {remaining : Nat}
  {target : Fingerprint} {fs : List Fingerprint} {objections : List Objection}

/-- The certificates that a check follows; a root without others is followed to itself. -/
def chain (root : Fingerprint) (others : List Fingerprint) : List Fingerprint :=
  if others.isEmpty then [root, root] else root :: others

/-- How a path keeps to certificates: it leads over the first of them, and over all of them if
nothing speaks against going on. A signature is refused only where it would lead back. -/
structure KeepsTo (fs : List Fingerprint) (p : Path) (objections : List Objection) : Prop where
  visits : p.visited <+: fs
  all : objections = [] → p.visited = fs
  refuses : ∀ fault, .unusable fault ∈ objections →
    ∃ f, fault = .cycle p.target.fingerprint f ∧ p.visited ++ [f] <+: fs

/-! ## One hop -/

/-- A signature that may be used for a hop leaves room for the hops that remain. -/
theorem Usable.leaves_room {issuer : Fingerprint}
    (h : Usable r subject remaining issuer target s) (hmode : r.mode = .authentication) :
    s.depth.belowNumber remaining = false := by
  rcases Nat.eq_zero_or_pos remaining with rfl | hpos
  · exact s.depth.belowNumber_zero
  · exact ((isUsable_iff hpos).mp h.fits).2 hmode

/-- A path that has room for a hop and those after it takes the best signature for the hop, unless
that leads back, and then has room for those after it. -/
theorem append_best_cases (hkeys : r.network.WellKeyed)
    (hbest : bestSignature? r subject remaining p.target.fingerprint target = .ok (some s))
    (hroom : r.mode = .authentication → p.residual.belowNumber (remaining + 1) = false) :
    p.append s r.mode = .error (.cycle p.target.fingerprint target) ∨
      ∃ d, p.append s r.mode = .ok ⟨p.root, p.signatures ++ [s], d⟩ ∧
        s.target.fingerprint = target ∧
        (r.mode = .authentication → d.belowNumber remaining = false) := by
  have husable := usable_of_bestSignature? hkeys hbest
  have hone : r.mode = .authentication → p.residual.belowNumber 1 = false :=
    fun hmode => Depth.belowNumber_of_le (hroom hmode) (by omega)
  cases hcycle : p.closesCycle s with
  | true =>
      refine .inl ?_
      rw [Path.append_of_closesCycle husable.issuer hone hcycle, husable.issuer, husable.target]
  | false =>
      obtain ⟨d, happend, hd⟩ := Path.append_ok r.mode husable.issuer hone hcycle
      refine .inr ⟨d, happend, husable.target, fun hmode => ?_⟩
      rw [hd hmode, husable.leaves_room hmode, hroom hmode]
      rfl

/-! ## All hops -/

theorem KeepsTo.stop {objection : Objection} (h : p.visited <+: fs)
    (hnot : ∀ fault, objection ≠ .unusable fault) : KeepsTo fs p [objection] :=
  ⟨h, by simp, fun fault hfault => (hnot fault (List.mem_singleton.mp hfault).symm).elim⟩

/-- A path with room for all hops is followed over the first of them. -/
theorem keepsTo_of_follow (hkeys : r.network.WellKeyed)
    (hroom : r.mode = .authentication → p.residual.belowNumber fs.length = false)
    (h : follow r subject p fs = .ok (q, objections)) : KeepsTo (p.visited ++ fs) q objections := by
  induction fs generalizing p with
  | nil =>
      obtain ⟨rfl, rfl⟩ : p = q ∧ [] = objections := by simpa [follow] using h
      exact ⟨by simp, by simp, by simp⟩
  | cons target fs ih =>
      simp only [follow] at h
      cases hbest : bestSignature? r subject fs.length p.target.fingerprint target with
      | error fault => simp [hbest] at h
      | ok s? =>
          cases s? with
          | none =>
              simp only [hbest, Except.ok.injEq, Prod.mk.injEq] at h
              obtain ⟨rfl, rfl⟩ := h
              exact .stop (List.prefix_append _ _) fun fault => by split <;> simp
          | some s =>
              rcases append_best_cases hkeys hbest (by simpa using hroom) with
                happend | ⟨d, happend, htarget, hleft⟩
              · simp only [hbest, happend, Except.ok.injEq, Prod.mk.injEq] at h
                obtain ⟨rfl, rfl⟩ := h
                refine ⟨List.prefix_append _ _, by simp, fun fault hfault => ⟨target, ?_, ?_⟩⟩
                · simpa using hfault
                · simp
              · simp only [hbest, happend] at h
                have hkeeps := ih hleft h
                rwa [Path.visited_concat, htarget, List.append_assoc,
                  List.singleton_append] at hkeeps

/-- A certificate is followed to itself over its own certification. -/
theorem keepsTo_of_followSelf (hkeys : r.network.WellKeyed) {n : Node}
    (h : followSelf r subject { root := n } = .ok (q, objections)) :
    KeepsTo [n.fingerprint, n.fingerprint] q objections := by
  rcases followSelf_cases h with ⟨-, rfl, rfl⟩ | ⟨s, hown, happend, rfl⟩
  · exact .stop (by simp [Path.visited_eq]) (by simp)
  · obtain ⟨-, -, -, d, -, rfl⟩ := Path.append_eq_ok_iff.mp happend
    have htarget := (Residual.isOwn_of_selfSignature? hkeys hown).target
    have hvisited : Path.visited ⟨n, [] ++ [s], d⟩ = [n.fingerprint, n.fingerprint] := by
      simp [Path.visited_eq, htarget]
    exact ⟨by rw [hvisited], fun _ => hvisited, by simp⟩

end PathCheck

namespace Web

variable {w : Web} {root : Fingerprint} {others : List Fingerprint} {userId : String}
  {c : PathCheck}

/-- What a check follows from a root keeps to the chain. -/
theorem keepsTo_of_followed (hkeys : w.network.WellKeyed) {n : Node}
    (hroot : w.network.node? root = some n) {subject : Subject} {p : Path}
    {objections : List Objection} (h : w.followed others subject n = .ok (p, objections)) :
    PathCheck.KeepsTo (PathCheck.chain root others) p objections := by
  obtain rfl : n.fingerprint = root := hkeys.fingerprint_of_node? hroot
  cases others with
  | nil => exact PathCheck.keepsTo_of_followSelf hkeys h
  | cons f fs =>
      exact PathCheck.keepsTo_of_follow (p := { root := n }) hkeys (fun _ => rfl) h

/-- What is reported of a check of known certificates keeps to the chain. -/
theorem exists_keepsTo (hkeys : w.network.WellKeyed)
    (hknown : ∀ f ∈ root :: others, ∃ n, w.network.node? f = some n) {subject : Subject}
    (h : w.checkPath root others subject = .ok c) :
    ∃ p, c.path = some p ∧ PathCheck.KeepsTo (PathCheck.chain root others) p c.objections := by
  obtain ⟨n, hroot⟩ := hknown root List.mem_cons_self
  obtain ⟨p, first, more, hfollowed, hfirst, rfl⟩ := exists_followed_of_checkPath hknown hroot h
  obtain ⟨hvisits, hall, hrefuses⟩ := keepsTo_of_followed hkeys hroot hfollowed
  refine ⟨p, rfl, hvisits, fun hnil => hall (List.append_eq_nil_iff.mp hnil).2,
    fun fault hfault => ?_⟩
  rcases List.mem_append.mp hfault with hunusable | hmore
  · cases hfirst _ hunusable
  · exact hrefuses fault hmore

/-- A valid path ends with a certification of the user ID. -/
theorem getLast?_of_checkPath (hkeys : w.network.WellKeyed)
    (h : w.checkPath root others (.userId userId) = .ok c) (hvalid : c.isValid = true) {p : Path}
    (hpath : c.path = some p) : ∃ s, p.signatures.getLast? = some s ∧ s.userId = some userId := by
  obtain ⟨q, ⟨-, -, n, ss, -, hpicks, hgrows⟩, rfl⟩ := (checkPath_valid_iff hkeys).mp ⟨h, hvalid⟩
  obtain rfl : q = p := by simpa using hpath
  rw [hgrows.root_signatures.2]
  exact hpicks.certifies hkeys

/-- A check for a user ID answers. A valid path leads over exactly the certificates of the chain,
and its last signature certifies the user ID. Otherwise nothing is carried and nothing is
acceptable; there is no path if a certificate is unknown, and one over the first certificates of the
chain if all are known. A signature that was chosen is refused only because it would lead back to a
certificate. -/
theorem checkPath_extent (hkeys : w.network.WellKeyed) (hsearchable : w.network.Searchable)
    (hcomparable : w.network.Comparable) (root : Fingerprint) (others : List Fingerprint)
    (userId : String) :
    ∃ c, w.checkPath root others (.userId userId) = .ok c ∧
      (c.isValid = true → ∃ p s, c.path = some p ∧ p.visited = PathCheck.chain root others ∧
        p.signatures.getLast? = some s ∧ s.userId = some userId) ∧
      (c.isValid = false → c.amount = 0 ∧ c.isAcceptable = false ∧
        ((∃ f ∈ root :: others, w.network.node? f = none) → c.path = none) ∧
        ((∀ f ∈ root :: others, w.network.node? f ≠ none) →
          ∃ p, c.path = some p ∧ p.visited <+: PathCheck.chain root others)) ∧
      ∀ fault, .unusable fault ∈ c.objections → ∃ p f, c.path = some p ∧
        fault = .cycle p.target.fingerprint f ∧
        p.visited ++ [f] <+: PathCheck.chain root others := by
  obtain ⟨c, hcheck⟩ := exists_checkPath hkeys hsearchable hcomparable root others userId
  rcases w.known_or_unknown (root :: others) with hknown | ⟨f, hf, hnone⟩
  · obtain ⟨p, hpath, hkeeps⟩ := exists_keepsTo hkeys hknown hcheck
    refine ⟨c, hcheck, fun hvalid => ?_, fun hinvalid => ⟨?_, ?_, ?_, fun _ => ?_⟩,
      fun fault hfault => ?_⟩
    · obtain ⟨s, hlast, huser⟩ := getLast?_of_checkPath hkeys hcheck hvalid hpath
      exact ⟨p, s, hpath, hkeeps.all (by simpa [PathCheck.isValid] using hvalid), hlast, huser⟩
    · simp [checkPath_amount hcheck hpath, hinvalid]
    · simp [PathCheck.isAcceptable, hinvalid]
    · rintro ⟨f, hf, hnone⟩
      obtain ⟨n, hn⟩ := hknown f hf
      cases hnone.symm.trans hn
    · exact ⟨p, hpath, hkeeps.visits⟩
    · obtain ⟨f, hcycle, hnext⟩ := hkeeps.refuses fault hfault
      exact ⟨p, f, hpath, hcycle, hnext⟩
  · obtain rfl := Except.ok.inj (hcheck.symm.trans (checkPath_names_unknown hf hnone _))
    refine ⟨_, hcheck, fun hvalid => ?_, fun hinvalid => ⟨rfl, ?_, fun _ => rfl, fun hknown => ?_⟩,
      fun fault hfault => ?_⟩
    · exact (unknown_ne_nil hf hnone (by simpa [PathCheck.isValid] using hvalid)).elim
    · simp [PathCheck.isAcceptable, hinvalid]
    · exact (hknown f hf hnone).elim
    · simp at hfault

end Web

/-- The path over `B` leads from `A` to `C` and certifies the binding; that from `A` to itself goes
nowhere, since `A` carries no user ID. -/
theorem Web.checkPath_extent_introduction :
    Introduction.web.network.WellKeyed ∧ Introduction.web.network.Searchable ∧
      Introduction.web.network.Comparable ∧
      (∃ c p s,
        Introduction.web.checkPath ⟨"A"⟩ [⟨"B"⟩, ⟨"C"⟩] (.userId "carol@example.org") = .ok c ∧
        c.isValid = true ∧ c.path = some p ∧ p.visited = [⟨"A"⟩, ⟨"B"⟩, ⟨"C"⟩] ∧
        p.signatures.getLast? = some s ∧ s.userId = some "carol@example.org") ∧
      ∃ c p, Introduction.web.checkPath ⟨"A"⟩ [] (.userId "alice@example.org") = .ok c ∧
        c.isValid = false ∧ c.amount = 0 ∧ c.path = some p ∧ p.visited <+: [⟨"A"⟩, ⟨"A"⟩] := by
  have hextent := Web.checkPath_extent Introduction.wellKeyed_complete
    Introduction.searchable_complete Introduction.comparable_complete (w := Introduction.web)
  refine ⟨Introduction.wellKeyed_complete, Introduction.searchable_complete,
    Introduction.comparable_complete, ?_, ?_⟩
  · obtain ⟨c, hcheck, hvalid, -, -⟩ := hextent ⟨"A"⟩ [⟨"B"⟩, ⟨"C"⟩] "carol@example.org"
    have hchecked := Introduction.checkPath_web
    simp only [hcheck, Except.toOption, Option.map_some, Option.some.injEq,
      Prod.mk.injEq] at hchecked
    obtain ⟨p, s, hreached⟩ := hvalid hchecked.1
    exact ⟨c, p, s, hcheck, hchecked.1, hreached⟩
  · obtain ⟨c, hcheck, -, hinvalid, -⟩ := hextent ⟨"A"⟩ [] "alice@example.org"
    have hrefused : (Introduction.web.checkPath ⟨"A"⟩ [] (.userId "alice@example.org")).toOption.map
        (·.isValid) = some false := by cbv
    simp only [hcheck, Except.toOption, Option.map_some, Option.some.injEq] at hrefused
    obtain ⟨hamount, -, -, hpath⟩ := hinvalid hrefused
    obtain ⟨p, hp, hprefix⟩ := hpath (by decide)
    exact ⟨c, p, hcheck, hrefused, hamount, hp, hprefix⟩

end TrustWeb
