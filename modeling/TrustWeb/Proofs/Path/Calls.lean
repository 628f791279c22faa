import TrustWeb.Proofs.Search.Chain

/-! # A path that is extended in place

Signatures are offered to a path one after the other; each of them is taken or refused. The path is
checked before it is changed, so that a refusal leaves it as it was. Whatever is offered, and in
whatever modes, the path stays connected, and it comes back to a certificate only at once, by a
certification of it. -/

namespace TrustWeb

/-! ## Connected signatures -/

/-- Each signature is issued by the certificate in its place along the way. -/
theorem Connects.issuer_getElem? {start stop : Fingerprint} {ss : List Signature}
    (h : Connects start ss stop) {i : Nat} {s : Signature} (hs : ss[i]? = some s) :
    (start :: ss.map (·.target.fingerprint))[i]? = some s.issuer.fingerprint := by
  induction ss generalizing start i with
  | nil => cases hs
  | cons t rest ih =>
      cases i with
      | zero =>
          obtain rfl : t = s := by simpa using hs
          simpa using h.1.symm
      | succ i => simpa using ih h.2 (by simpa using hs)

namespace Path

variable {p q : Path} {s : Signature} {mode : Mode}

/-! ## One signature -/

/-- What a path has to be, and what it becomes, if it takes a signature. -/
theorem append_eq_ok_iff :
    p.append s mode = .ok q ↔
      s.issuer.fingerprint = p.target.fingerprint ∧
        (mode = .authentication → p.residual.aboveNumber 0 = true) ∧ p.closesCycle s = false ∧
        ∃ d, p.residualAfter s mode = .ok d ∧ q = ⟨p.root, p.signatures ++ [s], d⟩ := by
  unfold append
  by_cases htail : s.issuer.fingerprint = p.target.fingerprint
  · by_cases hroom : mode = .authentication → p.residual.aboveNumber 0 = true
    · have hchecked : ¬(mode = .authentication ∧ p.residual.aboveNumber 0 = false) := by
        simpa using hroom
      rw [if_neg (not_not.mpr htail), if_neg hchecked]
      cases hcycle : p.closesCycle s with
      | true => simp
      | false =>
          rw [if_neg Bool.false_ne_true, map_eq_ok_iff]
          exact ⟨fun ⟨d, hd, hq⟩ => ⟨htail, hroom, rfl, d, hd, hq.symm⟩,
            fun ⟨_, _, _, d, hd, hq⟩ => ⟨d, hd, hq.symm⟩⟩
    · have hchecked : mode = .authentication ∧ p.residual.aboveNumber 0 = false := by
        simpa using hroom
      simp [htail, hchecked]
  · simp [htail]

/-- A signature that is refused was not issued by the last certificate, comes when the path may not
be extended, or leads back to a certificate. -/
theorem append_eq_error {fault : Fault} (h : p.append s mode = .error fault) :
    fault = .notTail p.target.fingerprint s.issuer.fingerprint ∨
      fault = .pathUsedUp p.root.fingerprint ∨
      fault = .cycle s.issuer.fingerprint s.target.fingerprint := by
  unfold append at h
  split at h
  · exact .inl (Except.error.inj h).symm
  · split at h
    · exact .inr (.inl (Except.error.inj h).symm)
    · next hroom =>
        split at h
        · exact .inr (.inr (Except.error.inj h).symm)
        · exfalso
          cases mode with
          | certification => cases h
          | authentication =>
              have habove : p.residual.belowNumber 1 = false := by
                simpa [Depth.aboveNumber_eq] using hroom
              obtain ⟨d, hd, -⟩ := Depth.reduce_one habove
              simp [residualAfter, hd, Except.map] at h

/-- A path that may not be extended refuses what its last certificate issued. -/
theorem append_of_usedUp (htail : s.issuer.fingerprint = p.target.fingerprint)
    (hfull : p.residual.belowNumber 1 = true) :
    p.append s .authentication = .error (.pathUsedUp p.root.fingerprint) := by
  have habove : p.residual.aboveNumber 0 = false := by
    rw [Depth.aboveNumber_eq, Int.zero_add, hfull]
    rfl
  simp [append, htail, habove]

/-- A path that may be extended refuses what its last certificate issued if that leads back. -/
theorem append_of_closesCycle (htail : s.issuer.fingerprint = p.target.fingerprint)
    (hroom : mode = .authentication → p.residual.belowNumber 1 = false)
    (hcycle : p.closesCycle s = true) :
    p.append s mode = .error (.cycle s.issuer.fingerprint s.target.fingerprint) := by
  have hchecked : ¬(mode = .authentication ∧ p.residual.aboveNumber 0 = false) := by
    rw [Depth.aboveNumber_eq, Int.zero_add]
    simpa using hroom
  simp [append, htail, hchecked, hcycle]

/-- Takes a signature into the path that is kept: after the checks the residual depth is changed
first, and then the signature is added. What was changed stays if a later step fails. -/
def extend (s : Signature) (mode : Mode) : ExceptT Fault (StateM Path) Unit := do
  let p ← get
  if s.issuer.fingerprint ≠ p.target.fingerprint then
    throw (.notTail p.target.fingerprint s.issuer.fingerprint)
  if mode = .authentication ∧ p.residual.aboveNumber 0 = false then
    throw (.pathUsedUp p.root.fingerprint)
  if p.closesCycle s then
    throw (.cycle s.issuer.fingerprint s.target.fingerprint)
  if mode = .authentication then
    let reduced ← p.residual.reduce 1
    modify fun p => { p with residual := s.depth.min reduced }
  modify fun p => { p with signatures := p.signatures ++ [s] }

/-- The outcome of offering a signature to a path, and the path afterwards. -/
def offer (p : Path) (s : Signature) (mode : Mode) : Except Fault Unit × Path :=
  (extend s mode).run.run p

theorem offer_eq (p : Path) (s : Signature) (mode : Mode) :
    p.offer s mode =
      match p.append s mode with
      | .ok q => (.ok (), q)
      | .error fault => (.error fault, p) := by
  -- The path that is read first is the given one.
  change (if s.issuer.fingerprint ≠ p.target.fingerprint then _
    else if mode = .authentication ∧ p.residual.aboveNumber 0 = false then _
    else if p.closesCycle s then _ else if mode = .authentication then _ else _ :
      ExceptT Fault (StateM Path) Unit).run p = _
  unfold append
  split
  · rfl
  · split
    · rfl
    · split
      · rfl
      · cases mode with
        | certification => rfl
        | authentication =>
            simp only [if_true, residualAfter]
            cases p.residual.reduce 1 with
            | error fault => rfl
            | ok reduced => rfl

theorem offer_eq_ok_iff : p.offer s mode = (.ok (), q) ↔ p.append s mode = .ok q := by
  rw [offer_eq]
  cases p.append s mode <;> simp

theorem offer_eq_error_iff {fault : Fault} :
    p.offer s mode = (.error fault, q) ↔ p.append s mode = .error fault ∧ q = p := by
  rw [offer_eq]
  cases p.append s mode <;> simp [eq_comm]

/-! ## Certificates that come back -/

/-- Signature `i` certifies the certificate that the path had just reached: as the first signature,
or over another datum than the signature that reached it. -/
def Closes (p : Path) (i : Nat) : Prop :=
  ∃ s, p.signatures[i]? = some s ∧ s.isDelegation = false ∧
    (i = 0 ∨ ∃ t, p.signatures[i - 1]? = some t ∧ t.userId ≠ s.userId)

/-- The path is connected, and comes back to a certificate only at once, by a certification. -/
structure Regular (p : Path) : Prop where
  connected : Connects p.root.fingerprint p.signatures p.target.fingerprint
  returns : ∀ i j f, i < j → p.visited[i]? = some f → p.visited[j]? = some f →
    j = i + 1 ∧ p.Closes i

theorem regular_start (root : Node) : Regular { root } := by
  refine ⟨rfl, fun i j f hij _ hj => ?_⟩
  have hlt := (List.getElem?_eq_some_iff.mp hj).1
  simp [visited_eq] at hlt
  omega

theorem visited_concat (p : Path) (s : Signature) (d : Depth) :
    visited ⟨p.root, p.signatures ++ [s], d⟩ = p.visited ++ [s.target.fingerprint] := by
  simp [visited_eq]

@[simp] theorem length_visited (p : Path) : p.visited.length = p.signatures.length + 1 := by
  simp [visited_eq]

theorem Closes.concat {i : Nat} (h : p.Closes i) (s : Signature) (d : Depth) :
    Closes ⟨p.root, p.signatures ++ [s], d⟩ i := by
  have hstays : ∀ {k t}, p.signatures[k]? = some t → (p.signatures ++ [s])[k]? = some t :=
    fun ht => by rw [List.getElem?_append_left (List.getElem?_eq_some_iff.mp ht).1, ht]
  obtain ⟨u, hu, hcertifies, hdatum⟩ := h
  refine ⟨u, hstays hu, hcertifies, hdatum.imp_right ?_⟩
  rintro ⟨t, ht, hne⟩
  exact ⟨t, hstays ht, hne⟩

theorem closesCycle_concat_eq_false_iff {root : Node} {front : List Signature} {last : Signature}
    {d : Depth} :
    closesCycle ⟨root, front ++ [last], d⟩ s = false ↔
      s.target.fingerprint ≠ root.fingerprint ∧
        (∀ t ∈ front, t.target.fingerprint ≠ s.target.fingerprint) ∧
        (last.target.fingerprint = s.target.fingerprint →
          s.isDelegation = false ∧ last.userId ≠ s.userId) := by
  by_cases hroot : s.target.fingerprint = root.fingerprint
  · simp [closesCycle, hroot]
  · by_cases hfront : front.any (·.target.fingerprint == s.target.fingerprint) = true
    · have hseen : ¬∀ t ∈ front, t.target.fingerprint ≠ s.target.fingerprint := by
        simpa using hfront
      simp [closesCycle, hroot, hfront, hseen]
    · have hnew : ∀ t ∈ front, t.target.fingerprint ≠ s.target.fingerprint := by
        simpa using hfront
      rw [and_iff_right hroot, and_iff_right hnew, ne_comm]
      simp [closesCycle, hroot, hfront, -List.any_eq_true]

/-- A signature that closes no cycle leads back to no certificate but the last one, which it
certifies over another datum than the signature before it. -/
theorem closes_of_not_closesCycle (h : p.closesCycle s = false) {i : Nat}
    (hi : p.visited[i]? = some s.target.fingerprint) (d : Depth) :
    i = p.signatures.length ∧ Closes ⟨p.root, p.signatures ++ [s], d⟩ i := by
  obtain ⟨root, signatures, residual⟩ := p
  rw [visited_eq] at hi
  rcases List.eq_nil_or_concat signatures with rfl | ⟨front, last, rfl⟩
  · cases i with
    | succ i => simp at hi
    | zero =>
        have htarget : root.fingerprint = s.target.fingerprint := by simpa using hi
        exact ⟨rfl, s, rfl, by simpa [closesCycle, htarget] using h, .inl rfl⟩
  · rw [List.concat_eq_append] at h hi ⊢
    obtain ⟨hroot, hfront, hlast⟩ := closesCycle_concat_eq_false_iff.mp h
    cases i with
    | zero => exact (hroot (by simpa using hi.symm)).elim
    | succ i =>
        rw [List.getElem?_cons_succ, List.getElem?_map, Option.map_eq_some_iff] at hi
        obtain ⟨t, ht, htarget⟩ := hi
        rcases Nat.lt_or_ge i front.length with hlt | hge
        · rw [List.getElem?_append_left hlt] at ht
          exact (hfront t (List.mem_of_getElem? ht) htarget).elim
        · have hlength := (List.getElem?_eq_some_iff.mp ht).1
          obtain rfl : i = front.length := by simp at hlength; omega
          obtain rfl : last = t := by simpa using ht
          obtain ⟨hcertifies, hdatum⟩ := hlast htarget
          exact ⟨by simp, s, by simp, hcertifies, .inr ⟨last, by simp, hdatum⟩⟩

/-- A path that takes a signature stays regular. -/
theorem Regular.append (hp : p.Regular) (h : p.append s mode = .ok q) : q.Regular := by
  obtain ⟨htail, -, hcycle, d, -, rfl⟩ := append_eq_ok_iff.mp h
  refine ⟨?_, fun i j f hij hi hj => ?_⟩
  · rw [target_concat]
    exact hp.connected.append ⟨htail, rfl⟩
  · rw [visited_concat] at hi hj
    have hlength : j < p.visited.length + 1 := by
      simpa using (List.getElem?_eq_some_iff.mp hj).1
    have hi' : p.visited[i]? = some f := by rwa [List.getElem?_append_left (by omega)] at hi
    rcases Nat.lt_or_ge j p.visited.length with hlt | hge
    · rw [List.getElem?_append_left hlt] at hj
      obtain ⟨hnext, hcloses⟩ := hp.returns i j f hij hi' hj
      exact ⟨hnext, hcloses.concat s d⟩
    · -- The certificate that the new signature reaches is the one that comes back.
      obtain rfl : j = p.visited.length := by omega
      obtain rfl : s.target.fingerprint = f := by simpa using hj
      obtain ⟨hlast, hcloses⟩ := closes_of_not_closesCycle hcycle hi' d
      exact ⟨by rw [length_visited, hlast], hcloses⟩

/-! ## What is regular -/

theorem count_le_two {fs : List Fingerprint}
    (h : ∀ i j f, i < j → fs[i]? = some f → fs[j]? = some f → j = i + 1) (f : Fingerprint) :
    fs.count f ≤ 2 := by
  induction fs with
  | nil => simp
  | cons g rest ih =>
      by_cases hg : g = f
      · cases rest with
        | nil => simp [hg]
        | cons g' rest =>
            have hrest : f ∉ rest := fun hmem => by
              obtain ⟨k, hk⟩ := List.getElem?_of_mem hmem
              have hnext := h 0 (k + 2) f (by omega) (by simp [hg]) (by simpa using hk)
              omega
            rw [List.count_cons, List.count_cons, List.count_eq_zero_of_not_mem hrest]
            split <;> split <;> omega
      · rw [List.count_cons_of_ne hg]
        exact ih fun i j f' hij hi hj => by
          have hnext := h (i + 1) (j + 1) f' (by omega) (by simpa using hi) (by simpa using hj)
          omega

/-- No two signatures of a regular path connect the same certificates. -/
theorem Regular.nodup_endpoints (hp : p.Regular) : (p.signatures.map (·.endpoints)).Nodup := by
  rw [List.nodup_iff_getElem?_ne_getElem?]
  intro i j hij hj hsame
  rw [List.length_map] at hj
  rw [List.getElem?_map, List.getElem?_map, List.getElem?_eq_getElem (by omega),
    List.getElem?_eq_getElem hj] at hsame
  obtain ⟨hissuer, htarget⟩ := Prod.mk.inj (Option.some.inj hsame)
  have hplace : ∀ k (hk : k < p.signatures.length),
      p.visited[k]? = some p.signatures[k].issuer.fingerprint ∧
        p.visited[k + 1]? = some p.signatures[k].target.fingerprint := fun k hk => by
    rw [visited_eq]
    exact ⟨hp.connected.issuer_getElem? (List.getElem?_eq_getElem hk), by simp [hk]⟩
  obtain ⟨hi₁, hi₂⟩ := hplace i (by omega)
  obtain ⟨hj₁, hj₂⟩ := hplace j hj
  -- The same certificate in three places in a row would not come back at once.
  have hnext := (hp.returns i j _ hij hi₁ (by rw [hj₁, hissuer])).1
  subst hnext
  have hsame : p.visited[i + 1 + 1]? = some p.signatures[i].issuer.fingerprint := by
    rw [hj₂, ← htarget, ← hi₂, hj₁, hissuer]
  have hskip := (hp.returns i (i + 1 + 1) _ (by omega) hi₁ hsame).1
  omega

/-! ## One signature after the other -/

/-- The path after signatures were offered to it one after the other, each in a mode of its own. -/
def offerAll (p : Path) (offers : List (Signature × Mode)) : Path :=
  offers.foldl (fun p o => (p.offer o.1 o.2).2) p

theorem Regular.offer (hp : p.Regular) (s : Signature) (mode : Mode) :
    (p.offer s mode).2.Regular := by
  rw [offer_eq]
  cases h : p.append s mode with
  | error fault => exact hp
  | ok q => exact hp.append h

theorem Regular.offerAll (hp : p.Regular) (offers : List (Signature × Mode)) :
    (p.offerAll offers).Regular := by
  induction offers generalizing p with
  | nil => exact hp
  | cons o rest ih => exact ih (hp.offer o.1 o.2)

theorem root_offer (p : Path) (s : Signature) (mode : Mode) : (p.offer s mode).2.root = p.root := by
  rw [offer_eq]
  cases h : p.append s mode with
  | error fault => rfl
  | ok q => exact (signatures_of_append h).1

theorem root_offerAll (p : Path) (offers : List (Signature × Mode)) :
    (p.offerAll offers).root = p.root := by
  induction offers generalizing p with
  | nil => rfl
  | cons o rest ih => exact (ih _).trans (root_offer p o.1 o.2)

/-- Whatever signatures are offered to a path, in whatever modes: it is connected; a certificate
comes at most twice, and if twice then at once, the second time by a certification, which is the
first signature of the path or over another datum than the signature that reached the certificate;
no two signatures connect the same certificates; and the next signature is added at the end or
leaves the path as it was. -/
theorem offerAll_regular (root : Node) (offers : List (Signature × Mode)) :
    Connects root.fingerprint (offerAll { root } offers).signatures
        (offerAll { root } offers).target.fingerprint ∧
      (∀ f, (offerAll { root } offers).visited.count f ≤ 2) ∧
      (∀ i j f, i < j → (offerAll { root } offers).visited[i]? = some f →
        (offerAll { root } offers).visited[j]? = some f →
          j = i + 1 ∧ (offerAll { root } offers).Closes i) ∧
      ((offerAll { root } offers).signatures.map (·.endpoints)).Nodup ∧
      (∀ s mode q, (offerAll { root } offers).offer s mode = (.ok (), q) →
        q.root = root ∧ q.signatures = (offerAll { root } offers).signatures ++ [s]) ∧
      ∀ s mode fault q, (offerAll { root } offers).offer s mode = (.error fault, q) →
        q = offerAll { root } offers ∧
          (fault = .notTail (offerAll { root } offers).target.fingerprint s.issuer.fingerprint ∨
            fault = .pathUsedUp root.fingerprint ∨
            fault = .cycle s.issuer.fingerprint s.target.fingerprint) := by
  have hroot := root_offerAll { root } offers
  have hregular := (regular_start root).offerAll offers
  generalize offerAll { root } offers = p at hroot hregular ⊢
  obtain rfl : p.root = root := hroot
  refine ⟨hregular.connected, count_le_two fun i j f hij hi hj =>
    (hregular.returns i j f hij hi hj).1, hregular.returns, hregular.nodup_endpoints,
    fun s mode q h => signatures_of_append (offer_eq_ok_iff.mp h), fun s mode fault q h => ?_⟩
  obtain ⟨hfault, hq⟩ := offer_eq_error_iff.mp h
  exact ⟨hq, append_eq_error hfault⟩

end Path

end TrustWeb
