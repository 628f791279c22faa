import TrustWeb.Proofs.Authentication.Balance
import TrustWeb.Proofs.PathCheck.Outcome

/-! # What a valid path shows and carries

A valid path leads over signatures of the network that a search would use as well, but for one
thing: the last one is taken whatever its scope. Its amount is limited by its signatures and by the
root that it starts from, but not by full trust nor by other roots that it leads through. -/

namespace TrustWeb

theorem Query.left_residual (q : Query) (s : Signature) :
    q.residual.left s = max 0 (q.residual.cappedAmount s) := by
  obtain ⟨caps, hr⟩ := q.residual_eq
  have htaken : q.residual.takenFrom s.endpoints = 0 := by
    rw [hr]
    rfl
  rw [Residual.left, htaken]
  omega

namespace Web

variable {w : Web} {root : Fingerprint} {others : List Fingerprint} {userId : String}
  {subject : Subject} {c : PathCheck} {p : Path} {ss : List Signature}

/-! ## What it shows -/

/-- What a valid path over the given certificates shows of the last one in authentication mode. -/
structure Attests (w : Web) (root : Fingerprint) (others : List Fingerprint) (userId : String)
    (p : Path) : Prop where
  valid : ∃ n, w.query.residual.Valid (others.getLast?.getD root) userId n
  start : p.root.fingerprint = root
  connected : Connects root p.signatures (others.getLast?.getD root)
  targets : others ≠ [] → p.signatures.map (·.target.fingerprint) = others
  known : others ≠ [] → ∀ s ∈ p.signatures, s ∈ w.network.signatures
  certifies : ∃ s, p.signatures.getLast? = some s ∧ s.userId = some userId
  covered : ∀ s ∈ p.signatures.dropLast, s.scope.covers (.userId userId) = .ok true
  deep : LeavesRoom 0 p.signatures

theorem isOver_userId_iff {datum : Option String} :
    (Subject.userId userId).isOver datum = true ↔ datum = some userId := by
  cases datum with
  | none =>
      constructor
      · intro h
        cases h
      · intro h
        cases h
  | some text =>
      simp only [Subject.isOver, beq_iff_eq, Option.some.injEq]
      exact eq_comm

theorem Picks.ne_nil (hkeys : w.network.WellKeyed) (h : w.Picks root userId others ss) :
    ss ≠ [] := by
  cases h with
  | own _ => simp
  | hops hne hchooses =>
      rintro rfl
      exact hne (hchooses.targets hkeys).symm

/-- The last signature picked is over the user ID. -/
theorem Picks.certifies (hkeys : w.network.WellKeyed) (h : w.Picks root userId others ss) :
    ∃ s, ss.getLast? = some s ∧ s.userId = some userId := by
  refine ⟨ss.getLast (h.ne_nil hkeys), List.getLast?_eq_some_getLast _, ?_⟩
  rw [← isOver_userId_iff]
  cases h with
  | own hown => exact (Residual.isOwn_of_selfSignature? hkeys hown).isOver
  | hops hne hchooses =>
      exact (hchooses.serves hkeys).certifies _ (List.getLast?_eq_some_getLast _)

theorem Leads.attests (hkeys : w.network.WellKeyed) (hmode : w.mode = .authentication)
    (h : w.Leads root others userId p) : w.Attests root others userId p := by
  obtain ⟨-, ⟨m, hm⟩, n, ss, hroot, hpicks, hgrows⟩ := h
  obtain ⟨hstart, hsignatures⟩ := hgrows.root_signatures
  have hvalid : w.query.residual.Valid (others.getLast?.getD root) userId m :=
    hm.of_network w.query.network_residual
  have hf : p.root.fingerprint = root := by
    rw [hstart]
    exact hkeys.fingerprint_of_node? hroot
  have hcertifies := hpicks.certifies hkeys
  rw [List.nil_append] at hsignatures
  rw [← hsignatures] at hcertifies
  cases hpicks with
  | own hown =>
      have howns := Residual.isOwn_of_selfSignature? hkeys hown
      refine ⟨⟨m, hvalid⟩, hf, ?_, fun hne => (hne rfl).elim, fun hne => (hne rfl).elim,
        hcertifies, ?_, ?_⟩
      · rw [hsignatures]
        exact ⟨howns.issuer, howns.target⟩
      · simp [hsignatures]
      · intro i s hs hi
        simp [hsignatures] at hi
  | hops hne hchooses =>
      have hserves := hchooses.serves hkeys
      rw [← hsignatures] at hserves
      refine ⟨⟨m, hvalid⟩, hf, hserves.connected, fun _ => ?_, fun _ => hserves.known, hcertifies,
        fun s hs => hserves.covered s hs hmode, hserves.deep hmode⟩
      rw [hsignatures]
      exact hchooses.targets hkeys

/-- If the scopes of all certifications of the target cover the user ID, so do those of all
signatures of a valid path. -/
theorem Leads.covers (hkeys : w.network.WellKeyed) (hmode : w.mode = .authentication)
    (h : w.Leads root others userId p)
    (hscopes : ∀ s ∈ w.network.signatures, s.target.fingerprint = others.getLast?.getD root →
      s.userId = some userId → s.scope.covers (.userId userId) = .ok true) :
    ∀ s ∈ p.signatures, s.scope.covers (.userId userId) = .ok true := by
  obtain ⟨-, -, n, ss, -, hpicks, hgrows⟩ := h
  obtain ⟨-, hsignatures⟩ := hgrows.root_signatures
  rw [hsignatures, List.nil_append]
  cases hpicks with
  | own hown =>
      obtain ⟨_, _, -, -, -, rfl⟩ := Residual.selfSignature?_eq_some_iff.mp hown
      simp [Residual.selfSignature]
  | hops hne hchooses =>
      have hserves := hchooses.serves hkeys
      intro s hs
      rcases List.eq_nil_or_concat ss with rfl | ⟨front, last, rfl⟩
      · cases hs
      · rw [List.concat_eq_append] at hs hserves
        rcases List.mem_append.mp hs with hs | hs
        · exact hserves.covered s (by simpa using hs) hmode
        · obtain rfl : s = last := by simpa using hs
          have hlast : (front ++ [s]).getLast? = some s := List.getLast?_concat
          exact hscopes s (hserves.known s (by simp)) (hserves.connected.target_of_getLast? hlast)
            (isOver_userId_iff.mp (hserves.certifies s hlast))

/-- In authentication mode a valid path leads from the root over the given certificates to a binding
that may be authenticated. Its last signature certifies the binding; those before it cover the user
ID and leave room for the hops after them. If the scopes of all certifications of the target cover
the user ID, that of the last signature does as well. -/
theorem checkPath_sound (hkeys : w.network.WellKeyed) (hmode : w.mode = .authentication)
    (h : w.checkPath root others (.userId userId) = .ok c) (hvalid : c.isValid = true) :
    ∃ p, c.path = some p ∧ w.Attests root others userId p ∧
      ((∀ s ∈ w.network.signatures, s.target.fingerprint = others.getLast?.getD root →
        s.userId = some userId → s.scope.covers (.userId userId) = .ok true) →
          ∀ s ∈ p.signatures, s.scope.covers (.userId userId) = .ok true) := by
  obtain ⟨p, hleads, rfl⟩ := (checkPath_valid_iff hkeys).mp ⟨h, hvalid⟩
  exact ⟨p, rfl, hleads.attests hkeys hmode, hleads.covers hkeys hmode⟩

end Web

namespace Introduction

/-- The network with all of its certificates. -/
def complete : Network :=
  ((builder.addNode { fingerprint := ⟨"A"⟩ }).1.addNode { fingerprint := ⟨"B"⟩ }).1.build moment

theorem wellKeyed_complete : complete.WellKeyed :=
  Builder.Reached.network_wellKeyed (.addNode (.addNode reached _) _)
    (.addNode (.addNode reached _) _) moment

theorem signatures_complete : complete.signatures = [direct, delegation, introduced] := rfl

/-- The web of trust of `A`. -/
def web : Web where
  network := complete
  roots := ⟨[(⟨"A"⟩, fullTrust)]⟩
  mode := .authentication
  wanted := fullTrust
  maxSearches := none
  wanted_pos := by decide

/-- The path over `B` is valid. -/
theorem checkPath_web :
    (web.checkPath ⟨"A"⟩ [⟨"B"⟩, ⟨"C"⟩] (.userId "carol@example.org")).toOption.map
      (fun c => (c.isValid, c.amount, c.path.map (·.signatures))) =
        some (true, 60, some [delegation, introduced]) := by
  cbv

end Introduction

theorem Web.checkPath_sound_introduction :
    Introduction.web.network.WellKeyed ∧ Introduction.web.mode = .authentication ∧
      ∃ c p, Introduction.web.checkPath ⟨"A"⟩ [⟨"B"⟩, ⟨"C"⟩] (.userId "carol@example.org") = .ok c ∧
        c.isValid = true ∧ c.path = some p ∧
        Introduction.web.Attests ⟨"A"⟩ [⟨"B"⟩, ⟨"C"⟩] "carol@example.org" p ∧
        ∀ s ∈ p.signatures, s.scope.covers (.userId "carol@example.org") = .ok true := by
  obtain ⟨c, hcheck, hchecked⟩ := exists_ok_of_toOption Introduction.checkPath_web
  obtain ⟨hvalid, -⟩ := Prod.mk.inj hchecked
  obtain ⟨p, hpath, hattests, hcovers⟩ :=
    Web.checkPath_sound Introduction.wellKeyed_complete rfl hcheck hvalid
  refine ⟨Introduction.wellKeyed_complete, rfl, c, p, hcheck, hvalid, hpath, hattests, hcovers ?_⟩
  intro s hs htarget huser
  have hs : s ∈ Introduction.complete.signatures := hs
  rw [Introduction.signatures_complete] at hs
  simp only [List.mem_cons, List.not_mem_nil, or_false] at hs
  rcases hs with rfl | rfl | rfl
  · rfl
  · cases huser
  · rfl

/-! ### A certification for other user IDs

`A` certifies the user ID of `C` by a signature whose scope leaves it out. -/

namespace Strayed

def direct : Signature := { Introduction.direct with scope := ⟨["@elsewhere"]⟩ }

def web : Web :=
  { Introduction.web with
    network := ((((({} : Builder).addNode { fingerprint := ⟨"A"⟩ }).1.addNode
      Introduction.carol).1).addSignature direct).build Introduction.moment }

end Strayed

/-- A valid path may end with a signature whose scope does not cover the user ID, where an
authentication finds no path. -/
theorem Web.checkPath_admits_uncovered :
    (Strayed.web.checkPath ⟨"A"⟩ [⟨"C"⟩] (.userId "carol@example.org")).toOption.map
        (fun c => (c.isValid, c.amount, c.path.map (·.signatures))) =
          some (true, 30, some [Strayed.direct]) ∧
      Strayed.direct.scope.covers (.userId "carol@example.org") = .ok false ∧
      Strayed.web.query.authenticate ⟨"C"⟩ (.userId "carol@example.org") 120 = .ok {} :=
  ⟨by cbv, by cbv, by cbv⟩

namespace Web

variable {w : Web} {root : Fingerprint} {others : List Fingerprint} {subject : Subject}
  {c : PathCheck} {p : Path}

/-! ## What it carries -/

/-- In authentication mode the amount of a path from a root is no more than that root passes on and
than each of its signatures gives. It is no more than each of them has left when an authentication
starts, if one of these bounds is within full trust and no other root that is not trusted outright
issued a signature on the path. -/
theorem checkPath_carries {limit : Int} (hmode : w.mode = .authentication)
    (hroot : w.roots.amount? root = some limit) (h : w.checkPath root others subject = .ok c)
    (hpath : c.path = some p) :
    (∀ s ∈ p.signatures, c.amount ≤ max 0 (min s.trust limit)) ∧
      ((limit ≤ fullTrust ∨ ∃ s ∈ p.signatures, s.trust ≤ fullTrust) →
        (∀ s ∈ p.signatures, s.issuer.fingerprint ≠ root →
          ∀ amount, w.roots.amount? s.issuer.fingerprint = some amount → fullTrust ≤ amount) →
        ∀ s ∈ p.signatures, c.amount ≤ w.query.residual.left s) := by
  have hamount := checkPath_amount h hpath
  cases hvalid : c.isValid with
  | false =>
      obtain hzero : c.amount = 0 := by simpa [hvalid] using hamount
      rw [hzero]
      exact ⟨fun s _ => Int.le_max_left _ _, fun _ _ s _ => Residual.left_nonneg _ s⟩
  | true =>
      obtain hcarried : c.amount = w.amountFrom root p := by simpa [hvalid] using hamount
      have htrust : ∀ s ∈ p.signatures, c.amount ≤ s.trust := by
        intro s hs
        rw [hcarried]
        exact amountFrom_le_trust hs
      have hlimit : c.amount ≤ limit := by
        rw [hcarried]
        exact amountFrom_le_root hmode hroot
      refine ⟨fun s hs => ?_, fun hfull hothers s hs => ?_⟩
      · have := htrust s hs
        omega
      · have hle : c.amount ≤ fullTrust := by
          rcases hfull with hfull | ⟨t, ht, hfull⟩
          · exact hlimit.trans hfull
          · exact (htrust t ht).trans hfull
        have hs' := htrust s hs
        have hmode' : w.query.mode = .authentication := hmode
        rw [Query.left_residual, Query.cappedAmount_residual, hmode']
        cases hissuer : w.query.roots.amount? s.issuer.fingerprint with
        | none =>
            simp only
            omega
        | some amount =>
            have hamount : c.amount ≤ amount := by
              by_cases hsame : s.issuer.fingerprint = root
              · obtain rfl : limit = amount := by
                  rw [hsame] at hissuer
                  exact Option.some.inj (hroot.symm.trans hissuer)
                exact hlimit
              · exact hle.trans (hothers s hs hsame amount hissuer)
            simp only
            omega

end Web

/-- The path over `B` carries what `B` gives. -/
theorem Web.checkPath_carries_introduction :
    Introduction.web.mode = .authentication ∧
      Introduction.web.roots.amount? ⟨"A"⟩ = some fullTrust ∧
      ∃ c p, Introduction.web.checkPath ⟨"A"⟩ [⟨"B"⟩, ⟨"C"⟩] (.userId "carol@example.org") = .ok c ∧
        c.path = some p ∧ c.amount = 60 ∧
        ∀ s ∈ p.signatures, c.amount ≤ Introduction.web.query.residual.left s := by
  obtain ⟨c, hcheck, hchecked⟩ := exists_ok_of_toOption Introduction.checkPath_web
  simp only [Prod.mk.injEq, Option.map_eq_some_iff] at hchecked
  obtain ⟨-, hamount, p, hpath, hsignatures⟩ := hchecked
  have hroot : Introduction.web.roots.amount? ⟨"A"⟩ = some fullTrust := rfl
  obtain ⟨-, hleft⟩ := Web.checkPath_carries rfl hroot hcheck hpath
  refine ⟨rfl, rfl, c, p, hcheck, hpath, hamount, hleft (.inl (Int.le_refl _)) ?_⟩
  intro s hs hother amount hroot
  rw [hsignatures] at hs
  simp only [List.mem_cons, List.not_mem_nil, or_false] at hs
  rcases hs with rfl | rfl
  · exact (hother rfl).elim
  · cases hroot

/-! ### Roots that pass on less

`B` is a root that passes on 40; and `A` is one that passes on more than full trust. -/

namespace Guarded

def web : Web := { Introduction.web with roots := ⟨[(⟨"A"⟩, fullTrust), (⟨"B"⟩, 40)]⟩ }

def direct : Signature := { Introduction.direct with amount := ⟨255, by decide⟩ }

def lavish : Web :=
  { Strayed.web with
    network := ((((({} : Builder).addNode { fingerprint := ⟨"A"⟩ }).1.addNode
      Introduction.carol).1).addSignature direct).build Introduction.moment
    roots := ⟨[(⟨"A"⟩, 200)]⟩ }

end Guarded

/-- A path may be said to carry more than a signature on it has left: more than another root on it
passes on, and more than full trust. -/
theorem Web.checkPath_overstates :
    (Guarded.web.checkPath ⟨"A"⟩ [⟨"B"⟩, ⟨"C"⟩] (.userId "carol@example.org")).toOption.map
        (fun c => (c.isValid, c.amount, c.path.map (·.signatures))) =
          some (true, 60, some [Introduction.delegation, Introduction.introduced]) ∧
      Guarded.web.query.residual.left Introduction.introduced = 40 ∧
      (Guarded.lavish.checkPath ⟨"A"⟩ [⟨"C"⟩] (.userId "carol@example.org")).toOption.map
        (fun c => (c.isValid, c.amount, c.path.map (·.signatures))) =
          some (true, 200, some [Guarded.direct]) ∧
      Guarded.lavish.query.residual.left Guarded.direct = 120 :=
  ⟨by cbv, by cbv, by cbv, by cbv⟩

end TrustWeb
