import TrustWeb.Proofs.Authentication.Found
import TrustWeb.Proofs.Authentication.Soundness
import TrustWeb.Proofs.PathCheck.Soundness

/-! # Checking the paths of an authentication

Checked again, a path of an authentication is valid and carries at least its amount, as long as the
network holds a certification for its last hop: the signatures that the check chooses for the hops
before it have no less left, and since the path is a shortest one, none of them certifies the
binding already. The certification of a target by itself is no signature of the network, so that a
path which ends with it may be refused. -/

namespace TrustWeb

namespace Web

variable {w : Web} {r : Residual} {f : Fingerprint} {userId : String} {i : PathItem} {p : Path}
  {front front' : List Signature} {last last' s : Signature} {amount : Int}

/-- The certificates along a path are in the network. -/
def Knows (w : Web) (p : Path) : Prop :=
  ∀ n ∈ p.certificates, (w.network.node? n.fingerprint).isSome = true

/-- A signature of the network certifies the user ID for the last hop of a path and gives at least
the amount. -/
def Certifies (w : Web) (p : Path) (userId : String) (amount : Int) : Prop :=
  ∃ s ∈ w.network.signatures, s.userId = some userId ∧ amount ≤ s.trust ∧
    ∃ last, p.signatures.getLast? = some last ∧ s.endpoints = last.endpoints

theorem knows_iff : w.Knows p ↔
    ∀ g ∈ p.root.fingerprint :: p.signatures.map (·.target.fingerprint),
      ∃ n, w.network.node? g = some n := by
  simp [Knows, Path.certificates, Option.isSome_iff_exists]

section FoundIn

variable (hkeys : w.network.WellKeyed) (F : w.query.FoundIn r f (.userId userId) i)

include F

/-- A path that does not end with the certification of the target by itself ends with a
certification of the network. -/
theorem certifies_of_not_own (hkeys : w.network.WellKeyed)
    (hother : ∀ own, w.fresh.selfSignature? f (.userId userId) = some own →
      i.path.signatures.getLast? ≠ some own) : w.Certifies i.path userId i.amount := by
  obtain ⟨front, last, hsignatures⟩ := (List.eq_nil_or_concat i.path.signatures).resolve_left F.ne_nil
  rw [List.concat_eq_append] at hsignatures
  have hlast : i.path.signatures.getLast? = some last := by
    rw [hsignatures, List.getLast?_concat]
  have hknown : last ∈ w.network.signatures := by
    rcases F.known_or_own hlast with hknown | hown
    · exact hknown
    · rw [Residual.selfSignature?_of_network (r := w.fresh) w.query.network_residual] at hown
      exact (hother last hown hlast).elim
  have hover := (F.ends hkeys hsignatures).certifies
  have hle := F.amount_le (List.mem_of_getLast? hlast)
  exact ⟨last, hknown, isOver_userId_iff.mp hover, by omega, last, hlast, rfl⟩

include hkeys

/-- The certificates after the first one of a path lead to the target. -/
theorem getLast?_targets :
    i.path.signatures.map (·.target.fingerprint) ≠ [] ∧
      (i.path.signatures.map (·.target.fingerprint)).getLast?.getD i.path.root.fingerprint = f := by
  have hne := F.ne_nil
  refine ⟨by simpa using hne, ?_⟩
  have hlast := List.getLast?_eq_some_getLast hne
  rw [List.getLast?_map, hlast]
  exact (F.connects hkeys).target_of_getLast? hlast

/-- With a certification in place of its last signature, a path serves its hops. -/
theorem serves_of_certification (hsignatures : i.path.signatures = front ++ [last])
    (hs : s ∈ w.network.signatures) (hover : s.userId = some userId)
    (hends : s.endpoints = last.endpoints) :
    PathCheck.Serves w.fresh (.userId userId) i.path.root.fingerprint (front ++ [s]) f := by
  have E := F.ends hkeys hsignatures
  have hconnects := F.connects hkeys
  rw [hsignatures] at hconnects
  refine ⟨fun t ht => ?_, hconnects.of_endpoints (by simp [hends]), fun t ht => ?_, fun hauth => ?_,
    fun t ht => ?_⟩
  · rcases List.mem_append.mp ht with ht | ht
    · exact E.known t ht
    · obtain rfl : t = s := by simpa using ht
      exact hs
  · rw [List.dropLast_concat] at ht
    exact E.covered t ht
  · exact leavesRoom_concat_iff.mpr (E.deep hauth)
  · obtain rfl : s = t := by simpa using ht
    exact isOver_userId_iff.mpr hover

section Chosen

variable (hsignatures : i.path.signatures = front ++ [last])
  (hserves : PathCheck.Serves w.fresh (.userId userId) i.path.root.fingerprint (front' ++ [last']) f)
  (hfront : PathCheck.Replaces w.fresh front front') (hlast : last.endpoints = last'.endpoints)

include hsignatures hserves hfront hlast

/-- What is chosen for the last hop leads to a new certificate, or certifies the binding at the
target where nothing before has certified it. -/
theorem closesCycle_of_chosen (hroot : p.root.fingerprint = i.path.root.fingerprint)
    (hp : p.signatures = front') (htarget : p.target.fingerprint = last'.issuer.fingerprint) :
    p.closesCycle last' = false := by
  have E := F.ends hkeys hsignatures
  have hvisited : p.visited = i.path.root.fingerprint :: front.map (·.target.fingerprint) := by
    rw [Path.visited_eq, hroot, hp, targets_eq_of_endpoints hfront.endpoints]
  rcases E.reaches with hnew | hthere
  · refine Path.closesCycle_of_not_visited ?_
    have hsame : last.target.fingerprint = last'.target.fingerprint := congrArg Prod.snd hlast
    rw [hvisited, ← hsame]
    exact hnew
  · obtain ⟨mid, hmid, hclose⟩ := hserves.connected.of_append
    have hmid : mid = f := hmid.stop_unique (hthere.of_endpoints hfront.endpoints)
    have hover : last'.userId = some userId :=
      isOver_userId_iff.mp (hserves.certifies last' List.getLast?_concat)
    refine Path.closesCycle_of_certification ?_ ?_ (fun t ht hsame => ?_) ?_
    · rw [htarget, hclose.1, hmid]
      exact hclose.2
    · rw [Signature.isDelegation, hover]
      rfl
    · rw [hp] at ht
      have hnot := F.isOver_eq_false hkeys hsignatures hthere
        (fun u hu => hserves.known u (List.mem_append_left _ hu))
        (fun u hu hauth => hserves.covered u (by simpa using hu) hauth)
        (fun hauth => (leavesRoom_concat_iff.mp (hserves.deep hauth)).of_le (by simp))
        hfront.endpoints (fun u hu => ?_) ht
      · rw [hsame, hover, isOver_userId_iff.mpr rfl] at hnot
        cases hnot
      · obtain ⟨v, hv, hends, hleft⟩ := hfront.left u hu
        rw [left_fresh, left_fresh] at hleft
        exact ⟨v, hv, hends, Residual.left_le_left hends hleft⟩
    · rw [hvisited]
      exact E.simple

/-- A path from the root accepts what is chosen. -/
theorem exists_grows_of_chosen {n : Node} (hn : n.fingerprint = i.path.root.fingerprint) :
    ∃ p, Path.Grows w.mode { root := n } (front' ++ [last']) p := by
  have E := F.ends hkeys hsignatures
  obtain ⟨mid, hconnected, hclose⟩ := hserves.connected.of_append
  have hvisited : (Path.visited { root := n } ++ front'.map (·.target.fingerprint)).Nodup := by
    rw [Path.visited_eq, hn, targets_eq_of_endpoints hfront.endpoints]
    exact E.simple
  have hdeep : w.mode = .authentication → LeavesRoom 1 front' :=
    fun hauth => leavesRoom_concat_iff.mp (hserves.deep hauth)
  obtain ⟨p, hgrows, hstop, hroom⟩ := Path.exists_grows (p := { root := n }) (hn ▸ hconnected)
    hvisited hdeep fun _ => rfl
  obtain ⟨hroot, hp⟩ := hgrows.root_signatures
  have htarget : p.target.fingerprint = last'.issuer.fingerprint := hstop.trans hclose.1.symm
  have hcycle := closesCycle_of_chosen hkeys F hsignatures hserves hfront hlast
    (by rw [hroot, hn]) hp htarget
  obtain ⟨d, happend, -⟩ := Path.append_ok w.mode htarget.symm hroom hcycle
  exact ⟨_, hgrows.append (.cons happend (.nil _))⟩

end Chosen

/-- A path whose certificates are known is led to again, with no less to carry, if the network holds
a certification for its last hop. -/
theorem exists_leads (hplaces : w.network.edges.keys.Nodup) (hsearchable : w.network.Searchable)
    (hcomparable : w.network.Comparable) (hvalid : ∃ n, w.fresh.Valid f userId n)
    (hknows : w.Knows i.path) (hcertifies : w.Certifies i.path userId i.amount) :
    ∃ p, w.Leads i.path.root.fingerprint (i.path.signatures.map (·.target.fingerprint)) userId p ∧
      i.amount ≤ w.amountFrom i.path.root.fingerprint p := by
  obtain ⟨s, hs, hover, htrust, last, hlast, hends⟩ := hcertifies
  obtain ⟨front, hsignatures⟩ : ∃ front, i.path.signatures = front ++ [last] :=
    ⟨_, (List.dropLast_append_getLast? last hlast).symm⟩
  obtain ⟨front', last', hchooses, hfront, hlast', hleft⟩ :=
    (serves_of_certification hkeys F hsignatures hs hover hends).exists_chooses hkeys hcomparable
      (fun s hs => hsearchable.covers hs userId) hplaces
  have htargets : (front ++ [s]).map (·.target.fingerprint) =
      i.path.signatures.map (·.target.fingerprint) := by
    have htarget : s.target.fingerprint = last.target.fingerprint := congrArg Prod.snd hends
    rw [hsignatures, List.map_append, List.map_append, List.map_cons, List.map_cons, htarget]
  rw [htargets] at hchooses
  obtain ⟨hne, hstop⟩ := getLast?_targets hkeys F
  have hserves := hchooses.serves hkeys
  rw [hstop] at hserves
  have hknown := knows_iff.mp hknows
  obtain ⟨n, hroot⟩ := hknown i.path.root.fingerprint List.mem_cons_self
  obtain ⟨p, hgrows⟩ := exists_grows_of_chosen hkeys F hsignatures hserves hfront
    (hends.symm.trans hlast') (hkeys.fingerprint_of_node? hroot)
  refine ⟨p, ⟨hknown, hstop.symm ▸ hvalid, n, _, hroot, .hops hne hchooses, hgrows⟩, ?_⟩
  have hp : p.signatures = front' ++ [last'] := hgrows.root_signatures.2
  have hfull : i.amount ≤ fullTrust := by
    have := F.amount_le (List.mem_of_getLast? hlast)
    omega
  refine le_amountFrom (by simp [hp]) (fun t ht => ?_) hfull
    fun hmode limit hlimit => F.amount_le_root hkeys hmode hlimit
  rw [hp] at ht
  rcases List.mem_append.mp ht with ht | ht
  · obtain ⟨u, hu, -, hmore⟩ := hfront.left t ht
    have := F.amount_le (hsignatures ▸ List.mem_append_left _ hu)
    rw [left_fresh, left_fresh] at hmore
    omega
  · obtain rfl : t = last' := by simpa using ht
    rw [left_fresh, left_fresh] at hleft
    omega

/-- What leads over the certificates of a path ends with a certification for its last hop. -/
theorem certifies_of_leads
    (h : w.Leads i.path.root.fingerprint (i.path.signatures.map (·.target.fingerprint)) userId p)
    (hamount : amount ≤ w.amountFrom i.path.root.fingerprint p) :
    w.Certifies i.path userId amount := by
  obtain ⟨-, -, n, ss, -, hpicks, hgrows⟩ := h
  obtain ⟨-, hp⟩ := hgrows.root_signatures
  rw [List.nil_append] at hp
  have hchooses := hpicks.chooses (getLast?_targets hkeys F).1
  have hserves := hchooses.serves hkeys
  obtain ⟨t, ht, hover⟩ := hpicks.certifies hkeys
  have hends := hserves.connected.endpoints_eq (F.connects hkeys) (hchooses.targets hkeys)
  have hlast := congrArg List.getLast? hends
  rw [List.getLast?_map, List.getLast?_map, ht] at hlast
  obtain ⟨last, hlast, hsame⟩ := Option.map_eq_some_iff.mp hlast.symm
  have hmem := List.mem_of_getLast? ht
  refine ⟨t, hserves.known t hmem, hover, ?_, last, hlast, hsame.symm⟩
  exact hamount.trans (amountFrom_le_trust (hp ▸ hmem))

end FoundIn

/-- An authentication for a user ID gives paths, and checking the certificates of one of them gives
an answer. The path is valid and carries at least its amount exactly if its certificates are known
and the network holds a certification of the user ID for its last hop that gives as much. If the
certificates are known, only a path that ends with the certification of the target by itself may be
without one. -/
theorem authenticate_checked (hkeys : w.network.WellKeyed) (hplaces : w.network.edges.keys.Nodup)
    (hsearchable : w.network.Searchable) (hcomparable : w.network.Comparable) (f : Fingerprint)
    (userId : String) :
    ∃ v, w.authenticate f (.userId userId) false = .ok v ∧ ∀ i ∈ v.binding.paths.items,
      ∃ c, w.checkPath i.path.root.fingerprint (i.path.signatures.map (·.target.fingerprint))
          (.userId userId) = .ok c ∧
        (c.isValid = true ∧ i.amount ≤ c.amount ↔
          w.Knows i.path ∧ w.Certifies i.path userId i.amount) ∧
        (w.Knows i.path →
          (∀ own, w.fresh.selfSignature? f (.userId userId) = some own →
            i.path.signatures.getLast? ≠ some own) → c.isValid = true ∧ i.amount ≤ c.amount) := by
  obtain ⟨paths, hpaths⟩ :=
    Query.exists_authenticate (q := w.query) hkeys hsearchable f userId w.wanted
  refine ⟨⟨⟨f, .userId userId, paths⟩, w.wanted⟩, by simp [authenticate, binding, hpaths, Except.map],
    fun i hi => ?_⟩
  have hcollects := Query.collects_of_authenticate hkeys hpaths
  obtain ⟨r, F⟩ : ∃ r, w.query.FoundIn r f (.userId userId) i :=
    hcollects.foundIn hkeys w.query.balanced_start (by simp) i hi
  have hvalid : ∃ n, w.fresh.Valid f userId n := by
    rcases w.query.residual.validTarget?_cases f userId with ⟨n, -, hn⟩ | ⟨hnone, -⟩
    · exact ⟨n, hn.of_network w.query.network_residual.symm⟩
    · obtain rfl : paths = {} := hcollects.eq_nil hnone
      cases hi
  obtain ⟨c, hcheck⟩ := exists_checkPath hkeys hsearchable hcomparable i.path.root.fingerprint
    (i.path.signatures.map (·.target.fingerprint)) userId
  have haccepted : w.Knows i.path → w.Certifies i.path userId i.amount →
      c.isValid = true ∧ i.amount ≤ c.amount := by
    intro hknows hcertifies
    obtain ⟨p, hleads, hamount⟩ := exists_leads hkeys F hplaces hsearchable hcomparable hvalid
      hknows hcertifies
    obtain ⟨hcheck', hvalid'⟩ := (checkPath_valid_iff hkeys).mpr ⟨p, hleads, rfl⟩
    obtain rfl := Except.ok.inj (hcheck.symm.trans hcheck')
    exact ⟨hvalid', hamount⟩
  refine ⟨c, hcheck, ⟨?_, fun h => haccepted h.1 h.2⟩,
    fun hknows hother => haccepted hknows (certifies_of_not_own F hkeys hother)⟩
  rintro ⟨hvalid', hamount⟩
  obtain ⟨p, hleads, rfl⟩ := (checkPath_valid_iff hkeys).mp ⟨hcheck, hvalid'⟩
  exact ⟨knows_iff.mpr hleads.known, certifies_of_leads hkeys F hleads hamount⟩

end Web

namespace Introduction

theorem nodup_keys_complete : complete.edges.keys.Nodup :=
  Builder.Reached.network_nodup_keys (.addNode (.addNode reached _) _) moment

theorem searchable_complete : complete.Searchable :=
  Network.searchable_of_read (by decide +kernel)

theorem comparable_complete : complete.Comparable := by
  unfold Network.Comparable
  decide +kernel

end Introduction

/-- Both paths to `C` are accepted. -/
theorem Web.authenticate_checked_introduction :
    Introduction.web.network.WellKeyed ∧ Introduction.web.network.edges.keys.Nodup ∧
      Introduction.web.network.Searchable ∧ Introduction.web.network.Comparable ∧
      ∃ v, Introduction.web.authenticate ⟨"C"⟩ (.userId "carol@example.org") false = .ok v ∧
        v.binding.paths.items.map (fun i => (i.path.signatures, i.amount)) =
          [([Introduction.direct], 30), ([Introduction.delegation, Introduction.introduced], 60)] ∧
        ∀ i ∈ v.binding.paths.items, ∃ c,
          Introduction.web.checkPath i.path.root.fingerprint
            (i.path.signatures.map (·.target.fingerprint)) (.userId "carol@example.org") = .ok c ∧
          c.isValid = true ∧ i.amount ≤ c.amount := by
  have hfound : (Introduction.web.authenticate ⟨"C"⟩ (.userId "carol@example.org")
      false).toOption.map (fun v => v.binding.paths.items.map fun i =>
        (i.path.root, i.path.signatures, i.amount)) =
      some [({ fingerprint := ⟨"A"⟩ }, [Introduction.direct], 30),
        ({ fingerprint := ⟨"A"⟩ }, [Introduction.delegation, Introduction.introduced], 60)] := by
    cbv
  obtain ⟨v, hv, hchecked⟩ := Web.authenticate_checked (w := Introduction.web)
    Introduction.wellKeyed_complete Introduction.nodup_keys_complete
    Introduction.searchable_complete Introduction.comparable_complete ⟨"C"⟩ "carol@example.org"
  simp only [hv, Except.toOption, Option.map_some, Option.some.injEq] at hfound
  refine ⟨Introduction.wellKeyed_complete, Introduction.nodup_keys_complete,
    Introduction.searchable_complete, Introduction.comparable_complete, v, hv, ?_, fun i hi => ?_⟩
  · have hshown := congrArg (List.map Prod.snd) hfound
    simpa [Function.comp_def] using hshown
  · obtain ⟨c, hcheck, -, haccepted⟩ := hchecked i hi
    have hmem := List.mem_map_of_mem (f := fun i : PathItem =>
      (i.path.root, i.path.signatures, i.amount)) hi
    rw [hfound] at hmem
    simp only [List.mem_cons, Prod.mk.injEq, List.not_mem_nil, or_false] at hmem
    refine ⟨c, hcheck, haccepted ?_ ?_⟩
    · unfold Web.Knows Path.certificates
      rcases hmem with ⟨hroot, hsignatures, -⟩ | ⟨hroot, hsignatures, -⟩
      · rw [hroot, hsignatures]
        decide
      · rw [hroot, hsignatures]
        decide
    · intro own hown hlast
      have hissuer := (Residual.isOwn_of_selfSignature? Introduction.wellKeyed_complete hown).issuer
      rcases hmem with ⟨-, hsignatures, -⟩ | ⟨-, hsignatures, -⟩
      · rw [hsignatures] at hlast
        obtain rfl : Introduction.direct = own := by simpa using hlast
        exact absurd hissuer (by decide)
      · rw [hsignatures] at hlast
        obtain rfl : Introduction.introduced = own := by simpa using hlast
        exact absurd hissuer (by decide)

/-! ### A path that ends with the target's own certification

`A` delegates to `B`, which carries a user ID that nobody else certified. -/

namespace Uncertified

def bob : Node := { fingerprint := ⟨"B"⟩, userIds := [("bob@example.org", .none)] }

def web : Web :=
  { Introduction.web with
    network := ((((({} : Builder).addNode { fingerprint := ⟨"A"⟩ }).1.addNode bob).1).addSignature
      { Introduction.delegation with target := bob }).build Introduction.moment }

end Uncertified

/-- An authentication may report a path that is refused when it is checked. -/
theorem Web.checkPath_refuses_own :
    (Uncertified.web.authenticate ⟨"B"⟩ (.userId "bob@example.org") false).toOption.map
        (fun v => v.binding.paths.items.map fun i =>
          (i.path.certificates.map (·.fingerprint), i.amount)) =
          some [([⟨"A"⟩, ⟨"B"⟩, ⟨"B"⟩], 100)] ∧
      (Uncertified.web.checkPath ⟨"A"⟩ [⟨"B"⟩, ⟨"B"⟩] (.userId "bob@example.org")).toOption.map
        (fun c => (c.isValid, c.amount)) = some (false, 0) :=
  ⟨by cbv, by cbv⟩

end TrustWeb
