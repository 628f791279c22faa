import TrustWeb.Proofs.Description.Statements

/-! # Declared certificates

A certificate is in the network as the statement that declares it says: with its user IDs, its
expiry, and its revocation, the last attribute counting where several speak of the same. Of several
statements whose names spell one fingerprint only the first shows in the network. -/

namespace TrustWeb.Description

/-! ## What attributes say -/

namespace Attribute

/-- The user ID that an attribute declares. -/
def userId? : Attribute → Option String
  | userId text _ => some text
  | _ => none

/-- What an attribute says of the revocation of a user ID. -/
def ofUserId? (text : String) : Attribute → Option (Option WrittenRevocation)
  | userId other r => if other = text then some r else none
  | _ => none

/-- The date of expiry that an attribute gives. -/
def expiry? : Attribute → Option String
  | expires date => some date
  | _ => none

/-- The revocation of the certificate that an attribute gives. -/
def revocation? : Attribute → Option WrittenRevocation
  | revoked r => some r
  | _ => none

end Attribute

/-- What the last attribute tells that tells anything of some `part`. -/
def lastOf {α : Type} (part : Attribute → Option α) (attributes : List Attribute) : Option α :=
  (attributes.filterMap part).getLast?

/-- A certificate is exactly as it is declared. Its user IDs stand in the order of their first
declaration. -/
structure Carries (name : String) (attributes : List Attribute) (n : Node) : Prop where
  fingerprint : n.fingerprint = Fingerprint.ofText name
  userIds : n.userIds.keys = (attributes.filterMap Attribute.userId?).eraseDups
  revocations : ∀ text, (n.userIds.find? text).map Except.ok =
    (lastOf (Attribute.ofUserId? text) attributes).map revocation
  expires : n.expires.map Except.ok = (lastOf Attribute.expiry? attributes).map moment
  revocation : .ok n.revocation = revocation (lastOf Attribute.revocation? attributes)

theorem lastOf_concat {α : Type} (part : Attribute → Option α) (attributes : List Attribute)
    (a : Attribute) :
    lastOf part (attributes ++ [a]) = (part a).or (lastOf part attributes) := by
  cases h : part a with
  | none => simp [lastOf, h]
  | some v => simp [lastOf, h]

theorem eraseDups_concat {α : Type} [DecidableEq α] (xs : List α) (x : α) :
    (xs ++ [x]).eraseDups = if x ∈ xs.eraseDups then xs.eraseDups else xs.eraseDups ++ [x] := by
  rw [List.eraseDups_append]
  by_cases h : x ∈ xs
  · simp [h, List.removeAll]
  · simp [h, List.removeAll, List.eraseDups_cons]

namespace Carries

variable {name : String} {attributes : List Attribute} {n n' : Node} {a : Attribute}

theorem start (name : String) : Carries name [] { fingerprint := Fingerprint.ofText name } :=
  ⟨rfl, rfl, fun _ => rfl, rfl, rfl⟩

/-- One more attribute changes what it speaks of, and nothing else. -/
theorem add (h : Carries name attributes n) (hn' : withAttribute n a = .ok n') :
    Carries name (attributes ++ [a]) n' := by
  cases a with
  | userId text r =>
      obtain ⟨r', hr, rfl⟩ := map_eq_ok_iff.mp hn'
      refine ⟨h.fingerprint, ?_, fun other => ?_, ?_, ?_⟩
      · simp only [Node.withUserId, Table.keys_put, h.userIds, List.filterMap_append,
          List.filterMap_cons, Attribute.userId?, List.filterMap_nil, eraseDups_concat]
      · simp only [Node.withUserId, Table.find?_put, lastOf_concat, Attribute.ofUserId?]
        by_cases hother : text = other
        · simp [hother, hr]
        · simpa [hother] using h.revocations other
      · simpa [Node.withUserId, lastOf_concat, Attribute.expiry?] using h.expires
      · simpa [Node.withUserId, lastOf_concat, Attribute.revocation?] using h.revocation
  | expires date =>
      obtain ⟨m, hm, rfl⟩ := map_eq_ok_iff.mp hn'
      refine ⟨h.fingerprint, ?_, fun other => ?_, ?_, ?_⟩
      · simpa [List.filterMap_cons, Attribute.userId?] using h.userIds
      · simpa [lastOf_concat, Attribute.ofUserId?] using h.revocations other
      · simp [lastOf_concat, Attribute.expiry?, hm]
      · simpa [lastOf_concat, Attribute.revocation?] using h.revocation
  | revoked r =>
      obtain ⟨r', hr, rfl⟩ := map_eq_ok_iff.mp hn'
      refine ⟨h.fingerprint, ?_, fun other => ?_, ?_, ?_⟩
      · simpa [List.filterMap_cons, Attribute.userId?] using h.userIds
      · simpa [lastOf_concat, Attribute.ofUserId?] using h.revocations other
      · simpa [lastOf_concat, Attribute.expiry?] using h.expires
      · simp [lastOf_concat, Attribute.revocation?, hr]

end Carries

theorem carries_node {name : String} {attributes : List Attribute} {n : Node}
    (h : node name attributes = .ok n) : Carries name attributes n := by
  induction attributes using List.reverseRecOn generalizing n with
  | nil =>
      obtain rfl := Except.ok.inj h
      exact .start name
  | append_singleton attributes a ih =>
      simp only [node, List.foldlM_append, List.foldlM_cons, List.foldlM_nil, bind_eq_ok_iff] at h
      obtain ⟨m, hm, n', hn', h⟩ := h
      obtain rfl := Except.ok.inj h
      exact (ih hm).add hn'

/-! ## The certificates of a network -/

/-- The first declaration of a certificate. -/
def declarationOf (statements : List Statement) (f : Fingerprint) :
    Option (String × List Attribute) :=
  (declarations statements).find? fun p => Fingerprint.ofText p.1 == f

theorem Declares.rel_find? {declared : List (String × List Attribute)} {nodes : List Node}
    (h : Declares declared nodes) (f : Fingerprint) :
    Option.Rel (fun p n => Carries p.1 p.2 n)
      (declared.find? fun p => Fingerprint.ofText p.1 == f)
      (Table.find? (nodes.map fun n => (n.fingerprint, n)) f) := by
  induction h with
  | nil => exact .none
  | @cons p n _ _ hn _ ih =>
      rw [List.map_cons, Table.find?_cons, fingerprint_node hn, List.find?_cons]
      by_cases hf : Fingerprint.ofText p.1 = f
      · rw [if_pos hf, beq_iff_eq.mpr hf]
        exact .some (carries_node hn)
      · rw [if_neg hf, beq_false_of_ne hf]
        exact ih

variable {given : Moment} {text : String} {statements : List Statement}

theorem read_eq (given : Moment) (h : Statement.readAll text = .ok statements) :
    read given text = ofStatements given statements := by
  rw [read, h]

/-- A name that no other declared name spells alike has its declaration found. -/
theorem declarationOf_eq {name : String} {attributes : List Attribute}
    (hnames : (declaredNames statements).Nodup)
    (hdeclared : .node name attributes ∈ statements)
    (halone : ∀ other ∈ declaredNames statements,
      Fingerprint.ofText other = Fingerprint.ofText name → other = name) :
    declarationOf statements (Fingerprint.ofText name) = some (name, attributes) := by
  have hmem : (name, attributes) ∈ declarations statements :=
    List.mem_filterMap.mpr ⟨_, hdeclared, rfl⟩
  cases hfound : declarationOf statements (Fingerprint.ofText name) with
  | none => exact absurd (List.find?_eq_none.mp hfound _ hmem) (by simp)
  | some p =>
      have hp : p ∈ declarations statements := List.mem_of_find?_eq_some hfound
      have hspelled : Fingerprint.ofText p.1 = Fingerprint.ofText name := by
        simpa using List.find?_some hfound
      have hname : p.1 = name := halone p.1 (List.mem_map_of_mem hp) hspelled
      rw [List.inj_on_of_nodup_map hnames hp hmem hname]

/-- A description in which a name is declared twice is refused. In one that is accepted, every
certificate is exactly as the first statement declares it that has its fingerprint, and none is
there that is not declared; so each statement is kept to whose name is the only one that spells the
fingerprint. -/
theorem read_declares (given : Moment) (h : Statement.readAll text = .ok statements) :
    (¬(declaredNames statements).Nodup →
      ∃ fault, read given text = .error fault ∧ fault.IsToldAsSuch) ∧
    ∀ d, read given text = .ok d →
      (∀ f, Option.Rel (fun p n => Carries p.1 p.2 n) (declarationOf statements f)
        (d.network.node? f)) ∧
      ∀ name attributes, .node name attributes ∈ statements →
        (∀ other ∈ declaredNames statements,
          Fingerprint.ofText other = Fingerprint.ofText name → other = name) →
        ∃ n, d.network.node? (Fingerprint.ofText name) = some n ∧ Carries name attributes n := by
  rw [read_eq given h]
  refine ⟨fun hnames => ?_, fun d hd => ?_⟩
  · cases hread : ofStatements given statements with
    | error fault => exact ⟨fault, rfl, told_ofStatements given statements fault hread⟩
    | ok d =>
        obtain ⟨now, nodes, links, hlaid, -⟩ := laid_of_ofStatements hread
        exact absurd hlaid.names hnames
  · obtain ⟨now, nodes, links, hlaid, hshows⟩ := laid_of_ofStatements hd
    have hcarries (f : Fingerprint) : Option.Rel (fun p n => Carries p.1 p.2 n)
        (declarationOf statements f) (d.network.node? f) := by
      rw [hshows.node?_eq]
      exact hlaid.certificates.rel_find? f
    refine ⟨hcarries, fun name attributes hdeclared halone => ?_⟩
    have hfound := hcarries (Fingerprint.ofText name)
    rw [declarationOf_eq hlaid.names hdeclared halone] at hfound
    generalize d.network.node? (Fingerprint.ofText name) = found at hfound
    cases hfound with
    | @some _ n hn => exact ⟨n, rfl, hn⟩

/-! ### Names that spell one fingerprint -/

/-- A user ID that is revoked when it is named again, and two dates of expiry. -/
def renewal : String :=
  "node a \x22<a@example.org>\x22 expires 2024-01-01 userid \x22<a@example.org>\x22 revoked hard " ++
    "expires 2025-01-01"

theorem readAll_renewal : Statement.readAll renewal = .ok
    [.node "a" [.userId "<a@example.org>" none, .expires "2024-01-01",
      .userId "<a@example.org>" (some .hard), .expires "2025-01-01"]] := by
  decide +kernel

/-- Of what is said twice of a certificate the last counts. -/
theorem read_declares_renewal :
    Statement.readAll renewal = .ok
      [.node "a" [.userId "<a@example.org>" none, .expires "2024-01-01",
        .userId "<a@example.org>" (some .hard), .expires "2025-01-01"]] ∧
    ∃ d n, read ⟨0, some 0⟩ renewal = .ok d ∧
      d.network.node? (Fingerprint.ofText "a") = some n ∧
      n.userIds.find? "<a@example.org>" = some .hard ∧
      n.expires.map Except.ok = some (moment "2025-01-01") := by
  have haccepted : (read ⟨0, some 0⟩ renewal).toBool = true := by decide +kernel
  refine ⟨readAll_renewal, ?_⟩
  cases hread : read ⟨0, some 0⟩ renewal with
  | error fault => simp [hread, Except.toBool] at haccepted
  | ok d =>
      obtain ⟨n, hn, hcarries⟩ := ((read_declares ⟨0, some 0⟩ readAll_renewal).2 d hread).2 "a" _
        List.mem_cons_self (by simp [declaredNames])
      refine ⟨d, n, rfl, hn, ?_, hcarries.expires⟩
      have hrevoked := hcarries.revocations "<a@example.org>"
      simpa [lastOf, List.filterMap_cons, Attribute.ofUserId?, revocation] using hrevoked

/-- Two names of one certificate, with a user ID each. -/
def doubled : String := "node a \x22<a@example.org>\x22 node A \x22<b@example.org>\x22"

/-- Two statements that declare one certificate are accepted if they spell its name differently, and
what the second one declares is lost. -/
theorem read_loses_declaration :
    ∃ statements d, Statement.readAll doubled = .ok statements ∧
      .node "A" [.userId "<b@example.org>" none] ∈ statements ∧
      read ⟨0, some 0⟩ doubled = .ok d ∧
      ∀ n, d.network.node? (Fingerprint.ofText "A") = some n →
        ¬Carries "A" [.userId "<b@example.org>" none] n := by
  have hread : Statement.readAll doubled = .ok
      [.node "a" [.userId "<a@example.org>" none], .node "A" [.userId "<b@example.org>" none]] := by
    decide +kernel
  have hshown : (read ⟨0, some 0⟩ doubled).toOption.map (fun d =>
      (d.network.node? (Fingerprint.ofText "A")).map (·.userIds.keys)) =
        some (some ["<a@example.org>"]) := by
    decide +kernel
  obtain ⟨d, hdescription, hfirst⟩ := exists_ok_of_toOption hshown
  refine ⟨_, d, hread, by simp, hdescription, fun n hn hcarries => ?_⟩
  have hkeys : n.userIds.keys = ["<a@example.org>"] := by simpa [hn] using hfirst
  have hdeclared := hcarries.userIds
  simp [hkeys, Attribute.userId?, List.eraseDups_cons] at hdeclared

end TrustWeb.Description
