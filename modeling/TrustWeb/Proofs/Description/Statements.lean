import Mathlib
import TrustWeb.Description
import TrustWeb.Proofs.Network.Arrival

/-! # What statements declare

The statements of a description set the reference time, declare certificates, and connect the
certificates that were declared. Each kind of statement is looked at by itself here, so that what a
description gives is told by what its statements give one by one, and not by the order in which
they are carried out. -/

namespace TrustWeb

/-- A fault that is told as one of the description, with a place in it if that is known. A number
with too many digits is told otherwise: reading it fails before there are statements. -/
def DescriptionFault.IsToldAsSuch : DescriptionFault → Prop
  | .numeralLength _ => False
  | _ => True

theorem Table.contains_eq_false_iff {κ α : Type} [DecidableEq κ] {t : Table κ α} {k : κ} :
    t.contains k = false ↔ k ∉ t.keys := by
  rw [Table.mem_keys_iff, ← Option.isSome_iff_exists, Bool.not_eq_true, Table.contains]

namespace Description

/-! ## Statements by kind -/

/-- The date of a statement that sets the reference time. -/
def Statement.date? : Statement → Option String
  | .time date => some date
  | _ => none

/-- The name and the attributes of a statement that declares a certificate. -/
def Statement.declaration? : Statement → Option (String × List Attribute)
  | .node name attributes => some (name, attributes)
  | _ => none

/-- The name of the root that a statement declares. -/
def Statement.root? : Statement → Option String
  | .root name _ => some name
  | _ => none

/-- The dates that are given for the reference time. -/
def dates (statements : List Statement) : List String := statements.filterMap Statement.date?

/-- The certificates that are declared, as they are written. -/
def declarations (statements : List Statement) : List (String × List Attribute) :=
  statements.filterMap Statement.declaration?

/-- The names that are declared. -/
def declaredNames (statements : List Statement) : List String :=
  (declarations statements).map Prod.fst

/-- The names of the roots. -/
def rootNames (statements : List Statement) : List String := statements.filterMap Statement.root?

@[simp] theorem declarations_nil : declarations [] = [] := rfl

@[simp] theorem declarations_node (name : String) (attributes : List Attribute)
    (rest : List Statement) :
    declarations (.node name attributes :: rest) = (name, attributes) :: declarations rest := rfl

@[simp] theorem rootNames_root (name : String) (amount : Nat) (rest : List Statement) :
    rootNames (.root name amount :: rest) = name :: rootNames rest := rfl

variable {given now : Moment} {statements : List Statement}

/-! ## The reference time -/

theorem referenceTime_eq (given : Moment) (statements : List Statement) :
    referenceTime given statements =
      (dates statements).foldlM (fun _ date => moment date) given := by
  unfold referenceTime
  induction statements generalizing given with
  | nil => rfl
  | cons s rest ih =>
      rw [List.foldlM_cons]
      cases s with
      | time date => exact bind_congr fun now => ih now
      | node _ _ | signature _ _ _ _ | root _ _ => exact ih given

/-- A description that sets its reference time does not look at the one that is given. -/
theorem referenceTime_congr (given given' : Moment) (h : dates statements ≠ []) :
    referenceTime given statements = referenceTime given' statements := by
  obtain ⟨date, rest, hdates⟩ := List.exists_cons_of_ne_nil h
  rw [referenceTime_eq, referenceTime_eq, hdates, List.foldlM_cons, List.foldlM_cons]

/-! ## Certificates -/

/-- Certificates that are as declared, one for each declaration. -/
def Declares (declared : List (String × List Attribute)) (nodes : List Node) : Prop :=
  List.Forall₂ (fun p n => node p.1 p.2 = .ok n) declared nodes

/-- A certificate has the fingerprint that its name spells. -/
theorem fingerprint_node {name : String} {attributes : List Attribute} {n : Node}
    (h : node name attributes = .ok n) : n.fingerprint = Fingerprint.ofText name := by
  have hstart : ({ fingerprint := Fingerprint.ofText name } : Node).fingerprint =
    Fingerprint.ofText name := rfl
  refine foldlM_preserves (P := fun n : Node => n.fingerprint = Fingerprint.ofText name)
    (fun m a m' hm hm' => ?_) hstart h
  cases a <;>
    · obtain ⟨_, -, rfl⟩ := map_eq_ok_iff.mp hm'
      exact hm

theorem Declares.fingerprints {declared : List (String × List Attribute)} {nodes : List Node}
    (h : Declares declared nodes) :
    nodes.map (·.fingerprint) = declared.map fun p => Fingerprint.ofText p.1 := by
  induction h with
  | nil => rfl
  | cons hn _ ih => rw [List.map_cons, List.map_cons, fingerprint_node hn, ih]

theorem declare_eq_ok_iff {d d' : Declared} {name : String} {attributes : List Attribute} :
    d.declare (.node name attributes) = .ok d' ↔ name ∉ d.names.keys ∧
      ∃ n, node name attributes = .ok n ∧
        d' = ⟨(d.builder.addNode n).1, d.names ++ [(name, Fingerprint.ofText name)],
          d.notices ++ (d.builder.addNode n).2⟩ := by
  simp only [Declared.declare]
  rw [← Table.contains_eq_false_iff]
  cases hname : d.names.contains name with
  | true => simp
  | false =>
      have habsent : d.names.find? name = none := by simpa [Table.contains] using hname
      simp only [Bool.false_eq_true, if_false, map_eq_ok_iff, true_and,
        Table.put_of_find?_eq_none habsent, eq_comm (a := d')]

/-- What has been declared after some more declarations. -/
structure Declared.Extends (d : Declared) (declared : List (String × List Attribute))
    (nodes : List Node) (d' : Declared) : Prop where
  builder : d'.builder = d.builder.receiveAll (nodes.map .certificate)
  names : d'.names = d.names ++ declared.map fun p => (p.1, Fingerprint.ofText p.1)

/-- Declarations that are carried out have different names, none of which is known before. -/
theorem extends_of_foldlM {d d' : Declared} (hd : d.names.keys.Nodup)
    (h : statements.foldlM Declared.declare d = .ok d') :
    ∃ nodes, Declares (declarations statements) nodes ∧
      (d.names.keys ++ declaredNames statements).Nodup ∧
        d.Extends (declarations statements) nodes d' := by
  induction statements generalizing d with
  | nil =>
      obtain rfl : d = d' := Except.ok.inj h
      exact ⟨[], .nil, by simpa [declaredNames] using hd, rfl, by simp⟩
  | cons s rest ih =>
      rw [List.foldlM_cons, bind_eq_ok_iff] at h
      obtain ⟨d₁, hd₁, hrest⟩ := h
      cases s with
      | node name attributes =>
          obtain ⟨hname, n, hn, rfl⟩ := declare_eq_ok_iff.mp hd₁
          have hkeys : (Table.keys (d.names ++ [(name, Fingerprint.ofText name)])).Nodup := by
            simpa [Table.keys] using hd.concat hname
          obtain ⟨nodes, hnodes, hnames, hbuilder, htable⟩ := ih hkeys hrest
          refine ⟨n :: nodes, .cons hn hnodes, ?_, hbuilder, ?_⟩
          · simpa [Table.keys, declaredNames] using hnames
          · simpa using htable
      | time _ | signature _ _ _ _ | root _ _ =>
          obtain rfl : d = d₁ := Except.ok.inj hd₁
          exact ih hd hrest

/-- Declarations are carried out if their names are different and not known before, and each of them
gives a certificate. -/
theorem exists_foldlM_declare {d : Declared} {nodes : List Node}
    (hnodes : Declares (declarations statements) nodes)
    (hnames : (d.names.keys ++ declaredNames statements).Nodup) :
    ∃ d', statements.foldlM Declared.declare d = .ok d' ∧
      d.Extends (declarations statements) nodes d' := by
  induction statements generalizing d nodes with
  | nil =>
      cases hnodes
      exact ⟨d, rfl, rfl, by simp⟩
  | cons s rest ih =>
      simp only [List.foldlM_cons, bind_eq_ok_iff]
      cases s with
      | node name attributes =>
          cases hnodes with
          | @cons _ n _ nodes hn hrest =>
              have hname : name ∉ d.names.keys := fun hname =>
                (List.nodup_append.mp hnames).2.2 name hname name (by simp [declaredNames]) rfl
              obtain ⟨d', hd', hbuilder, htable⟩ := ih
                (d := ⟨(d.builder.addNode n).1, d.names ++ [(name, Fingerprint.ofText name)],
                  d.notices ++ (d.builder.addNode n).2⟩) hrest
                (by simpa [Table.keys, declaredNames] using hnames)
              refine ⟨d', ⟨_, declare_eq_ok_iff.mpr ⟨hname, n, hn, rfl⟩, hd'⟩, hbuilder, ?_⟩
              simpa using htable
      | time _ | signature _ _ _ _ | root _ _ =>
          obtain ⟨d', hd', hextends⟩ := ih hnodes hnames
          exact ⟨d', ⟨d, rfl, hd'⟩, hextends⟩

/-- The certificate that a name stands for, among those declared. -/
def certificateNamed (names : List String) (nodes : List Node) (name : String) : Outcome Node :=
  if name ∈ names then
    match Table.find? (nodes.map fun n => (n.fingerprint, n)) (Fingerprint.ofText name) with
    | some n => .ok n
    | none => .error (.undeclared name)
  else .error (.undeclared name)

/-- What is declared before the first declaration: nothing, at a reference time. -/
def Declared.start (now : Moment) : Declared := { builder := Builder.setTime {} now }

theorem Declared.Extends.node_eq {declared : List (String × List Attribute)} {nodes : List Node}
    {d : Declared} (h : (Declared.start now).Extends declared nodes d) :
    d.node = certificateNamed (declared.map Prod.fst) nodes := by
  have hnodes (f : Fingerprint) :
      d.builder.nodes.find? f = Table.find? (nodes.map fun n => (n.fingerprint, n)) f := by
    rw [h.builder, Builder.find?_receiveAll]
    simp [Declared.start, Builder.setTime, Contribution.certificates, Contribution.certificate?,
      Function.comp_def]
  have hnames (name : String) : d.names.find? name =
      if name ∈ declared.map Prod.fst then some (Fingerprint.ofText name) else none := by
    rw [h.names, ← Table.find?_map, List.map_map]
    rfl
  funext name
  rw [Declared.node, certificateNamed, hnames]
  by_cases hname : name ∈ declared.map Prod.fst
  · have hfind := hnodes (Fingerprint.ofText name)
    cases hfound : Table.find? (nodes.map fun n => (n.fingerprint, n)) (Fingerprint.ofText name) with
    | none => simp only [if_pos hname, Option.bind_some, hfind, hfound]
    | some n => simp only [if_pos hname, Option.bind_some, hfind, hfound]
  · rw [if_neg hname, if_neg hname, Option.bind_none]

/-! ## Signatures and roots -/

/-- What a statement connects: signatures between certificates, and roots. -/
structure Link where
  signatures : List Signature := []
  roots : List Root := []

/-- What a statement connects, `find` being how certificates are found by name. -/
def link (find : String → Outcome Node) (now : Moment) : Statement → Outcome Link
  | .signature issuer target userId options => do
    let issuer ← find issuer
    let target ← find target
    let s ← signature issuer target userId options now
    pure { signatures := [s] }
  | .root name amount => do
    let n ← find name
    pure { roots := [⟨n.fingerprint, amount⟩] }
  | _ => pure {}

/-- What all of some statements connect, one after another. -/
def Links (find : String → Outcome Node) (now : Moment) (statements : List Statement)
    (links : List Link) : Prop :=
  List.Forall₂ (fun s l => link find now s = .ok l) statements links

/-- The signatures and the roots after some more links. -/
def addLinks (state : Builder × List Root) (links : List Link) : Builder × List Root :=
  (state.1.receiveAll ((links.flatMap (·.signatures)).map .signature),
    state.2 ++ links.flatMap (·.roots))

theorem connect_eq (d : Declared) (now : Moment) (state : Builder × List Root) (s : Statement) :
    connect d now state s = (link d.node now s).map fun l => addLinks state [l] := by
  cases s with
  | time _ | node _ _ =>
      simp [connect, link, addLinks, Builder.receiveAll, pure, Except.pure, Except.map]
  | root name amount =>
      simp only [connect, link]
      cases d.node name with
      | error fault => rfl
      | ok n => simp [addLinks, Builder.receiveAll, bind, Except.bind, pure, Except.pure, Except.map]
  | signature issuer target userId options =>
      simp only [connect, link]
      cases d.node issuer with
      | error fault => rfl
      | ok issuer =>
          cases d.node target with
          | error fault => rfl
          | ok target =>
              simp only [bind, Except.bind]
              cases signature issuer target userId options now with
              | error fault => rfl
              | ok s =>
                  simp [addLinks, Builder.receiveAll, Builder.receive, pure, Except.pure, Except.map]

theorem addLinks_addLinks (state : Builder × List Root) (links links' : List Link) :
    addLinks (addLinks state links) links' = addLinks state (links ++ links') := by
  simp [addLinks, Builder.receiveAll]

theorem foldlM_connect_eq_ok_iff {d : Declared} {state state' : Builder × List Root} :
    statements.foldlM (connect d now) state = .ok state' ↔
      ∃ links, Links d.node now statements links ∧ state' = addLinks state links := by
  induction statements generalizing state with
  | nil =>
      constructor
      · intro h
        exact ⟨[], .nil, by simp [← Except.ok.inj h, addLinks, Builder.receiveAll]⟩
      · rintro ⟨links, hlinks, rfl⟩
        cases hlinks
        simp [addLinks, Builder.receiveAll, pure, Except.pure]
  | cons s rest ih =>
      simp only [List.foldlM_cons, bind_eq_ok_iff, connect_eq, map_eq_ok_iff, ih]
      constructor
      · rintro ⟨_, ⟨l, hl, rfl⟩, links, hlinks, rfl⟩
        exact ⟨l :: links, .cons hl hlinks, addLinks_addLinks state [l] links⟩
      · rintro ⟨links, hlinks, rfl⟩
        cases hlinks with
        | @cons _ l _ links hl hrest =>
            exact ⟨_, ⟨l, hl, rfl⟩, links, hrest, (addLinks_addLinks state [l] links).symm⟩

/-! ## Whole descriptions -/

/-- What statements give one by one: the reference time, the certificates, and the links between
them. -/
structure Laid (given : Moment) (statements : List Statement) (now : Moment) (nodes : List Node)
    (links : List Link) : Prop where
  time : referenceTime given statements = .ok now
  certificates : Declares (declarations statements) nodes
  names : (declaredNames statements).Nodup
  links : Links (certificateNamed (declaredNames statements) nodes) now statements links

/-- What arrives at the builder: first the certificates, then the signatures. -/
def contributions (nodes : List Node) (links : List Link) : List Contribution :=
  nodes.map .certificate ++ (links.flatMap (·.signatures)).map .signature

/-- A description that consists of given certificates and links. -/
structure Shows (d : Description) (names : List String) (now : Moment) (nodes : List Node)
    (links : List Link) : Prop where
  network : d.network = Network.assemble (contributions nodes links) now now
  roots : d.roots = Roots.ofList (links.flatMap (·.roots))
  names : d.names = names.map fun name => (name, Fingerprint.ofText name)

/-- The first certificate with a fingerprint is the one in the network. -/
theorem Shows.node?_eq {d : Description} {names : List String} {nodes : List Node}
    {links : List Link} (h : Shows d names now nodes links) (f : Fingerprint) :
    d.network.node? f = Table.find? (nodes.map fun n => (n.fingerprint, n)) f := by
  have hnodes : Contribution.certificates (contributions nodes links) = nodes := by
    simp [Contribution.certificates, contributions, Contribution.certificate?, Function.comp_def]
  rw [h.network]
  refine (Builder.find?_receiveAll {} _ f).trans ?_
  rw [hnodes]
  rfl

theorem receiveAll_setTime (b : Builder) (now : Moment) (cs : List Contribution) :
    (b.setTime now).receiveAll cs = (b.receiveAll cs).setTime now := by
  induction cs generalizing b with
  | nil => rfl
  | cons c rest ih =>
      have hc : (b.setTime now).receive c = (b.receive c).setTime now := by
        cases c with
        | certificate n =>
            have hnodes : (b.setTime now).nodes = b.nodes := rfl
            simp only [Builder.receive, Builder.addNode, hnodes]
            by_cases hpresent : b.nodes.contains n.fingerprint = true
            · rw [if_pos hpresent, if_pos hpresent]
            · rw [if_neg hpresent, if_neg hpresent]
              rfl
        | signature s => rfl
      simp only [Builder.receiveAll, List.foldl_cons, hc] at ih ⊢
      exact ih _

theorem shows_of_extends {d : Declared} {nodes : List Node} (links : List Link)
    (h : (Declared.start now).Extends (declarations statements) nodes d) :
    Shows ⟨(addLinks (d.builder, []) links).1.build now,
      Roots.ofList (addLinks (d.builder, []) links).2, d.names, d.notices⟩
      (declaredNames statements) now nodes links := by
  refine ⟨?_, rfl, ?_⟩
  · change Builder.build _ now = _
    rw [addLinks, h.builder, Network.assemble, ← receiveAll_setTime, contributions,
      Declared.start, Builder.receiveAll, Builder.receiveAll, Builder.receiveAll,
      List.foldl_append]
  · simp only [h.names, declaredNames, List.map_map]
    rfl

/-- A description that is accepted consists of what its statements give one by one. -/
theorem laid_of_ofStatements {d : Description} (h : ofStatements given statements = .ok d) :
    ∃ now nodes links, Laid given statements now nodes links ∧
      Shows d (declaredNames statements) now nodes links := by
  simp only [ofStatements, bind_eq_ok_iff] at h
  obtain ⟨now, hnow, declared, hdeclared, state, hconnected, h⟩ := h
  obtain rfl := Except.ok.inj h
  obtain ⟨nodes, hnodes, hnames, hextends⟩ :=
    extends_of_foldlM (d := .start now) List.nodup_nil hdeclared
  obtain ⟨links, hlinks, rfl⟩ := foldlM_connect_eq_ok_iff.mp hconnected
  rw [hextends.node_eq] at hlinks
  exact ⟨now, nodes, links, ⟨hnow, hnodes, hnames, hlinks⟩, shows_of_extends links hextends⟩

/-- A description is accepted if each of its statements gives something, and no name is declared
twice. -/
theorem Laid.exists_description {nodes : List Node} {links : List Link}
    (h : Laid given statements now nodes links) :
    ∃ d, ofStatements given statements = .ok d ∧
      Shows d (declaredNames statements) now nodes links := by
  obtain ⟨declared, hdeclared, hextends⟩ :=
    exists_foldlM_declare (d := .start now) h.certificates h.names
  have hlinks : Links declared.node now statements links := by
    rw [hextends.node_eq]
    exact h.links
  refine ⟨_, ?_, shows_of_extends links hextends⟩
  simp only [ofStatements, bind_eq_ok_iff]
  exact ⟨now, h.time, declared, hdeclared, _,
    foldlM_connect_eq_ok_iff.mpr ⟨links, hlinks, rfl⟩, rfl⟩

/-! ## Faults of statements -/

/-- If a step fails, its fault is told as one of the description. -/
def Told {α : Type} (x : Outcome α) : Prop := ∀ fault, x = .error fault → fault.IsToldAsSuch

namespace Told

variable {α β : Type}

theorem ok (a : α) : Told (.ok a) := nofun

theorem error {fault : DescriptionFault} (h : fault.IsToldAsSuch) :
    Told (.error fault : Outcome α) := by
  rintro _ ⟨⟩
  exact h

theorem bind {x : Outcome α} {next : α → Outcome β} (hx : Told x)
    (hnext : ∀ a, Told (next a)) : Told (x >>= next) := by
  cases x with
  | error fault => exact .error (hx fault rfl)
  | ok a => exact hnext a

theorem map {x : Outcome α} (hx : Told x) (f : α → β) : Told (x.map f) := by
  cases x with
  | error fault => exact .error (hx fault rfl)
  | ok a => exact .ok (f a)

theorem foldlM {step : β → α → Outcome β} (hstep : ∀ b a, Told (step b a)) (as : List α) (b : β) :
    Told (as.foldlM step b) := by
  induction as generalizing b with
  | nil => exact .ok b
  | cons a rest ih =>
      rw [List.foldlM_cons]
      exact .bind (hstep b a) ih

end Told

theorem told_moment (date : String) : Told (moment date) := by
  unfold moment
  split
  · exact .ok _
  · exact .error trivial

theorem told_revocation (r : Option WrittenRevocation) : Told (revocation r) := by
  cases r with
  | none => exact .ok _
  | some r =>
      cases r with
      | hard => exact .ok _
      | soft date => exact (told_moment date).map _

theorem told_node (name : String) (attributes : List Attribute) : Told (node name attributes) := by
  refine .foldlM (fun n a => ?_) attributes _
  cases a with
  | userId text r => exact (told_revocation r).map _
  | expires date => exact (told_moment date).map _
  | revoked r => exact (told_revocation (some r)).map _

theorem told_declare (d : Declared) (s : Statement) : Told (d.declare s) := by
  cases s with
  | node name attributes =>
      simp only [Declared.declare]
      split
      · exact .error trivial
      · exact (told_node name attributes).map _
  | time _ | signature _ _ _ _ | root _ _ => exact .ok d

theorem told_find (d : Declared) (name : String) : Told (d.node name) := by
  unfold Declared.node
  split
  · exact .ok _
  · exact .error trivial

theorem told_moment? (date : Option String) : Told (moment? date) := by
  cases date with
  | none => exact .ok none
  | some date => exact (told_moment date).map _

theorem told_signature (issuer target : Node) (userId : Option String)
    (options : List SignatureOption) (now : Moment) :
    Told (signature issuer target userId options now) := by
  unfold signature
  simp only
  split
  · refine .bind (.ok _) fun depth => .bind (told_moment? _) fun expires =>
      .bind (told_moment? _) fun created => ?_
    split
    · exact .error trivial
    · exact .ok _
  · exact .error trivial

theorem told_connect (d : Declared) (now : Moment) (state : Builder × List Root) (s : Statement) :
    Told (connect d now state s) := by
  cases s with
  | signature issuer target userId options =>
      exact .bind (told_find d issuer) fun issuer => .bind (told_find d target) fun target =>
        .bind (told_signature issuer target userId options now) fun s => .ok _
  | root name amount => exact .bind (told_find d name) fun n => .ok _
  | time _ | node _ _ => exact .ok state

/-- Statements that cannot be carried out are told as a fault of the description. -/
theorem told_ofStatements (given : Moment) (statements : List Statement) :
    Told (ofStatements given statements) := by
  refine .bind ?_ fun now => .bind (.foldlM told_declare statements _) fun d =>
    .bind (.foldlM (told_connect d now) statements _) fun _ => .ok _
  rw [referenceTime_eq]
  exact .foldlM (fun _ date => told_moment date) (dates statements) given

end Description

end TrustWeb
