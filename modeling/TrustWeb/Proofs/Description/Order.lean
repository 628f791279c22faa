import TrustWeb.Proofs.Description.Statements
import TrustWeb.Proofs.Store.Contents

/-! # The order of statements

Statements may stand in any order, as long as none of them contradicts another: at most one sets
the reference time, no two declare one certificate, and no two make one certificate a root. Then
either all orders are accepted or none is, and what is declared is the same. -/

namespace TrustWeb

/-! ## Tables without repeated keys -/

/-- Pairs in which no key repeats are a table as they are. -/
theorem Table.ofList_of_nodup {κ α : Type} [DecidableEq κ] {pairs : List (κ × α)}
    (h : (Table.keys pairs).Nodup) : Table.ofList pairs = pairs := by
  induction pairs using List.reverseRecOn with
  | nil => rfl
  | append_singleton rest p ih =>
      have hkeys : (Table.keys rest).Nodup ∧ p.1 ∉ Table.keys rest := by
        rw [Table.keys, List.map_append, List.map_singleton, List.nodup_append] at h
        exact ⟨h.1, fun hmem => h.2.2 _ hmem _ (List.mem_singleton_self _) rfl⟩
      have hnone : Table.find? rest p.1 = none := by
        rw [Option.eq_none_iff_forall_ne_some]
        intro v hv
        exact hkeys.2 (Table.mem_keys_iff.mpr ⟨v, hv⟩)
      rw [Table.ofList, List.foldl_append, ← Table.ofList, ih hkeys.1]
      exact Table.put_of_find?_eq_none hnone

/-- Roots with different fingerprints may come in any order. -/
theorem Roots.amount?_ofList_of_perm {roots roots' : List Root} (hperm : roots.Perm roots')
    (hdistinct : (roots.map (·.fingerprint)).Nodup) (f : Fingerprint) :
    (Roots.ofList roots).amount? f = (Roots.ofList roots').amount? f := by
  have hkeys : (Table.keys (roots.map fun r => (r.fingerprint, r.amount))).Nodup := by
    simpa [Table.keys, Function.comp_def] using hdistinct
  have hpairs := hperm.map fun r => (r.fingerprint, r.amount)
  have hkeys' := (hpairs.map Prod.fst).nodup_iff.mp hkeys
  rw [Roots.amount?, Roots.amount?, Roots.ofList, Roots.ofList, Table.ofList_of_nodup hkeys,
    Table.ofList_of_nodup hkeys']
  exact Table.find?_perm hpairs hkeys f

namespace Network

theorem signaturesOver_assemble (cs : List Contribution) (referenceTime now : Moment)
    (place : Place) : (assemble cs referenceTime now).signaturesOver place =
      (Builder.receiveAll {} cs).bucket place := by
  have hfiled : ((Builder.receiveAll {} cs).setTime referenceTime).Filed :=
    ⟨(filed_receiveAll cs).keys, (filed_receiveAll cs).edges⟩
  exact hfiled.signaturesOver_build now place

/-- In whatever order contributions arrive, the same signatures are kept over each datum. -/
theorem signaturesOver_assemble_perm {cs cs' : List Contribution} (hperm : cs.Perm cs')
    (referenceTime now : Moment) (place : Place) :
    (((assemble cs referenceTime now).signaturesOver place).map Signature.core).Perm
      (((assemble cs' referenceTime now).signaturesOver place).map Signature.core) := by
  rw [signaturesOver_assemble, signaturesOver_assemble]
  exact (Builder.latest_bucket cs place).perm (Builder.latest_bucket cs' place)
    ((hperm.filterMap _).filter _)

end Network

namespace Description

/-! ## Names but for capital letters -/

/-- Names that are the same but for capital and small letters. -/
def SameLetters (a b : String) : Prop := a.toList.map Char.toLower = b.toList.map Char.toLower

theorem not_sameLetters_symm {a b : String} (h : ¬SameLetters a b) : ¬SameLetters b a :=
  fun hba => h hba.symm

/-- A name as descriptions write it. -/
def IsWritten (name : String) : Prop := ∀ c ∈ name.toList, isNameChar c = true

theorem toNat_lt_of_isNameChar {c : Char} (h : isNameChar c = true) : c.toNat < 128 := by
  simp only [isNameChar, Char.isAlphanum, Char.isAlpha, Char.isUpper, Char.isLower, Char.isDigit,
    Bool.or_eq_true, Bool.and_eq_true, decide_eq_true_eq, beq_iff_eq] at h
  rcases h with ((⟨-, h⟩ | ⟨-, h⟩) | ⟨-, h⟩) | rfl
  · exact lt_of_le_of_lt h (by decide)
  · exact lt_of_le_of_lt h (by decide)
  · exact lt_of_le_of_lt h (by decide)
  · decide

theorem upperChar_nameChar {c : Char} (h : isNameChar c = true) :
    Text.isBlank c = false ∧ Text.upperChar c = [c.toUpper] ∧ c.toUpper.toLower = c.toLower := by
  have hall : ∀ n < 128, isNameChar (Char.ofNat n) = true → Text.isBlank (Char.ofNat n) = false ∧
      Text.upperChar (Char.ofNat n) = [(Char.ofNat n).toUpper] ∧
        (Char.ofNat n).toUpper.toLower = (Char.ofNat n).toLower := by
    decide +kernel
  have hc := hall c.toNat (toNat_lt_of_isNameChar h)
  rw [Char.ofNat_toNat] at hc
  exact hc h

theorem dropBlanks_of_clear {cs : List Char} (h : ∀ c ∈ cs, Text.isBlank c = false) :
    Text.dropBlanks cs = cs := by
  cases cs with
  | nil => rfl
  | cons c rest => rw [Text.dropBlanks, List.dropWhile_cons, if_neg (by simp [h c])]

/-- The fingerprint of a written name is the name in capital letters. -/
theorem text_ofText {name : String} (h : IsWritten name) :
    (Fingerprint.ofText name).text.toList = name.toList.map Char.toUpper := by
  have hclear : ∀ c ∈ name.toList, Text.isBlank c = false := fun c hc =>
    (upperChar_nameChar (h c hc)).1
  have hstrip : (Text.strip name).toList = name.toList := by
    rw [Text.strip, Text.trim, dropBlanks_of_clear hclear,
      dropBlanks_of_clear (by simpa using hclear), List.reverse_reverse, String.toList_ofList]
  rw [Fingerprint.ofText, Text.upper, String.toList_ofList, hstrip, List.map_eq_flatMap]
  exact List.flatMap_congr fun c hc => (upperChar_nameChar (h c hc)).2.1

/-- Names that spell one fingerprint are the same but for capital and small letters. -/
theorem sameLetters_of_ofText {a b : String} (ha : IsWritten a) (hb : IsWritten b)
    (h : Fingerprint.ofText a = Fingerprint.ofText b) : SameLetters a b := by
  have hlower : ∀ {name : String}, IsWritten name →
      name.toList.map Char.toLower = (name.toList.map Char.toUpper).map Char.toLower := by
    intro name hname
    rw [List.map_map]
    exact List.map_congr_left fun c hc => (upperChar_nameChar (hname c hc)).2.2.symm
  rw [SameLetters, hlower ha, hlower hb, ← text_ofText ha, ← text_ofText hb, h]

variable {given now : Moment} {statements statements' : List Statement} {names : List String}
  {nodes nodes' : List Node} {links links' : List Link}

/-! ## One statement after another, in another order -/

theorem certificateNamed_eq_ok {name : String} {n : Node}
    (h : certificateNamed names nodes name = .ok n) :
    name ∈ names ∧ n.fingerprint = Fingerprint.ofText name := by
  unfold certificateNamed at h
  split at h
  · next hname =>
      split at h
      · next m hm =>
          obtain rfl := Except.ok.inj h
          obtain ⟨_, -, hentry⟩ := List.mem_map.mp (Table.mem_of_find? hm)
          obtain ⟨hfingerprint, rfl⟩ := Prod.mk.inj hentry
          exact ⟨hname, hfingerprint⟩
      · cases h
  · cases h

/-- Every root is a certificate that is declared. -/
theorem Links.roots (h : Links (certificateNamed names nodes) now statements links) :
    (links.flatMap (·.roots)).map (·.fingerprint) =
        (rootNames statements).map Fingerprint.ofText ∧
      ∀ name ∈ rootNames statements, name ∈ names := by
  induction h with
  | nil => exact ⟨rfl, by simp [rootNames]⟩
  | @cons s l _ _ hl _ ih =>
      obtain ⟨hroots, hnames⟩ := ih
      cases s with
      | root name amount =>
          simp only [link, bind_eq_ok_iff] at hl
          obtain ⟨n, hn, hl⟩ := hl
          obtain rfl := Except.ok.inj hl
          obtain ⟨hname, hfingerprint⟩ := certificateNamed_eq_ok hn
          exact ⟨by simp [hroots, hfingerprint], by simpa [hname] using hnames⟩
      | signature issuer target userId options =>
          simp only [link, bind_eq_ok_iff] at hl
          obtain ⟨_, -, _, -, s, -, hl⟩ := hl
          obtain rfl := Except.ok.inj hl
          exact ⟨hroots, hnames⟩
      | time _ | node _ _ =>
          obtain rfl := Except.ok.inj hl
          exact ⟨hroots, hnames⟩

/-- Statements none of which contradicts another: at most one sets the reference time, the names of
certificates differ by more than capital letters, and no certificate that is declared is made a root
twice. -/
structure Unambiguous (statements : List Statement) : Prop where
  dates : (dates statements).length ≤ 1
  written : ∀ name ∈ declaredNames statements, IsWritten name
  names : (declaredNames statements).Pairwise fun a b => ¬SameLetters a b
  roots : ((rootNames statements).filter (· ∈ declaredNames statements)).Nodup

theorem declaredNames_perm (hperm : statements.Perm statements') :
    (declaredNames statements).Perm (declaredNames statements') :=
  (hperm.filterMap _).map _

namespace Unambiguous

theorem perm (h : Unambiguous statements) (hperm : statements.Perm statements') :
    Unambiguous statements' := by
  have hnames := declaredNames_perm hperm
  have hroots := (hperm.filterMap Statement.root?).filter (· ∈ declaredNames statements)
  refine ⟨(hperm.filterMap Statement.date?).length_eq ▸ h.dates,
    fun name hname => h.written name (hnames.mem_iff.mpr hname),
    (hnames.pairwise_iff not_sameLetters_symm).mp h.names, ?_⟩
  simp only [← hnames.mem_iff]
  exact hroots.nodup_iff.mp h.roots

theorem dates_eq (h : Unambiguous statements) (hperm : statements.Perm statements') :
    Description.dates statements' = Description.dates statements := by
  have hdates : (Description.dates statements').Perm (Description.dates statements) :=
    hperm.symm.filterMap _
  have hlength := h.dates
  generalize Description.dates statements = given at hdates hlength
  match given, hlength with
  | [], _ => exact hdates.eq_nil
  | [date], _ => exact hdates.eq_singleton

/-- Names that are declared are told apart by what they spell. -/
theorem injOn_ofText (h : Unambiguous statements) :
    ∀ a ∈ declaredNames statements, ∀ b ∈ declaredNames statements,
      Fingerprint.ofText a = Fingerprint.ofText b → a = b := by
  intro a ha b hb hspelled
  by_contra hne
  have hsymm : Std.Symm fun a b : String => ¬SameLetters a b := ⟨fun _ _ => not_sameLetters_symm⟩
  exact h.names.forall ha hb hne
    (sameLetters_of_ofText (h.written a ha) (h.written b hb) hspelled)

theorem nodup_fingerprints (h : Unambiguous statements)
    (hnames : (declaredNames statements).Nodup) :
    ((declaredNames statements).map Fingerprint.ofText).Nodup :=
  hnames.map_on h.injOn_ofText

end Unambiguous

theorem certificateNamed_perm {names' : List String} (hnames : names.Perm names')
    (hnodes : nodes.Perm nodes') (hdistinct : (nodes.map (·.fingerprint)).Nodup) :
    certificateNamed names nodes = certificateNamed names' nodes' := by
  have hfind (f : Fingerprint) : Table.find? (nodes.map fun n => (n.fingerprint, n)) f =
      Table.find? (nodes'.map fun n => (n.fingerprint, n)) f := by
    refine Table.find?_perm (hnodes.map _) ?_ f
    simpa [Table.keys, Function.comp_def] using hdistinct
  funext name
  simp only [certificateNamed, hfind, hnames.mem_iff]

/-- What statements give one by one they give in any order. -/
theorem Laid.perm (h : Laid given statements now nodes links) (hclear : Unambiguous statements)
    (hperm : statements.Perm statements') :
    ∃ nodes' links', Laid given statements' now nodes' links' ∧ nodes'.Perm nodes ∧
      links'.Perm links := by
  obtain ⟨nodes', hnodes', hnodes⟩ :=
    List.perm_comp_forall₂ (hperm.symm.filterMap Statement.declaration?) h.certificates
  obtain ⟨links', hlinks', hlinks⟩ := List.perm_comp_forall₂ hperm.symm h.links
  have hnames := declaredNames_perm hperm
  have hdistinct : (nodes.map (·.fingerprint)).Nodup := by
    rw [h.certificates.fingerprints]
    simpa [declaredNames, Function.comp_def] using hclear.nodup_fingerprints h.names
  refine ⟨nodes', links', ⟨?_, hnodes', hnames.nodup_iff.mp h.names, ?_⟩, hnodes, hlinks⟩
  · rw [referenceTime_eq, hclear.dates_eq hperm, ← referenceTime_eq]
    exact h.time
  · rw [← certificateNamed_perm hnames hnodes.symm hdistinct]
    exact hlinks'

/-! ## Descriptions in another order -/

/-- Descriptions that declare the same: signatures over a datum are compared up to sameness, and
without regard to their order. -/
structure Agree (d d' : Description) : Prop where
  time : d.network.referenceTime = d'.network.referenceTime
  nodes : ∀ f, d.network.node? f = d'.network.node? f
  names : ∀ name, d.names.find? name = d'.names.find? name
  roots : ∀ f, d.roots.amount? f = d'.roots.amount? f
  signatures : ∀ place, ((d.network.signaturesOver place).map Signature.core).Perm
    ((d'.network.signaturesOver place).map Signature.core)

theorem contributions_perm (hnodes : nodes.Perm nodes') (hlinks : links.Perm links') :
    (contributions nodes links).Perm (contributions nodes' links') :=
  (hnodes.map _).append ((hlinks.flatMap_right _).map _)

theorem Shows.agree {d d' : Description} {names' : List String} (h : Shows d names now nodes links)
    (h' : Shows d' names' now nodes' links') (hnames : names.Perm names')
    (hnodes : nodes.Perm nodes') (hlinks : links.Perm links')
    (hcertificates : (nodes.map (·.fingerprint)).Nodup)
    (hroots : ((links.flatMap (·.roots)).map (·.fingerprint)).Nodup) : Agree d d' := by
  have hsignatures := contributions_perm hnodes hlinks
  constructor
  case time =>
    rw [h.network, h'.network]
    rfl
  case nodes =>
    intro f
    rw [h.node?_eq, h'.node?_eq]
    refine Table.find?_perm (hnodes.map _) ?_ f
    simpa [Table.keys, Function.comp_def] using hcertificates
  case names =>
    intro name
    rw [h.names, h'.names, Table.find?_map, Table.find?_map]
    simp only [hnames.mem_iff]
  case roots =>
    intro f
    rw [h.roots, h'.roots]
    exact Roots.amount?_ofList_of_perm (hlinks.flatMap_right _) hroots f
  case signatures =>
    intro place
    rw [h.network, h'.network]
    exact Network.signaturesOver_assemble_perm hsignatures now now place

/-- A description that is accepted is accepted in any order, and declares the same. -/
theorem exists_agree {d : Description} (hclear : Unambiguous statements)
    (hperm : statements.Perm statements') (h : ofStatements given statements = .ok d) :
    ∃ d', ofStatements given statements' = .ok d' ∧ Agree d d' := by
  obtain ⟨now, nodes, links, hlaid, hshows⟩ := laid_of_ofStatements h
  obtain ⟨nodes', links', hlaid', hnodes, hlinks⟩ := hlaid.perm hclear hperm
  obtain ⟨d', hd', hshows'⟩ := hlaid'.exists_description
  obtain ⟨hroots, hdeclared⟩ := hlaid.links.roots
  refine ⟨d', hd', hshows.agree hshows' (declaredNames_perm hperm) hnodes.symm hlinks.symm ?_ ?_⟩
  · rw [hlaid.certificates.fingerprints]
    simpa [declaredNames, Function.comp_def] using hclear.nodup_fingerprints hlaid.names
  · have hall : (rootNames statements).filter (· ∈ declaredNames statements) =
        rootNames statements := by
      simpa [List.filter_eq_self] using hdeclared
    rw [hroots]
    refine (hall ▸ hclear.roots).map_on fun a ha b hb => ?_
    exact hclear.injOn_ofText a (hdeclared a ha) b (hdeclared b hb)

/-- Statements none of which contradicts another are refused in every order, each time with a fault
of the description, or accepted in every order, and then they declare the same. -/
theorem ofStatements_perm (given : Moment) (hclear : Unambiguous statements)
    (hperm : statements.Perm statements') :
    (∃ fault fault', ofStatements given statements = .error fault ∧ fault.IsToldAsSuch ∧
        ofStatements given statements' = .error fault' ∧ fault'.IsToldAsSuch) ∨
      ∃ d d', ofStatements given statements = .ok d ∧ ofStatements given statements' = .ok d' ∧
        Agree d d' := by
  cases hread : ofStatements given statements with
  | ok d =>
      obtain ⟨d', hd', hagree⟩ := exists_agree hclear hperm hread
      exact .inr ⟨d, d', rfl, hd', hagree⟩
  | error fault =>
      cases hread' : ofStatements given statements' with
      | ok d' =>
          obtain ⟨d, hd, -⟩ := exists_agree (hclear.perm hperm) hperm.symm hread'
          rw [hread] at hd
          cases hd
      | error fault' =>
          exact .inl ⟨fault, fault', rfl, told_ofStatements given statements fault hread, rfl,
            told_ofStatements given statements' fault' hread'⟩

/-! ### A description read from its end -/

/-- A certification that is made anew, at the time that the first statement sets, and a root. -/
def renewed : List Statement :=
  [.time "2023-01-01", .node "alice" [], .node "bob" [.userId "<bob@example.org>" none],
    .signature "alice" "bob" (some "<bob@example.org>") [.created "2022-01-01"],
    .signature "alice" "bob" (some "<bob@example.org>") [.amount 60], .root "alice" 120]

/-- The reversed statements start with a root that is not yet declared, and set the time last. -/
theorem ofStatements_perm_renewed :
    Unambiguous renewed ∧ renewed.Perm renewed.reverse ∧
      ∃ d d', ofStatements ⟨0, none⟩ renewed = .ok d ∧
        ofStatements ⟨0, none⟩ renewed.reverse = .ok d' ∧ Agree d d' := by
  have hwritten : ∀ name ∈ declaredNames renewed, name.toList.all isNameChar = true := by decide
  have hnames : (declaredNames renewed).Pairwise fun a b => ¬SameLetters a b := by
    unfold SameLetters
    decide
  have hclear : Unambiguous renewed :=
    ⟨by decide, fun name hname => List.all_eq_true.mp (hwritten name hname), hnames, by decide⟩
  have hperm : renewed.Perm renewed.reverse := (List.reverse_perm renewed).symm
  have haccepted : (ofStatements ⟨0, none⟩ renewed).toBool = true := by decide +kernel
  refine ⟨hclear, hperm, ?_⟩
  rcases ofStatements_perm ⟨0, none⟩ hclear hperm with ⟨fault, _, hfault, -⟩ | hagree
  · rw [hfault] at haccepted
    cases haccepted
  · exact hagree

end Description

end TrustWeb
