import Mathlib
import TrustWeb.Proofs.Drawing.Signatures
import TrustWeb.Proofs.Path.Building

/-! # What a drawing refers to

The certificates of a drawing are those on the paths of some bindings, each of them once. A path
that was built goes from certificate to certificate, so that both ends of each signature on it are
drawn, and its root as well. Every line then finds the certificates that it refers to, and each of
these is declared by one line. -/

namespace TrustWeb

/-- Both ends of a signature on a connected path stand along the path. -/
theorem Path.Regular.ends_mem {p : Path} (h : p.Regular) {s : Signature} (hs : s ∈ p.signatures) :
    s.issuer.fingerprint ∈ p.visited ∧ s.target.fingerprint ∈ p.visited := by
  rw [Path.visited_eq]
  obtain ⟨i, hi⟩ := List.getElem?_of_mem hs
  exact ⟨List.mem_of_getElem? (h.connected.issuer_getElem? hi),
    List.mem_cons_of_mem _ (List.mem_map_of_mem hs)⟩

/-! ## Lists -/

section Lists

variable {α β : Type}

/-- What stands before the first `c` is told from what follows it. -/
theorem eq_of_append_cons {c : α} {as bs xs ys : List α} (ha : c ∉ as) (hb : c ∉ bs)
    (h : as ++ c :: xs = bs ++ c :: ys) : as = bs := by
  induction as generalizing bs with
  | nil =>
      cases bs with
      | nil => rfl
      | cons b bs => exact (hb (by simp [(List.cons.inj h).1])).elim
  | cons a as ih =>
      cases bs with
      | nil => exact (ha (by simp [(List.cons.inj h).1])).elim
      | cons b bs =>
          obtain ⟨rfl, hrest⟩ := List.cons.inj h
          rw [ih (mt (List.mem_cons_of_mem a) ha) (mt (List.mem_cons_of_mem a) hb) hrest]

theorem exists_mapM {f : α → Option β} {holds : α → β → Prop} {as : List α}
    (h : ∀ a ∈ as, ∃ b, f a = some b ∧ holds a b) :
    ∃ bs, as.mapM f = some bs ∧ List.Forall₂ holds as bs := by
  induction as with
  | nil => exact ⟨[], rfl, .nil⟩
  | cons a rest ih =>
      obtain ⟨⟨b, hb, hab⟩, hrest⟩ := List.forall_mem_cons.mp h
      obtain ⟨bs, hbs, hall⟩ := ih hrest
      exact ⟨b :: bs, by simp [List.mapM_cons, hb, hbs], .cons hab hall⟩

theorem exists_filter_eq_singleton [DecidableEq β] {key : α → β} {as : List α} {b : β}
    (hnodup : (as.map key).Nodup) (hb : b ∈ as.map key) :
    ∃ a ∈ as, key a = b ∧ as.filter (key · == b) = [a] := by
  induction as with
  | nil => cases hb
  | cons a rest ih =>
      rw [List.map_cons, List.nodup_cons] at hnodup
      by_cases ha : key a = b
      · have hrest : rest.filter (key · == b) = [] := by
          refine List.filter_eq_nil_iff.mpr fun c hc => ?_
          rw [beq_iff_eq]
          rintro rfl
          exact hnodup.1 (ha ▸ List.mem_map_of_mem hc)
        exact ⟨a, List.mem_cons_self, ha, by simp [ha, hrest]⟩
      · have hlater : b ∈ rest.map key := (List.mem_cons.mp hb).resolve_left (Ne.symm ha)
        obtain ⟨c, hc, hkey, hfilter⟩ := ih hnodup.2 hlater
        exact ⟨c, List.mem_cons_of_mem a hc, hkey, by simp [ha, hfilter]⟩

end Lists

namespace Drawing

variable {d : Drawing} {bindings : List Binding} {f g : Fingerprint} {v w : String}
  {boxes : List String}

/-! ## The certificates of a drawing -/

/-- The certificates on the paths of some bindings, one path after the other. -/
def certificatesOn (bindings : List Binding) : List Node :=
  bindings.flatMap fun b => b.paths.items.flatMap (·.path.certificates)

/-- The certificate is drawn. -/
def Draws (d : Drawing) (f : Fingerprint) : Prop := f ∈ d.nodes.map (·.fingerprint)

/-- No certificate is drawn twice, and what a root or a signature refers to is drawn. -/
structure Closed (d : Drawing) : Prop where
  nodup : (d.nodes.map (·.fingerprint)).Nodup
  roots : ∀ f ∈ d.roots, d.Draws f
  signatures : ∀ s ∈ d.signatures, d.Draws s.issuer.fingerprint ∧ d.Draws s.target.fingerprint

theorem mem_of_mem_firstBy {α β : Type} [DecidableEq β] {key : α → β} {seen : List β}
    {as : List α} {a : α} (h : a ∈ firstBy key seen as) : a ∈ as := by
  induction as generalizing seen with
  | nil => exact h
  | cons b rest ih =>
      rw [firstBy] at h
      split at h
      · exact List.mem_cons_of_mem b (ih h)
      · rcases List.mem_cons.mp h with rfl | h
        · exact List.mem_cons_self
        · exact List.mem_cons_of_mem b (ih h)

theorem nodes_ofBindings_eq (bindings : List Binding) :
    (ofBindings bindings).nodes = firstBy (·.fingerprint) [] (certificatesOn bindings) := by
  simp only [ofBindings, certificatesOn, List.flatMap_assoc, List.flatMap_map]

theorem draws_of_path {b : Binding} (hb : b ∈ bindings) {i : PathItem} (hi : i ∈ b.paths.items)
    (hf : f ∈ i.path.visited) : (ofBindings bindings).Draws f := by
  obtain ⟨n, hn, rfl⟩ := List.mem_map.mp hf
  have hmem : n ∈ certificatesOn bindings :=
    List.mem_flatMap.mpr ⟨b, hb, List.mem_flatMap.mpr ⟨i, hi, hn⟩⟩
  have hfirst : ∃ m ∈ firstBy Node.fingerprint [] (certificatesOn bindings),
      m.fingerprint = n.fingerprint := exists_mem_firstBy hmem List.not_mem_nil
  obtain ⟨m, hm, hsame⟩ := hfirst
  rw [Draws, nodes_ofBindings_eq, ← hsame]
  exact List.mem_map_of_mem hm

theorem closed_ofBindings (hbuilt : ∀ b ∈ bindings, b.Built) : (ofBindings bindings).Closed := by
  refine ⟨?_, fun f hf => ?_, fun s hs => ?_⟩
  · rw [nodes_ofBindings_eq]
    exact nodup_firstBy
  · have hroot := mem_of_mem_firstBy hf
    simp only [List.mem_map, List.mem_flatMap] at hroot
    obtain ⟨p, ⟨b, hb, i, hi, rfl⟩, rfl⟩ := hroot
    exact draws_of_path hb hi (by simp [Path.visited_eq])
  · have hpath := mem_of_mem_firstBy (signatures_ofBindings_eq bindings ▸ hs)
    simp only [onPaths, List.mem_flatMap] at hpath
    obtain ⟨b, hb, i, hi, hs⟩ := hpath
    obtain ⟨hissuer, htarget⟩ := (hbuilt b hb i hi).regular.ends_mem hs
    exact ⟨draws_of_path hb hi hissuer, draws_of_path hb hi htarget⟩

theorem Closed.exists_filter (h : d.Closed) (hf : d.Draws f) :
    ∃ n ∈ d.nodes, n.fingerprint = f ∧ d.nodes.filter (·.fingerprint == f) = [n] :=
  exists_filter_eq_singleton h.nodup hf

/-! ## Variables -/

/-- The variable of the certificate in a place. -/
def numbered (i : Nat) : String := "n" ++ toString i

theorem isDigit_of_mem_toString {k : Nat} {c : Char} (hc : c ∈ (toString k).toList) :
    c.isDigit = true := by
  refine Nat.isDigit_of_mem_toDigits (b := 10) (n := k) (by decide) (by decide) ?_
  simpa using hc

/-- A variable is made of letters and digits. -/
theorem isAlphanum_of_mem_numbered {i : Nat} {c : Char} (hc : c ∈ (numbered i).toList) :
    c.isAlphanum = true := by
  rw [numbered, String.toList_append] at hc
  rcases List.mem_append.mp hc with hc | hc
  · rw [List.mem_singleton.mp hc]
    rfl
  · simp [Char.isAlphanum, isDigit_of_mem_toString hc]

theorem numbered_inj {i j : Nat} : numbered i = numbered j ↔ i = j := by
  rw [numbered, numbered, String.append_right_inj]
  exact Nat.repr_inj

theorem identifier?_eq_some_iff :
    d.identifier? f = some v ↔
      ∃ i, d.nodes.findIdx? (·.fingerprint == f) = some i ∧ v = numbered i := by
  simp [identifier?, numbered, eq_comm]

theorem exists_identifier? (h : d.Draws f) : ∃ v, d.identifier? f = some v := by
  obtain ⟨n, hn, hf⟩ := List.mem_map.mp h
  have hsome : (d.nodes.findIdx? (·.fingerprint == f)).isSome = true := by
    rw [List.findIdx?_isSome, List.any_eq_true]
    exact ⟨n, hn, beq_iff_eq.mpr hf⟩
  obtain ⟨i, hi⟩ := Option.isSome_iff_exists.mp hsome
  exact ⟨numbered i, identifier?_eq_some_iff.mpr ⟨i, hi, rfl⟩⟩

/-- No two certificates have the same variable. -/
theorem identifier?_inj (hf : d.identifier? f = some v) (hg : d.identifier? g = some v) :
    f = g := by
  obtain ⟨i, hi, rfl⟩ := identifier?_eq_some_iff.mp hf
  obtain ⟨j, hj, hsame⟩ := identifier?_eq_some_iff.mp hg
  obtain rfl : i = j := numbered_inj.mp hsame
  obtain ⟨_, hf', -⟩ := List.findIdx?_eq_some_iff_getElem.mp hi
  obtain ⟨_, hg', -⟩ := List.findIdx?_eq_some_iff_getElem.mp hj
  exact (beq_iff_eq.mp hf').symm.trans (beq_iff_eq.mp hg')

/-! ## Lines that declare -/

/-- Whether a line of a flowchart declares a variable. -/
def declares (v line : String) : Bool := ("    " ++ v ++ "[").toList.isPrefixOf line.toList

/-- Whether a line of a directed graph declares a certificate. -/
def declaresQuoted (f : Fingerprint) (line : String) : Bool :=
  ("    \"" ++ f.text ++ "\" [").toList.isPrefixOf line.toList

/-- The variable is that of the certificate, and the certificate's line declares it: among the lines
for certificates, that line and no other. -/
structure Names (d : Drawing) (boxes : List String) (f : Fingerprint) (v : String) : Prop where
  identifier : d.identifier? f = some v
  declared : ∃ n ∈ d.nodes, n.fingerprint = f ∧ boxes.filter (declares v) = [boxLine v n]

/-- The lines of a flowchart for the certificates, the signatures and the roots. -/
structure LaidOut (d : Drawing) (boxes arrows styles : List String) : Prop where
  certificates : List.Forall₂ (fun n line =>
    ∃ v, d.identifier? n.fingerprint = some v ∧ line = boxLine v n) d.nodes boxes
  signatures : List.Forall₂ (fun s line => ∃ v w, line = arrowLine v w s ∧
    d.Names boxes s.issuer.fingerprint v ∧ d.Names boxes s.target.fingerprint w) d.signatures arrows
  roots : List.Forall₂ (fun f line => ∃ v, line = styleLine v ∧ d.Names boxes f v)
    (Fingerprint.sorted d.roots) styles

theorem declares_boxLine_iff {i j : Nat} {n : Node} :
    declares (numbered i) (boxLine (numbered j) n) = true ↔ i = j := by
  have hopen : "[".toList = ['['] := rfl
  rw [declares, List.isPrefixOf_iff_prefix, boxLine]
  simp only [String.toList_append, List.append_assoc, List.prefix_append_right_inj, hopen]
  constructor
  · rintro ⟨rest, hrest⟩
    have hclear : ∀ k, '[' ∉ (numbered k).toList := fun k hk =>
      absurd (isAlphanum_of_mem_numbered hk) (by decide)
    rw [List.append_assoc] at hrest
    exact numbered_inj.mp (String.toList_injective
      (eq_of_append_cons (hclear i) (hclear j) hrest))
  · rintro rfl
    exact (List.prefix_append_right_inj _).mpr ⟨_, rfl⟩

/-- The variable of a certificate that is drawn is declared by its line. -/
theorem Closed.exists_names (h : d.Closed)
    (hboxes : List.Forall₂ (fun n line =>
      ∃ v, d.identifier? n.fingerprint = some v ∧ line = boxLine v n) d.nodes boxes)
    (hf : d.Draws f) : ∃ v, d.Names boxes f v := by
  obtain ⟨v, hv⟩ := exists_identifier? hf
  obtain ⟨n, hn, hfn, hfilter⟩ := h.exists_filter hf
  have hsame : ∀ m line, (∃ w, d.identifier? m.fingerprint = some w ∧ line = boxLine w m) →
      ((m.fingerprint == f) = true ↔ declares v line = true) := by
    rintro m _ ⟨w, hw, rfl⟩
    obtain ⟨i, -, rfl⟩ := identifier?_eq_some_iff.mp hv
    obtain ⟨j, -, rfl⟩ := identifier?_eq_some_iff.mp hw
    rw [beq_iff_eq, declares_boxLine_iff]
    constructor
    · intro hm
      rw [hm, hv] at hw
      exact numbered_inj.mp (Option.some.inj hw)
    · rintro rfl
      exact identifier?_inj hw hv
  -- Of the lines, those are kept that belong to the certificates kept, and of these there is one.
  have hlines := List.rel_filter (q := declares v) (fun m line => hsame m line) hboxes
  rw [hfilter] at hlines
  obtain ⟨_, rest, ⟨w, hw, rfl⟩, hrest, hfound⟩ := List.forall₂_cons_left_iff.mp hlines
  obtain rfl := List.forall₂_nil_left_iff.mp hrest
  rw [hfn, hv] at hw
  obtain rfl := Option.some.inj hw
  exact ⟨v, hv, n, hn, hfn, hfound⟩

theorem declaresQuoted_nodeLine_iff {n : Node} (hf : '\x22' ∉ f.text.toList)
    (hn : '\x22' ∉ n.fingerprint.text.toList) :
    declaresQuoted f (d.nodeLine n) = true ↔ n.fingerprint = f := by
  have hclose : "\" [".toList = '\x22' :: " [".toList := rfl
  rw [declaresQuoted, List.isPrefixOf_iff_prefix, nodeLine]
  simp only [String.toList_append, List.append_assoc, List.prefix_append_right_inj, hclose]
  constructor
  · rintro ⟨rest, hrest⟩
    rw [List.append_assoc] at hrest
    have htext := String.toList_injective (eq_of_append_cons hf hn hrest)
    exact congrArg Fingerprint.mk htext.symm
  · rintro rfl
    exact (List.prefix_append_right_inj _).mpr (List.prefix_append _ _)

/-- If no fingerprint has a quote in it, a certificate that is drawn is declared by its own line of
a directed graph, and by no other. -/
theorem filter_declaresQuoted {n : Node}
    (hquotes : ∀ m ∈ d.nodes, '\x22' ∉ m.fingerprint.text.toList) (hn : n ∈ d.nodes)
    (hfilter : d.nodes.filter (·.fingerprint == n.fingerprint) = [n]) :
    (d.nodes.map d.nodeLine).filter (declaresQuoted n.fingerprint) = [d.nodeLine n] := by
  have hsame : ∀ m ∈ d.nodes, declaresQuoted n.fingerprint (d.nodeLine m) =
      (m.fingerprint == n.fingerprint) := fun m hm => by
    rw [Bool.eq_iff_iff, beq_iff_eq]
    exact declaresQuoted_nodeLine_iff (hquotes n hn) (hquotes m hm)
  rw [List.filter_map]
  change (d.nodes.filter fun m => declaresQuoted n.fingerprint (d.nodeLine m)).map _ = _
  rw [List.filter_congr hsame, hfilter]
  rfl

/-! ## Lines that refer to certificates -/

/-- The lines of a flowchart, with those for the certificates, the signatures and the roots. -/
def flowchartLines (direction : String) (boxes arrows styles : List String) : List String :=
  ["flowchart " ++ direction] ++ boxes ++ [""] ++ arrows ++
    if styles.isEmpty then [] else "" :: styles

/-- A flowchart with its lines for the certificates, the signatures and the roots. -/
def flowchartOf (direction : String) (boxes arrows styles : List String) : String :=
  String.intercalate "\n" (flowchartLines direction boxes arrows styles)

/-- A closed drawing has a flowchart, with one line for each certificate, signature and root. -/
theorem Closed.exists_flowchart (h : d.Closed) (direction : String) :
    ∃ boxes arrows styles,
      d.flowchart? direction = some (flowchartOf direction boxes arrows styles) ∧
        d.LaidOut boxes arrows styles := by
  obtain ⟨boxes, hmapM, hboxes⟩ : ∃ boxes, d.nodes.mapM d.boxLine? = some boxes ∧
      List.Forall₂ (fun n line =>
        ∃ v, d.identifier? n.fingerprint = some v ∧ line = boxLine v n) d.nodes boxes := by
    refine exists_mapM fun n hn => ?_
    obtain ⟨v, hv⟩ := exists_identifier? (List.mem_map_of_mem hn)
    exact ⟨boxLine v n, by simp [boxLine?, hv], v, hv, rfl⟩
  obtain ⟨arrows, hmapM', harrows⟩ : ∃ arrows, d.signatures.mapM d.arrowLine? = some arrows ∧
      List.Forall₂ (fun s line => ∃ v w, line = arrowLine v w s ∧
        d.Names boxes s.issuer.fingerprint v ∧ d.Names boxes s.target.fingerprint w)
        d.signatures arrows := by
    refine exists_mapM fun s hs => ?_
    obtain ⟨v, hv⟩ := h.exists_names hboxes (h.signatures s hs).1
    obtain ⟨w, hw⟩ := h.exists_names hboxes (h.signatures s hs).2
    exact ⟨arrowLine v w s, by simp [arrowLine?, hv.identifier, hw.identifier], v, w, rfl, hv, hw⟩
  obtain ⟨styles, hmapM'', hstyles⟩ : ∃ styles,
      (Fingerprint.sorted d.roots).mapM d.styleLine? = some styles ∧
        List.Forall₂ (fun f line => ∃ v, line = styleLine v ∧ d.Names boxes f v)
          (Fingerprint.sorted d.roots) styles := by
    refine exists_mapM fun f hf => ?_
    obtain ⟨v, hv⟩ := h.exists_names hboxes (h.roots f (List.mem_mergeSort.mp hf))
    exact ⟨styleLine v, by simp [styleLine?, hv.identifier], v, rfl, hv⟩
  have hempty : styles.isEmpty = d.roots.isEmpty := by
    have hlength : d.roots.length = styles.length := by
      simpa [Fingerprint.sorted] using hstyles.length_eq
    rw [Bool.eq_iff_iff, List.isEmpty_iff, List.isEmpty_iff, ← List.length_eq_zero_iff,
      ← List.length_eq_zero_iff, hlength]
  refine ⟨boxes, arrows, styles, ?_, hboxes, harrows, hstyles⟩
  rw [flowchart?, hmapM, hmapM', hmapM'', flowchartOf, flowchartLines, hempty]
  rfl

/-- The drawing of paths that were built has the certificates on the paths, each of them once and in
the order of first appearance, and every root and both ends of every signature are among them. So
the flowchart can be written, with one line for each certificate, signature and root; the variables
in the lines for signatures and roots are declared by the line for the certificate that is meant,
and by no other. In the directed graph both ends of a signature belong to one certificate that is
drawn; if no fingerprint has a quote in it, the line for that certificate is the only one that
declares it. -/
theorem ofBindings_closed (hbuilt : ∀ b ∈ bindings, b.Built) (direction : String) :
    (ofBindings bindings).nodes = (certificatesOn bindings).eraseDupsBy Node.same ∧
      (ofBindings bindings).Closed ∧
      (∃ boxes arrows styles,
        (ofBindings bindings).flowchart? direction =
            some (flowchartOf direction boxes arrows styles) ∧
          (ofBindings bindings).LaidOut boxes arrows styles) ∧
      ∀ s ∈ (ofBindings bindings).signatures,
        ∀ f ∈ [s.issuer.fingerprint, s.target.fingerprint],
          ∃ n, (ofBindings bindings).nodes.filter (·.fingerprint == f) = [n] ∧
            ((∀ m ∈ (ofBindings bindings).nodes, '\x22' ∉ m.fingerprint.text.toList) →
              ((ofBindings bindings).nodes.map (ofBindings bindings).nodeLine).filter
                (declaresQuoted f) = [(ofBindings bindings).nodeLine n]) := by
  have hclosed := closed_ofBindings hbuilt
  have hsame : ∀ m n : Node, m.same n = true ↔ m.fingerprint = n.fingerprint :=
    fun _ _ => beq_iff_eq
  have hnodes : (ofBindings bindings).nodes = (certificatesOn bindings).eraseDupsBy Node.same := by
    rw [nodes_ofBindings_eq, firstBy_eq_eraseDupsBy hsame]
    simp
  refine ⟨hnodes, hclosed, hclosed.exists_flowchart direction, fun s hs f hf => ?_⟩
  have hdraws : (ofBindings bindings).Draws f := by
    obtain ⟨hissuer, htarget⟩ := hclosed.signatures s hs
    rcases List.mem_cons.mp hf with rfl | hf
    · exact hissuer
    · rwa [List.mem_singleton.mp hf]
  obtain ⟨n, hn, rfl, hfilter⟩ := hclosed.exists_filter hdraws
  exact ⟨n, hfilter, fun hquotes => filter_declaresQuoted hquotes hn hfilter⟩

/-- Two paths to the binding of `C`, by way of `B` and from `A` itself. -/
def introductions : Binding where
  fingerprint := ⟨"C"⟩
  subject := .userId "carol@example.org"
  paths := ⟨[
    ⟨Path.offerAll { root := { fingerprint := ⟨"A"⟩ } }
      [(Introduction.delegation, .authentication), (Introduction.introduced, .authentication)], 60⟩,
    ⟨Path.offerAll { root := { fingerprint := ⟨"A"⟩ } }
      [(Introduction.direct, .authentication)], 30⟩]⟩

theorem built_introductions : introductions.Built := by
  intro i hi
  rcases List.mem_pair.mp hi with rfl | rfl
  · exact ⟨_, _, rfl⟩
  · exact ⟨_, _, rfl⟩

/-- The two paths have three certificates and three signatures, and one root. -/
theorem ofBindings_closed_introductions :
    (∀ b ∈ [introductions], b.Built) ∧
      (ofBindings [introductions]).Closed ∧
      (ofBindings [introductions]).nodes.map (·.fingerprint) = [⟨"A"⟩, ⟨"B"⟩, ⟨"C"⟩] ∧
      (ofBindings [introductions]).signatures =
        [Introduction.delegation, Introduction.introduced, Introduction.direct] ∧
      (ofBindings [introductions]).roots = [⟨"A"⟩] ∧
      ∃ boxes arrows styles,
        (ofBindings [introductions]).flowchart? "LR" =
            some (flowchartOf "LR" boxes arrows styles) ∧
          (ofBindings [introductions]).LaidOut boxes arrows styles := by
  have hbuilt : ∀ b ∈ [introductions], b.Built := by simpa using built_introductions
  obtain ⟨-, hclosed, hflowchart, -⟩ := ofBindings_closed hbuilt "LR"
  exact ⟨hbuilt, hclosed, by cbv, by cbv, by cbv, hflowchart⟩

end Drawing

end TrustWeb
