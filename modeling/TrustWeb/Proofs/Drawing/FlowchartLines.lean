import Mathlib
import TrustWeb.Proofs.Drawing.Closure

/-! # The lines of a flowchart

A flowchart has a line for its direction, one for each certificate, one for each signature and one
for each root. Quotes in user IDs are replaced, so that a line has no quotes but those around its
label. Line feeds are not: a user ID that has one in it goes on on a line of its own. -/

namespace TrustWeb

/-! ## Lines of text -/

section Lines

variable {α : Type} [BEq α] [LawfulBEq α] {c : α} {text line : List α}

theorem notMem_of_mem_splitOn (h : line ∈ text.splitOn c) : c ∉ line := by
  induction text generalizing line with
  | nil =>
      obtain rfl : line = [] := by simpa [List.splitOn, List.splitOnP_nil] using h
      exact List.not_mem_nil
  | cons d rest ih =>
      rw [List.splitOn, List.splitOnP_cons_eq_if_modifyHead] at h
      split at h
      · rcases List.mem_cons.mp h with rfl | h
        · exact List.not_mem_nil
        · exact ih h
      · next hd =>
          obtain ⟨first, lines, hlines⟩ : ∃ first lines, rest.splitOn c = first :: lines :=
            List.exists_cons_of_ne_nil (List.splitOnP_ne_nil (· == c) rest)
          rw [← List.splitOn, hlines, List.modifyHead_cons] at h
          rcases List.mem_cons.mp h with rfl | h
          · have hfirst : c ∉ first := ih (hlines ▸ List.mem_cons_self)
            simpa [hfirst] using fun he => hd (beq_iff_eq.mpr he.symm)
          · exact ih (hlines ▸ List.mem_cons_of_mem _ h)

/-- Lines that were put together are read as they are if none of them is broken itself. -/
theorem splitOn_intercalate_iff {lines : List (List α)} (hne : lines ≠ []) :
    ([c].intercalate lines).splitOn c = lines ↔ ∀ line ∈ lines, c ∉ line := by
  refine ⟨fun h line hline => ?_, fun h => List.splitOn_intercalate c h hne⟩
  rw [← h] at hline
  exact notMem_of_mem_splitOn hline

theorem forall_mem_iff_of_forall₂ {β γ : Type} {R : β → γ → Prop} {P : β → Prop} {Q : γ → Prop}
    {bs : List β} {cs : List γ} (h : List.Forall₂ R bs cs)
    (hiff : ∀ b ∈ bs, ∀ c, R b c → (P b ↔ Q c)) : (∀ b ∈ bs, P b) ↔ ∀ c ∈ cs, Q c := by
  induction h with
  | nil => simp
  | cons hbc _ ih =>
      obtain ⟨hb, hrest⟩ := List.forall_mem_cons.mp hiff
      rw [List.forall_mem_cons, List.forall_mem_cons, hb _ hbc, ih hrest]

end Lines

namespace Drawing

variable {d : Drawing} {bindings : List Binding} {n : Node} {s : Signature} {v w : String}
  {c : Char}

/-! ## Labels -/

theorem lineFeed_notMem_text (depth : Depth) : '\n' ∉ depth.text.toList := by
  cases depth with
  | unconstrained => decide
  | limited hops => exact fun h => absurd (isDigit_of_mem_toString h) (by decide)

theorem lineFeed_notMem_trust (s : Signature) : '\n' ∉ s.trust.repr.toList := by
  change '\n' ∉ (toString s.amount.val).toList
  exact fun h => absurd (isDigit_of_mem_toString h) (by decide)

/-- There is a line feed at a signature exactly if there is one in its user ID. -/
theorem lineFeed_mem_label_iff :
    '\n' ∈ (label s).toList ↔ ∃ userId ∈ s.userId, '\n' ∈ userId.toList := by
  rw [label]
  cases s.userId with
  | none => simp [lineFeed_notMem_text, lineFeed_notMem_trust]
  | some userId => dsimp only; split <;> simp [lineFeed_notMem_text, lineFeed_notMem_trust]

/-- The label of a certificate, without its quotes. -/
def boxLabel (n : Node) : List Char :=
  n.fingerprint.text.toList.take 16 ++
    match n.primaryUserId? with
    | none => []
    | some userId => "<br/>".toList ++ userId.toList.flatMap plainChar

theorem toList_boxLine (v : String) (n : Node) :
    (boxLine v n).toList =
      "    ".toList ++ v.toList ++ '[' :: '\x22' :: (boxLabel n ++ ['\x22', ']']) := by
  rw [boxLine, boxLabel]
  cases n.primaryUserId? <;> simp

/-- The label of a signature, without its quotes. -/
def arrowLabel (s : Signature) : List Char :=
  (label s).toList.map fun c => if c == '\x22' then '\x27' else c

theorem toList_arrowLine (v w : String) (s : Signature) :
    (arrowLine v w s).toList =
      "    ".toList ++ v.toList ++ (" -->|".toList ++ '\x22' ::
        (arrowLabel s ++ '\x22' :: ("| ".toList ++ w.toList))) := by
  rw [arrowLine, arrowLabel]
  simp

theorem quote_notMem_plainChar (c : Char) : '\x22' ∉ plainChar c := by
  rw [plainChar]
  split
  · decide
  · next hquote =>
      split
      · decide
      · split
        · decide
        · simpa using Ne.symm (by simpa using hquote)

theorem lineFeed_mem_plainChar_iff : '\n' ∈ plainChar c ↔ c = '\n' := by
  rw [plainChar]
  split
  · next h => simp [beq_iff_eq.mp h]
  · split
    · next h => simp [beq_iff_eq.mp h]
    · split
      · next h => simp [beq_iff_eq.mp h]
      · rw [List.mem_singleton, eq_comm]

theorem quote_notMem_boxLabel (h : '\x22' ∉ n.fingerprint.text.toList) : '\x22' ∉ boxLabel n := by
  have htake : '\x22' ∉ n.fingerprint.text.toList.take 16 := mt List.mem_of_mem_take h
  rw [boxLabel]
  cases n.primaryUserId? <;> simp [htake, quote_notMem_plainChar]

/-- There is a line feed in the label of a certificate exactly if there is one in its first user
ID. -/
theorem lineFeed_mem_boxLabel_iff (h : '\n' ∉ n.fingerprint.text.toList) :
    '\n' ∈ boxLabel n ↔ ∃ userId ∈ n.primaryUserId?, '\n' ∈ userId.toList := by
  have htake : '\n' ∉ n.fingerprint.text.toList.take 16 := mt List.mem_of_mem_take h
  rw [boxLabel]
  cases n.primaryUserId? <;> simp [htake, lineFeed_mem_plainChar_iff]

theorem quote_notMem_arrowLabel (s : Signature) : '\x22' ∉ arrowLabel s := by
  rw [arrowLabel, List.mem_map]
  rintro ⟨c, -, hc⟩
  split at hc
  · cases hc
  · next hquote => exact hquote (beq_iff_eq.mpr hc)

theorem lineFeed_mem_arrowLabel_iff :
    '\n' ∈ arrowLabel s ↔ ∃ userId ∈ s.userId, '\n' ∈ userId.toList := by
  rw [← lineFeed_mem_label_iff, arrowLabel, List.mem_map]
  constructor
  · rintro ⟨c, hmem, hc⟩
    split at hc
    · cases hc
    · exact hc ▸ hmem
  · exact fun h => ⟨_, h, rfl⟩

/-! ## Lines of a flowchart -/

theorem count_quote_boxLine (hv : '\x22' ∉ v.toList) (hn : '\x22' ∉ n.fingerprint.text.toList) :
    (boxLine v n).toList.count '\x22' = 2 := by
  rw [toList_boxLine]
  simp [List.count_eq_zero_of_not_mem hv,
    List.count_eq_zero_of_not_mem (quote_notMem_boxLabel hn)]

theorem count_quote_arrowLine (hv : '\x22' ∉ v.toList) (hw : '\x22' ∉ w.toList) :
    (arrowLine v w s).toList.count '\x22' = 2 := by
  rw [toList_arrowLine]
  simp [List.count_eq_zero_of_not_mem hv, List.count_eq_zero_of_not_mem hw,
    List.count_eq_zero_of_not_mem (quote_notMem_arrowLabel s)]

theorem lineFeed_mem_boxLine_iff (hv : '\n' ∉ v.toList)
    (hn : '\n' ∉ n.fingerprint.text.toList) : '\n' ∈ (boxLine v n).toList ↔
      ∃ userId ∈ n.primaryUserId?, '\n' ∈ userId.toList := by
  rw [toList_boxLine]
  simp [hv, lineFeed_mem_boxLabel_iff hn]

theorem lineFeed_mem_arrowLine_iff (hv : '\n' ∉ v.toList) (hw : '\n' ∉ w.toList) :
    '\n' ∈ (arrowLine v w s).toList ↔
      ∃ userId ∈ s.userId, '\n' ∈ userId.toList := by
  rw [toList_arrowLine]
  simp [hv, hw, lineFeed_mem_arrowLabel_iff]

theorem notMem_of_identifier? {f : Fingerprint} (hv : d.identifier? f = some v)
    (hc : c.isAlphanum = false) : c ∉ v.toList := by
  obtain ⟨i, -, rfl⟩ := identifier?_eq_some_iff.mp hv
  exact fun h => by simp [isAlphanum_of_mem_numbered h] at hc

/-- No user ID that is shown has a line feed in it. -/
structure Unbroken (d : Drawing) : Prop where
  certificates : ∀ n ∈ d.nodes, ∀ userId ∈ n.primaryUserId?, '\n' ∉ userId.toList
  signatures : ∀ s ∈ d.signatures, ∀ userId ∈ s.userId, '\n' ∉ userId.toList

variable {boxes arrows styles : List String}

theorem LaidOut.count_quote (h : d.LaidOut boxes arrows styles)
    (hquotes : ∀ n ∈ d.nodes, '\x22' ∉ n.fingerprint.text.toList) :
    ∀ line ∈ boxes ++ arrows, line.toList.count '\x22' = 2 := by
  refine List.forall_mem_append.mpr ⟨?_, ?_⟩
  · refine (forall_mem_iff_of_forall₂ h.certificates ?_).mp hquotes
    rintro n hn _ ⟨v, hv, rfl⟩
    exact iff_of_true (hquotes n hn)
      (count_quote_boxLine (notMem_of_identifier? hv (by decide)) (hquotes n hn))
  · refine (forall_mem_iff_of_forall₂ h.signatures ?_).mp fun _ _ => trivial
    rintro s - _ ⟨v, w, rfl, hv, hw⟩
    exact iff_of_true trivial (count_quote_arrowLine
      (notMem_of_identifier? hv.identifier (by decide))
      (notMem_of_identifier? hw.identifier (by decide)))

/-- The flowchart is read as the lines that it was put together from exactly if there is no line
feed in what was filled in. -/
theorem LaidOut.splitOn_flowchartOf (h : d.LaidOut boxes arrows styles)
    (hplain : ∀ n ∈ d.nodes, '\n' ∉ n.fingerprint.text.toList) (direction : String) :
    (flowchartOf direction boxes arrows styles).toList.splitOn '\n' =
        (flowchartLines direction boxes arrows styles).map String.toList ↔
      '\n' ∉ direction.toList ∧ d.Unbroken := by
  have hboxes : (∀ line ∈ boxes, '\n' ∉ line.toList) ↔ ∀ n ∈ d.nodes,
      ∀ userId ∈ n.primaryUserId?, '\n' ∉ userId.toList := by
    refine (forall_mem_iff_of_forall₂ h.certificates ?_).symm
    rintro n hn _ ⟨v, hv, rfl⟩
    rw [lineFeed_mem_boxLine_iff (notMem_of_identifier? hv (by decide)) (hplain n hn)]
    simp only [not_exists, not_and]
  have harrows : (∀ line ∈ arrows, '\n' ∉ line.toList) ↔ ∀ s ∈ d.signatures,
      ∀ userId ∈ s.userId, '\n' ∉ userId.toList := by
    refine (forall_mem_iff_of_forall₂ h.signatures ?_).symm
    rintro s - _ ⟨v, w, rfl, hv, hw⟩
    rw [lineFeed_mem_arrowLine_iff (notMem_of_identifier? hv.identifier (by decide))
      (notMem_of_identifier? hw.identifier (by decide))]
    simp only [not_exists, not_and]
  have hstyles : ∀ line ∈ styles, '\n' ∉ line.toList := by
    refine (forall_mem_iff_of_forall₂ h.roots ?_).mp fun _ _ => trivial
    rintro f - _ ⟨v, rfl, hv⟩
    have hclear : '\n' ∉ v.toList := notMem_of_identifier? hv.identifier (by decide)
    simp [styleLine, hclear]
  have hcolours : ∀ line ∈ if styles.isEmpty then [] else "" :: styles, '\n' ∉ line.toList := by
    split
    · nofun
    · exact List.forall_mem_cons.mpr ⟨by simp, hstyles⟩
  have hlines : (∀ line ∈ flowchartLines direction boxes arrows styles, '\n' ∉ line.toList) ↔
      '\n' ∉ direction.toList ∧ d.Unbroken := by
    simp only [flowchartLines, List.forall_mem_append, List.forall_mem_singleton, hboxes, harrows,
      and_iff_left hcolours]
    constructor
    · rintro ⟨⟨⟨hdirection, hcertificates⟩, -⟩, hsignatures⟩
      exact ⟨by simpa using hdirection, hcertificates, hsignatures⟩
    · rintro ⟨hdirection, hcertificates, hsignatures⟩
      exact ⟨⟨⟨by simpa using hdirection, hcertificates⟩, by simp⟩, hsignatures⟩
  have hne : (flowchartLines direction boxes arrows styles).map String.toList ≠ [] := by
    simp [flowchartLines]
  rw [flowchartOf, String.toList_intercalate, ← hlines]
  exact (splitOn_intercalate_iff hne).trans List.forall_mem_map

/-- If no fingerprint has a quote or a line feed in it, the flowchart of paths that were built has
exactly two quotes in each line for a certificate and each line for a signature, whatever the user
IDs are. It consists of the line for its direction, one line for each certificate, a blank line, one
line for each signature and, if there are roots, another blank line and one line for each of them,
exactly if neither the direction nor a user ID that is shown has a line feed in it. -/
theorem lines_flowchart (hbuilt : ∀ b ∈ bindings, b.Built)
    (hplain : ∀ n ∈ certificatesOn bindings,
      '\x22' ∉ n.fingerprint.text.toList ∧ '\n' ∉ n.fingerprint.text.toList)
    (direction : String) :
    ∃ boxes arrows styles,
      (ofBindings bindings).flowchart? direction =
          some (flowchartOf direction boxes arrows styles) ∧
        (ofBindings bindings).LaidOut boxes arrows styles ∧
        (∀ line ∈ boxes ++ arrows, line.toList.count '\x22' = 2) ∧
        ((flowchartOf direction boxes arrows styles).toList.splitOn '\n' =
            (flowchartLines direction boxes arrows styles).map String.toList ↔
          '\n' ∉ direction.toList ∧ (ofBindings bindings).Unbroken) := by
  obtain ⟨boxes, arrows, styles, hflowchart, hlaid⟩ :=
    (closed_ofBindings hbuilt).exists_flowchart direction
  have hnodes : ∀ n ∈ (ofBindings bindings).nodes,
      '\x22' ∉ n.fingerprint.text.toList ∧ '\n' ∉ n.fingerprint.text.toList := fun n hn =>
    hplain n (mem_of_mem_firstBy (nodes_ofBindings_eq bindings ▸ hn))
  exact ⟨boxes, arrows, styles, hflowchart, hlaid, hlaid.count_quote fun n hn => (hnodes n hn).1,
    hlaid.splitOn_flowchartOf (fun n hn => (hnodes n hn).2) direction⟩

/-- The lines for the three certificates, the three signatures and the root, two blank ones and the
first. -/
theorem lines_flowchart_introductions :
    (∀ b ∈ [introductions], b.Built) ∧
      (∀ n ∈ certificatesOn [introductions],
        '\x22' ∉ n.fingerprint.text.toList ∧ '\n' ∉ n.fingerprint.text.toList) ∧
      ∃ text, (ofBindings [introductions]).flowchart? "LR" = some text ∧
        (text.toList.splitOn '\n').length = 10 := by
  have hbuilt : ∀ b ∈ [introductions], b.Built := by simpa using built_introductions
  have hplain : ∀ n ∈ certificatesOn [introductions],
      '\x22' ∉ n.fingerprint.text.toList ∧ '\n' ∉ n.fingerprint.text.toList := by decide
  obtain ⟨boxes, arrows, styles, hflowchart, hlaid, -, hlines⟩ := lines_flowchart hbuilt hplain "LR"
  have hunbroken : (ofBindings [introductions]).Unbroken := ⟨by decide, by decide⟩
  refine ⟨hbuilt, hplain, _, hflowchart, ?_⟩
  have hboxes : boxes.length = 3 := hlaid.certificates.length_eq.symm
  have harrows : arrows.length = 3 := hlaid.signatures.length_eq.symm
  have hstyles : styles.length = 1 := hlaid.roots.length_eq.symm.trans (by cbv)
  obtain ⟨style, rfl⟩ := List.length_eq_one_iff.mp hstyles
  rw [hlines.mpr ⟨by decide, hunbroken⟩]
  simp [flowchartLines, hboxes, harrows]

/-- A user ID with a whole line of a flowchart in it. -/
def brokenUserId : String := "carol\n    style n1 fill:red\n"

/-- A web in which `A` certifies that user ID of `C`. -/
def brokenWeb : Web :=
  let carol : Node := { fingerprint := ⟨"C"⟩, userIds := [(brokenUserId, .none)] }
  let certification : Signature :=
    { Introduction.direct with target := carol, userId := some brokenUserId }
  { Introduction.web with
    network := ((({} : Builder).addNode carol).1.addSignature certification).build
      Introduction.moment }

/-- The flowchart has two certificates, a signature and a root. The user ID adds four lines to those
for them, one of which colours the certificate that has it. -/
theorem lines_flowchart_broken :
    (brokenWeb.authenticate ⟨"C"⟩ (.userId brokenUserId) false).toOption.bind (fun v =>
        let d := ofBindings [v.binding]
        (d.flowchart? "LR").map fun text =>
          (d.nodes.map (·.fingerprint.text), d.signatures.length, d.roots,
            (text.toList.splitOn '\n').map String.ofList)) =
      some (["A", "C"], 1, [⟨"A"⟩],
        ["flowchart LR", "    n0[\"A\"]", "    n1[\"C<br/>carol", "    style n1 fill:red", "\"]",
          "", "    n0 -->|\"certifies 'carol", "    style n1 fill:red", "' (30)\"| n1", "",
          "    style n0 fill:#e8f5e9"]) := by
  cbv

end Drawing

end TrustWeb
