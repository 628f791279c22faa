import Mathlib
import TrustWeb.Proofs.Drawing.Closure

/-! # The quoted strings of a directed graph

Whoever reads a directed graph takes what stands between two quotes for a string. In it, a backslash
quotes the character that follows. User IDs are escaped where they are written, and so they neither
end a string nor open one: every statement has the strings that it is meant to have, and without the
escapes the user IDs come back. -/

namespace TrustWeb

/-! ## Reading -/

namespace Quoted

/-- Where a reader stands: outside of strings, in one of which it has read the beginning, or in one
behind a backslash. -/
inductive Position where
  | outside
  | inside (raw : List Char)
  | quoting (raw : List Char)
  deriving DecidableEq

/-- What a reader has found: the strings of each statement that has ended, those of the statement
that has not, and where it stands. The strings still have their escapes. -/
structure Reading where
  statements : List (List (List Char)) := []
  strings : List (List Char) := []
  position : Position := .outside
  deriving DecidableEq

/-- Reads a character: a quote opens a string and closes it, and a semicolon outside of strings ends
a statement. -/
def Reading.next (r : Reading) (c : Char) : Reading :=
  match r.position with
  | .outside =>
    if c = '\x22' then { r with position := .inside [] }
    else if c = ';' then ⟨r.statements ++ [r.strings], [], .outside⟩
    else r
  | .inside raw =>
    if c = '\x22' then ⟨r.statements, r.strings ++ [raw], .outside⟩
    else if c = '\\' then { r with position := .quoting raw }
    else { r with position := .inside (raw ++ [c]) }
  | .quoting raw => { r with position := .inside (raw ++ ['\\', c]) }

/-- Reads on. -/
def Reading.read (r : Reading) (text : List Char) : Reading := text.foldl next r

/-- Text without its escapes: every backslash gives way to the character that it quotes. -/
def unescaped : List Char → List Char
  | '\\' :: c :: rest => c :: unescaped rest
  | c :: rest => c :: unescaped rest
  | [] => []

variable {ss : List (List (List Char))} {strings : List (List Char)} {raw text a b : List Char}
  {c : Char}

theorem Reading.read_append (r : Reading) (a b : List Char) :
    r.read (a ++ b) = (r.read a).read b :=
  List.foldl_append

/-- Outside of strings, the text changes nothing. -/
def Silent (text : List Char) : Prop := ∀ c ∈ text, c ≠ '\x22' ∧ c ≠ ';'

theorem Silent.read_outside (h : Silent text) :
    Reading.read ⟨ss, strings, .outside⟩ text = ⟨ss, strings, .outside⟩ := by
  induction text with
  | nil => rfl
  | cons c rest ih =>
      obtain ⟨⟨hquote, hend⟩, hrest⟩ := List.forall_mem_cons.mp h
      have hnext : Reading.next ⟨ss, strings, .outside⟩ c = ⟨ss, strings, .outside⟩ := by
        simp [Reading.next, hquote, hend]
      rw [Reading.read, List.foldl_cons, hnext]
      exact ih hrest

/-- In a string, the text becomes a further part of the string. -/
def Sealed (text : List Char) : Prop :=
  ∀ ss strings raw, Reading.read ⟨ss, strings, .inside raw⟩ text =
    ⟨ss, strings, .inside (raw ++ text)⟩

theorem Sealed.append (ha : Sealed a) (hb : Sealed b) : Sealed (a ++ b) := fun ss strings raw => by
  rw [Reading.read_append, ha, hb, List.append_assoc]

theorem sealed_flatMap {spelled : Char → List Char} (h : ∀ c ∈ text, Sealed (spelled c)) :
    Sealed (text.flatMap spelled) := by
  induction text with
  | nil => exact fun _ _ raw => by rw [List.flatMap_nil, List.append_nil]; rfl
  | cons c rest ih =>
      obtain ⟨hc, hrest⟩ := List.forall_mem_cons.mp h
      rw [List.flatMap_cons]
      exact hc.append (ih hrest)

/-- Text in which nothing needs an escape. -/
def Plain (text : List Char) : Prop := '\x22' ∉ text ∧ '\\' ∉ text

instance : Decidable (Plain text) := inferInstanceAs (Decidable (_ ∧ _))

theorem Plain.sealed (h : Plain text) : Sealed text := by
  have hsingle : ∀ c ∈ text, Sealed [c] := fun c hc ss strings raw => by
    have hquote : c ≠ '\x22' := fun he => h.1 (he ▸ hc)
    have hslash : c ≠ '\\' := fun he => h.2 (he ▸ hc)
    simp [Reading.read, Reading.next, hquote, hslash]
  rw [← List.flatMap_singleton' text]
  exact sealed_flatMap hsingle

theorem sealed_escape (c : Char) : Sealed ['\\', c] := fun _ _ _ => rfl

/-- A reader finds what stands between two quotes. -/
theorem Sealed.read_quoted (h : Sealed text) :
    Reading.read ⟨ss, strings, .outside⟩ ('\x22' :: (text ++ ['\x22'])) =
      ⟨ss, strings ++ [text], .outside⟩ := by
  have hopen : Reading.read ⟨ss, strings, .outside⟩ ['\x22'] = ⟨ss, strings, .inside []⟩ := rfl
  rw [← List.singleton_append, Reading.read_append, Reading.read_append, hopen, h]
  rfl

/-- A statement with some strings, each of them with what stands before it, and with what stands
before the semicolon. -/
def statement (pieces : List (List Char × List Char)) (after : List Char) : List Char :=
  pieces.flatMap (fun (before, text) => before ++ '\x22' :: (text ++ ['\x22'])) ++ (after ++ [';'])

theorem read_pieces {pieces : List (List Char × List Char)}
    (h : ∀ p ∈ pieces, Silent p.1 ∧ Sealed p.2) :
    Reading.read ⟨ss, strings, .outside⟩
        (pieces.flatMap fun (before, text) => before ++ '\x22' :: (text ++ ['\x22'])) =
      ⟨ss, strings ++ pieces.map (·.2), .outside⟩ := by
  induction pieces generalizing strings with
  | nil => rw [List.map_nil, List.append_nil]; rfl
  | cons p rest ih =>
      obtain ⟨⟨hbefore, htext⟩, hrest⟩ := List.forall_mem_cons.mp h
      rw [List.flatMap_cons, Reading.read_append, Reading.read_append, hbefore.read_outside,
        htext.read_quoted, ih hrest, List.map_cons, List.append_assoc, List.singleton_append]

theorem read_statement {pieces : List (List Char × List Char)} {after : List Char}
    (h : ∀ p ∈ pieces, Silent p.1 ∧ Sealed p.2) (hafter : Silent after) :
    Reading.read ⟨ss, [], .outside⟩ (statement pieces after) =
      ⟨ss ++ [pieces.map (·.2)], [], .outside⟩ := by
  rw [statement, Reading.read_append, Reading.read_append, read_pieces h, hafter.read_outside]
  rfl

theorem read_flatMap {α : Type} {items : List α} {written : α → List Char}
    {found : α → List (List Char)}
    (h : ∀ a ∈ items, ∀ ss, Reading.read ⟨ss, [], .outside⟩ (written a) =
      ⟨ss ++ [found a], [], .outside⟩) :
    Reading.read ⟨ss, [], .outside⟩ (items.flatMap written) =
      ⟨ss ++ items.map found, [], .outside⟩ := by
  induction items generalizing ss with
  | nil => rw [List.map_nil, List.append_nil]; rfl
  | cons a rest ih =>
      obtain ⟨ha, hrest⟩ := List.forall_mem_cons.mp h
      rw [List.flatMap_cons, Reading.read_append, ha, ih hrest, List.map_cons, List.append_assoc,
        List.singleton_append]

end Quoted

namespace Drawing

open Quoted

variable {d : Drawing} {bindings : List Binding} {ss : List (List (List Char))}

/-! ## Escapes -/

theorem sealed_escapedChar (c : Char) : Sealed (escapedChar c) := by
  rw [escapedChar]
  split
  · exact sealed_escape '\\'
  · next hslash =>
      split
      · exact sealed_escape '\x22'
      · next hquote =>
          rw [beq_iff_eq] at hslash hquote
          exact Plain.sealed ⟨by simpa using Ne.symm hquote, by simpa using Ne.symm hslash⟩

theorem sealed_escaped (s : String) : Sealed (escaped s).toList := by
  rw [escaped, String.toList_ofList]
  exact sealed_flatMap fun c _ => sealed_escapedChar c

theorem unescaped_escapedChar_append (c : Char) (rest : List Char) :
    unescaped (escapedChar c ++ rest) = c :: unescaped rest := by
  rw [escapedChar]
  split
  · next hslash => rw [beq_iff_eq.mp hslash]; rfl
  · next hslash =>
      split
      · next hquote => rw [beq_iff_eq.mp hquote]; rfl
      · rw [beq_iff_eq] at hslash
        exact unescaped.eq_2 c rest fun _ _ he _ => hslash he

/-- Without its escapes, escaped text is the text again. -/
theorem unescaped_escaped (s : String) : unescaped (escaped s).toList = s.toList := by
  rw [escaped, String.toList_ofList]
  induction s.toList with
  | nil => rfl
  | cons c rest ih => rw [List.flatMap_cons, unescaped_escapedChar_append, ih]

/-! ## Lines -/

theorem toList_intercalate_cons (separator first : String) (rest : List String) :
    (String.intercalate separator (first :: rest)).toList =
      first.toList ++ rest.flatMap fun s => separator.toList ++ s.toList := by
  induction rest generalizing first with
  | nil => simp
  | cons second rest ih =>
      rw [String.intercalate_cons_of_ne_nil (List.cons_ne_nil second rest), String.toList_append,
        ih, String.toList_append, List.flatMap_cons]
      simp only [List.append_assoc]

/-- What is written in the box of a certificate. -/
def boxText (n : Node) : List Char :=
  match n.primaryUserId? with
  | none => n.fingerprint.text.toList
  | some userId => n.fingerprint.text.toList ++ ('\\' :: 'n' :: (escaped userId).toList)

theorem sealed_boxText {n : Node} (h : Plain n.fingerprint.text.toList) : Sealed (boxText n) := by
  rw [boxText]
  split
  · exact h.sealed
  · next userId _ => exact h.sealed.append ((sealed_escape 'n').append (sealed_escaped userId))

theorem exists_nodeLine_eq (d : Drawing) (n : Node) :
    ∃ after, Silent after ∧ '\n' :: (d.nodeLine n).toList =
      statement [("\n    ".toList, n.fingerprint.text.toList), (" [label=".toList, boxText n)]
        after := by
  refine ⟨(((if d.roots.contains n.fingerprint then ["style=bold"] else []) ++
    (if d.targets.contains n.fingerprint then ["peripheries=2"] else [])).flatMap
      fun mark => ", ".toList ++ mark.toList) ++ [']'], ?_, ?_⟩
  · split <;> split <;> simp [Silent]
  · rw [nodeLine, boxText]
    simp only [List.cons_append, List.nil_append, toList_intercalate_cons, List.append_assoc,
      String.toList_append]
    cases n.primaryUserId? <;> simp [statement]

theorem signatureLine_eq (s : Signature) :
    '\n' :: (signatureLine s).toList =
      statement [("\n    ".toList, s.issuer.fingerprint.text.toList),
        (" -> ".toList, s.target.fingerprint.text.toList),
        (" [label=".toList, (escaped (label s)).toList)] [']'] := by
  simp [signatureLine, statement]

theorem read_nodeLine {n : Node} (h : Plain n.fingerprint.text.toList) :
    Reading.read ⟨ss, [], .outside⟩ ('\n' :: (d.nodeLine n).toList) =
      ⟨ss ++ [[n.fingerprint.text.toList, boxText n]], [], .outside⟩ := by
  obtain ⟨after, hafter, hline⟩ := exists_nodeLine_eq d n
  have hpieces : ∀ p ∈ [("\n    ".toList, n.fingerprint.text.toList),
      (" [label=".toList, boxText n)], Silent p.1 ∧ Sealed p.2 := by
    simp [Silent, h.sealed, sealed_boxText h]
  rw [hline, read_statement hpieces hafter, List.map_cons, List.map_singleton]

theorem read_signatureLine {s : Signature} (hissuer : Plain s.issuer.fingerprint.text.toList)
    (htarget : Plain s.target.fingerprint.text.toList) :
    Reading.read ⟨ss, [], .outside⟩ ('\n' :: (signatureLine s).toList) =
      ⟨ss ++ [[s.issuer.fingerprint.text.toList, s.target.fingerprint.text.toList,
        (escaped (label s)).toList]], [], .outside⟩ := by
  have hpieces : ∀ p ∈ [("\n    ".toList, s.issuer.fingerprint.text.toList),
      (" -> ".toList, s.target.fingerprint.text.toList),
      (" [label=".toList, (escaped (label s)).toList)], Silent p.1 ∧ Sealed p.2 := by
    simp [Silent, hissuer.sealed, htarget.sealed, sealed_escaped]
  rw [signatureLine_eq, read_statement hpieces (by simp [Silent]), List.map_cons, List.map_cons,
    List.map_singleton]

/-! ## Directed graphs -/

/-- The lines of a directed graph before those for certificates. -/
def heading (name direction : String) : String :=
  String.intercalate "\n"
    ["digraph " ++ name ++ " \x7b", "    rankdir=" ++ direction ++ ";", "    node [shape=box];"]

theorem toList_digraph (d : Drawing) (name direction : String) :
    (d.digraph name direction).toList = (heading name direction).toList ++
      (d.nodes.flatMap fun n => '\n' :: (d.nodeLine n).toList) ++
      (d.signatures.flatMap fun s => '\n' :: (signatureLine s).toList) ++ ['\n', '\x7d'] := by
  rw [digraph, heading]
  simp only [List.cons_append, List.nil_append, toList_intercalate_cons, List.flatMap_cons,
    List.flatMap_append, List.flatMap_map, List.flatMap_nil, List.append_nil, List.append_assoc]
  simp

/-- If the heading leaves no string open, it ends with a semicolon outside of strings. -/
theorem read_heading {name direction : String}
    (h : (Reading.read {} (heading name direction).toList).position = .outside) :
    Reading.read {} (heading name direction).toList =
      ⟨(Reading.read {} (heading name direction).toList).statements, [], .outside⟩ := by
  obtain ⟨before, hbefore⟩ : ∃ before, (heading name direction).toList = before ++ [';'] :=
    ⟨("digraph " ++ name ++ " \x7b\n    rankdir=" ++ direction ++ ";\n    node [shape=box]").toList,
      by simp [heading]⟩
  rw [hbefore, Reading.read_append] at h ⊢
  -- Behind the semicolon, a reader is outside of strings only if it was so before.
  generalize Reading.read {} before = r at h ⊢
  obtain ⟨ss, strings, position⟩ := r
  cases position with
  | outside => rfl
  | inside raw => cases h
  | quoting raw => cases h

/-- The fingerprints of the certificates on the paths, and those that signatures on them name. -/
def fingerprintsOn (bindings : List Binding) : List Fingerprint :=
  (certificatesOn bindings).map (·.fingerprint) ++
    (onPaths bindings).flatMap fun s => [s.issuer.fingerprint, s.target.fingerprint]

/-- The strings in the statement for a certificate: its fingerprint, and its fingerprint with the
first user ID on a further line. -/
def CertificateStrings (n : Node) (strings : List (List Char)) : Prop :=
  ∃ further, strings = [n.fingerprint.text.toList, n.fingerprint.text.toList ++ further] ∧
    match n.primaryUserId? with
    | none => further = []
    | some userId => ∃ raw, further = '\\' :: 'n' :: raw ∧ unescaped raw = userId.toList

/-- The strings in the statement for a signature: the fingerprints of its certificates, and its
label. -/
def SignatureStrings (s : Signature) (strings : List (List Char)) : Prop :=
  ∃ raw, strings = [s.issuer.fingerprint.text.toList, s.target.fingerprint.text.toList, raw] ∧
    unescaped raw = (label s).toList

theorem certificateStrings_boxText (n : Node) :
    CertificateStrings n [n.fingerprint.text.toList, boxText n] := by
  rw [CertificateStrings, boxText]
  cases n.primaryUserId? with
  | none => exact ⟨[], by simp, rfl⟩
  | some userId => exact ⟨_, rfl, _, rfl, unescaped_escaped userId⟩

/-- If no fingerprint has a quote or a backslash in it, a reader of the directed graph finds, after
the statements of the heading, two strings in each statement for a certificate and three in each
statement for a signature, whatever the user IDs are. Without its escapes, what stands behind the
fingerprint of a certificate is the first user ID, and what stands at a signature its label. -/
theorem read_digraph (hplain : ∀ f ∈ fingerprintsOn bindings, Plain f.text.toList)
    {name direction : String}
    (hheading : (Reading.read {} (heading name direction).toList).position = .outside) :
    ∃ nodes edges,
      Reading.read {} ((ofBindings bindings).digraph name direction).toList =
          ⟨(Reading.read {} (heading name direction).toList).statements ++ nodes ++ edges, [],
            .outside⟩ ∧
        List.Forall₂ CertificateStrings (ofBindings bindings).nodes nodes ∧
        List.Forall₂ SignatureStrings (ofBindings bindings).signatures edges := by
  have hnodes : ∀ n ∈ (ofBindings bindings).nodes, Plain n.fingerprint.text.toList := by
    intro n hn
    rw [nodes_ofBindings_eq] at hn
    exact hplain _ (List.mem_append_left _ (List.mem_map_of_mem (mem_of_mem_firstBy hn)))
  have hends : ∀ s ∈ (ofBindings bindings).signatures,
      Plain s.issuer.fingerprint.text.toList ∧ Plain s.target.fingerprint.text.toList := by
    intro s hs
    rw [signatures_ofBindings_eq] at hs
    have hmem : ∀ f ∈ [s.issuer.fingerprint, s.target.fingerprint], Plain f.text.toList :=
      fun f hf => hplain f (List.mem_append_right _
        (List.mem_flatMap.mpr ⟨s, mem_of_mem_firstBy hs, hf⟩))
    simpa using hmem
  refine ⟨_, _, ?_, List.forall₂_map_right_iff.mpr (List.forall₂_same.mpr fun n _ =>
    certificateStrings_boxText n), List.forall₂_map_right_iff.mpr (List.forall₂_same.mpr fun s _ =>
      ⟨_, rfl, unescaped_escaped (label s)⟩)⟩
  rw [toList_digraph, Reading.read_append, Reading.read_append, Reading.read_append,
    read_heading hheading, read_flatMap fun n hn _ => read_nodeLine (hnodes n hn),
    read_flatMap fun s hs _ => read_signatureLine (hends s hs).1 (hends s hs).2]
  rfl

/-- A user ID with characters that have a meaning in a directed graph. -/
def hostileUserId : String := "\\\"];\n    style n1 fill:red"

/-- The certification of a certificate with that user ID. -/
def hostileCertification : Signature :=
  { Introduction.direct with
    target := { fingerprint := ⟨"C"⟩, userIds := [(hostileUserId, .none)] }
    userId := some hostileUserId }

/-- The binding that is authenticated by that certification. -/
def hostileBinding : Binding where
  fingerprint := ⟨"C"⟩
  subject := .userId hostileUserId
  paths := ⟨[⟨Path.offerAll { root := { fingerprint := ⟨"A"⟩ } }
    [(hostileCertification, .authentication)], 30⟩]⟩

/-- The statements in front of those for the two certificates and the signature have no strings. -/
theorem read_digraph_hostileBinding :
    (∀ f ∈ fingerprintsOn [hostileBinding], Plain f.text.toList) ∧
      (Reading.read {} (heading "wot" "LR").toList).position = .outside ∧
      ∃ nodes edges,
        Reading.read {} ((ofBindings [hostileBinding]).digraph "wot" "LR").toList =
            ⟨[[], []] ++ nodes ++ edges, [], .outside⟩ ∧
          List.Forall₂ CertificateStrings (ofBindings [hostileBinding]).nodes nodes ∧
          List.Forall₂ SignatureStrings (ofBindings [hostileBinding]).signatures edges ∧
          nodes.length = 2 ∧ edges.length = 1 := by
  have hplain : ∀ f ∈ fingerprintsOn [hostileBinding], Plain f.text.toList := by decide
  have hheading : Reading.read {} (heading "wot" "LR").toList = ⟨[[], []], [], .outside⟩ := by cbv
  obtain ⟨nodes, edges, hread, hnodes, hedges⟩ := read_digraph hplain (congrArg _ hheading)
  rw [hheading] at hread
  have hcounts : (ofBindings [hostileBinding]).nodes.length = 2 ∧
      (ofBindings [hostileBinding]).signatures.length = 1 := by cbv
  exact ⟨hplain, congrArg _ hheading, nodes, edges, hread, hnodes, hedges,
    hnodes.length_eq ▸ hcounts.1, hedges.length_eq ▸ hcounts.2⟩

end Drawing

end TrustWeb
