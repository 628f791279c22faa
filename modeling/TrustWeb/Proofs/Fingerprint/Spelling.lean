import Mathlib
import TrustWeb.Roots
import TrustWeb.Proofs.Network.Indexes
import TrustWeb.Proofs.Text.Capitals

/-! # Spellings of fingerprints

A fingerprint is spelled in many ways, and the text of a fingerprint is one of its spellings: it has
no blanks around it and is in upper case already. So whoever normalizes a fingerprint again asks for
the same key, and finds what stands under it. -/

namespace TrustWeb

/-! ## Text without blanks around it -/

namespace Text

variable {cs : List Char} {c : Char}

/-- No blank stands at either end. -/
structure Bare (cs : List Char) : Prop where
  head : ∀ c ∈ cs.head?, isBlank c = false
  last : ∀ c ∈ cs.getLast?, isBlank c = false

theorem Bare.reverse (h : Bare cs) : Bare cs.reverse :=
  ⟨by simpa using h.last, by simpa using h.head⟩

theorem dropBlanks_eq_self (h : ∀ c ∈ cs.head?, isBlank c = false) : dropBlanks cs = cs := by
  cases cs with
  | nil => rfl
  | cons c rest => rw [dropBlanks, List.dropWhile_cons_of_neg (by simp [h c rfl])]

theorem isBlank_of_head?_dropBlanks (h : c ∈ (dropBlanks cs).head?) : isBlank c = false := by
  have hnot := List.head?_dropWhile_not isBlank cs
  rw [dropBlanks] at h
  rwa [Option.mem_def.mp h] at hnot

theorem getLast?_dropBlanks (h : c ∈ (dropBlanks cs).getLast?) : c ∈ cs.getLast? := by
  obtain ⟨front, hfront⟩ := List.dropWhile_suffix (p := isBlank) (l := cs)
  rw [dropBlanks] at h
  rw [← hfront, List.getLast?_append, Option.mem_def.mp h]
  rfl

theorem bare_trim (cs : List Char) : Bare (trim cs) := by
  refine Bare.reverse ⟨fun c hc => isBlank_of_head?_dropBlanks hc, fun c hc => ?_⟩
  have hhead : c ∈ (dropBlanks cs).head? := by simpa using getLast?_dropBlanks hc
  exact isBlank_of_head?_dropBlanks hhead

theorem Bare.trim_eq (h : Bare cs) : trim cs = cs := by
  rw [trim, dropBlanks_eq_self h.head, dropBlanks_eq_self h.reverse.head, List.reverse_reverse]

/-- The capitals of text without blanks around it have none around them. -/
theorem Bare.flatMap_upperChar (h : Bare cs) : Bare (cs.flatMap upperChar) := by
  have hvisible : ∀ {c d}, isBlank c = false → d ∈ upperChar c → isBlank d = false := by
    intro c d hc hd
    by_contra hblank
    rw [isBlank_of_mem_upperChar hd (by simpa using hblank)] at hc
    cases hc
  constructor
  · cases cs with
    | nil => nofun
    | cons c rest =>
        intro d hd
        rw [List.flatMap_cons, List.head?_append_of_ne_nil _ (upperChar_ne_nil c)] at hd
        exact hvisible (h.head c rfl) (List.mem_of_head? hd)
  · cases cs using List.reverseRecOn with
    | nil => nofun
    | append_singleton front c =>
        intro d hd
        rw [List.flatMap_append, List.flatMap_singleton,
          List.getLast?_append_of_ne_nil _ (upperChar_ne_nil c)] at hd
        exact hvisible (h.last c (by simp)) (List.mem_of_getLast? hd)

end Text

/-! ## Normalizing again -/

namespace Fingerprint

/-- The text of a fingerprint spells that fingerprint. -/
theorem ofText_text (spelling : String) : ofText (ofText spelling).text = ofText spelling := by
  have hstrip :
      Text.strip (Text.upper (Text.strip spelling)) = Text.upper (Text.strip spelling) := by
    have hbare := (Text.bare_trim spelling.toList).flatMap_upperChar
    rw [Text.upper, Text.strip, Text.strip, String.toList_ofList, String.toList_ofList,
      hbare.trim_eq]
  rw [ofText, ofText, hstrip, Text.upper_upper]

/-- A spelling after it was normalized a number of times. -/
def normalized (times : Nat) (spelling : String) : String :=
  (fun text => (ofText text).text)^[times] spelling

/-- A fingerprint is spelled by all that it is normalized to. -/
theorem ofText_normalized (times : Nat) (spelling : String) :
    ofText (normalized times spelling) = ofText spelling := by
  induction times with
  | zero => rfl
  | succ times ih => rw [normalized, Function.iterate_succ_apply', ofText_text, ← normalized, ih]

end Fingerprint

/-! ## What stands under a fingerprint -/

theorem Table.find?_ofList {κ α : Type} [DecidableEq κ] (pairs : List (κ × α)) (k : κ) :
    (Table.ofList pairs).find? k = (pairs.reverse.find? (·.1 == k)).map (·.2) := by
  induction pairs using List.reverseRecOn with
  | nil => rfl
  | append_singleton front pair ih =>
      rw [Table.ofList, List.foldl_append, ← Table.ofList, List.foldl_cons, List.foldl_nil,
        Table.find?_put, ih, List.reverse_concat, List.find?_cons]
      split
      · next hk => simp [hk]
      · next hk => rw [beq_false_of_ne hk]

theorem Roots.amount?_ofList (roots : List Root) (f : Fingerprint) :
    (Roots.ofList roots).amount? f =
      (roots.reverse.find? (·.fingerprint == f)).map (·.amount) := by
  rw [Roots.amount?, Roots.ofList, Table.find?_ofList, ← List.map_reverse, List.find?_map,
    Option.map_map]
  rfl

namespace Builder

theorem nodup_keys_nodes_perform (steps : List Step) : (perform {} steps).nodes.keys.Nodup := by
  refine List.foldlRecOn (motive := fun b : Builder => b.nodes.keys.Nodup) steps step
    List.nodup_nil ?_
  intro b h step _
  cases step with
  | addNode n =>
      rw [Builder.step, addNode]
      split
      · exact h
      · exact Table.nodup_keys_put h _ _
  | replaceNode n => exact Table.nodup_keys_put h _ _
  | addSignature s => exact h
  | addEdge e => rwa [Builder.step, addEdge, (foldl_addSignature_frame b e.signatures).1]
  | setTime moment => exact h

/-- The text of a fingerprint is normalized to that fingerprint. So a spelling, however often it was
normalized before, finds the certificate that stands in a network under the fingerprint that it
spells, the edge that stands between two of them, by its ends and in both lists, and the root that
was named last under that fingerprint. -/
theorem networkOf_normalized (steps : List Step) (now : Moment) (roots : List Root) (times : Nat) :
    (∀ spelling, Fingerprint.ofText (Fingerprint.ofText spelling).text =
        Fingerprint.ofText spelling) ∧
      (∀ entry ∈ (networkOf steps now).nodes, ∀ spelling,
        Fingerprint.ofText spelling = entry.2.fingerprint →
          (networkOf steps now).node? (.ofText (Fingerprint.normalized times spelling)) =
            some entry.2) ∧
      (∀ entry ∈ (networkOf steps now).edges, ∀ issuer target,
        Fingerprint.ofText issuer = entry.2.issuer.fingerprint →
        Fingerprint.ofText target = entry.2.target.fingerprint →
          (networkOf steps now).edge? (.ofText (Fingerprint.normalized times issuer))
              (.ofText (Fingerprint.normalized times target)) = some entry.2 ∧
            entry.2 ∈ (networkOf steps now).edgesFrom
              (.ofText (Fingerprint.normalized times issuer)) ∧
            entry.2 ∈ (networkOf steps now).edgesTo
              (.ofText (Fingerprint.normalized times target))) ∧
      ∀ spelling,
        (Roots.ofList roots).amount? (.ofText (Fingerprint.normalized times spelling)) =
          (roots.reverse.find? (·.fingerprint == .ofText spelling)).map (·.amount) := by
  have hindexed := indexed_networkOf steps now
  have hkeyed : (networkOf steps now).WellKeyed :=
    (Reached.empty.perform steps).network_wellKeyed (Reached.empty.perform steps) now
  refine ⟨Fingerprint.ofText_text, fun entry hentry spelling hspelling => ?_,
    fun entry hentry issuer target hissuer htarget => ?_, fun spelling => ?_⟩
  · rw [Fingerprint.ofText_normalized, hspelling, hkeyed.nodes entry hentry]
    exact Table.find?_of_mem (nodup_keys_nodes_perform steps) hentry
  · rw [Fingerprint.ofText_normalized, Fingerprint.ofText_normalized, hissuer, htarget,
      hindexed.mem_edgesFrom, hindexed.mem_edgesTo]
    have hedge : (networkOf steps now).edge? entry.2.issuer.fingerprint
        entry.2.target.fingerprint = some entry.2 := by
      have hends := hindexed.ends entry hentry
      exact Network.edge?_of_mem hindexed.keys (k := entry.2.ends) (hends ▸ hentry)
    exact ⟨hedge, ⟨hedge, rfl⟩, hedge, rfl⟩
  · rw [Fingerprint.ofText_normalized, Roots.amount?_ofList]

end Builder

end TrustWeb
