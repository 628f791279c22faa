import Mathlib
import TrustWeb.Drawing
import TrustWeb.Proofs.Network.Newest
import TrustWeb.Proofs.Web.Bindings

/-! # The signatures of a drawing

A drawing shows the signatures on the paths of some bindings in the order of their first appearance,
each of them once. It tells them apart by their certificates and their datum, and so of signatures
that coexist between the same certificates it shows the first one only. -/

namespace TrustWeb

namespace Drawing

/-! ## First appearances -/

section FirstBy

variable {α β γ : Type} [DecidableEq β] [DecidableEq γ] {key : α → β} {fine : α → γ}
  {seen : List β} {known : List γ} {as : List α}

theorem firstBy_eq_eraseDupsBy {same : α → α → Bool}
    (hsame : ∀ a b, same a b = true ↔ key a = key b) (seen : List β) (as : List α) :
    firstBy key seen as = (as.filter fun a => key a ∉ seen).eraseDupsBy same := by
  induction as generalizing seen with
  | nil => rfl
  | cons a rest ih =>
      rw [firstBy]
      split
      · next ha => rw [ih, List.filter_cons_of_neg (by simpa using ha)]
      · next ha =>
          have hlater : (rest.filter fun b => key b ∉ key a :: seen) =
              (rest.filter fun b => key b ∉ seen).filter fun b => same b a = false := by
            rw [List.filter_filter]
            refine List.filter_congr fun b _ => ?_
            simp [← Bool.not_eq_true, hsame]
          rw [ih, List.filter_cons_of_pos (by simpa using ha), List.eraseDupsBy_cons, hlater]

theorem key_notMem_of_mem_firstBy : ∀ a ∈ firstBy key seen as, key a ∉ seen := by
  induction as generalizing seen with
  | nil => nofun
  | cons a rest ih =>
      rw [firstBy]
      split
      · exact ih
      · next ha =>
          refine List.forall_mem_cons.mpr ⟨ha, fun b hb hmem => ?_⟩
          exact ih b hb (List.mem_cons_of_mem _ hmem)

theorem nodup_firstBy : ((firstBy key seen as).map key).Nodup := by
  induction as generalizing seen with
  | nil => exact List.nodup_nil
  | cons a rest ih =>
      rw [firstBy]
      split
      · exact ih
      · rw [List.map_cons, List.nodup_cons, List.mem_map]
        refine ⟨?_, ih⟩
        rintro ⟨b, hb, hkey⟩
        exact key_notMem_of_mem_firstBy b hb (hkey ▸ List.mem_cons_self)

theorem exists_mem_firstBy {a : α} (ha : a ∈ as) (hkey : key a ∉ seen) :
    ∃ b ∈ firstBy key seen as, key b = key a := by
  induction as generalizing seen with
  | nil => cases ha
  | cons b rest ih =>
      rw [firstBy]
      by_cases hsame : key b = key a
      · rw [if_neg (hsame ▸ hkey)]
        exact ⟨b, List.mem_cons_self, hsame⟩
      · have hrest : a ∈ rest := (List.mem_cons.mp ha).resolve_left fun he => hsame (he ▸ rfl)
        split
        · exact ih hrest hkey
        · have hnew : key a ∉ key b :: seen := by simp [Ne.symm hsame, hkey]
          obtain ⟨c, hc, hcsame⟩ := ih hrest hnew
          exact ⟨c, List.mem_cons_of_mem b hc, hcsame⟩

/-- What is first among those with its coarser key is first among those with its finer key. -/
theorem firstBy_sublist_firstBy (hfine : ∀ a b, fine a = fine b → key a = key b)
    (hseen : ∀ a ∈ as, fine a ∈ known → key a ∈ seen) :
    (firstBy key seen as).Sublist (firstBy fine known as) := by
  induction as generalizing seen known with
  | nil => exact .slnil
  | cons a rest ih =>
      obtain ⟨ha, hrest⟩ := List.forall_mem_cons.mp hseen
      rw [firstBy, firstBy]
      by_cases hknown : fine a ∈ known
      · rw [if_pos hknown, if_pos (ha hknown)]
        exact ih hrest
      · rw [if_neg hknown]
        split
        · next hkey =>
            -- Only the finer key tells this element from an earlier one.
            refine (ih fun b hb hmem => ?_).cons a
            rcases List.mem_cons.mp hmem with he | hmem
            · exact hfine b a he ▸ hkey
            · exact hrest b hb hmem
        · refine (ih fun b hb hmem => ?_).cons_cons a
          rcases List.mem_cons.mp hmem with he | hmem
          · exact hfine b a he ▸ List.mem_cons_self
          · exact List.mem_cons_of_mem _ (hrest b hb hmem)

theorem firstBy_congr (hsame : ∀ a ∈ as, ∀ b ∈ as, key a = key b ↔ fine a = fine b)
    (hseen : ∀ a ∈ as, key a ∈ seen ↔ fine a ∈ known) :
    firstBy key seen as = firstBy fine known as := by
  induction as generalizing seen known with
  | nil => rfl
  | cons a rest ih =>
      obtain ⟨ha, hrest⟩ := List.forall_mem_cons.mp hseen
      have hlater : ∀ b ∈ rest, ∀ c ∈ rest, key b = key c ↔ fine b = fine c := fun b hb c hc =>
        hsame b (List.mem_cons_of_mem a hb) c (List.mem_cons_of_mem a hc)
      rw [firstBy, firstBy]
      by_cases hknown : fine a ∈ known
      · rw [if_pos hknown, if_pos (ha.mpr hknown)]
        exact ih hlater hrest
      · rw [if_neg hknown, if_neg (mt ha.mp hknown)]
        refine congrArg (a :: ·) (ih hlater fun b hb => ?_)
        rw [List.mem_cons, List.mem_cons, hrest b hb,
          hsame b (List.mem_cons_of_mem a hb) a List.mem_cons_self]

/-- The first by a coarser key are the first by a finer one exactly if the finer key tells no more
apart. -/
theorem firstBy_eq_firstBy_iff (hfine : ∀ a b, fine a = fine b → key a = key b) :
    firstBy key [] as = firstBy fine [] as ↔
      ∀ a ∈ as, ∀ b ∈ as, key a = key b → fine a = fine b := by
  constructor
  · intro h a ha b hb hkey
    have hfirst : ∀ c ∈ as, ∃ c' ∈ firstBy fine [] as, fine c' = fine c := fun c hc =>
      exists_mem_firstBy hc List.not_mem_nil
    obtain ⟨a', ha', hsame⟩ := hfirst a ha
    obtain ⟨b', hb', hsame'⟩ := hfirst b hb
    rw [← h] at ha' hb'
    have hkeys : key a' = key b' :=
      (hfine a' a hsame).trans (hkey.trans (hfine b' b hsame').symm)
    have hequal : a' = b' := List.inj_on_of_nodup_map nodup_firstBy ha' hb' hkeys
    rw [← hsame, hequal, hsame']
  · intro h
    exact firstBy_congr (fun a ha b hb => ⟨h a ha b hb, hfine a b⟩) fun _ _ => by simp

end FirstBy

/-! ## Signatures on paths -/

/-- The signatures on the paths of some bindings, one path after the other. -/
def onPaths (bindings : List Binding) : List Signature :=
  bindings.flatMap fun b => b.paths.items.flatMap (·.path.signatures)

/-- The signatures on the paths of some bindings in the order of their first appearance, of those
that are the same the first one. -/
def distinctOnPaths (bindings : List Binding) : List Signature :=
  (onPaths bindings).eraseDupsBy Signature.same

theorem signatures_ofBindings_eq (bindings : List Binding) :
    (ofBindings bindings).signatures = firstBy signatureKey [] (onPaths bindings) := by
  simp only [ofBindings, onPaths, List.flatMap_assoc, List.flatMap_map]

theorem distinctOnPaths_eq (bindings : List Binding) :
    distinctOnPaths bindings = firstBy Signature.core [] (onPaths bindings) := by
  have hfirst := firstBy_eq_eraseDupsBy (@Signature.same_iff) [] (onPaths bindings)
  simpa [distinctOnPaths] using hfirst.symm

theorem signatureKey_of_core {s t : Signature} (h : s.core = t.core) :
    signatureKey s = signatureKey t := by
  change signatureKey s.core = signatureKey t.core
  rw [h]

/-- A drawing shows, of the signatures on the paths that have the same certificates and the same
datum, the first one; all of them are among the distinct ones, in their order. It shows all distinct
signatures on the paths, each once and in the order of first appearance, exactly if no two that
differ have the same certificates and the same datum. -/
theorem signatures_ofBindings (bindings : List Binding) :
    (ofBindings bindings).signatures =
        (onPaths bindings).eraseDupsBy (fun s t => signatureKey s == signatureKey t) ∧
      (ofBindings bindings).signatures.Sublist (distinctOnPaths bindings) ∧
      ((ofBindings bindings).signatures = distinctOnPaths bindings ↔
        ∀ s ∈ onPaths bindings, ∀ t ∈ onPaths bindings,
          s.endpoints = t.endpoints → s.userId = t.userId → s.same t = true) := by
  have hdatum : ∀ s t : Signature, signatureKey s = signatureKey t ↔
      s.endpoints = t.endpoints ∧ s.userId = t.userId := fun s t => Prod.mk_inj
  rw [signatures_ofBindings_eq, distinctOnPaths_eq]
  refine ⟨?_, ?_, ?_⟩
  · rw [firstBy_eq_eraseDupsBy fun s t => beq_iff_eq]
    simp
  · exact firstBy_sublist_firstBy (fun _ _ => signatureKey_of_core) fun _ _ h =>
      (List.not_mem_nil h).elim
  · rw [firstBy_eq_firstBy_iff fun _ _ => signatureKey_of_core]
    simp only [hdatum, and_imp, Signature.same_iff]

/-- The signature of `A` over `B` with an amount of 80 is on the second path and is not drawn. -/
theorem signatures_ofBindings_omit :
    (Coexisting.web.authenticate ⟨"C"⟩ (.userId "carol@example.org") false).toOption.map (fun v =>
        (distinctOnPaths [v.binding], (ofBindings [v.binding]).signatures)) =
      some ([Introduction.delegation, Introduction.introduced, Coexisting.wider, Coexisting.onward,
          Coexisting.detour],
        [Introduction.delegation, Introduction.introduced, Coexisting.onward,
          Coexisting.detour]) := by
  cbv

end Drawing

end TrustWeb
