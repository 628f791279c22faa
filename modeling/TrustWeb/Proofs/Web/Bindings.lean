import Mathlib
import TrustWeb.Proofs.PathCheck.Soundness
import TrustWeb.Proofs.Web.Listing

/-! # Bindings that queries give

Whichever query gives a binding, the paths of the binding are those of one authentication. So what
holds of the paths of every authentication holds of all that a report or a drawing shows. -/

namespace TrustWeb

namespace Web

variable {w : Web} {b : Binding} {f : Fingerprint} {found : List Binding}

/-- A binding that one of the queries over bindings gives. -/
inductive Gives (w : Web) : Binding → Prop where
  | authenticate {f : Fingerprint} {subject : Subject} {byEmail : Bool} {v : Verdict}
      (h : w.authenticate f subject byEmail = .ok v) : Gives w v.binding
  | identify {f : Fingerprint} {l : Listing} (h : w.identify f = .ok l) {b : Binding}
      (hb : b ∈ l.bindings) : Gives w b
  | list {l : Listing} (h : w.list = .ok l) {b : Binding} (hb : b ∈ l.bindings) : Gives w b
  | lookup {subject : Subject} {byEmail : Bool} {l : Listing}
      (h : w.lookup subject byEmail = .ok l) {b : Binding} (hb : b ∈ l.bindings) : Gives w b

/-- The paths of a binding are those of an authentication. -/
def Authenticated (w : Web) (b : Binding) : Prop :=
  ∃ f subject, w.query.authenticate f subject w.wanted = .ok b.paths

theorem authenticated_of_binding {subject : Subject} (h : w.binding f subject = .ok b) :
    w.Authenticated b := by
  obtain ⟨paths, hpaths, rfl⟩ := map_eq_ok_iff.mp h
  exact ⟨f, subject, hpaths⟩

theorem authenticated_of_bindings {userIds : List String} (h : w.bindings f userIds = .ok found) :
    ∀ b ∈ found, w.Authenticated b := by
  induction userIds generalizing found with
  | nil =>
      cases h
      nofun
  | cons userId rest ih =>
      rw [bindings] at h
      split at h
      · cases h
      · next b hb =>
          obtain ⟨others, hothers, rfl⟩ := map_eq_ok_iff.mp h
          exact List.forall_mem_cons.mpr ⟨authenticated_of_binding hb, ih hothers⟩

theorem forall_mem_of_forEach {P : Binding → Prop}
    {find : Fingerprint → Except Fault (List Binding)}
    (hfind : ∀ f found, find f = .ok found → ∀ b ∈ found, P b) {fs : List Fingerprint}
    (h : forEach find fs = .ok found) : ∀ b ∈ found, P b := by
  induction fs generalizing found with
  | nil =>
      cases h
      nofun
  | cons f rest ih =>
      rw [forEach] at h
      split at h
      · cases h
      · next first hfirst =>
          obtain ⟨others, hothers, rfl⟩ := map_eq_ok_iff.mp h
          exact List.forall_mem_append.mpr ⟨hfind f first hfirst, ih hothers⟩

theorem authenticated_of_bindingsOf (f : Fingerprint) (found : List Binding)
    (h : w.bindingsOf f = .ok found) : ∀ b ∈ found, w.Authenticated b := by
  unfold bindingsOf at h
  split at h
  · cases h
    nofun
  · obtain ⟨all, hall, rfl⟩ := map_eq_ok_iff.mp h
    exact fun b hb => authenticated_of_bindings hall b (List.mem_of_mem_filter hb)

/-- A binding that a query gives has no paths, or those of an authentication. -/
theorem Gives.authenticated (h : w.Gives b) (hne : b.paths.items ≠ []) : w.Authenticated b := by
  cases h with
  | authenticate h =>
      unfold Web.authenticate at h
      split at h
      · obtain ⟨found, hfound, rfl⟩ := map_eq_ok_iff.mp h
        rcases largest?_cases found with ⟨-, hnone⟩ | ⟨best, hbest, hlargest⟩
        · simp [hnone] at hne
        · rw [hbest]
          exact authenticated_of_bindings hfound best hlargest.mem
      · obtain ⟨b, hb, rfl⟩ := map_eq_ok_iff.mp h
        exact authenticated_of_binding hb
  | identify h hb =>
      obtain ⟨found, hfound, rfl⟩ := map_eq_ok_iff.mp h
      exact authenticated_of_bindingsOf _ _ hfound _ hb
  | list h hb =>
      obtain ⟨found, hfound, rfl⟩ := map_eq_ok_iff.mp h
      exact forall_mem_of_forEach authenticated_of_bindingsOf hfound _ hb
  | lookup h hb =>
      obtain ⟨found, hfound, rfl⟩ := map_eq_ok_iff.mp h
      refine forall_mem_of_forEach (fun f found h => ?_) hfound _ hb
      split at h
      · cases h
        nofun
      · obtain ⟨all, hall, rfl⟩ := map_eq_ok_iff.mp h
        exact fun b hb => authenticated_of_bindings hall b (List.mem_of_mem_filter hb)

end Web

/-! ### Signatures that coexist

`A` delegates to `B` by two signatures of the same time, one that carries 100 over one further hop
and one that carries 80 over two. `B` certifies the user ID of `C` with 60, and introduces `D`,
which certifies it with 110. -/

namespace Coexisting

open Introduction

def wider : Signature :=
  { delegation with amount := ⟨80, by decide⟩, depth := .limited ⟨2, by decide⟩ }

def onward : Signature :=
  { delegation with issuer := { fingerprint := ⟨"B"⟩ }, target := { fingerprint := ⟨"D"⟩ } }

def detour : Signature :=
  { introduced with issuer := { fingerprint := ⟨"D"⟩ }, amount := ⟨110, by decide⟩ }

def network : Network :=
  ([delegation, wider, introduced, onward, detour].foldl Builder.addSignature
    (({} : Builder).addNode carol).1).build moment

def web : Web := { Introduction.web with network }

end Coexisting

end TrustWeb
