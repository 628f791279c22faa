import Mathlib
import TrustWeb.Paths
import TrustWeb.Proofs.Network.Keys

/-! # Paths that grow after they were recorded

No path is recorded with more than it carries. But a record points to its path, so that what the
path takes later counts as well: the recorded amount stays within the path exactly as long as every
signature that is taken carries it. -/

namespace TrustWeb

/-- What a path carries goes on to be at least an amount exactly if each further signature carries
it. -/
theorem Path.le_amount_iff_of_append {amount : Int} {p q : Path} {taken : List Signature}
    (h : amount ≤ p.amount) (hq : q.signatures = p.signatures ++ taken) :
    amount ≤ q.amount ↔ ∀ s ∈ taken, amount ≤ s.trust := by
  rw [Path.amount] at h ⊢
  rw [hq]
  cases hp : p.signatures with
  | nil =>
      rw [hp] at h
      cases taken with
      | nil => simpa using h
      | cons s rest => exact le_leastAmount_cons_iff
  | cons s rest =>
      rw [hp, le_leastAmount_cons_iff] at h
      rw [List.cons_append, le_leastAmount_cons_iff, ← List.cons_append, List.forall_mem_append]
      exact and_iff_right h

namespace PathBook

/-! ## Calls -/

/-- A call on a book. -/
inductive Call where
  | start (root : Node)
  | append (index : Nat) (s : Signature) (mode : Mode)
  | record (index : Nat) (amount : Int)

/-- What a call gives. -/
def call (b : PathBook) : Call → Except Fault PathBook
  | .start root => .ok (b.start root)
  | .append index s mode => b.append index s mode
  | .record index amount => b.record index amount

/-- The book after a call; one that fails leaves it as it was. -/
def after (b : PathBook) (c : Call) : PathBook := (b.call c).toOption.getD b

/-- The book after calls. -/
def afterAll (b : PathBook) (cs : List Call) : PathBook := cs.foldl after b

/-- What a call changes, told without carrying it out. -/
inductive Changes (b : PathBook) : Call → PathBook → Prop where
  | started (root) : Changes b (.start root) { b with paths := b.paths ++ [{ root }] }
  | extended {index s mode p q} (hp : b.paths[index]? = some p) (hq : p.append s mode = .ok q) :
      Changes b (.append index s mode) { b with paths := b.paths.set index q }
  | recorded {index amount p} (hp : b.paths[index]? = some p) (hamount : amount ≤ p.amount) :
      Changes b (.record index amount) { b with records := b.records ++ [(index, amount)] }
  | kept (c) : Changes b c b

variable {b b' b'' : PathBook} {c : Call} {index : Nat} {amount : Int} {p q r : Path}

theorem changes_after (b : PathBook) (c : Call) : Changes b c (b.after c) := by
  unfold after
  cases c with
  | start root => exact .started root
  | append index s mode =>
      simp only [call, PathBook.append]
      cases hp : b.paths[index]? with
      | none => exact .kept _
      | some p =>
          dsimp only
          cases hq : p.append s mode with
          | error fault => exact .kept _
          | ok q => exact .extended hp hq
  | record index amount =>
      simp only [call, PathBook.record]
      cases hp : b.paths[index]? with
      | none => exact .kept _
      | some p =>
          dsimp only
          split
          · exact .kept _
          · next hamount => exact .recorded hp (not_lt.mp hamount)

/-! ## Books that grow -/

/-- The second path is the first one with further signatures. -/
def Continues (p q : Path) : Prop := q.root = p.root ∧ p.signatures <+: q.signatures

theorem Continues.refl (p : Path) : Continues p p := ⟨rfl, List.prefix_rfl⟩

theorem Continues.trans (h : Continues p q) (h' : Continues q r) : Continues p r :=
  ⟨h'.1.trans h.1, h.2.trans h'.2⟩

/-- The second book has the paths of the first one, at most with further signatures, and its
records. -/
structure Grows (b b' : PathBook) : Prop where
  paths : ∀ (index : Nat) p, b.paths[index]? = some p →
    ∃ q, b'.paths[index]? = some q ∧ Continues p q
  records : b.records <+: b'.records

theorem Grows.refl (b : PathBook) : Grows b b :=
  ⟨fun _ p hp => ⟨p, hp, .refl p⟩, List.prefix_rfl⟩

theorem Grows.trans (h : Grows b b') (h' : Grows b' b'') : Grows b b'' := by
  refine ⟨fun index p hp => ?_, h.records.trans h'.records⟩
  obtain ⟨q, hq, hpq⟩ := h.paths index p hp
  obtain ⟨r, hr, hqr⟩ := h'.paths index q hq
  exact ⟨r, hr, hpq.trans hqr⟩

theorem Changes.grows (h : Changes b c b') : Grows b b' := by
  cases h with
  | started root =>
      refine ⟨fun index p hp => ⟨p, ?_, .refl p⟩, List.prefix_rfl⟩
      rw [List.getElem?_append_left (List.getElem?_eq_some_iff.mp hp).1, hp]
  | @extended place s mode p q hp hq =>
      obtain ⟨hroot, hsignatures⟩ := Path.signatures_of_append hq
      refine ⟨fun index p' hp' => ?_, List.prefix_rfl⟩
      by_cases hplace : place = index
      · subst hplace
        obtain rfl : p' = p := Option.some.inj (hp'.symm.trans hp)
        refine ⟨q, ?_, hroot, hsignatures ▸ List.prefix_append _ _⟩
        exact List.getElem?_set_self (List.getElem?_eq_some_iff.mp hp).1
      · exact ⟨p', by rw [List.getElem?_set_ne hplace, hp'], .refl p'⟩
  | recorded hp hamount => exact ⟨(Grows.refl b).paths, List.prefix_append _ _⟩
  | kept => exact .refl b

theorem grows_afterAll (b : PathBook) (cs : List Call) : Grows b (b.afterAll cs) := by
  induction cs generalizing b with
  | nil => exact .refl b
  | cons c rest ih => exact (changes_after b c).grows.trans (ih (b.after c))

theorem afterAll_append (b : PathBook) (before later : List Call) :
    b.afterAll (before ++ later) = (b.afterAll before).afterAll later :=
  List.foldl_append

/-! ## Records -/

/-- The records of a book are the calls that recorded a path with no more than it carried. -/
theorem records_afterAll {cs : List Call} {i : Nat} :
    (afterAll {} cs).records[i]? = some (index, amount) ↔
      ∃ before later p, cs = before ++ .record index amount :: later ∧
        (afterAll {} before).records.length = i ∧
        (afterAll {} before).paths[index]? = some p ∧ amount ≤ p.amount := by
  constructor
  · intro h
    induction cs using List.reverseRecOn with
    | nil => cases h
    | append_singleton cs c ih =>
        rw [afterAll_append] at h
        by_cases hearlier : (afterAll {} cs).records[i]? = some (index, amount)
        · obtain ⟨before, later, p, rfl, hrest⟩ := ih hearlier
          exact ⟨before, later ++ [c], p, by simp, hrest⟩
        · -- The last call made the record.
          have hchanges := changes_after (afterAll {} cs) c
          change ((afterAll {} cs).after c).records[i]? = _ at h
          generalize (afterAll {} cs).after c = b at h hchanges
          cases hchanges with
          | started | extended | kept => exact (hearlier h).elim
          | @recorded index' amount' p hp hamount =>
              rcases Nat.lt_or_ge i (afterAll {} cs).records.length with hlt | hge
              · rw [List.getElem?_append_left hlt] at h
                exact (hearlier h).elim
              · have hlength := (List.getElem?_eq_some_iff.mp h).1
                obtain rfl : i = (afterAll {} cs).records.length := by simp at hlength; omega
                obtain ⟨rfl, rfl⟩ : index' = index ∧ amount' = amount := by simpa using h
                exact ⟨cs, [], p, rfl, rfl, hp, hamount⟩
  · rintro ⟨before, later, p, rfl, rfl, hp, hamount⟩
    have hmade : (afterAll {} before).after (.record index amount) =
        { afterAll {} before with
          records := (afterAll {} before).records ++ [(index, amount)] } := by
      simp only [after, call, PathBook.record, hp, gt_iff_lt, not_lt.mpr hamount, if_false]
      rfl
    have hgrows := grows_afterAll ((afterAll {} before).after (.record index amount)) later
    rw [afterAll_append]
    change (afterAll ((afterAll {} before).after (.record index amount)) later).records[_]? = _
    rw [List.prefix_iff_getElem?.mp hgrows.records _ (by simp [hmade])]
    simp [hmade]

theorem map_some_filterMap {α β : Type} {f : α → Option β} {xs : List α}
    (h : ∀ x ∈ xs, ∃ y, f x = some y) : (xs.filterMap f).map some = xs.map f := by
  induction xs with
  | nil => rfl
  | cons x rest ih =>
      obtain ⟨⟨y, hy⟩, hrest⟩ := List.forall_mem_cons.mp h
      rw [List.filterMap_cons_some hy, List.map_cons, List.map_cons, ih hrest, hy]

/-- Every record shows its path as it is now. -/
theorem items_afterAll (cs : List Call) :
    (afterAll {} cs).recorded.items.map some = (afterAll {} cs).records.map fun record =>
      ((afterAll {} cs).paths[record.1]?).map fun p => ⟨p, record.2⟩ := by
  refine map_some_filterMap fun ⟨index, amount⟩ hrecord => ?_
  obtain ⟨i, hi⟩ := List.getElem?_of_mem hrecord
  obtain ⟨before, later, p, rfl, -, hp, -⟩ := records_afterAll.mp hi
  rw [afterAll_append]
  obtain ⟨q, hq, -⟩ :=
    (grows_afterAll (afterAll {} before) (.record index amount :: later)).paths index p hp
  exact ⟨⟨q, amount⟩, by simp only [hq, Option.map_some]⟩

theorem length_items_afterAll (cs : List Call) :
    (afterAll {} cs).recorded.items.length = (afterAll {} cs).records.length := by
  simpa using congrArg List.length (items_afterAll cs)

theorem items_getElem?_afterAll {cs : List Call} {i : Nat} {item : PathItem} :
    (afterAll {} cs).recorded.items[i]? = some item ↔
      ∃ index, (afterAll {} cs).records[i]? = some (index, item.amount) ∧
        (afterAll {} cs).paths[index]? = some item.path := by
  have hplace := congrArg (·[i]?) (items_afterAll cs)
  simp only [List.getElem?_map] at hplace
  constructor
  · intro hitem
    rw [hitem, Option.map_some, eq_comm, Option.map_eq_some_iff] at hplace
    obtain ⟨⟨index, amount⟩, hrecord, hshown⟩ := hplace
    obtain ⟨p, hp, rfl⟩ := Option.map_eq_some_iff.mp hshown
    exact ⟨index, hrecord, hp⟩
  · rintro ⟨index, hrecord, hp⟩
    rw [hrecord, Option.map_some] at hplace
    simpa [hp] using hplace

theorem amount_eq_sum (ps : Paths) : ps.amount = (ps.items.map (·.amount)).sum := by
  rw [Paths.amount, List.sum_eq_foldl, List.foldl_map]

/-- Whatever paths are started, extended and recorded: the items of the collection are, in order,
the calls that recorded a path with no more than it carried then, and their amounts add up to the
amount of the collection. An item is within what its path carries now exactly if every signature
that the path has taken since then carries the amount of the item. -/
theorem recorded_within_iff (cs : List Call) :
    (afterAll {} cs).recorded.amount = ((afterAll {} cs).recorded.items.map (·.amount)).sum ∧
      ∀ (i : Nat) item, (afterAll {} cs).recorded.items[i]? = some item ↔
        ∃ before index later p taken, cs = before ++ .record index item.amount :: later ∧
          (afterAll {} before).recorded.items.length = i ∧
          (afterAll {} before).paths[index]? = some p ∧ item.amount ≤ p.amount ∧
          (afterAll {} cs).paths[index]? = some item.path ∧
          item.path.signatures = p.signatures ++ taken ∧
          (item.amount ≤ item.path.amount ↔ ∀ s ∈ taken, item.amount ≤ s.trust) := by
  refine ⟨amount_eq_sum _, fun i item => ?_⟩
  rw [items_getElem?_afterAll]
  constructor
  · rintro ⟨index, hrecord, hpath⟩
    obtain ⟨before, later, p, rfl, hlength, hp, hamount⟩ := records_afterAll.mp hrecord
    have hgrows := grows_afterAll (afterAll {} before) (.record index item.amount :: later)
    rw [← afterAll_append] at hgrows
    obtain ⟨q, hq, -, taken, htaken⟩ := hgrows.paths index p hp
    obtain rfl : q = item.path := Option.some.inj (hq.symm.trans hpath)
    exact ⟨before, index, later, p, taken, rfl, by rw [length_items_afterAll, hlength], hp,
      hamount, hpath, htaken.symm, Path.le_amount_iff_of_append hamount htaken.symm⟩
  · rintro ⟨before, index, later, p, taken, hcs, hlength, hp, hamount, hpath, -⟩
    rw [length_items_afterAll] at hlength
    exact ⟨index, records_afterAll.mpr ⟨before, later, p, hcs, hlength, hp, hamount⟩, hpath⟩

end PathBook

/-! ### A path recorded too early

A path from `A` to `B` is recorded with all that it carries, and then led on over a signature that
carries less. -/

namespace Overtaken

open Introduction

def calls : List PathBook.Call :=
  [.start { fingerprint := ⟨"A"⟩ }, .append 0 delegation .authentication, .record 0 100,
    .append 0 introduced .authentication]

end Overtaken

/-- The collection holds an item of 100 over a path that carries 60. -/
theorem PathBook.recorded_exceeds_path :
    (afterAll {} Overtaken.calls).recorded.items.map (fun i => (i.amount, i.path.amount)) =
      [(100, 60)] := by
  decide +kernel

end TrustWeb
