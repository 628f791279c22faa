import Mathlib.Data.List.MinMax
import Mathlib.Data.List.Nodup
import TrustWeb.Proofs.Frontier.Ranking

/-! # A frontier as a queue

A caller sees of a queue what comes out of it, how many keys it holds, and whether it holds any.
Seen like this, a frontier is a map that gives each key its cost and the moment at which it got it.
So is a heap in which superseded entries stay behind, marked as such, until they come out and are
passed over. -/

namespace TrustWeb

/-! ## Queues and calls -/

/-- A queue of keys with costs, as far as a caller can tell. -/
structure Queue (κ σ : Type) where
  start : σ
  insert : σ → κ → Cost → σ
  pop : σ → Option (κ × Cost) × σ
  size : σ → ℕ
  holds : σ → Bool

namespace Queue

/-- A call on a queue. -/
inductive Call (κ : Type) where
  | insert (k : κ) (cost : Cost)
  | pop

/-- What a call gives, and the size and the truth value of the queue after it. -/
structure Sight (κ : Type) where
  result : Option (κ × Cost)
  size : ℕ
  holds : Bool

variable {κ σ τ : Type} (Q : Queue κ σ) (Q' : Queue κ τ) {R : σ → τ → Prop} {q : σ} {q' : τ}

/-- The result of a call and the queue after it. -/
def answer (q : σ) : Call κ → Option (κ × Cost) × σ
  | .insert k cost => (none, Q.insert q k cost)
  | .pop => Q.pop q

/-- What is seen of calls one after the other, and the queue after them. -/
def run (q : σ) : List (Call κ) → List (Sight κ) × σ
  | [] => ([], q)
  | call :: rest =>
    let (result, next) := Q.answer q call
    let (sights, last) := run next rest
    (⟨result, Q.size next, Q.holds next⟩ :: sights, last)

/-- A relation between two queues that no call breaks or lets a caller tell them apart. -/
structure Simulates (R : σ → τ → Prop) : Prop where
  start : R Q.start Q'.start
  size_eq : ∀ {q q'}, R q q' → Q.size q = Q'.size q'
  holds_eq : ∀ {q q'}, R q q' → Q.holds q = Q'.holds q'
  insert : ∀ {q q'} k cost, R q q' → R (Q.insert q k cost) (Q'.insert q' k cost)
  pop : ∀ {q q'}, R q q' → (Q.pop q).1 = (Q'.pop q').1 ∧ R (Q.pop q).2 (Q'.pop q').2

/-- What is seen of calls on a new queue. -/
def seen (calls : List (Call κ)) : List (Sight κ) := (Q.run Q.start calls).1

/-- A new queue after calls. -/
def after (calls : List (Call κ)) : σ := (Q.run Q.start calls).2

variable {Q Q'}

theorem Simulates.answer (h : Q.Simulates Q' R) (hq : R q q') (call : Call κ) :
    (Q.answer q call).1 = (Q'.answer q' call).1 ∧ R (Q.answer q call).2 (Q'.answer q' call).2 := by
  cases call with
  | insert k cost => exact ⟨rfl, h.insert k cost hq⟩
  | pop => exact h.pop hq

/-- Related queues are seen alike and stay related. -/
theorem Simulates.run (h : Q.Simulates Q' R) (hq : R q q') (calls : List (Call κ)) :
    (Q.run q calls).1 = (Q'.run q' calls).1 ∧ R (Q.run q calls).2 (Q'.run q' calls).2 := by
  induction calls generalizing q q' with
  | nil => exact ⟨rfl, hq⟩
  | cons call rest ih =>
      obtain ⟨hresult, hnext⟩ := h.answer hq call
      obtain ⟨hsights, hlast⟩ := ih hnext
      refine ⟨?_, hlast⟩
      simp only [Queue.run]
      rw [hresult, h.size_eq hnext, h.holds_eq hnext, hsights]

theorem Simulates.seen_eq (h : Q.Simulates Q' R) (calls : List (Call κ)) :
    Q.seen calls = Q'.seen calls := (h.run h.start calls).1

theorem Simulates.after (h : Q.Simulates Q' R) (calls : List (Call κ)) :
    R (Q.after calls) (Q'.after calls) := (h.run h.start calls).2

end Queue

/-! ## The three queues -/

/-- A frontier as a queue. -/
def Frontier.queue {κ : Type} [DecidableEq κ] : Queue κ (Frontier κ) where
  start := {}
  insert := Frontier.insert
  pop q :=
    match q.pop? with
    | none => (none, q)
    | some (entry, rest) => (some entry, rest)
  size := Frontier.size
  holds q := q.size != 0

/-- A map from keys to their costs and the moments at which they got them, with the moment of the
next call. -/
structure Agenda (κ : Type) where
  standing : Table κ (Cost × ℕ) := []
  now : ℕ := 0

namespace Agenda

variable {κ : Type} [DecidableEq κ]

/-- The cost of a key. -/
def cost? (a : Agenda κ) (k : κ) : Option Cost := (a.standing.find? k).map (·.1)

/-- Gives a key a cost and the present moment, unless it has a cost that is no dearer. -/
def insert (a : Agenda κ) (k : κ) (cost : Cost) : Agenda κ where
  standing :=
    if cost.improves (a.cost? k) then a.standing.put k (cost, a.now) else a.standing
  now := a.now + 1

/-- Takes out the key that is least by hops, then by trust, the most first, then by moment. -/
def pop (a : Agenda κ) : Option (κ × Cost) × Agenda κ :=
  match a.standing.argmin Frontier.rank with
  | none => (none, { a with now := a.now + 1 })
  | some (k, cost, _) => (some (k, cost), ⟨a.standing.filter (·.1 != k), a.now + 1⟩)

/-- The map as a queue. -/
def queue : Queue κ (Agenda κ) where
  start := {}
  insert := insert
  pop := pop
  size a := a.standing.length
  holds a := !a.standing.isEmpty

end Agenda

namespace Pile

/-- An entry of a heap. It is dead once its key has another one. -/
structure Entry (κ : Type) where
  cost : Cost
  number : ℕ
  key : κ
  live : Bool
  deriving DecidableEq

variable {κ : Type}

/-- What an entry says of its key. -/
def Entry.standing (e : Entry κ) : κ × Cost × ℕ := (e.key, e.cost, e.number)

/-- The place of an entry in the order of a heap: by cost, then by number. -/
def Entry.rank (e : Entry κ) : Frontier.Rank := Frontier.rank e.standing

/-- The entry is dead if it has the number. -/
def bury (number? : Option ℕ) (e : Entry κ) : Entry κ :=
  if number? = some e.number then { e with live := false } else e

/-- What is buried is no longer live. -/
theorem live_bury (number? : Option ℕ) (heap : List (Entry κ)) :
    ((heap.map (bury number?)).filter (·.live)).map Entry.standing =
      ((heap.filter (·.live)).map Entry.standing).filter fun s => number? != some s.2.2 := by
  induction heap with
  | nil => rfl
  | cons e rest ih =>
      cases hlive : e.live with
      | false =>
          have hburied : (bury number? e).live = false := by
            unfold bury
            split
            · rfl
            · exact hlive
          simpa [hlive, hburied] using ih
      | true =>
          by_cases hnumber : number? = some e.number
          · simpa [bury, hlive, hnumber, Entry.standing] using ih
          · simpa [bury, hlive, hnumber, Entry.standing] using ih

end Pile

/-- A heap of entries with the cost and the number of the entry that each key has now, and the
number of entries made so far. -/
structure Pile (κ : Type) where
  heap : List (Pile.Entry κ) := []
  current : Table κ (Cost × ℕ) := []
  made : ℕ := 0

namespace Pile

variable {κ : Type} [DecidableEq κ]

/-- Takes the least entry out of a heap, in which entries stand in any order. -/
def takeLeast? (heap : List (Entry κ)) : Option (Entry κ × List (Entry κ)) :=
  (heap.argmin Entry.rank).map fun e => (e, heap.erase e)

theorem takeLeast?_eq_none_iff {heap : List (Entry κ)} : takeLeast? heap = none ↔ heap = [] := by
  rw [takeLeast?, Option.map_eq_none_iff, List.argmin_eq_none]

/-- The entry that is taken out is the least one. -/
theorem takeLeast?_spec {heap rest : List (Entry κ)} {e : Entry κ}
    (h : takeLeast? heap = some (e, rest)) :
    heap.Perm (e :: rest) ∧ ∀ x ∈ heap, e.rank ≤ x.rank := by
  obtain ⟨e', hleast, hrest⟩ := Option.map_eq_some_iff.mp h
  obtain ⟨rfl, rfl⟩ := Prod.mk.inj hrest
  exact ⟨List.perm_cons_erase (List.argmin_mem hleast), fun x hx => List.le_of_mem_argmin hx hleast⟩

/-- Takes entries out of a heap until one is live. -/
def dig (heap : List (Entry κ)) : Option (Entry κ) × List (Entry κ) :=
  match _h : takeLeast? heap with
  | none => (none, heap)
  | some (e, rest) => if e.live then (some e, rest) else dig rest
termination_by heap.length
decreasing_by
  rw [(takeLeast?_spec _h).1.length_eq]
  exact Nat.lt_succ_self _

/-- A new entry for a key buries the one before it; none is made for a cost that is no cheaper. -/
def insert (p : Pile κ) (k : κ) (cost : Cost) : Pile κ :=
  let present := p.current.find? k
  if cost.improves (present.map (·.1)) then
    { heap := ⟨cost, p.made, k, true⟩ :: p.heap.map (bury (present.map (·.2)))
      current := p.current.put k (cost, p.made)
      made := p.made + 1 }
  else p

/-- Takes out the least live entry, and all dead ones before it. -/
def pop (p : Pile κ) : Option (κ × Cost) × Pile κ :=
  match dig p.heap with
  | (none, heap) => (none, { p with heap })
  | (some e, heap) =>
    (some (e.key, e.cost), { p with heap, current := p.current.filter (·.1 != e.key) })

/-- The heap as a queue. -/
def queue : Queue κ (Pile κ) where
  start := {}
  insert := insert
  pop := pop
  size p := p.current.length
  holds p := !p.current.isEmpty

end Pile

section

variable {κ : Type} [DecidableEq κ] {q : Frontier κ} {a : Agenda κ} {p : Pile κ}

/-! ## A frontier is a map -/

namespace Agenda

/-- A frontier holds the keys of a map in their order. -/
def Orders (q : Frontier κ) (a : Agenda κ) : Prop := q.Ranks a.standing a.now

theorem Orders.cost?_eq (h : Orders q a) (k : κ) : q.cost? k = a.cost? k :=
  Frontier.Ranks.cost?_eq h k

theorem Orders.insert (h : Orders q a) (k : κ) (cost : Cost) :
    Orders (q.insert k cost) (a.insert k cost) := by
  rw [Frontier.insert_eq, h.cost?_eq]
  unfold Orders Agenda.insert
  split
  · exact Frontier.Ranks.put h k cost
  · exact Frontier.Ranks.later h (Nat.le_succ _)

theorem Orders.pop (h : Orders q a) :
    (Frontier.queue.pop q).1 = a.pop.1 ∧ Orders (Frontier.queue.pop q).2 a.pop.2 := by
  unfold Agenda.pop
  cases hleast : a.standing.argmin Frontier.rank with
  | none =>
      have hnil : a.standing = [] := List.argmin_eq_none.mp hleast
      have hranks : q.Ranks [] a.now := hnil ▸ h
      simp only [Frontier.queue, hranks.pop_nil]
      exact ⟨trivial, Frontier.Ranks.later h (Nat.le_succ _)⟩
  | some entry =>
      obtain ⟨rest, hpop, hrest⟩ := Frontier.Ranks.pop h (List.argmin_mem hleast)
        fun e he => List.le_of_mem_argmin he hleast
      simp only [Frontier.queue, hpop]
      exact ⟨trivial, hrest.later (Nat.le_succ _)⟩

theorem simulates : (Frontier.queue (κ := κ)).Simulates queue Orders where
  start := Frontier.Ranks.start
  size_eq h := h.size_eq
  holds_eq h := h.size_bne_zero
  insert k cost h := h.insert k cost
  pop h := h.pop

end Agenda

/-! ## A heap with superseded entries is a map -/

namespace Pile

/-- What the live entries say. -/
def live (p : Pile κ) : List (κ × Cost × ℕ) := (p.heap.filter (·.live)).map Entry.standing

/-- The live entries of a heap are those that its keys have now, and a frontier holds these keys in
their order. -/
structure Reflects (q : Frontier κ) (p : Pile κ) : Prop where
  ranks : q.Ranks p.current p.made
  live : p.live.Perm p.current

/-- Digging takes out the least live entry and dead ones, or finds that all are dead. -/
theorem dig_cases (heap : List (Entry κ)) :
    (dig heap = (none, []) ∧ heap.filter (·.live) = []) ∨
      ∃ e rest, dig heap = (some e, rest) ∧
        (heap.filter (·.live)).Perm (e :: rest.filter (·.live)) ∧
        ∀ x ∈ heap.filter (·.live), e.rank ≤ x.rank := by
  fun_induction dig heap with
  | case1 heap hnone =>
      obtain rfl := takeLeast?_eq_none_iff.mp hnone
      exact .inl ⟨rfl, rfl⟩
  | case2 heap e rest htake hlive =>
      obtain ⟨hperm, hleast⟩ := takeLeast?_spec htake
      have hfilter := hperm.filter (·.live)
      rw [List.filter_cons_of_pos hlive] at hfilter
      exact .inr ⟨e, rest, rfl, hfilter, fun x hx => hleast x (List.mem_filter.mp hx).1⟩
  | case3 heap e rest htake hdead ih =>
      -- What is live stands behind the dead entry.
      have hfilter := (takeLeast?_spec htake).1.filter (·.live)
      rw [List.filter_cons_of_neg hdead] at hfilter
      rcases ih with ⟨hdig, hnil⟩ | ⟨e', rest', hdig, hperm, hleast⟩
      · exact .inl ⟨hdig, (hnil ▸ hfilter).eq_nil⟩
      · exact .inr ⟨e', rest', hdig, hfilter.trans hperm,
          fun x hx => hleast x (hfilter.mem_iff.mp hx)⟩

/-- Of the entries that the keys have now, the one with the number of a key is that of the key. -/
theorem filter_number (h : q.Ranks p.current p.made) (k : κ) :
    (p.current.filter fun s => (p.current.find? k).map (·.2) != some s.2.2) =
      p.current.filter (·.1 != k) := by
  refine List.filter_congr fun s hs => ?_
  rw [Bool.eq_iff_iff, bne_iff_ne, bne_iff_ne, not_iff_not]
  constructor
  · intro hnumber
    obtain ⟨found, hfound, hsame⟩ := Option.map_eq_some_iff.mp hnumber
    have hmem := Table.mem_of_find? hfound
    obtain rfl : (k, found) = s := List.inj_on_of_nodup_map h.moments hmem hs hsame
    rfl
  · rintro rfl
    rw [Table.find?_of_mem h.keys hs]
    rfl

/-- A new entry takes the place of the one that it buries. -/
theorem Reflects.insert (h : Reflects q p) (k : κ) (cost : Cost) :
    Reflects (q.insert k cost) (p.insert k cost) := by
  rw [Frontier.insert_eq, h.ranks.cost?_eq]
  unfold Pile.insert
  simp only
  split
  · refine ⟨h.ranks.put k cost, ?_⟩
    have hburied := h.live.filter fun s => (p.current.find? k).map (·.2) != some s.2.2
    rw [filter_number h.ranks, Pile.live, ← live_bury] at hburied
    exact (hburied.cons _).trans (Table.put_perm h.ranks.keys k _).symm
  · exact h

/-- The least live entry is that of the first key of the frontier. -/
theorem Reflects.pop (h : Reflects q p) :
    (Frontier.queue.pop q).1 = p.pop.1 ∧ Reflects (Frontier.queue.pop q).2 p.pop.2 := by
  unfold Pile.pop
  rcases dig_cases p.heap with ⟨hdig, hnil⟩ | ⟨e, rest, hdig, hperm, hleast⟩
  · have hempty : p.current = [] := by
      have hlive := h.live
      rw [Pile.live, hnil] at hlive
      exact hlive.symm.eq_nil
    have hranks : q.Ranks [] p.made := hempty ▸ h.ranks
    simp only [Frontier.queue, hranks.pop_nil, hdig]
    exact ⟨trivial, h.ranks, hempty ▸ .refl _⟩
  · have hlive : p.live.Perm (e.standing :: (rest.filter (·.live)).map Entry.standing) :=
      hperm.map Entry.standing
    have hcurrent := h.live.symm.trans hlive
    have hfirst : ∀ s ∈ p.current, Frontier.rank e.standing ≤ Frontier.rank s := by
      intro s hs
      obtain ⟨x, hx, rfl⟩ := List.mem_map.mp (h.live.mem_iff.mpr hs)
      exact hleast x hx
    obtain ⟨next, hpop, hnext⟩ :=
      h.ranks.pop (hcurrent.mem_iff.mpr List.mem_cons_self) hfirst
    simp only [Frontier.queue, hpop, hdig]
    exact ⟨rfl, hnext, (Table.filter_ne_perm hcurrent h.ranks.keys).symm⟩

theorem simulates : (Frontier.queue (κ := κ)).Simulates queue Reflects where
  start := ⟨Frontier.Ranks.start, .refl _⟩
  size_eq h := h.ranks.size_eq
  holds_eq h := h.ranks.size_bne_zero
  insert k cost h := h.insert k cost
  pop h := h.pop

end Pile

/-- Whatever the calls, a frontier and a heap with superseded entries are seen as the map is. No key
is in the frontier twice, and each has the cost that the map gives it; no key has two live entries
in the heap, and these have the costs that the map gives. -/
theorem Frontier.queue_refines (calls : List (Queue.Call κ)) :
    Frontier.queue.seen calls = Agenda.queue.seen calls ∧
      Pile.queue.seen calls = Agenda.queue.seen calls ∧
      ((Frontier.queue.after calls).entries.map (·.1)).Nodup ∧
      (∀ k, (Frontier.queue.after calls).cost? k = (Agenda.queue.after calls).cost? k) ∧
      ((Pile.queue.after calls).live.map (·.1)).Nodup ∧
      ∀ k cost, (∃ number, (k, cost, number) ∈ (Pile.queue.after calls).live) ↔
        (Agenda.queue.after calls).cost? k = some cost := by
  have horders := Agenda.simulates.after calls
  have hreflects := Pile.simulates.after calls
  refine ⟨Agenda.simulates.seen_eq calls,
    (Pile.simulates.seen_eq calls).symm.trans (Agenda.simulates.seen_eq calls),
    hreflects.ranks.nodup_entries, horders.cost?_eq, ?_, fun k cost => ?_⟩
  · exact (hreflects.live.map Prod.fst).nodup_iff.mpr hreflects.ranks.keys
  · rw [← horders.cost?_eq, hreflects.ranks.cost?_eq, Option.map_eq_some_iff]
    constructor
    · rintro ⟨number, hlive⟩
      exact ⟨_, Table.find?_of_mem hreflects.ranks.keys (hreflects.live.mem_iff.mp hlive), rfl⟩
    · rintro ⟨⟨cost, number⟩, hfound, rfl⟩
      exact ⟨number, hreflects.live.mem_iff.mpr (Table.mem_of_find? hfound)⟩

end

end TrustWeb
