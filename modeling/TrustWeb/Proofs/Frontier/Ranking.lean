import Mathlib.Data.Prod.Lex
import TrustWeb.Frontier
import TrustWeb.Table

/-! # The order of a frontier

A frontier does not keep the moments at which its keys got their costs: the order of its entries
stands for them. It goes with a table that has the moments, and the order of the entries is then
that by cost and moment. A key that is put in at a later moment comes behind those that are not
dearer. -/

namespace TrustWeb

/-- Whether a key takes a cost: it has none yet, or a dearer one. -/
def Cost.improves (cost : Cost) (present : Option Cost) : Bool := present.all cost.cheaper

namespace Frontier

variable {κ : Type} {q : Frontier κ} {t : Table κ (Cost × ℕ)} {ranked : List (κ × Cost × ℕ)}
  {now : ℕ} {k : κ} {cost : Cost} {a b entry : κ × Cost × ℕ}

/-! ## Look-ups and calls -/

section

variable [DecidableEq κ]

theorem cost?_eq_find? (q : Frontier κ) (k : κ) : q.cost? k = Table.find? q.entries k := by
  obtain ⟨entries⟩ := q
  induction entries with
  | nil => rfl
  | cons first rest ih =>
      obtain ⟨k', cost⟩ := first
      rw [Table.find?_cons, ← ih]
      by_cases hk : k' = k <;> simp [cost?, hk]

/-- A key that is put in stands once, with the cost that is taken for it. -/
theorem insert_eq (q : Frontier κ) (k : κ) (cost : Cost) :
    q.insert k cost = if cost.improves (q.cost? k) = true then
      ⟨place (k, cost) (q.entries.filter (·.1 != k))⟩ else q := by
  unfold insert
  cases hpresent : q.cost? k with
  | none =>
      rw [cost?_eq_find?] at hpresent
      rw [Table.filter_ne_eq_self (Table.not_mem_keys hpresent)]
      rfl
  | some present => rfl

end

/-! ## Cost and moment -/

/-- The places in the order by hops, then by trust, the most first, then by moment. -/
def Rank : Type := ℤ ×ₗ ℤ ×ₗ ℕ

instance : LinearOrder Rank := Prod.Lex.instLinearOrder ℤ (ℤ ×ₗ ℕ)

/-- The place of a key with its cost and the moment at which it got it. -/
def rank (entry : κ × Cost × ℕ) : Rank :=
  toLex (entry.2.1.length, toLex (-entry.2.1.amount, entry.2.2))

theorem rank_lt_iff : rank a < rank b ↔
    a.2.1.cheaper b.2.1 = true ∨ b.2.1.cheaper a.2.1 = false ∧ a.2.2 < b.2.2 := by
  change toLex (a.2.1.length, toLex (-a.2.1.amount, a.2.2)) <
    toLex (b.2.1.length, toLex (-b.2.1.amount, b.2.2)) ↔ _
  rw [← Bool.not_eq_true, Cost.cheaper_iff, Cost.cheaper_iff]
  simp only [Prod.Lex.toLex_lt_toLex]
  omega

/-- What is put in at a later moment comes into its place behind those that are not dearer. -/
theorem exists_ranked_place (h : ranked.Pairwise (rank · < rank ·))
    (hpast : ∀ e ∈ ranked, e.2.2 < now) (k : κ) (cost : Cost) :
    ∃ ranked' : List (κ × Cost × ℕ), ranked'.Perm ((k, cost, now) :: ranked) ∧
      ranked'.Pairwise (rank · < rank ·) ∧
      place (k, cost) (Table.mapValues Prod.fst ranked) = Table.mapValues Prod.fst ranked' := by
  induction ranked with
  | nil => exact ⟨_, .refl _, List.pairwise_singleton _ _, rfl⟩
  | cons first rest ih =>
      obtain ⟨hfirst, hrest⟩ := List.pairwise_cons.mp h
      obtain ⟨hbefore, hpast'⟩ := List.forall_mem_cons.mp hpast
      by_cases hcheaper : cost.cheaper first.2.1 = true
      · have hlt : rank (k, cost, now) < rank first := rank_lt_iff.mpr (.inl hcheaper)
        refine ⟨(k, cost, now) :: first :: rest, .refl _, List.pairwise_cons.mpr ⟨?_, h⟩, ?_⟩
        · exact List.forall_mem_cons.mpr ⟨hlt, fun e he => hlt.trans (hfirst e he)⟩
        · simp [Table.mapValues, place, hcheaper]
      · obtain ⟨ranked', hperm, hpairwise, hplace⟩ := ih hrest hpast'
        have hlt : rank first < rank (k, cost, now) :=
          rank_lt_iff.mpr (.inr ⟨by simpa using hcheaper, hbefore⟩)
        refine ⟨first :: ranked', (hperm.cons first).trans (.swap _ _ _),
          List.pairwise_cons.mpr ⟨fun e he => ?_, hpairwise⟩, ?_⟩
        · rcases List.mem_cons.mp (hperm.mem_iff.mp he) with rfl | he
          · exact hlt
          · exact hfirst e he
        · simp only [Table.mapValues, List.map_cons, place, hcheaper] at hplace ⊢
          simp [hplace]

/-- A frontier holds the keys of a table with their costs, in the order by cost and moment. The
moments are distinct and lie before `now`. -/
structure Ranks (q : Frontier κ) (t : Table κ (Cost × ℕ)) (now : ℕ) : Prop where
  keys : t.keys.Nodup
  moments : (t.map (·.2.2)).Nodup
  past : ∀ entry ∈ t, entry.2.2 < now
  ordered : ∃ ranked : List (κ × Cost × ℕ), ranked.Perm t ∧ ranked.Pairwise (rank · < rank ·) ∧
    q.entries = Table.mapValues Prod.fst ranked

namespace Ranks

theorem start : Ranks (κ := κ) {} [] now :=
  ⟨by simp [Table.keys], by simp, by simp, [], by simp [Table.mapValues]⟩

theorem later {now' : ℕ} (h : Ranks q t now) (hle : now ≤ now') : Ranks q t now' :=
  { h with past := fun entry hentry => (h.past entry hentry).trans_le hle }

theorem size_eq (h : Ranks q t now) : q.size = t.length := by
  obtain ⟨ranked, hperm, -, hentries⟩ := h.ordered
  rw [size, hentries, ← hperm.length_eq]
  simp [Table.mapValues]

theorem size_bne_zero (h : Ranks q t now) : (q.size != 0) = !t.isEmpty := by
  rw [h.size_eq]
  cases t <;> rfl

theorem entries_perm (h : Ranks q t now) : q.entries.Perm (Table.mapValues Prod.fst t) := by
  obtain ⟨ranked, hperm, -, hentries⟩ := h.ordered
  rw [hentries]
  exact hperm.map _

/-- No key is in the frontier twice. -/
theorem nodup_entries (h : Ranks q t now) : (q.entries.map (·.1)).Nodup := by
  have hkeys : (Table.mapValues Prod.fst t).keys.Nodup := by
    rw [Table.keys_mapValues]
    exact h.keys
  exact (h.entries_perm.map Prod.fst).nodup_iff.mpr hkeys

/-- Nothing comes out if no key is there. -/
theorem pop_nil (h : Ranks q [] now) : q.pop? = none := by
  obtain ⟨ranked, hperm, -, hentries⟩ := h.ordered
  obtain rfl := hperm.eq_nil
  rw [pop?, hentries]
  rfl

variable [DecidableEq κ]

theorem cost?_eq (h : Ranks q t now) (k : κ) : q.cost? k = (t.find? k).map (·.1) := by
  rw [cost?_eq_find?, Table.find?_perm h.entries_perm h.nodup_entries, Table.find?_mapValues]

/-- A key that is put in with the next moment. -/
theorem put (h : Ranks q t now) (k : κ) (cost : Cost) :
    Ranks ⟨place (k, cost) (q.entries.filter (·.1 != k))⟩ (t.put k (cost, now)) (now + 1) := by
  obtain ⟨ranked, hperm, hpairwise, hentries⟩ := h.ordered
  have hput := Table.put_perm h.keys k (cost, now)
  have hpast : ∀ e ∈ ranked.filter (·.1 != k), e.2.2 < now :=
    fun e he => h.past e (hperm.mem_iff.mp (List.mem_filter.mp he).1)
  obtain ⟨ranked', hperm', hpairwise', hplace⟩ :=
    exists_ranked_place (hpairwise.filter _) hpast k cost
  refine ⟨Table.nodup_keys_put h.keys k _, ?_, fun entry hentry => ?_, ranked', ?_, hpairwise', ?_⟩
  · rw [(hput.map _).nodup_iff, List.map_cons, List.nodup_cons]
    refine ⟨fun hmem => ?_, h.moments.sublist (List.filter_sublist.map _)⟩
    obtain ⟨e, he, hnow⟩ := List.mem_map.mp hmem
    have hlt := h.past e (List.mem_filter.mp he).1
    rw [hnow] at hlt
    exact Nat.lt_irrefl now hlt
  · rcases Table.mem_put hentry with rfl | hentry
    · exact Nat.lt_succ_self now
    · exact (h.past entry hentry).trans (Nat.lt_succ_self now)
  · exact hperm'.trans (((hperm.filter _).cons _).trans hput.symm)
  · rw [← hplace, hentries]
    simp [Table.mapValues, List.filter_map, Function.comp_def]

/-- The key that comes first by cost and moment comes out. -/
theorem pop (h : Ranks q t now) (hentry : entry ∈ t) (hleast : ∀ e ∈ t, rank entry ≤ rank e) :
    ∃ rest, q.pop? = some ((entry.1, entry.2.1), rest) ∧
      Ranks rest (t.filter (·.1 != entry.1)) now := by
  obtain ⟨ranked, hperm, hpairwise, hentries⟩ := h.ordered
  have hmem := hperm.mem_iff.mpr hentry
  cases ranked with
  | nil => cases hmem
  | cons first rest =>
      obtain ⟨hfirst, hrest⟩ := List.pairwise_cons.mp hpairwise
      obtain rfl : entry = first := (List.mem_cons.mp hmem).resolve_right fun hlater =>
        ((hfirst entry hlater).trans_le (hleast first (hperm.mem_iff.mp List.mem_cons_self))).false
      refine ⟨⟨Table.mapValues Prod.fst rest⟩, pop?_eq_some_iff.mpr hentries, ?_, ?_, ?_, rest,
        (Table.filter_ne_perm hperm.symm h.keys).symm, hrest, rfl⟩
      · exact h.keys.sublist (List.filter_sublist.map _)
      · exact h.moments.sublist (List.filter_sublist.map _)
      · exact fun e he => h.past e (List.mem_filter.mp he).1

end Ranks

end Frontier

end TrustWeb
