import TrustWeb.Cost

/-!
# Frontiers

The frontier of a search holds keys with their costs, each key once. The cheapest key comes out
first; of equally cheap ones, the one that got its cost first. The entries stand in that order.
-/

namespace TrustWeb

/-- The keys that a search has still to look at, in the order in which they come out. -/
structure Frontier (κ : Type) where
  entries : List (κ × Cost) := []
  deriving DecidableEq, Repr

namespace Frontier

variable {κ : Type}

/-- Entries with one more, behind all that are not dearer. -/
def place (entry : κ × Cost) : List (κ × Cost) → List (κ × Cost)
  | [] => [entry]
  | other :: rest =>
    if entry.2.cheaper other.2 then entry :: other :: rest else other :: place entry rest

theorem place_perm (entry : κ × Cost) (entries : List (κ × Cost)) :
    (place entry entries).Perm (entry :: entries) := by
  induction entries with
  | nil => exact .refl _
  | cons other rest ih =>
    simp only [place]
    split
    · exact .refl _
    · exact (ih.cons other).trans (.swap entry other rest)

theorem pairwise_place {entry : κ × Cost} {entries : List (κ × Cost)}
    (h : entries.Pairwise fun a b => a.2.length ≤ b.2.length) :
    (place entry entries).Pairwise fun a b => a.2.length ≤ b.2.length := by
  induction entries with
  | nil => simp [place]
  | cons other rest ih =>
    obtain ⟨hother, hrest⟩ := List.pairwise_cons.mp h
    simp only [place]
    split
    · next hc =>
      refine List.pairwise_cons.mpr ⟨fun b hb => ?_, h⟩
      have hle : entry.2.length ≤ other.2.length := by
        rcases Cost.cheaper_iff.mp hc with hlt | ⟨heq, -⟩ <;> omega
      rcases List.mem_cons.mp hb with rfl | hb
      · exact hle
      · exact Int.le_trans hle (hother b hb)
    · next hc =>
      refine List.pairwise_cons.mpr ⟨fun b hb => ?_, ih hrest⟩
      rcases List.mem_cons.mp ((place_perm entry rest).mem_iff.mp hb) with rfl | hb
      · rw [Cost.cheaper_iff] at hc
        omega
      · exact hother b hb

variable [DecidableEq κ]

/-- The cost of a key in the frontier. -/
def cost? (q : Frontier κ) (k : κ) : Option Cost := (q.entries.find? (·.1 == k)).map (·.2)

/-- Puts a key in; a key that is present changes its cost only for a cheaper one. -/
def insert (q : Frontier κ) (k : κ) (cost : Cost) : Frontier κ :=
  match q.cost? k with
  | none => ⟨place (k, cost) q.entries⟩
  | some present =>
    if cost.cheaper present then ⟨place (k, cost) (q.entries.filter (·.1 != k))⟩ else q

/-- Takes out the cheapest key. -/
def pop? (q : Frontier κ) : Option ((κ × Cost) × Frontier κ) :=
  match q.entries with
  | [] => none
  | entry :: rest => some (entry, ⟨rest⟩)

/-- The number of keys. -/
def size (q : Frontier κ) : Nat := q.entries.length

omit [DecidableEq κ] in
theorem pop?_eq_some_iff {q rest : Frontier κ} {entry : κ × Cost} :
    q.pop? = some (entry, rest) ↔ q.entries = entry :: rest.entries := by
  obtain ⟨entries⟩ := q
  obtain ⟨others⟩ := rest
  cases entries <;> simp [pop?]

theorem insert_of_not_mem {q : Frontier κ} {k : κ} (h : k ∉ q.entries.map (·.1)) (cost : Cost) :
    q.insert k cost = ⟨place (k, cost) q.entries⟩ := by
  have hnone : q.entries.find? (·.1 == k) = none := by
    simp only [List.find?_eq_none, beq_iff_eq]
    exact fun e he hk => h (List.mem_map.mpr ⟨e, he, hk⟩)
  simp [insert, cost?, hnone]

end Frontier

end TrustWeb
