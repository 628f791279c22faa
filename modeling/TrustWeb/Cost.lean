/-!
# Costs

The cost of reaching the target of a search from a certificate. Fewer hops are cheaper; of equally
many hops, those that carry more trust are cheaper.
-/

namespace TrustWeb

/-- The number of hops to the target and the least amount on them. -/
structure Cost where
  length : Int
  amount : Int
  deriving DecidableEq, Repr

namespace Cost

/-- Whether the first cost is the cheaper one. -/
def cheaper (a b : Cost) : Bool :=
  a.length < b.length || (a.length == b.length && a.amount > b.amount)

/-- The cost with one more hop in front. -/
def extend (c : Cost) (amount : Int) : Cost := ⟨c.length + 1, min amount c.amount⟩

theorem cheaper_iff {a b : Cost} :
    a.cheaper b = true ↔ a.length < b.length ∨ a.length = b.length ∧ b.amount < a.amount := by
  simp [cheaper]

/-- The cost as text. -/
def text (c : Cost) : String := "length " ++ toString c.length ++ ", amount " ++ toString c.amount

end Cost

end TrustWeb
