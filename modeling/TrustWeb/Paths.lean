import TrustWeb.Path

/-!
# Collections of paths

Paths with the amounts that they contribute, in the order in which they were recorded. No path is
recorded with more than it carries. A path book keeps paths that are still extended: its records
point to paths, so that a later extension of a recorded path shows in them.
-/

namespace TrustWeb

/-- A path and the amount that it contributes. -/
structure PathItem where
  path : Path
  amount : Int
  deriving DecidableEq, Repr

/-- The path as a value, with the amount that it contributes. -/
def PathItem.toJson (i : PathItem) : Json :=
  .object (i.path.fields ++ [("effective_amount", .number i.amount)])

/-- Paths in the order in which they were recorded. -/
structure Paths where
  items : List PathItem := []
  deriving DecidableEq, Repr

namespace Paths

/-- Records a path, with no more than it carries. -/
def add (ps : Paths) (p : Path) (amount : Int) : Except Fault Paths :=
  if amount > p.amount then .error (.pathCarriesLess amount p.amount)
  else .ok ⟨ps.items ++ [⟨p, amount⟩]⟩

/-- The sum of the contributions. -/
def amount (ps : Paths) : Int := ps.items.foldl (fun total i => total + i.amount) 0

/-- Whether no path is recorded. -/
def isEmpty (ps : Paths) : Bool := ps.items.isEmpty

/-- The recorded paths as values. -/
def itemsJson (ps : Paths) : Json := .array (ps.items.map (·.toJson))

/-- The collection as fields. -/
def fields (ps : Paths) : List (String × Json) :=
  [("amount", .number ps.amount), ("paths", ps.itemsJson)]

end Paths

/-- Paths that may still be extended, in the order in which they were started, and records of some
of them with amounts. -/
structure PathBook where
  paths : List Path := []
  records : List (Nat × Int) := []
  deriving DecidableEq, Repr

namespace PathBook

/-- Starts a path. -/
def start (b : PathBook) (root : Node) : PathBook :=
  { b with paths := b.paths ++ [{ root }] }

/-- Extends a path of the book. -/
def append (b : PathBook) (index : Nat) (s : Signature) (mode : Mode) : Except Fault PathBook :=
  match b.paths[index]? with
  | none => .ok b
  | some p => (p.append s mode).map fun q => { b with paths := b.paths.set index q }

/-- Records a path of the book, with no more than it carries now. -/
def record (b : PathBook) (index : Nat) (amount : Int) : Except Fault PathBook :=
  match b.paths[index]? with
  | none => .ok b
  | some p =>
    if amount > p.amount then .error (.pathCarriesLess amount p.amount)
    else .ok { b with records := b.records ++ [(index, amount)] }

/-- The recorded paths as they are now. -/
def recorded (b : PathBook) : Paths :=
  ⟨b.records.filterMap fun (index, amount) => b.paths[index]?.map fun p => ⟨p, amount⟩⟩

/-- The number of paths of the book that differ. -/
def distinctCount (b : PathBook) : Nat :=
  (b.paths.foldl (fun seen p => if seen.any (·.same p) then seen else p :: seen) []).length

end PathBook

end TrustWeb
