import TrustWeb.Authentication

/-!
# Bindings

A binding is a certificate together with a user ID, and the paths that authenticate it.
-/

namespace TrustWeb

/-- A certificate, what was named as its user ID, and the paths that authenticate them. -/
structure Binding where
  fingerprint : Fingerprint
  subject : Subject
  paths : Paths := {}
  deriving Repr

namespace Binding

/-- The amount of trust collected for the binding. -/
def amount (b : Binding) : Int := b.paths.amount

/-- The amount in percent of a reference, rounded down. -/
def percentage (b : Binding) (reference : Int) : Except Fault Int :=
  if reference == 0 then .error .zeroReference else .ok (Int.fdiv (b.amount * 100) reference)

/-- The binding as fields. -/
def fields (b : Binding) : List (String × Json) :=
  [("fingerprint", .text b.fingerprint.text),
    ("user_id", b.subject.toJson),
    ("amount", .number b.amount),
    ("paths", b.paths.itemsJson)]

/-- The binding as a value. -/
def toJson (b : Binding) : Json := .object b.fields

end Binding

/-- The outcome of authenticating one binding. -/
structure Verdict where
  binding : Binding
  /-- The amount that was wanted. -/
  wanted : Int
  deriving Repr

namespace Verdict

/-- Whether the wanted amount was reached. -/
def isAcceptable (v : Verdict) : Bool := v.binding.amount ≥ v.wanted

/-- The outcome as fields. -/
def fields (v : Verdict) : Except Fault (List (String × Json)) :=
  (v.binding.percentage v.wanted).map fun percentage =>
    v.binding.fields ++
      [("target_amount", .number v.wanted),
        ("percentage", .number percentage),
        ("acceptable", .bool v.isAcceptable)]

end Verdict

/-- Bindings, each authenticated against the same wanted amount. -/
structure Listing where
  bindings : List Binding
  wanted : Int
  deriving Repr

namespace Listing

/-- The bindings as fields. -/
def fields (l : Listing) : List (String × Json) :=
  [("target_amount", .number l.wanted), ("bindings", .array (l.bindings.map (·.toJson)))]

end Listing

end TrustWeb
