import TrustWeb.Fault
import TrustWeb.Signature
import TrustWeb.Text.Numeral

/-!
# Trust roots

The certificates that authentication starts from, each with an amount of trust. A root of full
trust or more is trusted outright; another one passes on no more than its amount.
-/

namespace TrustWeb

/-- A certificate trusted from the start. -/
structure Root where
  fingerprint : Fingerprint
  amount : Int := fullTrust
  deriving DecidableEq, Repr

namespace Root

/-- Whether the root is trusted outright. -/
def isFullyTrusted (r : Root) : Bool := r.amount ≥ fullTrust

/-- The fault of a failed reading of a numeral. -/
def faultOfNumeral : Text.NumeralError → Fault
  | .malformed text => .numeral text
  | .tooLong digits => .numeralLength digits

/-- Reads a root written as a fingerprint, or as a fingerprint, a colon and an amount. -/
def read (s : String) : Except Fault Root :=
  let cs := (Text.strip s).toList
  let fingerprint := Fingerprint.ofText (String.ofList (cs.takeWhile (· != ':')))
  match cs.dropWhile (· != ':') with
  | [] | [_] => .ok { fingerprint }
  | _ :: amount =>
    match Text.readInt (String.ofList amount) with
    | .ok n => .ok ⟨fingerprint, n⟩
    | .error e => .error (faultOfNumeral e)

/-- The root as text. -/
def text (r : Root) : String := r.fingerprint.text ++ " [" ++ toString r.amount ++ "]"

end Root

/-- The amounts of the roots, by fingerprint. -/
structure Roots where
  amounts : Table Fingerprint Int := []
  deriving DecidableEq, Repr

namespace Roots

/-- The given roots; of several with one fingerprint the last one counts. -/
def ofList (roots : List Root) : Roots :=
  ⟨Table.ofList (roots.map fun r => (r.fingerprint, r.amount))⟩

/-- Reads a list of roots separated by commas; blank entries are skipped. -/
def read (s : String) : Except Fault Roots :=
  let entries := (s.toList.splitOn ',').map String.ofList
  (entries.filter fun e => Text.strip e != "").mapM Root.read |>.map ofList

/-- The amount of a root. -/
def amount? (r : Roots) (f : Fingerprint) : Option Int := r.amounts.find? f

/-- Whether a certificate is a root. -/
def isRoot (r : Roots) (f : Fingerprint) : Bool := (r.amount? f).isSome

/-- Whether a certificate is a root that is trusted outright. -/
def isFullyTrusted (r : Roots) (f : Fingerprint) : Bool :=
  match r.amount? f with
  | some amount => (Root.mk f amount).isFullyTrusted
  | none => false

/-- Whether there is no root. -/
def isEmpty (r : Roots) : Bool := r.amounts.isEmpty

/-- The number of roots. -/
def size (r : Roots) : Nat := r.amounts.length

/-- The fingerprints of the roots, in ascending order. -/
def fingerprints (r : Roots) : List Fingerprint := Fingerprint.sorted r.amounts.keys

/-- The roots, by ascending fingerprint. -/
def toList (r : Roots) : List Root :=
  r.fingerprints.filterMap fun f => (r.amount? f).map fun amount => ⟨f, amount⟩

/-- The fingerprints as text. -/
def text (r : Roots) : String := String.intercalate ", " (r.fingerprints.map (·.text))

end Roots

end TrustWeb
