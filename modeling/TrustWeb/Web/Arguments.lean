import TrustWeb.Fault
import TrustWeb.Json

/-!
# Arguments

Values that callers pass as certificates and as lists of certificates.
-/

namespace TrustWeb.Json

/-- The fingerprint that a value names, which has to be text. -/
def toFingerprint : Json → Except Fault Fingerprint
  | .text s => .ok (Fingerprint.ofText s)
  | v => .error (.attribute v.kindName "strip")

/-- The items of a value: those of an array, the names of an object's fields, or the characters of
text. -/
def toItems : Json → Except Fault (List Json)
  | .array items => .ok items
  | .object fields => .ok (fields.map fun f => .text f.1)
  | .text s => .ok (s.toList.map fun c => .text (String.ofList [c]))
  | v => .error (.items v.kindName)

/-- The fingerprints that values name. -/
def toFingerprints (items : List Json) : Except Fault (List Fingerprint) :=
  items.mapM toFingerprint

end TrustWeb.Json
