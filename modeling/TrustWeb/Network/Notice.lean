import TrustWeb.Fingerprint

/-!
# Notices

What is reported, without stopping, while a network is put together.
-/

namespace TrustWeb

/-- Something that was left out of a network. -/
inductive Notice where
  /-- A certificate that could not be validated. -/
  | unusable (certificate : Fingerprint)
  /-- A second certificate with a fingerprint that is present. -/
  | duplicate (certificate : Fingerprint)
  /-- A signature that was rejected, with the reason. -/
  | rejected (issuer target : Fingerprint) (userId : Option String) (reason : String)
  deriving DecidableEq, Repr

namespace Notice

/-- The wording of a notice. -/
def message : Notice → String
  | .unusable f => "Skipping unusable certificate " ++ f.text
  | .duplicate f => "Duplicate certificate " ++ f.text ++ ", keeping the first one"
  | .rejected issuer target userId reason =>
    "Cannot verify signature by " ++ issuer.text ++ " on cert of " ++ target.text ++
      (match userId with
        | none => ""
        | some u => " for '" ++ u ++ "'") ++ ": " ++ reason

end Notice

end TrustWeb
