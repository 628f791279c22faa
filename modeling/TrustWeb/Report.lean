import TrustWeb.Web

/-!
# Reports

Bindings as text: a heading with the amount of trust, then each path with one line per certificate
and one per signature.
-/

namespace TrustWeb.Report

/-- What is reported when nothing was authenticated. -/
def noPaths : String := "Could not authenticate any paths."

/-- How well an amount authenticates a binding. -/
def level (amount : Int) : String :=
  if amount ≥ 240 then "doubly"
  else if amount ≥ 120 then "fully"
  else if amount ≥ 40 then "partially"
  else if amount > 0 then "marginally"
  else "not"

/-- How far a signature certifies its datum. -/
def degree (amount : Int) : String :=
  if amount ≥ fullTrust then "certified"
  else
    "partially certified (amount: " ++ toString amount ++ " of " ++ toString fullTrust ++ ")"

/-- What a signature makes of its target, if it delegates. -/
def introducer (s : Signature) : String :=
  if s.depth.aboveNumber 0 then
    let trusted :=
      if s.trust < fullTrust then
        "partially trusted (" ++ toString s.trust ++ " of " ++ toString fullTrust ++ ") "
      else "fully trusted "
    let role := if s.depth.isNumber 1 then "introducer" else "meta-introducer"
    " as a " ++ trusted ++ role ++ " (depth: " ++ s.depth.text ++ ")"
  else ""

/-- The user ID shown for the target of a signature: the one signed, unless it is empty, or the
first one of the target. -/
def shownUserId? (s : Signature) : Option String :=
  match s.userId with
  | some userId => if userId != "" then some userId else s.target.primaryUserId?
  | none => s.target.primaryUserId?

/-- A user ID after a fingerprint: in quotation marks, and in parentheses unless it is the one that
the path is about. -/
def userIdSuffix (bare : Bool) : Option String → String
  | none => ""
  | some userId => if bare then " \"" ++ userId ++ "\"" else " (\"" ++ userId ++ "\")"

/-- The two lines for a signature: what it says, and its target. -/
def signatureLines (indent : String) (isLast : Bool) (s : Signature) : List String :=
  let expiry :=
    match s.expires with
    | none => ""
    | some moment => " (expiry: " ++ moment.dateText ++ ")"
  [indent ++ "│   " ++ degree s.trust ++ " the following " ++
      (if isLast then "binding" else "certificate") ++ " on " ++ s.created.dateText ++ expiry ++
      introducer s,
    indent ++ (if isLast then "└" else "├") ++ " " ++ s.target.fingerprint.text ++
      userIdSuffix isLast (shownUserId? s)]

/-- The lines for the signatures of a path. -/
def signaturesLines (indent : String) : List Signature → List String
  | [] => []
  | [s] => signatureLines indent true s
  | s :: rest => signatureLines indent false s ++ signaturesLines indent rest

/-- The lines for a path: its root, then its signatures. -/
def pathLines (indent : String) (p : Path) : List String :=
  (indent ++ "◯ " ++ p.root.fingerprint.text ++
      userIdSuffix (p.root.same p.target) p.root.primaryUserId?) ::
    signaturesLines indent p.signatures

/-- The lines for the paths from number `index` on, of `count` in all, with a heading for each and
a blank line between them. -/
def numberedLines (count index : Nat) : List PathItem → List String
  | [] => []
  | item :: rest =>
    ("  Path #" ++ toString index ++ " of " ++ toString count ++ ", trust amount " ++
        toString item.path.amount ++ ":") ::
      pathLines "    " item.path ++
      (if rest.isEmpty then [] else "" :: numberedLines count (index + 1) rest)

/-- The lines for all paths of a binding; a single one has no heading. -/
def pathsLines : List PathItem → List String
  | [item] => pathLines "  " item.path
  | items => numberedLines items.length 1 items

/-- A binding with all its paths. It is ticked if it has the least amount; the percentage is of the
reference. -/
def binding (b : Binding) (least reference : Int) : Except Fault String :=
  (b.percentage reference).map fun percentage =>
    let heading :=
      (if b.amount ≥ least then "[✓] " else "[ ] ") ++ b.fingerprint.text ++ " " ++
        b.subject.shown ++ ": " ++ level b.amount ++ " authenticated (" ++
        toString percentage ++ "%)"
    String.intercalate "\n" (heading :: pathsLines b.paths.items) ++ "\n"

/-- Bindings, separated by blank lines. -/
def bindings (bs : List Binding) (least reference : Int) : Except Fault String :=
  (bs.mapM fun b => binding b least reference).map fun texts =>
    if texts.isEmpty then noPaths ++ "\n" else String.intercalate "\n" texts

/-- The outcome of authenticating one binding. -/
def verdict (v : Verdict) : Except Fault String :=
  if v.binding.paths.isEmpty then .ok (noPaths ++ "\n")
  else binding v.binding v.wanted v.wanted

/-- A list of bindings. -/
def listing (l : Listing) : Except Fault String := bindings l.bindings l.wanted l.wanted

end TrustWeb.Report
