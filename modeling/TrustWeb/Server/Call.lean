import TrustWeb.Report
import TrustWeb.Server.Tool
import TrustWeb.Web.Arguments
import TrustWeb.Web.PathCheck

/-!
# Tool calls

A call is a tool with its arguments. Arguments that are missing have a default; those that a tool
does not know are ignored. A call is carried out on a web and gives a result as fields.
-/

namespace TrustWeb.Server

/-- A tool with its arguments. -/
inductive Call where
  | authenticate (fingerprint : Json) (subject : Subject) (byEmail : Bool)
  | identify (fingerprint : Json)
  | list
  | lookup (subject : Subject) (byEmail : Bool)
  | path (chain : List Json) (subject : Subject)
  | statistics
  deriving Repr

namespace Call

/-- The tool that is called. -/
def tool : Call → Tool
  | .authenticate .. => .authenticate
  | .identify _ => .identify
  | .list => .list
  | .lookup .. => .lookup
  | .path .. => .path
  | .statistics => .statistics

/-! ## Arguments -/

/-- Arguments by name. -/
abbrev Arguments := List (String × Json)

/-- The arguments that a value holds. -/
def argumentsOf : Json → Except Fault Arguments
  | .object fields => .ok fields
  | v => .error (.attribute v.kindName "get")

/-- An argument, or its default. -/
def argument (arguments : Arguments) (name : String) (default : Json) : Json :=
  (Table.find? arguments name).getD default

/-- The certificate named, empty text if none is. -/
def fingerprintArgument (arguments : Arguments) : Json :=
  argument arguments "fingerprint" (.text "")

/-- The user ID named, empty text if none is. -/
def subjectArgument (arguments : Arguments) : Subject :=
  Subject.ofJson (argument arguments "user_id" (.text ""))

/-- Whether user IDs are to be matched by e-mail address. -/
def emailArgument (arguments : Arguments) : Bool :=
  (argument arguments "email" (.bool false)).isTrue

/-- The call of a tool with the given arguments. -/
def make (t : Tool) (given : Json) : Except Fault Call :=
  match t with
  | .list => .ok .list
  | .statistics => .ok .statistics
  | .authenticate =>
    (argumentsOf given).map fun a =>
      .authenticate (fingerprintArgument a) (subjectArgument a) (emailArgument a)
  | .identify => (argumentsOf given).map fun a => .identify (fingerprintArgument a)
  | .lookup => (argumentsOf given).map fun a => .lookup (subjectArgument a) (emailArgument a)
  | .path => do
    let a ← argumentsOf given
    let chain ← (argument a "fingerprints" (.array [])).toItems
    pure (.path chain (subjectArgument a))

/-! ## Results -/

/-- The number of bindings, as a field. -/
def countField (l : Listing) : String × Json := ("count", .number l.bindings.length)

/-- A root as a value. -/
def rootJson (r : Root) : Json :=
  .object [("fingerprint", .text r.fingerprint.text), ("amount", .number r.amount)]

/-- The sizes of a web and how it is configured, as fields. -/
def statisticsOf (w : Web) : List (String × Json) :=
  w.network.statistics ++
    [("roots", .array (w.roots.toList.map rootJson)),
      ("trust_amount", .number w.wanted),
      ("certification_network", .bool (w.mode == .certification))]

/-- Checks the path over the given certificates, of which there has to be one at least. -/
def checkChain (w : Web) (chain : List Json) (subject : Subject) :
    Except Fault (List (String × Json)) :=
  match chain with
  | [] => .error .emptyPath
  | root :: others => do
    let root ← root.toFingerprint
    let others ← Json.toFingerprints others
    let c ← w.checkPath root others subject
    pure c.fields

/-- Carries out a call on a web. -/
def perform (w : Web) : Call → Except Fault (List (String × Json))
  | .authenticate fingerprint subject byEmail => do
    let f ← fingerprint.toFingerprint
    let v ← w.authenticate f subject byEmail
    let fields ← v.fields
    let text ← Report.verdict v
    pure (fields ++ [("text", .text text)])
  | .identify fingerprint => do
    let f ← fingerprint.toFingerprint
    let l ← w.identify f
    let text ← Report.listing l
    pure (l.fields ++ [("fingerprint", fingerprint), ("text", .text text)])
  | .list => w.list.map fun l => l.fields ++ [countField l]
  | .lookup subject byEmail => do
    let l ← w.lookup subject byEmail
    let text ← Report.listing l
    pure (l.fields ++ [("user_id", subject.toJson), countField l, ("text", .text text)])
  | .path chain subject => checkChain w chain subject
  | .statistics => .ok (statisticsOf w)

end Call

end TrustWeb.Server
