import TrustWeb.Json

/-!
# Tools

What callers of a server can ask for: the tools with their names, and with the descriptions of
themselves and of their arguments.
-/

namespace TrustWeb.Server

/-- The tools. -/
inductive Tool where
  | authenticate
  | identify
  | list
  | lookup
  | path
  | statistics
  deriving DecidableEq, Repr

/-- The kinds of arguments. -/
inductive ParameterKind where
  | text
  | flag
  | texts
  deriving DecidableEq, Repr

/-- An argument of a tool. -/
structure Parameter where
  name : String
  kind : ParameterKind
  summary : String
  isRequired : Bool := true

namespace Parameter

/-- The argument as described to callers. -/
def schema (p : Parameter) : Json :=
  .object
    ((match p.kind with
      | .text => [("type", .text "string")]
      | .flag => [("type", .text "boolean")]
      | .texts => [("type", .text "array"), ("items", .object [("type", .text "string")])]) ++
      [("description", .text p.summary)])

end Parameter

namespace Tool

/-- The tools in the order in which callers are told of them. -/
def all : List Tool := [.authenticate, .identify, .list, .lookup, .path, .statistics]

/-- The name that a tool is called by. -/
def name : Tool → String
  | .authenticate => "wot_authenticate"
  | .identify => "wot_identify"
  | .list => "wot_list"
  | .lookup => "wot_lookup"
  | .path => "wot_path"
  | .statistics => "wot_stats"

/-- The tool with a name. -/
def ofName? (name : String) : Option Tool := all.find? (·.name == name)

/-- What a tool does, as told to callers. -/
def summary : Tool → String
  | .authenticate =>
    "Authenticate a binding between a certificate fingerprint and a user ID. " ++
      "Returns the trust amount, the paths from the trust roots, and an sq-wot style rendering."
  | .identify => "List the user IDs of a certificate that can be authenticated."
  | .list => "List every binding in the network that can be authenticated."
  | .lookup => "Find and authenticate the certificates carrying a user ID."
  | .path =>
    "Check whether the given chain of certificates authenticates a user ID on the last one."
  | .statistics =>
    "Get network statistics: certificate, edge and signature counts, trust roots, reference time."

/-- The argument that names a certificate. -/
def fingerprintParameter : Parameter :=
  ⟨"fingerprint", .text, "Fingerprint of the certificate", true⟩

/-- The arguments that name a user ID or an e-mail address. -/
def userIdParameters : List Parameter :=
  [⟨"user_id", .text, "User ID, or an e-mail address if email is true", true⟩,
    ⟨"email", .flag, "Match every user ID containing <user_id>", false⟩]

/-- The arguments of a tool. -/
def parameters : Tool → List Parameter
  | .authenticate => fingerprintParameter :: userIdParameters
  | .identify => [fingerprintParameter]
  | .list => []
  | .lookup => userIdParameters
  | .path =>
    [⟨"fingerprints", .texts, "Fingerprints from the root to the target", true⟩,
      ⟨"user_id", .text, "User ID bound to the target", true⟩]
  | .statistics => []

/-- The arguments of a tool as described to callers. -/
def inputSchema (t : Tool) : Json :=
  let required := (t.parameters.filter (·.isRequired)).map fun p => Json.text p.name
  .object
    ([("type", .text "object"),
      ("properties", .object (t.parameters.map fun p => (p.name, p.schema)))] ++
      (if required.isEmpty then [] else [("required", .array required)]))

/-- A tool as described to callers. -/
def description (t : Tool) : Json :=
  .object
    [("name", .text t.name), ("description", .text t.summary), ("inputSchema", t.inputSchema)]

end Tool

end TrustWeb.Server
