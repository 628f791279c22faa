import TrustWeb.Json.Printer
import TrustWeb.Json.Reader
import TrustWeb.Server.Call
import TrustWeb.Server.Configuration

/-!
# Tool servers

A server answers requests that come one per line: it tells which tools there are and carries out
calls of them on its network. The network is read at the first call that needs it and kept; one
that could not be read is tried again at the next call. A line that is no JSON is passed over, and
one that the server cannot deal with ends its run.
-/

namespace TrustWeb

/-- A server: its configuration, and its network once it is known. -/
structure Server where
  configuration : Server.Configuration
  description : Option Description := none
  deriving Repr

namespace Server

/-- What a server may look at while it answers: its network file, and the moment at which it is
asked. -/
structure Surroundings where
  file : FileContent
  now : Moment

/-! ## Calls -/

/-- Why a call has no result. -/
inductive CallFault where
  /-- No network is configured. -/
  | noNetwork
  | file (name : String) (fault : FileFault)
  | description (fault : DescriptionFault)
  | roots (fault : Fault)
  | unknownTool (name : Json)
  | failed (tool : Tool) (fault : Fault)
  deriving Repr

/-- A message as the only field. -/
def errorField (message : String) : List (String × Json) := [("error", .text message)]

/-- A fault as the caller is told of it. -/
def CallFault.fields : CallFault → List (String × Json)
  | .noNetwork => errorField "No network configured. Set WOT_NETWORK_FILE."
  | .file name fault => errorField ("Failed to read network file: " ++ fault.message name)
  | .description fault =>
    let position (part : Description.Position → Nat) : Json :=
      match fault.position? with
      | some p => .number (part p)
      | none => .null
    errorField "NetworkParseError" ++
      [("message", .text fault.message), ("line", position (·.line)),
        ("column", position (·.column))]
  | .roots fault => errorField ("Invalid WOT_TRUST_ROOTS: " ++ fault.message)
  | .unknownTool name => errorField ("Unknown tool: " ++ name.shown)
  | .failed _ .emptyPath => errorField Fault.emptyPath.message
  | .failed tool fault =>
    errorField ("Tool " ++ tool.name ++ " failed: " ++ fault.message) ++
      [("tool", .text tool.name)]

/-- The description of the network: the one already known, or else that of the network file. -/
def currentDescription (s : Server) (around : Surroundings) (tool : Tool) :
    Except CallFault Description :=
  match s.description, s.configuration.networkFile with
  | some d, _ => .ok d
  | none, none => .error .noNetwork
  | none, some name =>
    match around.file with
    | .error fault => .error (.file name fault)
    | .ok content =>
      match Description.read around.now (textOfContent content) with
      | .ok d => .ok d
      | .error (.numeralLength digits) => .error (.failed tool (.numeralLength digits))
      | .error fault => .error (.description fault)

/-- The web of a description. A root named by the configuration too has the amount given there. -/
def webOf (c : Configuration) (d : Description) : Except Fault Web :=
  (Roots.read c.trustRoots).map fun extra =>
    { network := d.network
      roots := Roots.ofList (d.roots.toList ++ extra.toList)
      mode := c.mode
      wanted := c.wanted
      maxSearches := none
      wanted_pos := c.wanted_pos }

/-- The result of a call, or why there is none. -/
abbrev CallResult := Except CallFault (List (String × Json))

/-- Carries out a call on the network of the server, which is kept from then on. -/
def carryOut (s : Server) (around : Surroundings) (c : Call) : Server × CallResult :=
  match s.currentDescription around c.tool with
  | .error fault => (s, .error fault)
  | .ok d =>
    let result :=
      match webOf s.configuration d with
      | .error fault => .error (.roots fault)
      | .ok w =>
        match c.perform w with
        | .error fault => .error (.failed c.tool fault)
        | .ok fields => .ok fields
    ({ s with description := some d }, result)

/-- The tool that a value names. -/
def namedTool? : Json → Option Tool
  | .text name => Tool.ofName? name
  | _ => none

/-- Calls the tool that a value names. -/
def call (s : Server) (around : Surroundings) (name arguments : Json) : Server × CallResult :=
  match namedTool? name with
  | none => (s, .error (.unknownTool name))
  | some tool =>
    match Call.make tool arguments with
    | .error fault => (s, .error (.failed tool fault))
    | .ok c => s.carryOut around c

/-! ## Messages -/

/-- The version of the protocol that the server keeps to. -/
def protocolVersion : String := "2024-11-05"

/-- A message to the sender of a request. -/
def message (id : Json) (content : String × Json) : Json :=
  .object [("jsonrpc", .text "2.0"), ("id", id), content]

/-- What the server says of itself. -/
def introduction : Json :=
  .object
    [("protocolVersion", .text protocolVersion),
      ("capabilities", .object [("tools", .object [])]),
      ("serverInfo", .object [("name", .text "pgpwot"), ("version", .text "0.1.0")])]

/-- The fields of a call's result, or of what the caller is told instead. -/
def fieldsOf : CallResult → List (String × Json)
  | .ok fields => fields
  | .error fault => fault.fields

/-- The result of a call as a value: its fields as text, and whether they tell of an error. -/
def resultJson (result : CallResult) : Json :=
  let fields := fieldsOf result
  .object
    [("content", .array
        [.object [("type", .text "text"), ("text", .text (Json.indented (.object fields)))]]),
      ("isError", .bool (Table.contains fields "error"))]

/-- What is answered to a request for something else. -/
def unknownMethod (method : Json) : Json :=
  .object
    [("code", .number (-32601)), ("message", .text ("Method not found: " ++ method.shown))]

/-- A field of a request, or its default. -/
def requestField (request : List (String × Json)) (name : String) (default : Json) : Json :=
  (Table.find? request name).getD default

/-- What a request asks for. -/
def methodOf (request : List (String × Json)) : Json := requestField request "method" (.text "")

/-- What the sender of a request knows it by. -/
def idOf (request : List (String × Json)) : Json := requestField request "id" .null

/-- The parameters of a request. -/
def parametersOf (request : List (String × Json)) : Json :=
  requestField request "params" (.object [])

/-- The name and the arguments in the parameters of a call. A name that is a list or an object
cannot be looked up. -/
def callParameters (params : Json) : Except Fault (Json × Json) :=
  match params with
  | .object fields =>
    match requestField fields "name" (.text "") with
    | .array items => .error (.lookedUpValue (Json.array items).kindName)
    | .object members => .error (.lookedUpValue (Json.object members).kindName)
    | name => .ok (name, requestField fields "arguments" (.object []))
  | v => .error (.attribute v.kindName "get")

/-- Answers a request with the given fields; a notification has no answer. -/
def answer (s : Server) (around : Surroundings) (request : List (String × Json)) :
    Server × Except Fault (Option Json) :=
  let id := idOf request
  match methodOf request with
  | .text "initialize" => (s, .ok (some (message id ("result", introduction))))
  | .text "tools/list" =>
    let tools := Json.object [("tools", .array (Tool.all.map (·.description)))]
    (s, .ok (some (message id ("result", tools))))
  | .text "tools/call" =>
    match callParameters (parametersOf request) with
    | .error fault => (s, .error fault)
    | .ok (name, arguments) =>
      let (s', result) := s.call around name arguments
      (s', .ok (some (message id ("result", resultJson result))))
  | .text "notifications/initialized" => (s, .ok none)
  | method => (s, .ok (some (message id ("error", unknownMethod method))))

/-- Answers a line. -/
def respond (s : Server) (around : Surroundings) (line : String) :
    Server × Except Fault (Option Json) :=
  match Json.parse line with
  | .error .malformed => (s, .ok none)
  | .error (.numeralLength digits) => (s, .error (.numeralLength digits))
  | .ok (.object request) => s.answer around request
  | .ok v => (s, .error (.attribute v.kindName "get"))

/-! ## Runs -/

/-- A line of the input, and what the server may look at when it comes to it. -/
structure Turn where
  around : Surroundings
  line : String

/-- What comes of some lines: the server afterwards and its answers, in order. If it stopped at a
line that cannot be dealt with, also the fault, and the lines that it did not come to. -/
structure Run where
  server : Server
  answers : List Json := []
  unread : List Turn := []
  fault : Option Fault := none

/-- The lines that are written, one for each answer. -/
def Run.written (r : Run) : List String := r.answers.map (·.line)

/-- Answers lines until there are none left, or one cannot be dealt with. -/
def run (s : Server) : List Turn → Run
  | [] => { server := s }
  | t :: rest =>
    match s.respond t.around t.line with
    | (s', .error fault) => { server := s', unread := rest, fault := some fault }
    | (s', .ok reply) =>
      let r := run s' rest
      { r with answers := reply.toList ++ r.answers }

end Server

end TrustWeb
