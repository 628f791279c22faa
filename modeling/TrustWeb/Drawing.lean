import TrustWeb.Binding

/-!
# Drawings

The paths of some bindings, merged into one graph in which every certificate and every signature is
drawn once, in order of first appearance. The graph is written in the languages of two drawing
tools.
-/

namespace TrustWeb

/-- A graph of certificates and signatures. -/
structure Drawing where
  nodes : List Node
  signatures : List Signature
  /-- The certificates that a path starts at. -/
  roots : List Fingerprint
  /-- The certificates that were authenticated. -/
  targets : List Fingerprint
  deriving Repr

namespace Drawing

/-- The elements whose key is not among those of earlier ones. -/
def firstBy {α β : Type} [DecidableEq β] (key : α → β) (seen : List β) : List α → List α
  | [] => []
  | x :: rest =>
    if key x ∈ seen then firstBy key seen rest else x :: firstBy key (key x :: seen) rest

/-- What tells drawn signatures apart: their certificates and their datum. -/
def signatureKey (s : Signature) : EdgeKey × Option String := (s.endpoints, s.userId)

/-- The graph of the paths of some bindings. -/
def ofBindings (bindings : List Binding) : Drawing :=
  let paths := bindings.flatMap fun b => b.paths.items.map (·.path)
  { nodes := firstBy (·.fingerprint) [] (paths.flatMap (·.certificates))
    signatures := firstBy signatureKey [] (paths.flatMap (·.signatures))
    roots := firstBy id [] (paths.map (·.root.fingerprint))
    targets := firstBy id [] (bindings.map (·.fingerprint)) }

/-- What is written at a signature. -/
def label (s : Signature) : String :=
  match s.userId with
  | none => "delegates (" ++ toString s.trust ++ ", depth " ++ s.depth.text ++ ")"
  | some userId =>
    if s.depth.aboveNumber 0 then
      "certifies \"" ++ userId ++ "\" and delegates (" ++ toString s.trust ++ ", depth " ++
        s.depth.text ++ ")"
    else "certifies \"" ++ userId ++ "\" (" ++ toString s.trust ++ ")"

/-! ## Directed graphs in quoted strings -/

/-- One character of a quoted string. -/
def escapedChar (c : Char) : List Char :=
  if c == '\\' then ['\\', '\\'] else if c == '\x22' then ['\\', '\x22'] else [c]

/-- Text inside a quoted string. -/
def escaped (s : String) : String := String.ofList (s.toList.flatMap escapedChar)

/-- The line for a certificate: bold for roots, with two borders for targets. -/
def nodeLine (d : Drawing) (n : Node) : String :=
  let f := n.fingerprint
  let name :=
    match n.primaryUserId? with
    | none => f.text
    | some userId => f.text ++ "\\n" ++ escaped userId
  let attributes :=
    ["label=\"" ++ name ++ "\""] ++
    (if d.roots.contains f then ["style=bold"] else []) ++
    (if d.targets.contains f then ["peripheries=2"] else [])
  "    \"" ++ f.text ++ "\" [" ++ String.intercalate ", " attributes ++ "];"

/-- The line for a signature. -/
def signatureLine (s : Signature) : String :=
  "    \"" ++ s.issuer.fingerprint.text ++ "\" -> \"" ++ s.target.fingerprint.text ++
    "\" [label=\"" ++ escaped (label s) ++ "\"];"

/-- The graph as a directed graph with a name and a direction. -/
def digraph (d : Drawing) (name direction : String) : String :=
  String.intercalate "\n"
    (["digraph " ++ name ++ " \x7b", "    rankdir=" ++ direction ++ ";",
        "    node [shape=box];"] ++
      d.nodes.map d.nodeLine ++ d.signatures.map signatureLine ++ ["\x7d"])

/-! ## Flowcharts -/

/-- The variable of a certificate: its place among the certificates drawn. -/
def identifier? (d : Drawing) (f : Fingerprint) : Option String :=
  (d.nodes.findIdx? (·.fingerprint == f)).map fun i => "n" ++ toString i

/-- One character of a certificate's label. -/
def plainChar (c : Char) : List Char :=
  if c == '\x22' then ['\x27']
  else if c == '<' then "&lt;".toList
  else if c == '>' then "&gt;".toList
  else [c]

/-- The line for a certificate with a variable: the start of its fingerprint and its first user
ID. -/
def boxLine (v : String) (n : Node) : String :=
  let short := String.ofList (n.fingerprint.text.toList.take 16)
  let name :=
    match n.primaryUserId? with
    | none => short
    | some userId => short ++ "<br/>" ++ String.ofList (userId.toList.flatMap plainChar)
  "    " ++ v ++ "[\"" ++ name ++ "\"]"

/-- The line for a signature between two variables. -/
def arrowLine (issuer target : String) (s : Signature) : String :=
  let text := String.ofList ((label s).toList.map fun c => if c == '\x22' then '\x27' else c)
  "    " ++ issuer ++ " -->|\"" ++ text ++ "\"| " ++ target

/-- The line that colours a root. -/
def styleLine (v : String) : String := "    style " ++ v ++ " fill:#e8f5e9"

/-- The line for a certificate, if that is drawn. -/
def boxLine? (d : Drawing) (n : Node) : Option String := do
  return boxLine (← d.identifier? n.fingerprint) n

/-- The line for a signature, if its certificates are drawn. -/
def arrowLine? (d : Drawing) (s : Signature) : Option String := do
  return arrowLine (← d.identifier? s.issuer.fingerprint) (← d.identifier? s.target.fingerprint) s

/-- The line that colours a root, if that is drawn. -/
def styleLine? (d : Drawing) (f : Fingerprint) : Option String := do
  return styleLine (← d.identifier? f)

/-- The graph as a flowchart with a direction, if everything that it is about is drawn. -/
def flowchart? (d : Drawing) (direction : String) : Option String := do
  let boxes ← d.nodes.mapM d.boxLine?
  let arrows ← d.signatures.mapM d.arrowLine?
  let styles ← (Fingerprint.sorted d.roots).mapM d.styleLine?
  return String.intercalate "\n"
    (["flowchart " ++ direction] ++ boxes ++ [""] ++ arrows ++
      if d.roots.isEmpty then [] else "" :: styles)

/-- The graph as a flowchart with a direction; the graphs of bindings always have one. -/
def flowchart (d : Drawing) (direction : String) : String := (d.flowchart? direction).getD ""

end Drawing

end TrustWeb
