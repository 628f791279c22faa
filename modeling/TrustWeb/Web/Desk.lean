import TrustWeb.Web.Arguments
import TrustWeb.Web.PathCheck

/-!
# Request desks

Requests are queued, processed in order, and their results queued for whoever asked. A request that
fails is used up and stops the processing; the requests after it stay queued.
-/

namespace TrustWeb

/-- A queued request. -/
structure Request where
  id : Json
  operation : Json
  arguments : Json
  deriving Repr

/-- The result of a request. -/
inductive Answer where
  | verdict (v : Verdict)
  | listing (l : Listing)
  | pathCheck (c : PathCheck)
  deriving Repr

namespace Answer

/-- The result as fields. -/
def fields : Answer → Except Fault (List (String × Json))
  | .verdict v => v.fields
  | .listing l => .ok l.fields
  | .pathCheck c => .ok c.fields

end Answer

/-- Requests that wait and results that wait, each in order of arrival. -/
structure Desk where
  requests : List Request := []
  results : List (Json × Answer) := []
  deriving Repr

namespace Request

/-- The named arguments; a value that counts as false stands for none. -/
def named (q : Request) : Except Fault (List (String × Json)) :=
  match q.arguments with
  | .object fields => .ok fields
  | v => if v.isTrue then .error .arguments else .ok []

/-- Whether the names are among those known, and all those needed are present. -/
def fits (names needed known : List String) : Bool :=
  names.all known.contains && needed.all names.contains

/-- The value of an argument. -/
def value (arguments : List (String × Json)) (name : String) : Json :=
  (Table.find? arguments name).getD .null

/-- The operations with the arguments that they need and know. -/
def signatureOf? : Json → Option (List String × List String)
  | .text "authenticate" => some (["fingerprint", "user_id"], ["fingerprint", "user_id", "email"])
  | .text "identify" => some (["fingerprint"], ["fingerprint"])
  | .text "list" => some ([], [])
  | .text "lookup" => some (["user_id"], ["user_id", "email"])
  | .text "path" =>
    some (["root", "fingerprints", "user_id"], ["root", "fingerprints", "user_id"])
  | _ => none

/-- Carries out an operation whose arguments fit. -/
def perform (w : Web) (operation : Json) (arguments : List (String × Json)) :
    Except Fault Answer := do
  let subject := Subject.ofJson (value arguments "user_id")
  let byEmail := (value arguments "email").isTrue
  match operation with
  | .text "authenticate" =>
    let f ← (value arguments "fingerprint").toFingerprint
    return .verdict (← w.authenticate f subject byEmail)
  | .text "identify" =>
    let f ← (value arguments "fingerprint").toFingerprint
    return .listing (← w.identify f)
  | .text "list" => return .listing (← w.list)
  | .text "lookup" => return .listing (← w.lookup subject byEmail)
  | .text "path" =>
    let root ← (value arguments "root").toFingerprint
    let others ← Json.toFingerprints (← (value arguments "fingerprints").toItems)
    return .pathCheck (← w.checkPath root others subject)
  | v => throw (.operation v.shown)

/-- Carries out a request. -/
def answer (w : Web) (q : Request) : Except Fault Answer :=
  match signatureOf? q.operation with
  | none => .error (.operation q.operation.shown)
  | some (needed, known) =>
    match q.named with
    | .error fault => .error fault
    | .ok arguments =>
      if fits (arguments.map (·.1)) needed known then perform w q.operation arguments
      else .error .arguments

end Request

namespace Desk

/-- Queues a request. -/
def push (d : Desk) (q : Request) : Desk := { d with requests := d.requests ++ [q] }

/-- Carries out requests in order, `done` of them already being carried out, up to the first that
fails. -/
def run (w : Web) (results : List (Json × Answer)) (done : Nat) :
    List Request → Desk × Except Fault Nat
  | [] => (⟨[], results⟩, .ok done)
  | q :: rest =>
    match q.answer w with
    | .ok answer => run w (results ++ [(q.id, answer)]) (done + 1) rest
    | .error fault => (⟨rest, results⟩, .error fault)

/-- Carries out the queued requests up to the first that fails; gives their number. -/
def process (d : Desk) (w : Web) : Desk × Except Fault Nat := run w d.results 0 d.requests

/-- Takes the next result, if there is one. -/
def pull? (d : Desk) : Option ((Json × Answer) × Desk) :=
  match d.results with
  | [] => none
  | result :: rest => some (result, { d with results := rest })

end Desk

end TrustWeb
