import TrustWeb.Binding

/-!
# Webs of trust

A network with its roots and the amount that a binding needs. Bindings can be authenticated one by
one, listed by certificate, listed for the whole network, or looked up by user ID.
-/

namespace TrustWeb

/-- A network with its roots and the amount that a binding needs to be acceptable. -/
structure Web where
  network : Network
  roots : Roots
  mode : Mode
  wanted : Int
  maxSearches : Option Int
  wanted_pos : 0 < wanted
  deriving Repr

namespace Web

/-- The web with the given parts; the wanted amount has to be positive. -/
def make (network : Network) (roots : Roots) (mode : Mode) (wanted : Int)
    (maxSearches : Option Int) : Except Fault Web :=
  if h : 0 < wanted then .ok ⟨network, roots, mode, wanted, maxSearches, h⟩
  else .error (.wantedAmount wanted)

/-- How bindings are authenticated in the web. -/
def query (w : Web) : Query := ⟨w.network, w.roots, w.mode, w.maxSearches⟩

/-- The binding with the paths that authenticate it. -/
def binding (w : Web) (f : Fingerprint) (subject : Subject) : Except Fault Binding :=
  (w.query.authenticate f subject w.wanted).map fun paths => ⟨f, subject, paths⟩

/-- The bindings with the paths that authenticate them. -/
def bindings (w : Web) (f : Fingerprint) : List String → Except Fault (List Binding)
  | [] => .ok []
  | userId :: rest =>
    match w.binding f (.userId userId) with
    | .error fault => .error fault
    | .ok b => (bindings w f rest).map (b :: ·)

/-- Whether a piece of text occurs in another. -/
def occursIn (part : List Char) : List Char → Bool
  | [] => part.isEmpty
  | c :: cs => part.isPrefixOf (c :: cs) || occursIn part cs

/-- User IDs in ascending order. -/
def sortedUserIds (userIds : List String) : List String :=
  userIds.mergeSort fun a b => !decide (b < a)

/-- The user IDs of a certificate that are the subject; or, by e-mail address, those in which the
subject stands between angle brackets, in ascending order. -/
def matchingUserIds (n : Node) (subject : Subject) (byEmail : Bool) : List String :=
  if byEmail then
    let part := ("<" ++ subject.shown ++ ">").toList
    sortedUserIds (n.userIds.keys.filter fun userId => occursIn part userId.toList)
  else n.userIds.keys.filter fun userId => subject.isOver (some userId)

/-- The first binding with the largest amount. -/
def largest? : List Binding → Option Binding
  | [] => none
  | b :: rest => some (rest.foldl (fun best c => if c.amount > best.amount then c else best) b)

/-- Authenticates a binding; by e-mail address, the best of those whose user ID matches. -/
def authenticate (w : Web) (f : Fingerprint) (subject : Subject) (byEmail : Bool) :
    Except Fault Verdict :=
  if byEmail then
    let userIds :=
      match w.network.node? f with
      | none => []
      | some n => matchingUserIds n subject true
    (w.bindings f userIds).map fun found =>
      ⟨(largest? found).getD { fingerprint := f, subject }, w.wanted⟩
  else (w.binding f subject).map fun b => ⟨b, w.wanted⟩

/-- The bindings of a certificate that have some trust, by ascending user ID. -/
def bindingsOf (w : Web) (f : Fingerprint) : Except Fault (List Binding) :=
  match w.network.node? f with
  | none => .ok []
  | some n =>
    (w.bindings n.fingerprint (sortedUserIds n.userIds.keys)).map fun found =>
      found.filter (·.amount != 0)

/-- Lists the bindings of a certificate that have some trust. -/
def identify (w : Web) (f : Fingerprint) : Except Fault Listing :=
  (w.bindingsOf f).map fun found => ⟨found, w.wanted⟩

/-- Puts together what is found for each of some certificates. -/
def forEach (find : Fingerprint → Except Fault (List Binding)) :
    List Fingerprint → Except Fault (List Binding)
  | [] => .ok []
  | f :: rest =>
    match find f with
    | .error fault => .error fault
    | .ok found => (forEach find rest).map (found ++ ·)

/-- Lists the bindings of all certificates that have some trust. -/
def list (w : Web) : Except Fault Listing :=
  (forEach w.bindingsOf w.network.fingerprints).map fun found => ⟨found, w.wanted⟩

/-- Lists the bindings with a user ID that have a path. -/
def lookup (w : Web) (subject : Subject) (byEmail : Bool) : Except Fault Listing :=
  let find (f : Fingerprint) : Except Fault (List Binding) :=
    match w.network.node? f with
    | none => .ok []
    | some n =>
      (w.bindings f (matchingUserIds n subject byEmail)).map fun found =>
        found.filter fun b => !b.paths.isEmpty
  (forEach find w.network.fingerprints).map fun found => ⟨found, w.wanted⟩

end Web

end TrustWeb
