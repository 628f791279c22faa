import TrustWeb.Description
import TrustWeb.Path
import TrustWeb.Server.NetworkFile

/-!
# Configuration

A server is configured by whoever starts it; what is not said there is taken from the variables of
its environment, and what is not said in either has a default.
-/

namespace TrustWeb.Server

/-- What is said when a server is started. -/
structure Settings where
  networkFile : Option String := none
  trustRoots : Option String := none
  wanted : Option Int := none
  certificationNetwork : Option Bool := none

/-- The variables of the environment. -/
abbrev Environment := Table String String

/-- The configuration of a server. -/
structure Configuration where
  /-- The file that the network is read from. -/
  networkFile : Option String
  /-- Roots besides those of the description. -/
  trustRoots : String
  /-- The amount that a binding needs to be acceptable. -/
  wanted : Int
  mode : Mode
  wanted_pos : 0 < wanted
  deriving Repr

namespace Configuration

/-- The words that turn a variable on. -/
def trueWords : List String := ["1", "true", "yes", "on"]

/-- Whether the value of a variable turns it on. The words have ASCII letters only, and no other
letter has one of theirs as its small form. -/
def isOn (value : String) : Bool :=
  trueWords.contains (String.ofList (value.toList.map Char.toLower))

/-- The amount that a binding needs if nothing is said about it. -/
def defaultWanted : Int := fullTrust

/-- The name of the network file; an empty name is none. -/
def networkFile? (s : Settings) (env : Environment) : Option String :=
  match s.networkFile.filter (· != "") with
  | some name => some (normalizedName name)
  | none => ((env.find? "WOT_NETWORK_FILE").filter (· != "")).map normalizedName

/-- The amount that a binding needs. -/
def wantedAmount (s : Settings) (env : Environment) : Except Fault Int :=
  match s.wanted, env.find? "WOT_TRUST_AMOUNT" with
  | some n, _ => .ok n
  | none, none => .ok defaultWanted
  | none, some text =>
    match Text.readInt text with
    | .ok n => .ok n
    | .error e => .error (Root.faultOfNumeral e)

/-- Whether every signature counts as a delegation. -/
def isCertificationNetwork (s : Settings) (env : Environment) : Bool :=
  s.certificationNetwork.getD (isOn ((env.find? "WOT_CERTIFICATION_NETWORK").getD ""))

/-- The configuration by settings and environment. -/
def make (s : Settings) (env : Environment) : Except Fault Configuration :=
  match wantedAmount s env with
  | .error fault => .error fault
  | .ok n =>
    if h : 0 < n then
      .ok
        { networkFile := networkFile? s env
          trustRoots := s.trustRoots.getD ((env.find? "WOT_TRUST_ROOTS").getD "")
          wanted := n
          mode := if isCertificationNetwork s env then .certification else .authentication
          wanted_pos := h }
    else .error (.wantedAmount n)

end Configuration

end TrustWeb.Server
