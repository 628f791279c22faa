import TrustWeb.Fault
import TrustWeb.Json
import TrustWeb.Pattern.Reader

/-!
# Scopes

A delegation may be limited to user IDs in which one of several expressions is found. A scope
without expressions covers every user ID. Expressions that are not well formed are never found.
-/

namespace TrustWeb

/-- What the caller of a query names as the user ID. Text is a user ID; nothing stands for the
certificate itself; any other value is no datum that a signature could be over. -/
inductive Subject where
  | certificate
  | userId (text : String)
  | other (value : Json)
  deriving Repr

namespace Subject

/-- The subject that a value names. -/
def ofJson : Json → Subject
  | .null => .certificate
  | .text s => .userId s
  | v => .other v

/-- The value that names the subject. -/
def toJson : Subject → Json
  | .certificate => .null
  | .userId s => .text s
  | .other v => v

/-- Whether a signature over the given datum, a user ID or the certificate itself, is over the
subject. -/
def isOver (subject : Subject) (datum : Option String) : Bool :=
  match subject, datum with
  | .certificate, none => true
  | .userId s, some t => s == t
  | _, _ => false

/-- The subject among other text. -/
def shown (subject : Subject) : String := subject.toJson.shown

/-- The subject in quotation marks, if it is text. -/
def quoted (subject : Subject) : String := subject.toJson.quoted

end Subject

/-- The expressions that limit a delegation, each once and in ascending order. -/
structure Scope where
  expressions : List String
  deriving DecidableEq, Repr

namespace Scope

/-- The scope that covers every user ID. -/
def wildcard : Scope := ⟨[]⟩

/-- The scope of some expressions. -/
def ofList (expressions : List String) : Scope :=
  ⟨(expressions.mergeSort fun a b => !decide (b < a)).eraseDups⟩

/-- The scope of addresses in a domain or one of its subdomains. -/
def forDomain (domain : String) : Scope :=
  ⟨["<[^>]+[@.]" ++ Pattern.escapeText domain ++ ">$"]⟩

/-- Whether the scope covers every user ID. -/
def isWildcard (s : Scope) : Bool := s.expressions.isEmpty

/-- Whether an expression is found in what a query names. -/
def finds (expression : String) (subject : Subject) : Except Fault Bool :=
  match Pattern.read expression with
  | .error .malformed => .ok false
  | .error .repetitionTooLarge => .error (@Fault.repetitionCount .repetition)
  | .error .codeTooLarge => .error (@Fault.repetitionCount .codePoint)
  | .error (.numeralLength digits) => .error (.numeralLength digits)
  | .error .clashingFlags => .error .expressionFlags
  | .ok pattern =>
    match subject with
    | .userId text => .ok (pattern.foundIn text)
    | _ => .error (.searchedValue subject.toJson.kindName)

/-- Whether one of the expressions is found in what a query names. -/
def findsAny (subject : Subject) : List String → Except Fault Bool
  | [] => .ok false
  | e :: rest =>
    match finds e subject with
    | .error fault => .error fault
    | .ok true => .ok true
    | .ok false => findsAny subject rest

/-- Whether the scope covers what a query names. -/
def covers (s : Scope) (subject : Subject) : Except Fault Bool :=
  if s.isWildcard then .ok true else findsAny subject s.expressions

/-- The expressions, separated by commas. -/
def text (s : Scope) : String := String.intercalate ", " s.expressions

@[simp] theorem covers_wildcard (subject : Subject) : wildcard.covers subject = .ok true := rfl

end Scope

end TrustWeb
