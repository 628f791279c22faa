import TrustWeb.Description.Statement
import TrustWeb.Description.Token
import TrustWeb.Text.Numeral

/-!
# The grammar of network descriptions

Reading goes from place to place: a place says what was read of the statement at hand, which tokens
may follow, and where each of them leads. Text that does not go on with such a token is faulty at
that token; text that ends in the middle of a statement is faulty at its last token.
-/

namespace TrustWeb.Description

/-- Why text is not a list of statements. -/
inductive SyntaxFault where
  | unexpected (place : Position)
  /-- A number with too many digits. -/
  | numeralLength (digits : Nat)
  deriving DecidableEq, Repr

/-- A certificate while its attributes are read. -/
structure OpenNode where
  name : String
  attributes : List Attribute := []

/-- A signature while its options are read. -/
structure OpenSignature where
  issuer : String
  target : String
  userId : Option String
  options : List SignatureOption := []

/-- What was read of the statement at hand. -/
inductive Place where
  /-- Nothing. -/
  | fresh
  | time
  | nodeName
  | node (n : OpenNode)
  | nodeExpires (n : OpenNode)
  | userId (n : OpenNode)
  | userIdRevoked (n : OpenNode) (text : String)
  /-- The word that opens a revocation, of a user ID or of the certificate. -/
  | revoked (n : OpenNode) (userId : Option String)
  | softRevoked (n : OpenNode) (userId : Option String)
  | issuer (name : String)
  | delegates (issuer : String)
  | certifies (issuer : String)
  | certified (issuer target : String)
  | signature (s : OpenSignature)
  | amount (s : OpenSignature)
  | depth (s : OpenSignature)
  | regex (s : OpenSignature)
  | created (s : OpenSignature)
  | expires (s : OpenSignature)
  | rootName
  | root (name : String)
  | rootAmount (name : String)

namespace OpenNode

/-- One more attribute. -/
def add (n : OpenNode) (a : Attribute) : OpenNode := { n with attributes := n.attributes ++ [a] }

/-- A revocation of a user ID or of the certificate. -/
def revoke (n : OpenNode) (userId : Option String) (r : WrittenRevocation) : OpenNode :=
  match userId with
  | some text => n.add (.userId text (some r))
  | none => n.add (.revoked r)

end OpenNode

/-- One more option. -/
def OpenSignature.add (s : OpenSignature) (o : SignatureOption) : OpenSignature :=
  { s with options := s.options ++ [o] }

/-- The amount of a root that is given none. -/
def defaultRootAmount : Nat := 120

namespace Place

/-- The statement that ends here, if one may: none in a fresh place. -/
def close? : Place → Option (List Statement)
  | .fresh => some []
  | .node n => some [.node n.name n.attributes]
  | .signature s => some [.signature s.issuer s.target s.userId s.options]
  | .root name => some [.root name defaultRootAmount]
  | _ => none

/-- The tokens that start a statement. -/
def starts : List Terminal := [.keyword .atTime, .keyword .node, .keyword .root, .name]

/-- The tokens that may follow. -/
def allowed : Place → List Terminal
  | .fresh => starts
  | .time => [.date]
  | .nodeName => [.name]
  | .node _ =>
    [.string, .keyword .userid, .keyword .expires, .keyword .revoked] ++ starts
  | .nodeExpires _ => [.date]
  | .userId _ => [.string]
  | .userIdRevoked _ _ => [.keyword .revoked]
  | .revoked _ _ => [.keyword .hard, .keyword .soft]
  | .softRevoked _ _ => [.date]
  | .issuer _ => [.keyword .delegates, .keyword .certifies]
  | .delegates _ => [.name]
  | .certifies _ => [.name]
  | .certified _ _ => [.string]
  | .signature _ =>
    [.keyword .amount, .keyword .depth, .keyword .regex, .keyword .on, .keyword .expires,
      .keyword .localOnly] ++ starts
  | .amount _ => [.number]
  | .depth _ => [.number, .keyword .unconstrained]
  | .regex _ => [.string]
  | .created _ => [.date]
  | .expires _ => [.date]
  | .rootName => [.name]
  | .root _ => .keyword .amount :: starts
  | .rootAmount _ => [.number]

/-- The number that a token of digits denotes. -/
def number (digits : List Char) : Except SyntaxFault Nat :=
  if digits.length > Text.maxDigits then .error (.numeralLength digits.length)
  else .ok (digits.foldl (fun n c => 10 * n + (c.toNat - 0x30)) 0)

/-- Where a token leads that starts a statement. -/
def start (t : Token) : Place :=
  match t.terminal with
  | .keyword .atTime => .time
  | .keyword .node => .nodeName
  | .keyword .root => .rootName
  | _ => .issuer (String.ofList t.text)

/-- Where an allowed token leads, and the statements that are complete then. -/
def next (p : Place) (t : Token) : Except SyntaxFault (List Statement × Place) :=
  let text := String.ofList t.text
  match p, t.terminal with
  | .time, _ => .ok ([.time text], .fresh)
  | .nodeName, _ => .ok ([], .node { name := text })
  | .node n, .string => .ok ([], .node (n.add (.userId text none)))
  | .node n, .keyword .userid => .ok ([], .userId n)
  | .node n, .keyword .expires => .ok ([], .nodeExpires n)
  | .node n, .keyword .revoked => .ok ([], .revoked n none)
  | .nodeExpires n, _ => .ok ([], .node (n.add (.expires text)))
  | .userId n, _ => .ok ([], .userIdRevoked n text)
  | .userIdRevoked n revokedText, _ => .ok ([], .revoked n (some revokedText))
  | .revoked n subject, .keyword .hard => .ok ([], .node (n.revoke subject .hard))
  | .revoked n subject, _ => .ok ([], .softRevoked n subject)
  | .softRevoked n subject, _ => .ok ([], .node (n.revoke subject (.soft text)))
  | .issuer name, .keyword .delegates => .ok ([], .delegates name)
  | .issuer name, _ => .ok ([], .certifies name)
  | .delegates signer, _ => .ok ([], .signature ⟨signer, text, none, []⟩)
  | .certifies signer, _ => .ok ([], .certified signer text)
  | .certified signer target, _ => .ok ([], .signature ⟨signer, target, some text, []⟩)
  | .signature s, .keyword .amount => .ok ([], .amount s)
  | .signature s, .keyword .depth => .ok ([], .depth s)
  | .signature s, .keyword .regex => .ok ([], .regex s)
  | .signature s, .keyword .on => .ok ([], .created s)
  | .signature s, .keyword .expires => .ok ([], .expires s)
  | .signature s, .keyword .localOnly => .ok ([], .signature (s.add .localOnly))
  | .amount s, _ => (number t.text).map fun n => ([], .signature (s.add (.amount n)))
  | .depth s, .keyword _ => .ok ([], .signature (s.add (.depth 255)))
  | .depth s, _ => (number t.text).map fun n => ([], .signature (s.add (.depth n)))
  | .regex s, _ => .ok ([], .signature (s.add (.regex text)))
  | .created s, _ => .ok ([], .signature (s.add (.created text)))
  | .expires s, _ => .ok ([], .signature (s.add (.expires text)))
  | .rootName, _ => .ok ([], .root text)
  | .root name, .keyword .amount => .ok ([], .rootAmount name)
  | .rootAmount name, _ => (number t.text).map fun n => ([.root name n], .fresh)
  | p, _ => .ok (p.close?.getD [], start t)

end Place

/-- Reads statements from a place in a statement on, after those already complete. `last` is where
the latest token started. -/
def readFrom (fuel : Nat) (complete : List Statement) (p : Place) (position last : Position)
    (cs : List Char) : Except SyntaxFault (List Statement) :=
  match fuel with
  | 0 => .error (.unexpected position)
  | fuel + 1 =>
    match skip false position cs with
    | ([], _) =>
      match p.close? with
      | some closed => .ok (complete ++ closed)
      | none => .error (.unexpected last)
    | (c :: rest, here) =>
      match Token.next? p.allowed (c :: rest) with
      | none => .error (.unexpected here)
      | some (t, rest') =>
        match p.next t with
        | .error fault => .error fault
        | .ok (closed, p') =>
          let consumed := (c :: rest).take ((c :: rest).length - rest'.length)
          readFrom fuel (complete ++ closed) p' (here.afterAll consumed) here rest'

/-- Reads the statements of a description. -/
def Statement.readAll (text : String) : Except SyntaxFault (List Statement) :=
  let cs := text.toList
  readFrom (cs.length + 1) [] .fresh {} {} cs

end TrustWeb.Description
