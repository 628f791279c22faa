import TrustWeb.Description.Grammar
import TrustWeb.Network.Builder
import TrustWeb.Roots

/-!
# Network descriptions

The network, the roots and the names that a description declares. The order of statements matters
only among statements of one kind: times are read first, then certificates, then signatures and
roots.
-/

namespace TrustWeb

/-- What a description declares. -/
structure Description where
  network : Network
  roots : Roots
  /-- The names of certificates, in order of declaration. -/
  names : Table String Fingerprint
  /-- What was left out. -/
  notices : List Notice
  deriving Repr

/-- Why text does not describe a network. -/
inductive DescriptionFault where
  | unexpected (place : Description.Position)
  | numeralLength (digits : Nat)
  | date (text : String) (cause : Moment.ReadError)
  | declaredTwice (name : String)
  | undeclared (name : String)
  | signature (issuer target : Fingerprint) (cause : Fault)
  deriving DecidableEq, Repr

namespace DescriptionFault

/-- The wording of a fault in the statements. -/
def message : DescriptionFault → String
  | .unexpected _ => "syntax error"
  | .numeralLength digits => (Fault.numeralLength digits).message
  | .date text cause => "Invalid date " ++ Text.quoted text ++ ": " ++ cause.message
  | .declaredTwice name => "Node " ++ name ++ " is declared twice"
  | .undeclared name => "Node " ++ name ++ " is not declared"
  | .signature issuer target cause =>
    "Invalid signature " ++ issuer.text ++ " -> " ++ target.text ++ ": " ++ cause.message

/-- Where the fault is, if that is known. -/
def position? : DescriptionFault → Option Description.Position
  | .unexpected place => some place
  | _ => none

end DescriptionFault

namespace Description

/-- What goes on if nothing is wrong. -/
abbrev Outcome (α : Type) := Except DescriptionFault α

/-- The moment of a written date, universal time if it has no offset. -/
def moment (date : String) : Outcome Moment :=
  match Moment.read date with
  | .ok m => .ok m.universal
  | .error cause => .error (.date date cause)

/-- The moment of a date that may be missing. -/
def moment? : Option String → Outcome (Option Moment)
  | none => .ok none
  | some date => (moment date).map some

/-- A written revocation; a missing one is none. -/
def revocation : Option WrittenRevocation → Outcome Revocation
  | none => .ok .none
  | some .hard => .ok .hard
  | some (.soft date) => (moment date).map .soft

/-- The certificate with one more attribute. -/
def withAttribute (n : Node) : Attribute → Outcome Node
  | .userId text r => (revocation r).map fun r => n.withUserId text r
  | .expires date => (moment date).map fun m => { n with expires := some m }
  | .revoked r => (revocation (some r)).map fun r => { n with revocation := r }

/-- The certificate of a statement. -/
def node (name : String) (attributes : List Attribute) : Outcome Node :=
  attributes.foldlM withAttribute { fingerprint := Fingerprint.ofText name }

/-- The options of a signature; the last one given for each counts. -/
structure Options where
  amount : Nat := 120
  depth : Nat := 0
  created : Option String := none
  expires : Option String := none
  localOnly : Bool := false
  expressions : List String := []

/-- One more option. -/
def Options.add (o : Options) : SignatureOption → Options
  | .amount n => { o with amount := n }
  | .depth n => { o with depth := n }
  | .regex e => { o with expressions := o.expressions ++ [e] }
  | .created date => { o with created := some date }
  | .expires date => { o with expires := some date }
  | .localOnly => { o with localOnly := true }

/-- The signature of a statement, made at the reference time unless it says otherwise. -/
def signature (issuer target : Node) (userId : Option String) (options : List SignatureOption)
    (referenceTime : Moment) : Outcome Signature := do
  let o := options.foldl Options.add {}
  let invalid {α : Type} (fault : Fault) : Outcome α :=
    .error (.signature issuer.fingerprint target.fingerprint fault)
  let depth ← match Depth.ofNumber o.depth with
    | .ok depth => pure depth
    | .error fault => invalid fault
  let expires ← moment? o.expires
  let created ← moment? o.created
  match Signature.amount? o.amount with
  | .error fault => invalid fault
  | .ok amount =>
    pure
      { issuer, target, userId, amount, depth, expires
        created := created.getD referenceTime
        exportable := !o.localOnly
        scope := Scope.ofList o.expressions }

/-- The reference time: that of the last time statement, or the given one. -/
def referenceTime (given : Moment) (statements : List Statement) : Outcome Moment :=
  statements.foldlM (fun now s =>
    match s with
    | .time date => moment date
    | _ => pure now) given

/-- What is known after reading the certificates: the builder with them, their names, and the
notices. -/
structure Declared where
  builder : Builder
  names : Table String Fingerprint := []
  notices : List Notice := []

/-- Declares the certificate of a statement. -/
def Declared.declare (d : Declared) : Statement → Outcome Declared
  | .node name attributes =>
    if d.names.contains name then .error (.declaredTwice name)
    else
      (node name attributes).map fun n =>
        let (builder, notices) := d.builder.addNode n
        ⟨builder, d.names.put name (Fingerprint.ofText name), d.notices ++ notices⟩
  | _ => .ok d

/-- The certificate with a name. -/
def Declared.node (d : Declared) (name : String) : Outcome Node :=
  match (d.names.find? name).bind d.builder.nodes.find? with
  | some n => .ok n
  | none => .error (.undeclared name)

/-- Connects the certificates of a statement, or makes one of them a root. -/
def connect (d : Declared) (now : Moment) (state : Builder × List Root) :
    Statement → Outcome (Builder × List Root)
  | .signature issuer target userId options => do
    let issuer ← d.node issuer
    let target ← d.node target
    let s ← signature issuer target userId options now
    pure (state.1.addSignature s, state.2)
  | .root name amount => do
    let n ← d.node name
    pure (state.1, state.2 ++ [⟨n.fingerprint, amount⟩])
  | _ => pure state

/-- The network, roots and names that statements declare. `given` is the reference time if they
name none. -/
def ofStatements (given : Moment) (statements : List Statement) : Outcome Description := do
  let now ← referenceTime given statements
  let d ← statements.foldlM Declared.declare { builder := Builder.setTime {} now }
  let (builder, roots) ← statements.foldlM (connect d now) (d.builder, [])
  pure ⟨builder.build now, Roots.ofList roots, d.names, d.notices⟩

/-- Reads a description. `given` is the reference time if it names none. -/
def read (given : Moment) (text : String) : Outcome Description :=
  match Statement.readAll text with
  | .error (.unexpected place) => .error (.unexpected place)
  | .error (.numeralLength digits) => .error (.numeralLength digits)
  | .ok statements => ofStatements given statements

end Description

end TrustWeb
