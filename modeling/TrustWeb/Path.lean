import TrustWeb.Signature

/-!
# Paths

A path starts at a root certificate and is extended by signatures. Each signature has to be issued
by the last certificate of the path, the depths of the earlier ones have to leave room for it, and
no certificate may be visited twice, except that a path may end with a certification of the
certificate it has just reached. The main statement is that an extension that fails changes
nothing and one that succeeds adds its signature at the end.
-/

namespace TrustWeb

/-- How signatures are taken: with their depths and scopes, or every one as a delegation without
limits. -/
inductive Mode where
  | authentication
  | certification
  deriving DecidableEq, Repr

/-- A root certificate and the signatures that lead on from it. `residual` says by how many further
hops the path may be extended. -/
structure Path where
  root : Node
  signatures : List Signature := []
  residual : Depth := .unconstrained
  deriving DecidableEq, Repr

namespace Path

/-- The last certificate of the path. -/
def target (p : Path) : Node :=
  match p.signatures.getLast? with
  | none => p.root
  | some s => s.target

/-- The certificates along the path. -/
def certificates (p : Path) : List Node := p.root :: p.signatures.map (·.target)

/-- The number of certificates along the path. -/
def length (p : Path) : Nat := p.signatures.length + 1

/-- The least amount of the given signatures; full trust if there is none. -/
def leastAmount : List Signature → Int
  | [] => fullTrust
  | s :: rest => rest.foldl (fun least t => min least t.trust) s.trust

/-- The amount of trust that the path carries. -/
def amount (p : Path) : Int := leastAmount p.signatures

/-- Whether a signature would lead back to a certificate of the path. The first signature may be a
certification of the root by itself; a later one may be a certification, over another datum than
the signature before it, of the certificate that this one reached. -/
def closesCycle (p : Path) (s : Signature) : Bool :=
  let target := s.target.fingerprint
  match p.signatures.getLast? with
  | none => target == p.root.fingerprint && s.isDelegation
  | some last =>
    if target == p.root.fingerprint then true
    else if p.signatures.dropLast.any (·.target.fingerprint == target) then true
    else last.target.fingerprint == target && !(!s.isDelegation && s.userId != last.userId)

/-- The residual depth after one more signature. -/
def residualAfter (p : Path) (s : Signature) (mode : Mode) : Except Fault Depth :=
  match mode with
  | .certification => .ok p.residual
  | .authentication => (p.residual.reduce 1).map s.depth.min

/-- The path with one more signature. -/
def append (p : Path) (s : Signature) (mode : Mode) : Except Fault Path :=
  if s.issuer.fingerprint ≠ p.target.fingerprint then
    .error (.notTail p.target.fingerprint s.issuer.fingerprint)
  else if mode = .authentication ∧ p.residual.aboveNumber 0 = false then
    .error (.pathUsedUp p.root.fingerprint)
  else if p.closesCycle s then
    .error (.cycle s.issuer.fingerprint s.target.fingerprint)
  else
    (p.residualAfter s mode).map fun residual => ⟨p.root, p.signatures ++ [s], residual⟩

/-- Whether two paths are the same: from one root over the same signatures. -/
def same (p q : Path) : Bool :=
  p.root.same q.root && p.signatures.length == q.signatures.length &&
    (p.signatures.zip q.signatures).all fun (a, b) => a.same b

/-- The path as text. -/
def text (p : Path) : String :=
  "\x7b" ++ p.root.fingerprint.text ++ "\x7d => \x7b" ++
    String.intercalate " -> " (p.signatures.map (·.target.fingerprint.text)) ++
    "\x7d (residual " ++ p.residual.text ++ ")"

/-- The path as fields. -/
def fields (p : Path) : List (String × Json) :=
  [("root", .text p.root.fingerprint.text),
    ("target", .text p.target.fingerprint.text),
    ("length", .number p.length),
    ("amount", .number p.amount),
    ("residual_depth", .number p.residual.value),
    ("certificates", .array (p.certificates.map fun n => .text n.fingerprint.text)),
    ("components", .array (p.signatures.map (·.toJson)))]

/-- The path as a value. -/
def toJson (p : Path) : Json := .object p.fields

theorem le_leastAmount_cons_iff {amount : Int} {s : Signature} {rest : List Signature} :
    amount ≤ leastAmount (s :: rest) ↔ ∀ t ∈ s :: rest, amount ≤ t.trust := by
  have hfold : ∀ (least : Int) (ss : List Signature),
      amount ≤ ss.foldl (fun least t => min least t.trust) least ↔
        amount ≤ least ∧ ∀ t ∈ ss, amount ≤ t.trust := by
    intro least ss
    induction ss generalizing least with
    | nil => simp
    | cons t rest ih => rw [List.foldl_cons, ih, Int.le_min, List.forall_mem_cons, and_assoc]
  rw [leastAmount, hfold, List.forall_mem_cons]

theorem le_leastAmount {amount : Int} {ss : List Signature} (h : ∀ s ∈ ss, amount ≤ s.trust)
    (hfull : amount ≤ fullTrust) : amount ≤ leastAmount ss := by
  cases ss with
  | nil => exact hfull
  | cons s rest => exact le_leastAmount_cons_iff.mpr h

theorem signatures_of_append {p q : Path} {s : Signature} {mode : Mode}
    (h : p.append s mode = .ok q) : q.root = p.root ∧ q.signatures = p.signatures ++ [s] := by
  unfold append at h
  split at h
  · cases h
  · split at h
    · cases h
    · split at h
      · cases h
      · cases hr : p.residualAfter s mode with
        | error fault => simp [hr, Except.map] at h
        | ok residual =>
          simp only [hr, Except.map, Except.ok.injEq] at h
          subst h
          exact ⟨rfl, rfl⟩

end Path

end TrustWeb
