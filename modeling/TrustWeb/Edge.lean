import TrustWeb.Signature

/-!
# Edges

An edge holds the signatures that one certificate made over data on another. For each datum only
the newest signatures are kept: one made in a later second replaces all earlier ones, those made in
the same second stand beside each other. The main statement is that adding a signature succeeds
exactly when it connects the certificates of the edge.
-/

namespace TrustWeb

/-- The signatures of `issuer` over data on `target`: those over the certificate itself, and those
over each of its user IDs. -/
structure Edge where
  issuer : Node
  target : Node
  delegations : List Signature := []
  certifications : Table String (List Signature) := []
  deriving DecidableEq, Repr

namespace Edge

/-- The newest signatures over one datum, after one more. -/
def newest (bucket : List Signature) (s : Signature) : List Signature :=
  match bucket with
  | [] => [s]
  | first :: _ =>
    if s.created.seconds > first.created.seconds then [s]
    else if s.created.seconds == first.created.seconds && !bucket.any (·.same s) then bucket ++ [s]
    else bucket

/-- The edge with one more signature, whatever certificates that connects. -/
def insert (e : Edge) (s : Signature) : Edge :=
  match s.userId with
  | none => { e with delegations := newest e.delegations s }
  | some userId =>
    let bucket := (e.certifications.find? userId).getD []
    { e with certifications := e.certifications.put userId (newest bucket s) }

/-- The edge with one more signature, which has to connect the certificates of the edge. -/
def add (e : Edge) (s : Signature) : Except Fault Edge :=
  if s.issuer.fingerprint ≠ e.issuer.fingerprint then
    .error (.edgeIssuer s.issuer.fingerprint e.issuer.fingerprint)
  else if s.target.fingerprint ≠ e.target.fingerprint then
    .error (.edgeTarget s.target.fingerprint e.target.fingerprint)
  else .ok (e.insert s)

/-- The edge after adding signatures up to the first that does not fit, and the fault of that. -/
def addAll (e : Edge) : List Signature → Edge × Option Fault
  | [] => (e, none)
  | s :: rest =>
    match e.add s with
    | .ok e' => addAll e' rest
    | .error fault => (e, some fault)

/-- All signatures: the delegations, then the certifications by user ID. -/
def signatures (e : Edge) : List Signature :=
  e.delegations ++ e.certifications.flatMap (·.2)

/-- The edge after adding all signatures of another one. -/
def join (e other : Edge) : Edge × Option Fault := e.addAll other.signatures

/-- The signatures by datum, delegations first if there are any. -/
def byDatum (e : Edge) : List (Option String × List Signature) :=
  (if e.delegations.isEmpty then [] else [(none, e.delegations)]) ++
    e.certifications.map fun (userId, bucket) => (some userId, bucket)

/-- The number of signatures. -/
def size (e : Edge) : Nat := e.signatures.length

/-- The signatures, one a line. -/
def text (e : Edge) : String := String.intercalate "\n" (e.signatures.map (·.text))

@[simp] theorem insert_issuer (e : Edge) (s : Signature) : (e.insert s).issuer = e.issuer := by
  unfold insert
  split <;> rfl

@[simp] theorem insert_target (e : Edge) (s : Signature) : (e.insert s).target = e.target := by
  unfold insert
  split <;> rfl

theorem mem_newest {bucket : List Signature} {s t : Signature} (h : t ∈ newest bucket s) :
    t = s ∨ t ∈ bucket := by
  unfold newest at h
  split at h
  · simp_all
  · split at h
    · simp_all
    · split at h
      · simp only [List.mem_append, List.mem_singleton] at h
        exact h.symm
      · exact .inr h

/-- An edge gains no signature but the one that is put in. -/
theorem mem_signatures_insert {e : Edge} {s t : Signature} (h : t ∈ (e.insert s).signatures) :
    t = s ∨ t ∈ e.signatures := by
  unfold insert at h
  simp only [signatures, List.mem_append, List.mem_flatMap] at h ⊢
  cases hu : s.userId with
  | none =>
    simp only [hu] at h
    rcases h with h | h
    · exact (mem_newest h).imp_right .inl
    · exact .inr (.inr h)
  | some userId =>
    simp only [hu] at h
    rcases h with h | ⟨entry, he, ht⟩
    · exact .inr (.inl h)
    · rcases Table.mem_put he with rfl | he
      · rcases mem_newest ht with rfl | ht
        · exact .inl rfl
        · cases hb : e.certifications.find? userId with
          | none => simp [hb] at ht
          | some bucket =>
            rw [hb] at ht
            exact .inr (.inr ⟨_, Table.mem_of_find? hb, ht⟩)
      · exact .inr (.inr ⟨entry, he, ht⟩)

theorem add_eq_ok_iff (e e' : Edge) (s : Signature) :
    e.add s = .ok e' ↔
      s.endpoints = (e.issuer.fingerprint, e.target.fingerprint) ∧ e' = e.insert s := by
  simp only [add, Signature.endpoints, Prod.mk.injEq]
  by_cases hi : s.issuer.fingerprint = e.issuer.fingerprint
  · by_cases ht : s.target.fingerprint = e.target.fingerprint
    · simp [hi, ht, eq_comm]
    · simp [hi, ht]
  · simp [hi]

end Edge

end TrustWeb
