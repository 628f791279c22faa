import Mathlib
import TrustWeb.Store.Loading

/-! # What loading gives

What becomes of a signature on a kept certificate does not depend on what was loaded before it: it
is passed over, rejected, or accepted. Loading ends with a network exactly if amount and depth of
every accepted signature are within their ranges. Then every rejection is recorded, and all accepted
signatures were added, both in the order of the signatures. -/

namespace TrustWeb

/-! ## Numbers of a signature -/

theorem Depth.exists_ofNumber_iff {n : Int} :
    (∃ depth, Depth.ofNumber n = .ok depth) ↔ 0 ≤ n ∧ n ≤ 255 := by
  unfold ofNumber limited? unconstrainedValue
  by_cases hlast : n = 255
  · simp [hlast]
  · by_cases hrange : 0 ≤ n ∧ n < 255
    · simp [hlast, hrange]
      omega
    · simp [hlast, hrange]
      omega

theorem Signature.exists_amount?_iff {n : Int} :
    (∃ amount, Signature.amount? n = .ok amount) ↔ 0 ≤ n ∧ n ≤ 255 := by
  unfold amount?
  split <;> simp_all

namespace Store

/-- Amount and depth are numbers that stand for an amount and a depth. -/
structure SignatureRecord.InRange (s : SignatureRecord) : Prop where
  amount : 0 ≤ s.amount ∧ s.amount ≤ 255
  depth : 0 ≤ s.depth ∧ s.depth ≤ 255

theorem exists_signature_iff {issuer target : Node} {s : SignatureRecord} :
    (∃ t, signature issuer target s = .ok t) ↔ s.InRange := by
  unfold signature
  constructor
  · rintro ⟨t, ht⟩
    cases hdepth : Depth.ofNumber s.depth with
    | error fault => simp [hdepth] at ht
    | ok depth =>
        cases hamount : Signature.amount? s.amount with
        | error fault => simp [hdepth, hamount] at ht
        | ok amount =>
            exact ⟨Signature.exists_amount?_iff.mp ⟨amount, hamount⟩,
              Depth.exists_ofNumber_iff.mp ⟨depth, hdepth⟩⟩
  · rintro ⟨hamount, hdepth⟩
    obtain ⟨depth, hdepth⟩ := Depth.exists_ofNumber_iff.mpr hdepth
    obtain ⟨amount, hamount⟩ := Signature.exists_amount?_iff.mpr hamount
    simp [hdepth, hamount]

/-! ## One signature -/

section

variable (policy : Policy) (now : Moment) (records : Table Fingerprint CertificateRecord)

/-- The rejection of a signature by a kept certificate, if it fails a rule. -/
def rejection? (job : Job) : Option Rejection :=
  (records.find? (Fingerprint.ofText job.signature.issuer)).bind fun issuer =>
    check policy now issuer job.target job.signature

/-- What is added for a signature by a kept certificate, if it passes all rules: the signature of
the network, or the fault that there is none. -/
def accepted? (job : Job) : Option (Except Fault Signature) :=
  (records.find? (Fingerprint.ofText job.signature.issuer)).bind fun issuer =>
    match check policy now issuer job.target job.signature with
    | some _ => none
    | none => some (signature issuer.node job.target.node job.signature)

variable {policy now records} {l : Loading} {job : Job} {js : List Job}

/-- An accepted signature can be added exactly if its numbers are in range. -/
theorem inRange_of_accepted? {outcome : Except Fault Signature}
    (h : accepted? policy now records job = some outcome) :
    (∃ s, outcome = .ok s) ↔ job.signature.InRange := by
  obtain ⟨issuer, -, hissuer⟩ := Option.bind_eq_some_iff.mp h
  split at hissuer
  · cases hissuer
  · obtain rfl := Option.some.inj hissuer
    exact exists_signature_iff

/-- A signature is passed over or rejected, or it is added, or the fault that it cannot be added is
the outcome. -/
theorem takeUp_cases (policy : Policy) (now : Moment)
    (records : Table Fingerprint CertificateRecord) (l : Loading) (job : Job) :
    (accepted? policy now records job = none ∧ ∃ notices, takeUp policy now records l job =
      .ok ⟨l.builder, l.rejections ++ (rejection? policy now records job).toList, notices⟩) ∨
    (rejection? policy now records job = none ∧ ∃ s,
      accepted? policy now records job = some (.ok s) ∧ takeUp policy now records l job =
        .ok ⟨l.builder.addSignature s, l.rejections, l.notices⟩) ∨
    ∃ fault, accepted? policy now records job = some (.error fault) ∧
      takeUp policy now records l job = .error fault := by
  simp only [takeUp, accepted?, rejection?]
  cases records.find? (Fingerprint.ofText job.signature.issuer) with
  | none => exact .inl ⟨rfl, l.notices, by simp⟩
  | some issuer =>
      simp only [Option.bind_some]
      cases check policy now issuer job.target job.signature with
      | some rejection => exact .inl ⟨rfl, _, rfl⟩
      | none =>
          cases signature issuer.node job.target.node job.signature with
          | ok s => exact .inr (.inl ⟨rfl, s, rfl, rfl⟩)
          | error fault => exact .inr (.inr ⟨fault, rfl, rfl⟩)

/-! ## All signatures -/

/-- If no accepted signature is faulty then all of them are added, and all rejections recorded. -/
theorem takeUpAll_of_accepted {signatures : List Signature}
    (h : js.filterMap (accepted? policy now records) = signatures.map .ok) :
    ∃ notices, takeUpAll policy now records l js =
      (⟨signatures.foldl Builder.addSignature l.builder,
        l.rejections ++ js.filterMap (rejection? policy now records), notices⟩, none) := by
  induction js generalizing l signatures with
  | nil =>
      obtain rfl : signatures = [] := by simpa using h.symm
      exact ⟨l.notices, by simp [takeUpAll]⟩
  | cons job rest ih =>
      rcases takeUp_cases policy now records l job with
        ⟨hnone, notices, htake⟩ | ⟨hkept, s, haccepted, htake⟩ | ⟨fault, hfault, -⟩
      · rw [List.filterMap_cons_none hnone] at h
        obtain ⟨notices', hrest⟩ := ih
          (l := ⟨l.builder, l.rejections ++ (rejection? policy now records job).toList, notices⟩) h
        refine ⟨notices', ?_⟩
        simp only [takeUpAll, htake, hrest]
        cases hrejection : rejection? policy now records job <;> simp [hrejection]
      · rw [List.filterMap_cons_some haccepted] at h
        obtain ⟨t, others, rfl, ht, hothers⟩ := List.map_eq_cons_iff.mp h.symm
        obtain rfl := Except.ok.inj ht
        obtain ⟨notices', hrest⟩ :=
          ih (l := ⟨l.builder.addSignature t, l.rejections, l.notices⟩) hothers.symm
        refine ⟨notices', ?_⟩
        simp only [takeUpAll, htake, hrest, List.filterMap_cons_none hkept, List.foldl_cons]
      · rw [List.filterMap_cons_some hfault] at h
        obtain ⟨t, -, -, ht, -⟩ := List.map_eq_cons_iff.mp h.symm
        cases ht

/-- An accepted signature that is faulty stops the loading, if no other one does so before. -/
theorem takeUpAll_of_fault {fault : Fault} (hjob : job ∈ js)
    (h : accepted? policy now records job = some (.error fault)) :
    ∃ l' fault', takeUpAll policy now records l js = (l', some fault') := by
  induction js generalizing l with
  | nil => cases hjob
  | cons first rest ih =>
      simp only [takeUpAll]
      cases htake : takeUp policy now records l first with
      | error fault => exact ⟨l, fault, rfl⟩
      | ok l' =>
          rcases List.mem_cons.mp hjob with rfl | hjob
          · rcases takeUp_cases policy now records l job with
              ⟨hnone, -⟩ | ⟨-, s, haccepted, -⟩ | ⟨fault, -, hfails⟩
            · simp [h] at hnone
            · simp [h] at haccepted
            · simp [htake] at hfails
          · exact ih hjob

theorem exists_map_ok {outcomes : List (Except Fault Signature)}
    (h : ∀ outcome ∈ outcomes, ∃ s, outcome = .ok s) :
    ∃ signatures : List Signature, outcomes = signatures.map .ok := by
  induction outcomes with
  | nil => exact ⟨[], rfl⟩
  | cons outcome rest ih =>
      obtain ⟨⟨s, rfl⟩, hrest⟩ := List.forall_mem_cons.mp h
      obtain ⟨signatures, rfl⟩ := ih hrest
      exact ⟨s :: signatures, rfl⟩

end

/-! ## Networks -/

/-- The kept certificates as a network without signatures. -/
def certificatesOnly (now : Moment) (certificates : List CertificateRecord) : Builder where
  nodes := (kept certificates).1.map fun (f, c) => (f, c.node)
  referenceTime := some now

section

variable {policy : Policy} {now : Moment} {certificates : List CertificateRecord}

theorem load_eq (policy : Policy) (now : Moment) (certificates : List CertificateRecord) :
    load policy now certificates =
      match takeUpAll policy now (kept certificates).1
        ⟨certificatesOnly now certificates, [], (kept certificates).2⟩
        (jobs (kept certificates).1) with
      | (l, none) => ⟨.ok (l.builder.build now), l.rejections, l.notices⟩
      | (l, some fault) => ⟨.error fault, l.rejections, l.notices⟩ :=
  rfl

theorem load_of_inRange (h : ∀ job ∈ jobs (kept certificates).1,
    (accepted? policy now (kept certificates).1 job).isSome = true → job.signature.InRange) :
    ∃ signatures : List Signature,
      (jobs (kept certificates).1).filterMap (accepted? policy now (kept certificates).1) =
        signatures.map .ok ∧
      (load policy now certificates).network =
        .ok ((signatures.foldl Builder.addSignature (certificatesOnly now certificates)).build
          now) ∧
      (load policy now certificates).rejections =
        (jobs (kept certificates).1).filterMap (rejection? policy now (kept certificates).1) := by
  obtain ⟨signatures, hsignatures⟩ := exists_map_ok fun outcome houtcome => by
    obtain ⟨job, hjob, haccepted⟩ := List.mem_filterMap.mp houtcome
    exact (inRange_of_accepted? haccepted).mpr
      (h job hjob (by rw [haccepted, Option.isSome_some]))
  obtain ⟨notices, htaken⟩ := takeUpAll_of_accepted
    (l := ⟨certificatesOnly now certificates, [], (kept certificates).2⟩) hsignatures
  refine ⟨signatures, hsignatures, ?_, ?_⟩ <;> simp [load_eq, htaken]

theorem load_of_not_inRange {job : Job} (hjob : job ∈ jobs (kept certificates).1)
    (haccepted : (accepted? policy now (kept certificates).1 job).isSome = true)
    (h : ¬job.signature.InRange) :
    ∃ fault, (load policy now certificates).network = .error fault := by
  obtain ⟨outcome, houtcome⟩ := Option.isSome_iff_exists.mp haccepted
  rw [← inRange_of_accepted? houtcome] at h
  cases outcome with
  | ok s => exact (h ⟨s, rfl⟩).elim
  | error fault =>
      obtain ⟨l, fault', htaken⟩ := takeUpAll_of_fault
        (l := ⟨certificatesOnly now certificates, [], (kept certificates).2⟩) hjob houtcome
      exact ⟨fault', by rw [load_eq, htaken]⟩

end

/-- Loading gives a network exactly if all accepted signatures have amounts and depths in range. It
then has recorded the rejections of all signatures by kept certificates that fail a rule, and added
all others of them to the kept certificates. -/
theorem load_ends (policy : Policy) (now : Moment) (certificates : List CertificateRecord) :
    ((∃ network, (load policy now certificates).network = .ok network) ↔
      ∀ job ∈ jobs (kept certificates).1,
        (accepted? policy now (kept certificates).1 job).isSome = true →
          job.signature.InRange) ∧
    ∀ network, (load policy now certificates).network = .ok network →
      (load policy now certificates).rejections =
        (jobs (kept certificates).1).filterMap (rejection? policy now (kept certificates).1) ∧
      ∃ signatures : List Signature,
        (jobs (kept certificates).1).filterMap (accepted? policy now (kept certificates).1) =
          signatures.map .ok ∧
        network = (signatures.foldl Builder.addSignature
          (certificatesOnly now certificates)).build now := by
  have hends : (∃ network, (load policy now certificates).network = .ok network) ↔
      ∀ job ∈ jobs (kept certificates).1,
        (accepted? policy now (kept certificates).1 job).isSome = true →
          job.signature.InRange := by
    constructor
    · rintro ⟨network, hnetwork⟩ job hjob haccepted
      refine Classical.byContradiction fun hrange => ?_
      obtain ⟨fault, hfault⟩ := load_of_not_inRange hjob haccepted hrange
      simp [hnetwork] at hfault
    · intro h
      obtain ⟨signatures, -, hnetwork, -⟩ := load_of_inRange h
      exact ⟨_, hnetwork⟩
  refine ⟨hends, fun network hnetwork => ?_⟩
  obtain ⟨signatures, hsignatures, hloaded, hrejections⟩ :=
    load_of_inRange (hends.mp ⟨network, hnetwork⟩)
  exact ⟨hrejections, signatures, hsignatures, Except.ok.inj (hnetwork.symm.trans hloaded)⟩

/-- The fault that loading ends with, if any. -/
def Loaded.fault? (l : Loaded) : Option Fault :=
  match l.network with
  | .ok _ => none
  | .error fault => some fault

theorem Loaded.network_eq_error {l : Loaded} {fault : Fault} (h : l.fault? = some fault) :
    l.network = .error fault := by
  unfold fault? at h
  cases hnetwork : l.network with
  | ok network => simp [hnetwork] at h
  | error other => simpa [hnetwork] using h

/-! ### A signature out of range

`A` certifies a user ID of `B` and delegates to it, both in one store. -/

namespace Guarantor

def moment : Moment := ⟨0, some 0⟩

def certification : SignatureRecord where
  issuer := "A"
  type := .positiveCertification
  created := moment
  userId := some "bob@example.org"

def delegation : SignatureRecord where
  issuer := "A"
  type := .directKey
  created := moment
  depth := 1

/-- The certificates of `A` and `B`, with another signature before the delegation. -/
def certificates (s : SignatureRecord) : List CertificateRecord :=
  [{ fingerprint := "A", created := moment },
    { fingerprint := "B"
      created := moment
      userIds := [("bob@example.org", .none)]
      signatures := [s, delegation] }]

end Guarantor

/-- A certification that was not verified is recorded as rejected, and the delegation is added. -/
theorem load_ends_guarantor :
    ∃ network,
      (load {} Guarantor.moment
        (Guarantor.certificates { Guarantor.certification with verified := false })).network =
        .ok network ∧ network.signatureCount = 1 ∧
      (jobs (kept (Guarantor.certificates
        { Guarantor.certification with verified := false })).1).filterMap
          (rejection? {} Guarantor.moment (kept (Guarantor.certificates
            { Guarantor.certification with verified := false })).1) =
        [⟨⟨"A"⟩, ⟨"B"⟩, some "bob@example.org", .unverified⟩] := by
  have hcount : (load {} Guarantor.moment (Guarantor.certificates
      { Guarantor.certification with verified := false })).network.toOption.map
        (·.signatureCount) = some 1 := by
    decide +kernel
  obtain ⟨network, hnetwork, hone⟩ := exists_ok_of_toOption hcount
  refine ⟨network, hnetwork, hone, ?_⟩
  rw [← ((load_ends {} Guarantor.moment _).2 network hnetwork).1]
  decide +kernel

/-- One accepted signature with an amount out of range keeps all others from being loaded, and is
not recorded as rejected. -/
theorem load_aborts :
    (load {} Guarantor.moment
        (Guarantor.certificates { Guarantor.certification with amount := 300 })).network =
        .error (.amountRange 300) ∧
      (load {} Guarantor.moment
        (Guarantor.certificates { Guarantor.certification with amount := 300 })).rejections = [] :=
  ⟨Loaded.network_eq_error (by decide +kernel), by decide +kernel⟩

end Store

end TrustWeb
