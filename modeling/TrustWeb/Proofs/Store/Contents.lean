import Mathlib
import TrustWeb.Proofs.Network.Arrival
import TrustWeb.Proofs.Store.Loading

/-! # The content of a loaded network

A loaded network holds the first usable record of each fingerprint and, over each datum, the newest
of the signatures that pass every rule. Whatever fails a rule is recorded, once and in order. The
rules are told here by what each of them asks for, not by the order in which they are tried. -/

namespace TrustWeb

/-! ## Signatures over one datum -/

/-- The signatures of a network over a datum. -/
def Network.signaturesOver (n : Network) (place : Place) : List Signature :=
  match n.edge? place.1.1 place.1.2 with
  | none => []
  | some e => e.bucket place.2

theorem Builder.Filed.signaturesOver_build {b : Builder} (h : b.Filed) (now : Moment)
    (place : Place) : (b.build now).signaturesOver place = b.bucket place := by
  rw [Network.signaturesOver, Network.edge?, h.edges_build now]
  rfl

theorem Latest.pairwise_same {made bucket : List Signature} (h : Latest made bucket) :
    bucket.Pairwise fun s t => s.same t = false := by
  have hdistinct : bucket.Pairwise fun s t => s.core ≠ t.core := List.pairwise_map.mp h.distinct
  apply hdistinct.imp
  intro s t hne
  rw [← Bool.not_eq_true, Signature.same_iff]
  exact hne

namespace Store

/-! ## The rules -/

/-- What the rules ask of a signature. Moments are compared by their seconds: a signature may be
made in the very second of the reference time, of the certificates, and of the end of its issuer,
but it must not expire in the second of the reference time. -/
structure Acceptable (policy : Policy) (now : Moment) (issuer target : CertificateRecord)
    (s : SignatureRecord) : Prop where
  verified : s.verified = true
  delegates : s.userId = none → s.type = .directKey
  certifies : ∀ userId, s.userId = some userId →
    s.type.isCertification = true ∧ target.userIds.contains userId = true
  understood : s.unknownSubpackets = []
  noted : ∀ n ∈ s.criticalNotations, n ∈ policy.knownNotations
  made : s.created.seconds ≤ now.seconds
  unexpired : ∀ moment, s.expires = some moment → now.seconds < moment.seconds
  issuerTrusted : issuer.revocation ≠ .hard
  issuerPresent : issuer.created.seconds ≤ s.created.seconds
  issuerUnrevoked : ∀ since, issuer.revocation = .soft since →
    s.created.seconds ≤ since.seconds
  issuerUnexpired : ∀ moment, issuer.expires = some moment → s.created.seconds ≤ moment.seconds
  hash : Text.upper s.hashAlgorithm ∈ policy.hashAlgorithms ∨
    ∃ cutoff, policy.cutoffs.find? (Text.upper s.hashAlgorithm) = some cutoff ∧
      s.created.seconds < cutoff.seconds
  key : Text.upper s.keyAlgorithm ∈ policy.keyAlgorithms
  targetPresent : target.created.seconds ≤ s.created.seconds

section Rules

variable {policy : Policy} {now : Moment} {issuer target : CertificateRecord}
  {s : SignatureRecord}

/-- A rule and those after it give no reason if the rule is kept and those after it give none. -/
theorem ite_some_eq_none_iff {broken : Prop} [Decidable broken] {reason : Reason}
    {others : Option Reason} :
    (if broken then some reason else others) = none ↔ ¬broken ∧ others = none := by
  split
  · next h => simp [h]
  · next h => simp [h]

theorem datumReason?_eq_none_iff : datumReason? target s = none ↔
    (s.userId = none → s.type = .directKey) ∧
      ∀ userId, s.userId = some userId →
        s.type.isCertification = true ∧ target.userIds.contains userId = true := by
  unfold datumReason?
  cases s.userId with
  | none => simp
  | some userId =>
      cases htype : s.type.isCertification with
      | false => simp
      | true => cases hbound : target.userIds.contains userId <;> simp [hbound]

theorem unknownNotations_eq_nil_iff : unknownNotations policy s = [] ↔
    ∀ n ∈ s.criticalNotations, n ∈ policy.knownNotations := by
  simp [unknownNotations, List.filter_eq_nil_iff]

theorem issuerReason?_eq_none_iff {created : Int} : issuerReason? issuer created = none ↔
    issuer.revocation ≠ .hard ∧ issuer.created.seconds ≤ created ∧
      (∀ since, issuer.revocation = .soft since → created ≤ since.seconds) ∧
      ∀ moment, issuer.expires = some moment → created ≤ moment.seconds := by
  simp only [issuerReason?, ite_some_eq_none_iff, not_lt, and_true]
  cases issuer.revocation with
  | hard => simp
  | none => cases issuer.expires <;> simp
  | soft since => cases issuer.expires <;> simp

theorem acceptsHash_iff {algorithm : String} {created : Moment} :
    policy.acceptsHash algorithm created = true ↔
      Text.upper algorithm ∈ policy.hashAlgorithms ∨
        ∃ cutoff, policy.cutoffs.find? (Text.upper algorithm) = some cutoff ∧
          created.seconds < cutoff.seconds := by
  rw [Policy.acceptsHash, Bool.or_eq_true, List.contains_iff_mem]
  cases policy.cutoffs.find? (Text.upper algorithm) <;> simp

theorem acceptsKey_iff {algorithm : String} :
    policy.acceptsKey algorithm = true ↔ Text.upper algorithm ∈ policy.keyAlgorithms := by
  rw [Policy.acceptsKey, List.contains_iff_mem]

/-- A signature fails no rule exactly if it is as all of them ask. -/
theorem rejectionReason?_eq_none_iff :
    rejectionReason? policy now issuer target s = none ↔
      Acceptable policy now issuer target s := by
  simp only [rejectionReason?, ite_some_eq_none_iff, Option.or_eq_none_iff,
    datumReason?_eq_none_iff, issuerReason?_eq_none_iff, Bool.not_eq_true', Bool.not_eq_false,
    Bool.not_eq_true, List.isEmpty_iff, unknownNotations_eq_nil_iff, acceptsHash_iff,
    acceptsKey_iff, not_lt, gt_iff_lt, and_true]
  constructor
  · rintro ⟨hverified, ⟨hdelegates, hcertifies⟩, hunderstood, hnoted, hmade, hunexpired,
      ⟨htrusted, hpresent, hunrevoked, hissuerUnexpired⟩, hhash, hkey, htarget⟩
    refine ⟨hverified, hdelegates, hcertifies, hunderstood, hnoted, hmade, ?_, htrusted,
      hpresent, hunrevoked, hissuerUnexpired, hhash, hkey, htarget⟩
    intro moment hmoment
    simpa [hmoment] using hunexpired
  · intro h
    refine ⟨h.verified, ⟨h.delegates, h.certifies⟩, h.understood, h.noted, h.made, ?_,
      ⟨h.issuerTrusted, h.issuerPresent, h.issuerUnrevoked, h.issuerUnexpired⟩, h.hash, h.key,
      h.targetPresent⟩
    cases hexpires : s.expires with
    | none => rfl
    | some moment => simpa using h.unexpired moment hexpires

/-- A rejection names the certificates, the datum, and the first rule that failed. -/
theorem check_eq_some_iff {rejection : Rejection} :
    check policy now issuer target s = some rejection ↔
      ∃ reason, rejectionReason? policy now issuer target s = some reason ∧
        rejection = ⟨issuer.key, target.key, s.userId, reason⟩ := by
  rw [check, Option.map_eq_some_iff]
  constructor
  · rintro ⟨reason, hreason, rfl⟩
    exact ⟨reason, hreason, rfl⟩
  · rintro ⟨reason, hreason, rfl⟩
    exact ⟨reason, hreason, rfl⟩

theorem check_eq_none_iff :
    check policy now issuer target s = none ↔ Acceptable policy now issuer target s := by
  rw [check, Option.map_eq_none_iff, rejectionReason?_eq_none_iff]

instance (policy : Policy) (now : Moment) (issuer target : CertificateRecord)
    (s : SignatureRecord) : Decidable (Acceptable policy now issuer target s) :=
  decidable_of_iff (check policy now issuer target s = none) check_eq_none_iff

end Rules

/-! ## The certificates -/

/-- The first usable certificate with a fingerprint. -/
def firstUsable? (certificates : List CertificateRecord) (f : Fingerprint) :
    Option CertificateRecord :=
  certificates.find? fun c => c.usable && c.key == f

/-- The usable certificates, of each fingerprint the first one, in order. -/
def chosen : List CertificateRecord → List CertificateRecord
  | [] => []
  | c :: rest =>
    if c.usable then c :: (chosen rest).filter fun other => other.key != c.key else chosen rest

section Certificates

variable {certificates : List CertificateRecord}

theorem find?_chosen (certificates : List CertificateRecord) (f : Fingerprint) :
    (chosen certificates).find? (·.key == f) = firstUsable? certificates f := by
  unfold firstUsable?
  induction certificates with
  | nil => simp [chosen]
  | cons c rest ih =>
      rw [chosen, List.find?_cons]
      cases husable : c.usable with
      | false => simpa using ih
      | true =>
          by_cases hkey : c.key = f
          · simp [hkey]
          · have hother : ∀ other : CertificateRecord,
                decide ((other.key != c.key) = true ∧ (other.key == f) = true) =
                  (other.key == f) := by
              intro other
              by_cases hf : other.key = f
              · simp [hf, Ne.symm hkey]
              · simp [hf]
            simp only [if_true, List.find?_cons, List.find?_filter, hother, beq_false_of_ne hkey,
              Bool.and_false]
            exact ih

/-- Certificates are kept one after the other, each one unless its fingerprint is present. -/
theorem foldl_keep (state : Table Fingerprint CertificateRecord × List Notice)
    (certificates : List CertificateRecord) :
    (certificates.foldl keep state).1 =
      state.1 ++ ((chosen certificates).filter fun c => !state.1.contains c.key).map
        fun c => (c.key, c) := by
  induction certificates generalizing state with
  | nil => simp [chosen]
  | cons c rest ih =>
      rw [List.foldl_cons, ih, keep, chosen]
      cases husable : c.usable with
      | false => simp
      | true =>
          cases hpresent : state.1.contains c.key with
          | true =>
              have hother : ∀ other : CertificateRecord,
                  (!state.1.contains other.key && other.key != c.key) =
                    !state.1.contains other.key := by
                intro other
                by_cases hsame : other.key = c.key
                · simp [hsame, hpresent]
                · simp [hsame]
              simp [hpresent, List.filter_filter, hother]
          | false =>
              have hput : state.1.put c.key c = state.1 ++ [(c.key, c)] :=
                Table.put_of_find?_eq_none (by simpa [Table.contains] using hpresent)
              have hother : ∀ other : CertificateRecord,
                  (!state.1.contains other.key && other.key != c.key) =
                    !(state.1.put c.key c).contains other.key := by
                intro other
                rw [Table.contains, Table.contains, Table.find?_put]
                by_cases hsame : other.key = c.key
                · simp [hsame]
                · simp [hsame, Ne.symm hsame]
              simp [hpresent, List.filter_filter, hother, hput]

theorem kept_eq (certificates : List CertificateRecord) :
    (kept certificates).1 = (chosen certificates).map fun c => (c.key, c) := by
  rw [kept, foldl_keep]
  simp [Table.contains]

theorem find?_kept (certificates : List CertificateRecord) (f : Fingerprint) :
    (kept certificates).1.find? f = firstUsable? certificates f := by
  rw [← find?_chosen, kept_eq]
  induction chosen certificates with
  | nil => rfl
  | cons c rest ih =>
      rw [List.map_cons, Table.find?_cons, List.find?_cons, ih]
      by_cases hkey : c.key = f
      · simp [hkey]
      · simp [hkey, beq_false_of_ne hkey]

theorem nodup_keys_chosen (certificates : List CertificateRecord) :
    ((chosen certificates).map (·.key)).Nodup := by
  induction certificates with
  | nil => exact List.nodup_nil
  | cons c rest ih =>
      rw [chosen]
      split
      · rw [List.map_cons, List.nodup_cons]
        refine ⟨?_, ?_⟩
        · intro hkey
          obtain ⟨other, hother, hsame⟩ := List.mem_map.mp hkey
          have hne := (List.mem_filter.mp hother).2
          simp [hsame] at hne
        · exact ih.sublist (List.filter_sublist.map _)
      · exact ih

theorem nodup_keys_kept (certificates : List CertificateRecord) :
    (kept certificates).1.keys.Nodup := by
  rw [kept_eq, Table.keys, List.map_map]
  exact nodup_keys_chosen certificates

/-- A chosen certificate is the first usable one with its fingerprint. -/
theorem firstUsable?_of_mem_chosen {c : CertificateRecord} (hc : c ∈ chosen certificates) :
    firstUsable? certificates c.key = some c := by
  rw [← find?_kept]
  apply Table.find?_of_mem (nodup_keys_kept certificates)
  rw [kept_eq]
  exact List.mem_map_of_mem hc

theorem key_of_firstUsable? {f : Fingerprint} {c : CertificateRecord}
    (h : firstUsable? certificates f = some c) : c.key = f := by
  have hc := List.find?_some h
  rw [Bool.and_eq_true, beq_iff_eq] at hc
  exact hc.2

theorem mem_jobs_iff {job : Job} :
    job ∈ jobs (kept certificates).1 ↔
      firstUsable? certificates job.target.key = some job.target ∧
        job.targetKey = job.target.key ∧ job.signature ∈ job.target.signatures := by
  obtain ⟨targetKey, target, s⟩ := job
  simp only [jobs, kept_eq, List.flatMap_map, List.mem_flatMap, List.mem_map, Job.mk.injEq]
  constructor
  · rintro ⟨c, hc, s', hs, rfl, rfl, rfl⟩
    exact ⟨firstUsable?_of_mem_chosen hc, rfl, hs⟩
  · rintro ⟨htarget, rfl, hs⟩
    rw [← find?_chosen] at htarget
    exact ⟨target, List.mem_of_find?_eq_some htarget, s, hs, rfl, rfl, rfl⟩

end Certificates

/-! ## The signatures -/

/-- A signature over a datum that is made of a record: the record is on the first usable certificate
of the target, it names a certificate of the store as its issuer, and it is as the rules ask. -/
inductive Made (policy : Policy) (now : Moment) (certificates : List CertificateRecord) :
    Place → Signature → Prop where
  | of_record {issuer target : CertificateRecord} {record : SignatureRecord} {s : Signature}
      (hissuer : firstUsable? certificates (Fingerprint.ofText record.issuer) = some issuer)
      (htarget : firstUsable? certificates target.key = some target)
      (hrecord : record ∈ target.signatures)
      (hacceptable : Acceptable policy now issuer target record)
      (hsignature : signature issuer.node target.node record = .ok s) :
      Made policy now certificates
        ((Fingerprint.ofText record.issuer, target.key), record.userId) s

theorem outline_of_signature {issuer target : Node} {record : SignatureRecord} {s : Signature}
    (h : signature issuer target record = .ok s) :
    s.outline = ((issuer.fingerprint, target.fingerprint), record.userId) := by
  unfold signature at h
  cases hdepth : Depth.ofNumber record.depth with
  | error fault => simp [hdepth] at h
  | ok depth =>
      cases hamount : Signature.amount? record.amount with
      | error fault => simp [hdepth, hamount] at h
      | ok amount =>
          simp only [hdepth, hamount, Except.ok.injEq] at h
          rw [← h]
          rfl

section Signatures

variable {policy : Policy} {now : Moment} {certificates : List CertificateRecord}
  {signatures : List Signature}

theorem accepted?_eq_ok_iff {job : Job} {s : Signature} :
    accepted? policy now (kept certificates).1 job = some (.ok s) ↔
      ∃ issuer, firstUsable? certificates (Fingerprint.ofText job.signature.issuer) = some issuer ∧
        Acceptable policy now issuer job.target job.signature ∧
        signature issuer.node job.target.node job.signature = .ok s := by
  rw [accepted?, find?_kept, Option.bind_eq_some_iff]
  apply exists_congr
  intro issuer
  rw [← check_eq_none_iff]
  cases check policy now issuer job.target job.signature <;> simp

/-- The signatures that are added over a datum are those that are made of records. -/
theorem made_iff
    (h : (jobs (kept certificates).1).filterMap (accepted? policy now (kept certificates).1) =
      signatures.map .ok) {place : Place} {s : Signature} :
    s ∈ signatures ∧ s.outline = place ↔ Made policy now certificates place s := by
  have hmem : s ∈ signatures ↔ ∃ job ∈ jobs (kept certificates).1,
      accepted? policy now (kept certificates).1 job = some (.ok s) := by
    rw [← List.mem_filterMap, h, List.mem_map]
    simp
  rw [hmem]
  constructor
  · rintro ⟨⟨job, hjob, haccepted⟩, rfl⟩
    obtain ⟨issuer, hissuer, hacceptable, hsignature⟩ := accepted?_eq_ok_iff.mp haccepted
    obtain ⟨htarget, -, hrecord⟩ := mem_jobs_iff.mp hjob
    have houtline : s.outline =
        ((Fingerprint.ofText job.signature.issuer, job.target.key), job.signature.userId) := by
      rw [outline_of_signature hsignature, ← key_of_firstUsable? hissuer]
      rfl
    rw [houtline]
    exact .of_record hissuer htarget hrecord hacceptable hsignature
  · intro hmade
    cases hmade with
    | @of_record issuer target record _ hissuer htarget hrecord hacceptable hsignature =>
        refine ⟨⟨⟨target.key, target, record⟩, mem_jobs_iff.mpr ⟨htarget, rfl, hrecord⟩,
          accepted?_eq_ok_iff.mpr ⟨issuer, hissuer, hacceptable, hsignature⟩⟩, ?_⟩
        rw [outline_of_signature hsignature, ← key_of_firstUsable? hissuer]
        rfl

end Signatures

/-! ## The rejections -/

/-- A signature by a certificate of the store that fails a rule, with the certificates. -/
structure Failure where
  issuer : CertificateRecord
  target : CertificateRecord
  signature : SignatureRecord

/-- The signatures on a certificate that fail a rule, in order. -/
def failuresOn (policy : Policy) (now : Moment) (certificates : List CertificateRecord)
    (target : CertificateRecord) : List Failure :=
  target.signatures.filterMap fun s =>
    (firstUsable? certificates (Fingerprint.ofText s.issuer)).bind fun issuer =>
      if Acceptable policy now issuer target s then none else some ⟨issuer, target, s⟩

/-- A rejection names the certificates and the datum of a failure, and the first rule that
failed. -/
def Records (policy : Policy) (now : Moment) (rejection : Rejection) (failure : Failure) : Prop :=
  rejection.issuer = failure.issuer.key ∧ rejection.target = failure.target.key ∧
    rejection.userId = failure.signature.userId ∧
    rejectionReason? policy now failure.issuer failure.target failure.signature =
      some rejection.reason

/-- Every failure has its rejection, in the order of the certificates and their signatures. -/
theorem forall₂_rejections (policy : Policy) (now : Moment)
    (certificates : List CertificateRecord) :
    List.Forall₂ (Records policy now)
      ((jobs (kept certificates).1).filterMap (rejection? policy now (kept certificates).1))
      ((chosen certificates).flatMap (failuresOn policy now certificates)) := by
  simp only [jobs, kept_eq, List.flatMap_map, List.filterMap_flatMap, List.filterMap_map]
  apply List.rel_flatMap (List.forall₂_same.mpr fun _ _ => rfl)
  rintro target _ rfl
  apply List.rel_filterMap _ (List.forall₂_same.mpr fun _ _ => rfl)
  rintro s _ rfl
  simp only [Function.comp_apply, rejection?, ← kept_eq, find?_kept]
  cases firstUsable? certificates (Fingerprint.ofText s.issuer) with
  | none => exact .none
  | some issuer =>
      simp only [Option.bind_some]
      by_cases hacceptable : Acceptable policy now issuer target s
      · rw [check_eq_none_iff.mpr hacceptable, if_pos hacceptable]
        exact .none
      · have hrejected : check policy now issuer target s ≠ none :=
          mt check_eq_none_iff.mp hacceptable
        obtain ⟨rejection, hrejection⟩ := Option.ne_none_iff_exists'.mp hrejected
        obtain ⟨reason, hreason, rfl⟩ := check_eq_some_iff.mp hrejection
        rw [hrejection, if_neg hacceptable]
        exact .some ⟨rfl, rfl, rfl, hreason⟩

/-! ## The network -/

section Network

variable (signatures : List Signature) (now : Moment) (certificates : List CertificateRecord)

theorem nodes_certificatesOnly :
    (certificatesOnly now certificates).nodes =
      (kept certificates).1.mapValues CertificateRecord.node :=
  rfl

theorem wellKeyed_certificatesOnly : (certificatesOnly now certificates).WellKeyed := by
  refine ⟨?_, by simp [certificatesOnly]⟩
  intro entry hentry
  simp only [certificatesOnly, kept_eq, List.map_map, List.mem_map] at hentry
  obtain ⟨c, -, rfl⟩ := hentry
  rfl

theorem filed_foldl_addSignature :
    (signatures.foldl Builder.addSignature (certificatesOnly now certificates)).Filed := by
  rw [Builder.foldl_addSignature_eq]
  exact Builder.Filed.receiveAll ⟨by simp [certificatesOnly, Table.keys],
    by simp [certificatesOnly]⟩ _

theorem latest_foldl_addSignature (place : Place) :
    Latest (signatures.filter fun s => decide (s.outline = place))
      ((signatures.foldl Builder.addSignature (certificatesOnly now certificates)).bucket
        place) := by
  rw [Builder.foldl_addSignature_eq, Builder.bucket_receiveAll,
    Contribution.signatures_map_signature]
  exact Latest.nil.foldl _

end Network

/-- What a loaded network holds, and what is recorded of the signatures that were left out. -/
structure Contents (policy : Policy) (now : Moment) (certificates : List CertificateRecord)
    (network : Network) (rejections : List Rejection) : Prop where
  time : network.referenceTime = now
  keys : network.nodes.keys.Nodup
  /-- A certificate is described by the first usable record of its fingerprint. -/
  nodes : ∀ f, network.node? f = (firstUsable? certificates f).map (·.node)
  filed : ∀ s, s ∈ network.signatures ↔ s ∈ network.signaturesOver s.outline
  /-- What stands over a datum was made of a record, and nothing made over it is newer. -/
  newest : ∀ place, ∀ s ∈ network.signaturesOver place,
    Made policy now certificates place s ∧
      ∀ t, Made policy now certificates place t → t.created.seconds ≤ s.created.seconds
  /-- All of the newest signatures that were made over a datum stand there, up to sameness. -/
  complete : ∀ place s, Made policy now certificates place s →
    (∀ t, Made policy now certificates place t → t.created.seconds ≤ s.created.seconds) →
      ∃ t ∈ network.signaturesOver place, t.same s = true
  distinct : ∀ place, (network.signaturesOver place).Pairwise fun s t => s.same t = false
  rejections : List.Forall₂ (Records policy now) rejections
    ((chosen certificates).flatMap (failuresOn policy now certificates))

section

variable {policy : Policy} {now : Moment} {certificates : List CertificateRecord}

/-- If the amounts and depths of all records are in range, loading gives a network. It holds the
first usable certificate of each fingerprint and the newest of the acceptable signatures over each
datum, and the rejections are those of the signatures by known certificates that fail a rule, in
order. -/
theorem load_contents (h : ∀ c ∈ certificates, ∀ s ∈ c.signatures, s.InRange) :
    ∃ network, (load policy now certificates).network = .ok network ∧
      Contents policy now certificates network (load policy now certificates).rejections := by
  have hrange : ∀ job ∈ jobs (kept certificates).1,
      (accepted? policy now (kept certificates).1 job).isSome = true → job.signature.InRange := by
    intro job hjob _
    obtain ⟨htarget, -, hrecord⟩ := mem_jobs_iff.mp hjob
    exact h job.target (List.mem_of_find?_eq_some htarget) _ hrecord
  obtain ⟨signatures, hsignatures, hnetwork, hrejections⟩ := load_of_inRange hrange
  have hfiled := filed_foldl_addSignature signatures now certificates
  have hkeys := (wellKeyed_certificatesOnly now certificates).foldl_addSignature signatures
  have hlatest := latest_foldl_addSignature signatures now certificates
  have hmade : ∀ {place s}, s ∈ signatures.filter (fun s => decide (s.outline = place)) ↔
      Made policy now certificates place s := by
    intro place s
    rw [← made_iff hsignatures, List.mem_filter, decide_eq_true_iff]
  obtain ⟨hnodes, htime⟩ :=
    Builder.foldl_addSignature_frame (certificatesOnly now certificates) signatures
  refine ⟨_, hnetwork, ?_⟩
  constructor
  case time => exact congrArg (·.getD now) htime
  case keys =>
    change (Builder.nodes _).keys.Nodup
    rw [hnodes, nodes_certificatesOnly, Table.keys_mapValues]
    exact nodup_keys_kept certificates
  case nodes =>
    intro f
    change (Builder.nodes _).find? f = _
    rw [hnodes, nodes_certificatesOnly, Table.find?_mapValues, find?_kept]
  case filed =>
    intro s
    rw [hfiled.signaturesOver_build]
    exact hfiled.mem_signatures hkeys now
  case newest =>
    intro place s hs
    rw [hfiled.signaturesOver_build] at hs
    obtain ⟨hs, hnewest⟩ := (hlatest place).newest s hs
    exact ⟨hmade.mp hs, fun t ht => hnewest t (hmade.mpr ht)⟩
  case complete =>
    intro place s hs hnewest
    have hcore := (hlatest place).complete s (hmade.mpr hs) fun t ht => hnewest t (hmade.mp ht)
    obtain ⟨t, ht, hsame⟩ := List.mem_map.mp hcore
    rw [hfiled.signaturesOver_build]
    exact ⟨t, ht, Signature.same_iff.mpr hsame⟩
  case distinct =>
    intro place
    rw [hfiled.signaturesOver_build]
    exact (hlatest place).pairwise_same
  case rejections =>
    rw [hrejections]
    exact forall₂_rejections policy now certificates

end

/-! ### A certification made anew

`A` certifies a user ID of `B`, and again a second later with a greater amount. There are an
unusable and a second record of `A`, a delegation that was not verified, and a certification by a
certificate that is not in the store. -/

namespace Reissue

/-- A moment that many seconds after the first. -/
def second (n : Nat) : Moment := ⟨1000000 * n, some 0⟩

def certification (issuer : String) (made : Nat) (amount : Int) : SignatureRecord where
  issuer := issuer
  type := .positiveCertification
  created := second made
  userId := some "bob@example.org"
  amount := amount

def delegation : SignatureRecord where
  issuer := "A"
  type := .directKey
  created := second 1
  verified := false

def certificates : List CertificateRecord :=
  [{ fingerprint := "a", created := second 0, usable := false },
    { fingerprint := "a", created := second 1, userIds := [("alice@example.org", .none)] },
    { fingerprint := "A", created := second 0, revocation := .hard },
    { fingerprint := "B"
      created := second 0
      userIds := [("bob@example.org", .none)]
      signatures :=
        [certification "A" 1 60, certification "A" 2 70, delegation, certification "C" 3 80] }]

end Reissue

theorem load_contents_reissue :
    (∀ c ∈ Reissue.certificates, ∀ s ∈ c.signatures, s.InRange) ∧
      ∃ network, (load {} (Reissue.second 9) Reissue.certificates).network = .ok network ∧
        (network.node? ⟨"A"⟩).map (·.userIds.keys) = some ["alice@example.org"] ∧
        (network.signaturesOver ((⟨"A"⟩, ⟨"B"⟩), some "bob@example.org")).map (·.trust) = [70] ∧
        Contents {} (Reissue.second 9) Reissue.certificates network
          [⟨⟨"A"⟩, ⟨"B"⟩, none, .unverified⟩] := by
  have hnumbers : ∀ c ∈ Reissue.certificates, ∀ s ∈ c.signatures,
      (0 ≤ s.amount ∧ s.amount ≤ 255) ∧ 0 ≤ s.depth ∧ s.depth ≤ 255 := by
    decide
  have hrange : ∀ c ∈ Reissue.certificates, ∀ s ∈ c.signatures, s.InRange :=
    fun c hc s hs => ⟨(hnumbers c hc s hs).1, (hnumbers c hc s hs).2⟩
  have hshown : (load {} (Reissue.second 9) Reissue.certificates).network.toOption.map
      (fun network => (network.signaturesOver
        ((⟨"A"⟩, ⟨"B"⟩), some "bob@example.org")).map (·.trust)) = some [70] := by
    decide +kernel
  have hrejections : (load {} (Reissue.second 9) Reissue.certificates).rejections =
      [⟨⟨"A"⟩, ⟨"B"⟩, none, .unverified⟩] := by
    decide +kernel
  obtain ⟨network, hnetwork, hcontents⟩ :
      ∃ network, (load {} (Reissue.second 9) Reissue.certificates).network = .ok network ∧
        Contents {} (Reissue.second 9) Reissue.certificates network
          (load {} (Reissue.second 9) Reissue.certificates).rejections :=
    load_contents hrange
  refine ⟨hrange, network, hnetwork, ?_, ?_, hrejections ▸ hcontents⟩
  · rw [hcontents.nodes]
    decide +kernel
  · simpa [hnetwork, Except.toOption] using hshown

end Store

end TrustWeb
