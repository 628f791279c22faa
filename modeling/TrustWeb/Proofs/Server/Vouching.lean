import TrustWeb.Proofs.Authentication.Found
import TrustWeb.Proofs.Network.Delivery
import TrustWeb.Proofs.PathCheck.Soundness
import TrustWeb.Proofs.Server.Answers
import TrustWeb.Proofs.Web.Listing

/-! # What a server vouches for

If an answer of the tools that authenticate a binding or check a path affirms the binding, every
path that it reports ends with a certification of the user ID that it names. The exception is an
answer about no user ID at all: there, delegations count. -/

namespace TrustWeb

namespace Web

variable {w : Web} {f root : Fingerprint} {others : List Fingerprint} {subject : Subject}
  {userId : String} {byEmail : Bool}

/-! ## The last signature of a path -/

/-- A path ends at a certificate with a signature that is over the subject, and which stands in the
network or is the certification of that certificate by itself. -/
def EndsOver (w : Web) (f : Fingerprint) (subject : Subject) (p : Path) : Prop :=
  ∃ s, p.signatures.getLast? = some s ∧ s.target.fingerprint = f ∧
    subject.isOver s.userId = true ∧
    (s ∈ w.network.signatures ∨ w.fresh.selfSignature? f subject = some s)

theorem EndsOver.subject_cases {p : Path} (h : w.EndsOver f subject p) :
    subject = .certificate ∨ ∃ userId, subject = .userId userId := by
  obtain ⟨s, -, -, hover, -⟩ := h
  cases subject with
  | certificate => exact .inl rfl
  | userId userId => exact .inr ⟨userId, rfl⟩
  | other v => cases hover

/-- All paths of an authentication end over its subject. -/
theorem endsOver_of_authenticate (hkeys : w.network.WellKeyed) {wanted : Int} {paths : Paths}
    (h : w.query.authenticate f subject wanted = .ok paths) :
    ∀ i ∈ paths.items, w.EndsOver f subject i.path := by
  intro i hi
  obtain ⟨r, hfound⟩ := (Query.collects_of_authenticate hkeys h).foundIn hkeys
    w.query.balanced_start (by simp) i hi
  obtain ⟨front, s, hsignatures⟩ := List.eq_nil_or_concat' i.path.signatures |>.resolve_left
    hfound.ne_nil
  have hlast : i.path.signatures.getLast? = some s := by rw [hsignatures, List.getLast?_concat]
  refine ⟨s, hlast, (hfound.connects hkeys).target_of_getLast? hlast,
    (hfound.ends hkeys hsignatures).certifies, ?_⟩
  have hsame : w.fresh.selfSignature? = w.query.residual.selfSignature? :=
    Residual.selfSignature?_of_network w.query.network_residual.symm
  rw [hsame]
  exact hfound.known_or_own hlast

/-- A path that a check follows to its end ends over the subject. -/
theorem endsOver_of_followed (hkeys : w.network.WellKeyed) {n : Node}
    (hroot : w.network.node? root = some n) {p : Path}
    (h : w.followed others subject n = .ok (p, [])) :
    w.EndsOver (others.getLast?.getD root) subject p := by
  have hf : n.fingerprint = root := hkeys.fingerprint_of_node? hroot
  cases others with
  | nil =>
      simp only [followed, List.isEmpty_nil, if_true] at h
      rcases PathCheck.followSelf_cases h with ⟨-, -, hobjections⟩ | ⟨s, hown, happend, -⟩
      · cases hobjections
      · rw [hf] at hown
        have hisOwn := Residual.isOwn_of_selfSignature? hkeys hown
        refine ⟨s, ?_, hisOwn.target, hisOwn.isOver, .inr hown⟩
        rw [(Path.signatures_of_append happend).2, List.getLast?_concat]
  | cons target rest =>
      simp only [followed, List.isEmpty_cons, Bool.false_eq_true, if_false] at h
      obtain ⟨ss, hchooses, hgrows⟩ := (PathCheck.follow_eq_ok_nil_iff hkeys).mp h
      have hserves := hchooses.serves hkeys
      have hsignatures : p.signatures = ss := hgrows.root_signatures.2
      have hne : ss ≠ [] := by
        rintro rfl
        cases hchooses.targets hkeys
      have hlast := List.getLast?_eq_some_getLast hne
      rw [show Path.target { root := n } = n from rfl, hf] at hserves
      refine ⟨ss.getLast hne, by rw [hsignatures, hlast], ?_, hserves.certifies _ hlast,
        .inl (hserves.known _ (List.getLast_mem hne))⟩
      exact hserves.connected.target_of_getLast? hlast

/-- A valid path ends over the subject. -/
theorem endsOver_of_checkPath (hkeys : w.network.WellKeyed) {c : PathCheck}
    (h : w.checkPath root others subject = .ok c) (hvalid : c.isValid = true) :
    ∃ p, c.path = some p ∧ w.EndsOver (others.getLast?.getD root) subject p := by
  have hnil : c.objections = [] := by simpa [PathCheck.isValid] using hvalid
  rcases w.known_or_unknown (root :: others) with hknown | ⟨g, hg, hnone⟩
  · obtain ⟨n, hroot⟩ := hknown root List.mem_cons_self
    obtain ⟨p, first, more, hfollowed, -, rfl⟩ := exists_followed_of_checkPath hknown hroot h
    obtain ⟨-, rfl⟩ := List.append_eq_nil_iff.mp hnil
    exact ⟨p, rfl, endsOver_of_followed hkeys hroot hfollowed⟩
  · obtain ⟨objections, hne, hcheck⟩ := checkPath_of_unknown hg hnone subject
    obtain rfl := Except.ok.inj (hcheck.symm.trans h)
    exact (hne hnil).elim

theorem amount_eq_zero_of_isValid {c : PathCheck} (h : w.checkPath root others subject = .ok c)
    (hvalid : c.isValid = false) : c.amount = 0 := by
  rcases w.known_or_unknown (root :: others) with hknown | ⟨g, hg, hnone⟩
  · obtain ⟨n, hroot⟩ := hknown root List.mem_cons_self
    obtain ⟨p, first, more, -, -, rfl⟩ := exists_followed_of_checkPath hknown hroot h
    exact if_neg (by simpa [PathCheck.isValid] using hvalid)
  · obtain ⟨objections, -, hcheck⟩ := checkPath_of_unknown hg hnone subject
    obtain rfl := Except.ok.inj (hcheck.symm.trans h)
    rfl

/-! ## The paths of a verdict -/

theorem endsOver_of_bindings (hkeys : w.network.WellKeyed) {userIds : List String}
    {found : List Binding} (h : w.bindings f userIds = .ok found) :
    ∀ b ∈ found, b.fingerprint = f ∧ (∃ userId, b.subject = .userId userId) ∧
      ∀ i ∈ b.paths.items, w.EndsOver f b.subject i.path := by
  induction userIds generalizing found with
  | nil =>
      cases h
      simp
  | cons userId rest ih =>
      rw [bindings] at h
      split at h
      · cases h
      · next b hb =>
          obtain ⟨paths, hpaths, rfl⟩ := map_eq_ok_iff.mp hb
          obtain ⟨others, hothers, rfl⟩ := map_eq_ok_iff.mp h
          rw [List.forall_mem_cons]
          exact ⟨⟨rfl, ⟨userId, rfl⟩, endsOver_of_authenticate hkeys hpaths⟩, ih hothers⟩

/-- The paths of a verdict end over the subject that it is about: the one that was asked about or,
by e-mail address, a user ID. -/
theorem endsOver_of_verdict (hkeys : w.network.WellKeyed) {v : Verdict}
    (h : w.authenticate f subject byEmail = .ok v) :
    v.binding.fingerprint = f ∧
      (∀ i ∈ v.binding.paths.items, w.EndsOver f v.binding.subject i.path) ∧
      (byEmail = false → v.binding.subject = subject) ∧
      (byEmail = true → v.binding.paths.items ≠ [] →
        ∃ userId, v.binding.subject = .userId userId) := by
  unfold authenticate at h
  split at h
  · next hemail =>
      obtain ⟨found, hfound, rfl⟩ := map_eq_ok_iff.mp h
      rcases largest?_cases found with ⟨-, hnone⟩ | ⟨best, hbest, hlargest⟩
      · simp [hnone, hemail]
      · obtain ⟨hf, huser, hpaths⟩ := endsOver_of_bindings hkeys hfound best hlargest.mem
        rw [hbest, Option.getD_some]
        exact ⟨hf, hpaths, by simp [hemail], fun _ _ => huser⟩
  · next hemail =>
      obtain ⟨b, hb, rfl⟩ := map_eq_ok_iff.mp h
      obtain ⟨paths, hpaths, rfl⟩ := map_eq_ok_iff.mp hb
      exact ⟨rfl, endsOver_of_authenticate hkeys hpaths, fun _ => rfl, fun h => absurd h hemail⟩

/-! ## Paths as values -/

/-- A path as a value ends with a certification of the user ID on the certificate, which stands in
the network or is the certification of that certificate by itself. -/
def EndsInCertification (w : Web) (f : Fingerprint) (userId : String) (v : Json) : Prop :=
  ∃ components s, v.field? "components" = some (.array components) ∧
    components.getLast? = some s.toJson ∧ s.target.fingerprint = f ∧ s.userId = some userId ∧
    s.toJson.field? "kind" = some (.text "certification") ∧
    s.toJson.field? "user_id" = some (.text userId) ∧
    (s ∈ w.network.signatures ∨ w.fresh.selfSignature? f (.userId userId) = some s)

theorem EndsOver.endsInCertification {p : Path} {v : Json} (h : w.EndsOver f (.userId userId) p)
    (hv : v.field? "components" = some (.array (p.signatures.map (·.toJson)))) :
    w.EndsInCertification f userId v := by
  obtain ⟨s, hlast, htarget, hover, hsource⟩ := h
  have huser : s.userId = some userId := isOver_userId_iff.mp hover
  refine ⟨_, s, hv, by rw [List.getLast?_map, hlast]; rfl, htarget, huser, ?_, ?_, hsource⟩
  · simp [Signature.toJson, Json.field?, Table.find?, Signature.isDelegation, huser]
  · simp [Signature.toJson, Json.field?, Table.find?, huser]

end Web

namespace Server

variable {s : Server} {around : Surroundings} {tool : Tool}
  {arguments fields : List (String × Json)}

/-! ## Answers -/

/-- An answer affirms a binding: it reports a positive amount, or a valid path. -/
def Affirms (fields : List (String × Json)) : Prop :=
  (∃ amount, Table.find? fields "amount" = some (.number amount) ∧ 0 < amount) ∨
    Table.find? fields "valid" = some (.bool true)

/-- An answer reports a path. -/
def Reports (fields : List (String × Json)) (v : Json) : Prop :=
  (∃ items, Table.find? fields "paths" = some (.array items) ∧ v ∈ items) ∨
    Table.find? fields "path" = some v ∧ v ≠ .null

/-- What was given as the user ID. -/
def givenUserId (arguments : List (String × Json)) : Json :=
  Call.argument arguments "user_id" (.text "")

/-- The binding that an answer is about. An authentication names it; a path leads to the last of the
certificates that were given, and to the user ID that was given. -/
inductive Names (arguments fields : List (String × Json)) : Tool → Fingerprint → String → Prop where
  | authenticate {f : Fingerprint} {userId : String}
      (hf : Table.find? fields "fingerprint" = some (.text f.text))
      (huser : Table.find? fields "user_id" = some (.text userId)) :
      Names arguments fields .authenticate f userId
  | path {items : List Json} {fs : List Fingerprint} {f : Fingerprint} {userId : String}
      (hitems : (Call.argument arguments "fingerprints" (.array [])).toItems = .ok items)
      (hfs : Json.toFingerprints items = .ok fs) (hlast : fs.getLast? = some f)
      (huser : givenUserId arguments = .text userId) :
      Names arguments fields .path f userId

/-- Whether a call matches user IDs by e-mail address. -/
def MatchesAddress (tool : Tool) (arguments : List (String × Json)) : Prop :=
  tool = .authenticate ∧ Call.emailArgument arguments = true

theorem wellKeyed_of_loads (hkeys : ∀ d, s.description = some d → d.network.WellKeyed) {w : Web}
    (h : s.Loads around tool w) : w.network.WellKeyed := by
  obtain ⟨d, hd, hw⟩ := h
  obtain ⟨extra, -, rfl⟩ := map_eq_ok_iff.mp hw
  unfold currentDescription at hd
  split at hd
  · next hknown =>
      cases hd
      exact hkeys d hknown
  · cases hd
  · split at hd
    · cases hd
    · split at hd
      · next hread =>
          cases hd
          exact (Description.tidy_of_read hread).toWellKeyed
      · cases hd
      · cases hd

theorem tool_of_make {given : Json} {c : Call} (h : Call.make tool given = .ok c) :
    c.tool = tool := by
  cases tool with
  | list | statistics => cases h; rfl
  | authenticate | identify | lookup =>
      obtain ⟨a, -, rfl⟩ := map_eq_ok_iff.mp h
      rfl
  | path =>
      simp only [Call.make, bind_eq_ok_iff] at h
      obtain ⟨a, -, items, -, h⟩ := h
      cases h
      rfl

theorem ofName?_name (tool : Tool) : Tool.ofName? tool.name = some tool := by
  cases tool <;> decide

/-- The paths that an answer reports, of which there is at least one, end at a certificate over a
subject. -/
structure Backs (w : Web) (f : Fingerprint) (subject : Subject) (fields : List (String × Json)) :
    Prop where
  exists_path : ∃ p, w.EndsOver f subject p
  reported : ∀ v, Reports fields v → ∃ p, w.EndsOver f subject p ∧
    v.field? "components" = some (.array (p.signatures.map (·.toJson)))

variable {w : Web} {f : Fingerprint} {subject : Subject} {userId : String}

theorem Backs.endInCertification (h : Backs w f (.userId userId) fields) :
    ∀ v, Reports fields v → w.EndsInCertification f userId v := by
  intro v hv
  obtain ⟨p, hends, hcomponents⟩ := h.reported v hv
  exact hends.endsInCertification hcomponents

theorem backs_authenticate {fingerprint : Json} {byEmail : Bool} (hkeys : w.network.WellKeyed)
    (h : (Call.authenticate fingerprint subject byEmail).perform w = .ok fields)
    (haffirms : Affirms fields) :
    ∃ f found, Table.find? fields "fingerprint" = some (.text f.text) ∧
      Table.find? fields "user_id" = some (Subject.toJson found) ∧ Backs w f found fields ∧
      (byEmail = false → found = subject) ∧
      (byEmail = true → ∃ userId, found = .userId userId) := by
  simp only [Call.perform, Verdict.fields, bind_eq_ok_iff, map_eq_ok_iff] at h
  obtain ⟨f, -, v, hv, _, ⟨percentage, -, rfl⟩, text, -, h⟩ := h
  obtain ⟨hf, hpaths, hgiven, haddress⟩ := Web.endsOver_of_verdict hkeys hv
  have hfields : fields = v.binding.fields ++ [("target_amount", .number v.wanted),
    ("percentage", .number percentage), ("acceptable", .bool v.isAcceptable)] ++
      [("text", .text text)] := (Except.ok.inj h).symm
  -- an answer without paths has the amount 0, and says nothing of validity
  have hne : v.binding.paths.items ≠ [] := by
    intro hnil
    have hzero : v.binding.amount = 0 := by simp [Binding.amount, Paths.amount, hnil]
    subst hfields
    rcases haffirms with ⟨amount, hamount, hpositive⟩ | hvalid
    · simp [Binding.fields, Table.find?, hzero] at hamount
      omega
    · simp [Binding.fields, Table.find?] at hvalid
  obtain ⟨i, hi⟩ := List.exists_mem_of_ne_nil _ hne
  refine ⟨f, v.binding.subject, ?_, ?_, ⟨⟨i.path, hpaths i hi⟩, ?_⟩, hgiven,
    fun hemail => haddress hemail hne⟩
  · rw [hfields, ← hf]
    rfl
  · rw [hfields]
    rfl
  · rintro json (⟨items, hitems, hjson⟩ | ⟨hpath, -⟩)
    · have hreported : items = v.binding.paths.items.map (·.toJson) := by
        rw [hfields] at hitems
        simpa [Binding.fields, Table.find?, Paths.itemsJson, eq_comm] using hitems
      rw [hreported] at hjson
      obtain ⟨i, hi, rfl⟩ := List.mem_map.mp hjson
      exact ⟨i.path, hpaths i hi, rfl⟩
    · rw [hfields] at hpath
      simp [Binding.fields, Table.find?] at hpath

theorem backs_path {chain : List Json} (hkeys : w.network.WellKeyed)
    (h : (Call.path chain subject).perform w = .ok fields) (haffirms : Affirms fields) :
    ∃ fs f, Json.toFingerprints chain = .ok fs ∧ fs.getLast? = some f ∧
      Backs w f subject fields := by
  cases chain with
  | nil => cases h
  | cons first rest =>
      simp only [Call.perform, Call.checkChain, bind_eq_ok_iff] at h
      obtain ⟨root, hroot, others, hothers, c, hc, h⟩ := h
      have hfields : fields = c.fields := (Except.ok.inj h).symm
      subst hfields
      have hvalid : c.isValid = true := by
        rcases haffirms with ⟨amount, hamount, hpositive⟩ | hvalid
        · rw [← Bool.not_eq_false]
          intro hinvalid
          have hzero := Web.amount_eq_zero_of_isValid hc hinvalid
          simp [PathCheck.fields, Table.find?, hzero] at hamount
          omega
        · simpa [PathCheck.fields, Table.find?] using hvalid
      obtain ⟨p, hpath, hends⟩ := Web.endsOver_of_checkPath hkeys hc hvalid
      refine ⟨root :: others, others.getLast?.getD root, ?_, List.getLast?_cons, ⟨⟨p, hends⟩, ?_⟩⟩
      · simp only [Json.toFingerprints] at hothers ⊢
        simp only [List.mapM_cons, hroot, hothers]
        rfl
      · rintro json (⟨items, hitems, -⟩ | ⟨hjson, -⟩)
        · simp [PathCheck.fields, Table.find?] at hitems
        · have hreported : json = p.toJson := by
            simpa [PathCheck.fields, Table.find?, hpath, eq_comm] using hjson
          exact ⟨p, hends, by rw [hreported]; rfl⟩

theorem eq_null_of_certificate {v : Json} (h : Subject.ofJson v = .certificate) : v = .null := by
  cases v <;> simp_all [Subject.ofJson]

theorem eq_text_of_userId {v : Json} (h : Subject.ofJson v = .userId userId) :
    v = .text userId := by
  cases v <;> simp_all [Subject.ofJson]

/-- Paths that back what was given as the user ID vouch for a binding, unless null was given. -/
theorem Backs.vouches (h : Backs w f (Subject.ofJson (givenUserId arguments)) fields)
    (hnames : ∀ userId, givenUserId arguments = .text userId →
      Names arguments fields tool f userId) :
    (∃ f userId, Names arguments fields tool f userId ∧ givenUserId arguments = .text userId ∧
        ∀ v, Reports fields v → w.EndsInCertification f userId v) ∨
      givenUserId arguments = .null := by
  obtain ⟨p, hends⟩ := h.exists_path
  rcases hends.subject_cases with hnone | ⟨userId, hsome⟩
  · exact .inr (eq_null_of_certificate hnone)
  · have htext := eq_text_of_userId hsome
    rw [hsome] at h
    exact .inl ⟨f, userId, hnames userId htext, htext, h.endInCertification⟩

theorem vouches_authenticate {c : Call} (hkeys : w.network.WellKeyed)
    (hmake : Call.make .authenticate (.object arguments) = .ok c)
    (hperform : c.perform w = .ok fields) (haffirms : Affirms fields) :
    (∃ f userId, Names arguments fields .authenticate f userId ∧
        (givenUserId arguments = .text userId ∨ MatchesAddress .authenticate arguments) ∧
        ∀ v, Reports fields v → w.EndsInCertification f userId v) ∨
      givenUserId arguments = .null ∧ ¬MatchesAddress .authenticate arguments := by
  cases hmake
  obtain ⟨f, found, hf, huser, hbacks, hgiven, haddress⟩ :=
    backs_authenticate hkeys hperform haffirms
  cases hemail : Call.emailArgument arguments with
  | true =>
      obtain ⟨userId, rfl⟩ := haddress hemail
      exact .inl ⟨f, userId, .authenticate hf huser, .inr ⟨rfl, hemail⟩,
        hbacks.endInCertification⟩
  | false =>
      have hexact : ¬MatchesAddress .authenticate arguments := by simp [MatchesAddress, hemail]
      obtain rfl := hgiven hemail
      have hnames : ∀ userId, givenUserId arguments = .text userId →
          Names arguments fields .authenticate f userId := by
        intro userId htext
        change Table.find? fields "user_id" =
          some (Subject.ofJson (givenUserId arguments)).toJson at huser
        rw [htext] at huser
        exact .authenticate hf huser
      rcases Backs.vouches hbacks hnames with ⟨f, userId, hnamed, htext, hreported⟩ | hnull
      · exact .inl ⟨f, userId, hnamed, .inl htext, hreported⟩
      · exact .inr ⟨hnull, hexact⟩

theorem vouches_path {c : Call} (hkeys : w.network.WellKeyed)
    (hmake : Call.make .path (.object arguments) = .ok c) (hperform : c.perform w = .ok fields)
    (haffirms : Affirms fields) :
    (∃ f userId, Names arguments fields .path f userId ∧ givenUserId arguments = .text userId ∧
        ∀ v, Reports fields v → w.EndsInCertification f userId v) ∨
      givenUserId arguments = .null := by
  simp only [Call.make, bind_eq_ok_iff] at hmake
  obtain ⟨a, ha, items, hitems, hmake⟩ := hmake
  cases ha
  cases hmake
  obtain ⟨fs, f, hfs, hlast, hbacks⟩ := backs_path hkeys hperform haffirms
  exact hbacks.vouches fun userId htext => .path hitems hfs hlast htext

/-- If the answer of a tool that authenticates a binding or checks a path affirms the binding, every
path that it reports ends with a certification of exactly the binding that the answer names, and the
user ID was given as text, unless user IDs were matched by e-mail address. The exception is a call
that gives null for the user ID. -/
theorem call_vouches (hkeys : ∀ d, s.description = some d → d.network.WellKeyed)
    (htool : tool = .authenticate ∨ tool = .path)
    (h : (s.call around (.text tool.name) (.object arguments)).2 = .ok fields)
    (haffirms : Affirms fields) :
    ∃ w, s.Loads around tool w ∧
      ((∃ f userId, Names arguments fields tool f userId ∧
          (givenUserId arguments = .text userId ∨ MatchesAddress tool arguments) ∧
          ∀ v, Reports fields v → w.EndsInCertification f userId v) ∨
        givenUserId arguments = .null ∧ ¬MatchesAddress tool arguments) := by
  rcases call_cases s around (.text tool.name) (.object arguments) with
    ⟨fault, hfault, -⟩ | ⟨found, hfound, c, w, ⟨tool', htool', hmake⟩, hload, hperform⟩
  · rw [hfault] at h
    cases h
  rw [hfound] at h
  cases h
  obtain rfl : tool = tool' := Option.some.inj ((ofName?_name tool).symm.trans htool')
  rw [tool_of_make hmake] at hload
  have hwellKeyed := wellKeyed_of_loads hkeys hload
  refine ⟨w, hload, ?_⟩
  rcases htool with rfl | rfl
  · exact vouches_authenticate hwellKeyed hmake hperform haffirms
  · rcases vouches_path hwellKeyed hmake hperform haffirms with
      ⟨f, userId, hnames, htext, hreported⟩ | hnull
    · exact .inl ⟨f, userId, hnames, .inl htext, hreported⟩
    · exact .inr ⟨hnull, by simp [MatchesAddress]⟩

end Server

namespace Introduction

/-- A server that knows the web of trust of `A`. -/
def server : Server where
  configuration := ⟨none, "", fullTrust, .authentication, fullTrust_pos⟩
  description := some ⟨complete, ⟨[(⟨"A"⟩, fullTrust)]⟩, [], []⟩

/-- A call that does not look at a network file. -/
def around : Server.Surroundings := ⟨.error .missing, moment⟩

def pathArguments : List (String × Json) :=
  [("fingerprints", .array [.text "A", .text "B", .text "C"]),
    ("user_id", .text "carol@example.org")]

end Introduction

/-- The path over `B` is reported as valid, and ends with the certification by `B`. -/
theorem Server.call_vouches_introduction :
    (∀ d, Introduction.server.description = some d → d.network.WellKeyed) ∧
    ∃ fields w f userId, (Introduction.server.call Introduction.around (.text Tool.path.name)
        (.object Introduction.pathArguments)).2 = .ok fields ∧
      Affirms fields ∧ Introduction.server.Loads Introduction.around .path w ∧
      Names Introduction.pathArguments fields .path f userId ∧
      ∀ v, Reports fields v → w.EndsInCertification f userId v := by
  have hkeys : ∀ d, Introduction.server.description = some d → d.network.WellKeyed := by
    intro d hd
    cases hd
    exact Introduction.wellKeyed_complete
  have hvalid : (Introduction.server.call Introduction.around (.text Tool.path.name)
      (.object Introduction.pathArguments)).2.toOption.map (Table.find? · "valid") =
        some (some (.bool true)) := by cbv
  obtain ⟨fields, hcall, htrue⟩ := exists_ok_of_toOption hvalid
  have haffirms : Affirms fields := .inr htrue
  obtain ⟨w, hload, ⟨f, userId, hnames, -, hcertifies⟩ | ⟨hnull, -⟩⟩ :=
    call_vouches hkeys (.inr rfl) hcall haffirms
  · exact ⟨hkeys, fields, w, f, userId, hcall, haffirms, hload, hnames, hcertifies⟩
  · cases hnull

/-! ### No user ID -/

namespace Unnamed

/-- `A` delegates to `B`, whatever user ID it certifies. -/
def delegation : Signature := { Introduction.delegation with scope := .wildcard }

def network : Network :=
  ((((({} : Builder).addNode { fingerprint := ⟨"A"⟩ }).1.addNode
    { fingerprint := ⟨"B"⟩ }).1).addSignature delegation).build Introduction.moment

def server : Server :=
  { Introduction.server with description := some ⟨network, ⟨[(⟨"A"⟩, fullTrust)]⟩, [], []⟩ }

end Unnamed

set_option maxRecDepth 20000 in
/-- Null for the user ID is answered with a positive amount, over a path that is a mere
delegation. -/
theorem Server.call_vouches_delegation :
    (Unnamed.server.call Introduction.around (.text Tool.authenticate.name)
      (.object [("fingerprint", .text "B"), ("user_id", .null)])).2.toOption.map (fun fields =>
        (Table.find? fields "user_id", Table.find? fields "amount", Table.find? fields "paths")) =
      some (some .null, some (.number 100), some (.array [PathItem.toJson
        ⟨⟨{ fingerprint := ⟨"A"⟩ }, [Unnamed.delegation], .limited ⟨1, by decide⟩⟩, 100⟩])) ∧
    Unnamed.delegation.toJson.field? "kind" = some (.text "delegation") :=
  ⟨by cbv, rfl⟩

end TrustWeb
