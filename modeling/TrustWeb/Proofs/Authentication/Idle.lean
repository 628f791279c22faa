import TrustWeb.Proofs.Authentication.Agreement
import TrustWeb.Proofs.Authentication.Run
import TrustWeb.Proofs.Network.Removal
import TrustWeb.Proofs.Search.Agreement

/-! # Signatures without effect

Some signatures have no say in an authentication, whatever was taken from the edges: looking at them
leaves the state of a search as it is. They may all be removed from the network. The delicate ones
are those over the certificate of their own issuer. They are offered, and may have trust left, but
the certificate that is looked at is never reached more cheaply over itself. -/

namespace TrustWeb

/-- A signature that has no say in what is authenticated for a subject: it is worth nothing, it is
over a root that is trusted outright, it is over the certificate of its issuer, or, where scopes
count, it is limited to other user IDs. -/
inductive Signature.Idle (roots : Roots) (mode : Mode) (subject : Subject) (s : Signature) :
    Prop where
  | worthless (h : s.trust = 0)
  | overRoot (h : roots.isFullyTrusted s.target.fingerprint = true)
  | own (h : s.issuer.fingerprint = s.target.fingerprint)
  | outOfScope (hmode : mode = .authentication) (h : s.scope.covers subject = .ok false)

/-! ## Searches -/

namespace Search

/-- The search in the network without some signatures. -/
def without (q : Search) (remove : Signature → Bool) : Search :=
  { q with residual := { q.residual with network := q.residual.network.without remove } }

variable {q : Search} {layer : Int} {p : Progress} {f : Fingerprint} {cost : Cost}
  {remove : Signature → Bool} {s : Signature}

/-- Nothing was added to the edges, and the subject can be looked for in all scopes. -/
structure Regular (q : Search) : Prop where
  wellKeyed : q.residual.network.WellKeyed
  covers : ∀ s ∈ q.residual.network.signatures, ∃ found, s.scope.covers q.subject = .ok found
  taken : ∀ k, 0 ≤ q.residual.takenFrom k

theorem Regular.left_of_worthless (R : q.Regular) (h : s.trust = 0) : q.residual.left s = 0 := by
  have hcapped := q.residual.cappedAmount_le_min s
  have htaken := R.taken s.endpoints
  unfold Residual.left
  omega

/-- An idle signature on the certificate that is looked at changes nothing. -/
theorem Regular.relax_idle (R : q.Regular) (I : q.Invariant layer p) (L : q.Looking layer p f cost)
    (htarget : s.target.fingerprint = f) (hcovers : q.residual.Covers q.subject s)
    (h : s.Idle q.roots q.residual.mode q.subject) : q.relax f cost p s = p := by
  unfold relax
  cases hc : q.costVia? f cost s with
  | none => rfl
  | some c =>
      cases h with
      | worthless hzero =>
          have hleft := (costVia?_eq_some_iff.mp hc).1
          rw [R.left_of_worthless hzero] at hleft
          exact absurd hleft (lt_irrefl 0)
      | overRoot htrusted =>
          rw [htarget, L.passable] at htrusted
          cases htrusted
      | own hself =>
          have hissuer := hself.trans htarget
          obtain ⟨via, hlabel⟩ := L.label
          simp only [hissuer, hlabel, I.not_cheaper_self L hc R.wellKeyed htarget hissuer]
          rfl
      | outOfScope hmode hout =>
          rw [hcovers hmode] at hout
          cases hout

theorem Regular.foldl_relax_without (R : q.Regular) {ss : List Signature}
    (I : q.Invariant layer p) (L : q.Looking layer p f cost)
    (hss : ∀ s ∈ ss, (s ∈ q.residual.network.signatures ∧ s.target.fingerprint = f) ∧
      q.residual.Covers q.subject s)
    (hidle : ∀ s ∈ ss, remove s = true → s.Idle q.roots q.residual.mode q.subject) :
    (ss.filter (!remove ·)).foldl (q.relax f cost) p = ss.foldl (q.relax f cost) p := by
  induction ss generalizing p with
  | nil => rfl
  | cons s rest ih =>
      obtain ⟨⟨⟨hknown, htarget⟩, hcovers⟩, hrest⟩ := List.forall_mem_cons.mp hss
      obtain ⟨hs, hidle⟩ := List.forall_mem_cons.mp hidle
      by_cases hremove : remove s = true
      · rw [List.filter_cons_of_neg (by simp [hremove]), List.foldl_cons,
          R.relax_idle I L htarget hcovers (hs hremove)]
        exact ih I L hrest hidle
      · rw [List.filter_cons_of_pos (by simpa using hremove), List.foldl_cons, List.foldl_cons]
        have A := (relax_advance R.wellKeyed I L hknown htarget hcovers).1
        exact ih A.invariant A.looking hrest hidle

/-- A look at the next certificate has the same outcome without idle signatures. -/
theorem Regular.lookAt_without (R : q.Regular)
    (hidle : ∀ s ∈ q.residual.network.signatures, remove s = true →
      s.Idle q.roots q.residual.mode q.subject)
    (E : q.Explored layer p) {rest : List (Fingerprint × Cost)}
    (hentries : p.frontier.entries = (f, cost) :: rest) :
    (q.without remove).lookAt f { p with frontier := ⟨rest⟩ } =
      q.lookAt f { p with frontier := ⟨rest⟩ } := by
  obtain ⟨-, I, hclosed⟩ := E.pop hentries
  obtain ⟨⟨label, hlabel, -, hge⟩, -, -, hstart⟩ :=
    E.waiting (f, cost) (by rw [hentries]; exact List.mem_cons_self)
  obtain ⟨ss, hss⟩ := Residual.exists_signaturesOn (f := f) R.wellKeyed
    (max 0 (label.cost.length - 1)) R.covers
  have hleft := Residual.signaturesOn_without hss remove
  cases htrusted : q.roots.isFullyTrusted f with
  | true => simp [lookAt, without, htrusted]
  | false =>
      have L : q.Looking cost.length { p with frontier := ⟨rest⟩ } f label.cost :=
        ⟨⟨label.via, hlabel⟩, hclosed, htrusted, hge, hstart⟩
      have hmem := fun s => Residual.mem_signaturesOn R.wellKeyed hss (s := s)
      have hfold := R.foldl_relax_without I L
        (fun s hs => ⟨((hmem s).mp hs).1, ((hmem s).mp hs).2.1⟩)
        fun s hs => hidle s ((hmem s).mp hs).1.1
      simp only [lookAt, without, htrusted, hlabel, hss, hleft, Except.map]
      exact congrArg Except.ok hfold

theorem Regular.agrees_without (R : q.Regular)
    (hidle : ∀ s ∈ q.residual.network.signatures, remove s = true →
      s.Idle q.roots q.residual.mode q.subject) :
    q.Agrees (q.without remove) fun p => ∃ layer, q.Explored layer p where
  target := rfl
  subject := rfl
  mode := rfl
  size := Network.length_edges_without remove _
  isEmpty := rfl
  isRoot := fun _ => rfl
  valid := rfl
  seed := rfl
  start := ⟨_, q.seed_explored⟩
  lookAt := fun ⟨_, E⟩ hpop => R.lookAt_without hidle E (Frontier.pop?_eq_some_iff.mp hpop)
  kept := fun ⟨_, E⟩ hpop hlook =>
    ⟨_, (E.step R.wellKeyed (Frontier.pop?_eq_some_iff.mp hpop) hlook).2.1⟩

end Search

/-! ## Authentications -/

namespace Query

variable {q : Query} {r : Residual} {paths : Paths} {f : Fingerprint} {userId : String}
  {remove : Signature → Bool}

theorem Balanced.regular (B : q.Balanced r paths) (hkeys : q.network.WellKeyed)
    (hsearchable : q.network.Searchable) : (q.searchIn r f (.userId userId)).Regular := by
  refine ⟨B.wellKeyed hkeys, fun s hs => ?_, fun k => ?_⟩
  · rw [searchIn, B.network] at hs
    exact hsearchable.covers hs userId
  · rw [searchIn, B.taken]
    exact Paths.carried_nonneg B.positive k

theorem agrees_without (hkeys : q.network.WellKeyed) (hsearchable : q.network.Searchable)
    (hidle : ∀ s ∈ q.network.signatures, remove s = true →
      s.Idle q.roots q.mode (.userId userId)) :
    q.Agrees { q with network := q.network.without remove } f (.userId userId) q.Balanced where
  maxSearches := rfl
  size := Network.length_edges_without remove q.network
  isRoot := fun _ => rfl
  start := q.balanced_start
  candidates := fun {r paths} B => by
    have hsame : searchIn { q with network := q.network.without remove }
        { residual { q with network := q.network.without remove } with taken := r.taken } f
        (.userId userId) = (q.searchIn r f (.userId userId)).without remove := by
      obtain ⟨taken, rfl⟩ := B.residual
      simp only [searchIn, Search.without, residual_of_network, network_residual]
    rw [hsame]
    refine ((B.regular hkeys hsearchable).agrees_without fun s hs => ?_).candidates
    rw [searchIn, B.mode]
    exact hidle s (by rwa [searchIn, B.network] at hs)
  kept := fun B hbestFrom htake hadd => by
    obtain ⟨found, hreports, hbest⟩ := B.reports_of_bestFrom hkeys hbestFrom
    exact (B.recorded hkeys hreports hbest htake hadd).2

/-- Removing signatures that are idle for a user ID changes no authentication for it. -/
theorem authenticate_without (hkeys : q.network.WellKeyed) (hsearchable : q.network.Searchable)
    (f : Fingerprint) (userId : String) (wanted : Int)
    (hidle : ∀ s ∈ q.network.signatures, remove s = true →
      s.Idle q.roots q.mode (.userId userId)) :
    ∃ paths, q.authenticate f (.userId userId) wanted = .ok paths ∧
      authenticate { q with network := q.network.without remove } f (.userId userId) wanted =
        .ok paths := by
  obtain ⟨paths, hpaths⟩ := exists_authenticate hkeys hsearchable f userId wanted
  exact ⟨paths, hpaths,
    ((agrees_without hkeys hsearchable hidle).authenticate wanted).trans hpaths⟩

end Query

/-! ### A network with idle signatures

Besides what `A`, `B` and `C` sign, `X` certifies the user ID with no amount, `C` delegates to the
root `A` and certifies its own user ID, and `A` delegates to `D`, which certifies the user ID, for
other user IDs. -/

namespace Idling

def worthless : Signature :=
  { Introduction.direct with issuer := { fingerprint := ⟨"X"⟩ }, amount := ⟨0, by decide⟩ }

def overRoot : Signature :=
  { Introduction.delegation with
    issuer := Introduction.carol
    target := { fingerprint := ⟨"A"⟩ } }

def own : Signature := { Introduction.direct with issuer := Introduction.carol }

def outOfScope : Signature :=
  { Introduction.delegation with
    target := { fingerprint := ⟨"D"⟩ }
    scope := ⟨["@other"]⟩ }

def behind : Signature := { Introduction.introduced with issuer := { fingerprint := ⟨"D"⟩ } }

def builder : Builder :=
  ((((Introduction.builder.addSignature worthless).addSignature overRoot).addSignature
    own).addSignature outOfScope).addSignature behind

def query : Query where
  network := builder.build Introduction.moment
  roots := ⟨[(⟨"A"⟩, fullTrust)]⟩

def idle (s : Signature) : Bool := s ∈ [worthless, overRoot, own, outOfScope]

theorem wellKeyed : query.network.WellKeyed := by
  have h : builder.Reached :=
    .addSignature (.addSignature (.addSignature (.addSignature (.addSignature Introduction.reached
      worthless) overRoot) own) outOfScope) behind
  exact h.network_wellKeyed h Introduction.moment

theorem searchable : query.network.Searchable :=
  Network.searchable_of_read (by decide +kernel)

theorem idle_of_idle {s : Signature} (h : idle s = true) :
    s.Idle query.roots query.mode (.userId "carol@example.org") := by
  simp only [idle, List.mem_cons, List.not_mem_nil, or_false, decide_eq_true_eq] at h
  rcases h with rfl | rfl | rfl | rfl
  · exact .worthless rfl
  · exact .overRoot (by decide)
  · exact .own rfl
  · exact .outOfScope rfl (by decide +kernel)

end Idling

theorem Query.authenticate_without_idling :
    Idling.query.network.WellKeyed ∧ Idling.query.network.Searchable ∧
      (∀ s ∈ Idling.query.network.signatures, Idling.idle s = true →
        s.Idle Idling.query.roots Idling.query.mode (.userId "carol@example.org")) ∧
      Idling.query.network.signatures.countP Idling.idle = 4 ∧
      ∃ paths,
        Idling.query.authenticate ⟨"C"⟩ (.userId "carol@example.org") fullTrust = .ok paths ∧
        authenticate
          { Idling.query with network := Idling.query.network.without Idling.idle } ⟨"C"⟩
            (.userId "carol@example.org") fullTrust = .ok paths ∧
        paths.items.map (·.amount) = [30, 60] := by
  have hidle : ∀ s ∈ Idling.query.network.signatures, Idling.idle s = true →
      s.Idle Idling.query.roots Idling.query.mode (.userId "carol@example.org") :=
    fun s _ => Idling.idle_of_idle
  have hamounts : (Idling.query.authenticate ⟨"C"⟩ (.userId "carol@example.org")
      fullTrust).toOption.map (·.items.map (·.amount)) = some [30, 60] := by
    cbv
  obtain ⟨paths, hpaths, hpaths'⟩ := Query.authenticate_without Idling.wellKeyed Idling.searchable
    ⟨"C"⟩ "carol@example.org" fullTrust hidle
  exact ⟨Idling.wellKeyed, Idling.searchable, hidle, by decide +kernel, paths, hpaths, hpaths',
    by simpa [hpaths, Except.toOption] using hamounts⟩

end TrustWeb
