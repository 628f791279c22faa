import TrustWeb.Proofs.Pattern.Reading
import TrustWeb.Proofs.Web.Listing

/-! # What scopes cover

A scope covers a user ID exactly if it has no expressions or one of them is found, and expressions
of bad form are passed over. An expression over which reading stumbles is not: if none before it is
found, the fault is the outcome, and with it that of every query that comes upon the scope. All this
is told of expressions that do not waver; what is found of the others, and whether the search for
them breaks off, is left open. -/

namespace TrustWeb

namespace Scope

/-! ## Expressions -/

/-- The expression is well formed and does not waver, and its pattern is found in the user ID. -/
def FoundIn (expression userId : String) : Prop :=
  ∃ p, Pattern.read expression = .ok p ∧ p.steady = true ∧ p.foundIn userId = true

/-- Reading stumbles over one of the expressions, and none before it is found in the user ID. -/
def Blocked (expressions : List String) (userId : String) : Prop :=
  ∃ before e after, expressions = before ++ e :: after ∧ Pattern.Stumbles e ∧
    ∀ e' ∈ before, ¬FoundIn e' userId

variable {e userId : String} {rest : List String}

theorem not_blocked_nil : ¬Blocked [] userId := by
  rintro ⟨before, e, after, h, -⟩
  simp at h

theorem blocked_cons :
    Blocked (e :: rest) userId ↔
      Pattern.Stumbles e ∨ ¬FoundIn e userId ∧ Blocked rest userId := by
  constructor
  · rintro ⟨before, e', after, h, hstumbles, hbefore⟩
    rcases List.cons_eq_append_iff.mp h with ⟨rfl, h⟩ | ⟨before', rfl, h⟩
    · obtain ⟨rfl, rfl⟩ := List.cons.inj h
      exact .inl hstumbles
    · obtain ⟨he, hbefore'⟩ := List.forall_mem_cons.mp hbefore
      exact .inr ⟨he, before', e', after, (List.cons.inj h).2, hstumbles, hbefore'⟩
  · rintro (hstumbles | ⟨he, before, e', after, rfl, hstumbles, hbefore⟩)
    · exact ⟨[], e, rest, rfl, hstumbles, by simp⟩
    · exact ⟨e :: before, e', after, rfl, hstumbles, List.forall_mem_cons.mpr ⟨he, hbefore⟩⟩

/-- A search for an expression ends with a fault, or with the answer whether it is found. -/
theorem finds_cases (hsteady : ¬Pattern.Wavers e) (userId : String) :
    (Pattern.Stumbles e ∧ ∃ fault, finds e (.userId userId) = .error fault) ∨
      ¬Pattern.Stumbles e ∧
        ∃ found, finds e (.userId userId) = .ok found ∧ (found = true ↔ FoundIn e userId) := by
  unfold finds Pattern.Stumbles FoundIn
  unfold Pattern.Wavers at hsteady
  cases hread : Pattern.read e with
  | ok p =>
      have hp : p.steady = true := by simpa [hread] using hsteady
      exact .inr ⟨by simp, _, rfl, by simp [hp]⟩
  | error error =>
      cases error with
      | malformed => exact .inr ⟨by simp, _, rfl, by simp⟩
      | repetitionTooLarge => exact .inl ⟨⟨_, rfl, by simp⟩, _, rfl⟩
      | codeTooLarge => exact .inl ⟨⟨_, rfl, by simp⟩, _, rfl⟩
      | numeralLength n => exact .inl ⟨⟨_, rfl, by simp⟩, _, rfl⟩
      | clashingFlags => exact .inl ⟨⟨_, rfl, by simp⟩, _, rfl⟩

theorem findsAny_cases {es : List String} (hsteady : ∀ e ∈ es, ¬Pattern.Wavers e)
    (userId : String) :
    (Blocked es userId ∧ ∃ fault, findsAny (.userId userId) es = .error fault) ∨
      ¬Blocked es userId ∧
        ∃ found, findsAny (.userId userId) es = .ok found ∧
          (found = true ↔ ∃ e ∈ es, FoundIn e userId) := by
  induction es with
  | nil => exact .inr ⟨not_blocked_nil, false, rfl, by simp⟩
  | cons e rest ih =>
      obtain ⟨hfirst, hrest⟩ := List.forall_mem_cons.mp hsteady
      rw [findsAny, blocked_cons]
      rcases finds_cases hfirst userId with ⟨hstumbles, fault, hfault⟩ | ⟨hreads, found, hfound, he⟩
      · exact .inl ⟨.inl hstumbles, fault, by rw [hfault]⟩
      · rw [hfound]
        cases found with
        | true =>
            have hfoundIn : FoundIn e userId := he.mp rfl
            exact .inr ⟨by simp [hreads, hfoundIn], true, rfl, by simp [hfoundIn]⟩
        | false =>
            have hnot : ¬FoundIn e userId := fun h => Bool.false_ne_true (he.mpr h)
            simpa [hreads, hnot] using ih hrest

theorem covers_cases {s : Scope} (hsteady : ∀ e ∈ s.expressions, ¬Pattern.Wavers e)
    (userId : String) :
    (Blocked s.expressions userId ∧ ∃ fault, s.covers (.userId userId) = .error fault) ∨
      ¬Blocked s.expressions userId ∧
        ∃ found, s.covers (.userId userId) = .ok found ∧
          (found = true ↔ s.expressions = [] ∨ ∃ e ∈ s.expressions, FoundIn e userId) := by
  unfold covers isWildcard
  cases hes : s.expressions with
  | nil => exact .inr ⟨not_blocked_nil, true, rfl, by simp⟩
  | cons e rest =>
      rw [hes] at hsteady
      simpa using findsAny_cases hsteady userId

end Scope

/-! ## Queries -/

/-- No expression in the network is one over which reading stumbles, and none wavers. -/
def Network.Readable (n : Network) : Prop :=
  ∀ s ∈ n.signatures, ∀ e ∈ s.scope.expressions, ¬Pattern.Stumbles e ∧ ¬Pattern.Wavers e

theorem Network.Readable.searchable {n : Network} (h : n.Readable) : n.Searchable := by
  intro s hs e he userId
  obtain ⟨hreads, hsteady⟩ := h s hs e he
  rcases Scope.finds_cases hsteady userId with ⟨hstumbles, -⟩ | ⟨-, found, hfound, -⟩
  · exact (hreads hstumbles).elim
  · exact ⟨found, hfound⟩

/-- All queries over bindings are answered. -/
structure Web.Answering (w : Web) : Prop where
  authenticate : ∀ f userId byEmail, ∃ v, w.authenticate f (.userId userId) byEmail = .ok v
  identify : ∀ f, ∃ l, w.identify f = .ok l
  list : ∃ l, w.list = .ok l
  lookup : ∀ userId byEmail, ∃ l, w.lookup (.userId userId) byEmail = .ok l

theorem Web.answering_of_searchable {w : Web} (hkeys : w.network.WellKeyed)
    (h : w.network.Searchable) : w.Answering := by
  obtain ⟨answer, hanswer⟩ := exists_answers hkeys h
  constructor
  case authenticate =>
    intro f userId byEmail
    cases byEmail with
    | false => exact ⟨_, hanswer.authenticate_eq f userId⟩
    | true => exact ⟨_, hanswer.authenticate_byAddress f (.userId userId)⟩
  case identify => exact fun f => ⟨_, by rw [identify, hanswer.bindingsOf_eq hkeys]; rfl⟩
  case list => exact ⟨_, hanswer.list_eq hkeys⟩
  case lookup => exact fun userId byEmail => ⟨_, hanswer.lookup_eq (.userId userId) byEmail⟩

/-- Whether a scope of expressions that do not waver covers a user ID is answered, and rightly so,
unless reading stumbles over one of them before any is found. Reading stumbles only over repetition
counts and code points that are too great and over contradictory flags; only what has a group, and a
possessive repetition or a condition, wavers. Where neither happens all queries are answered. -/
theorem Scope.covers_unless_blocked (s : Scope) (hsteady : ∀ e ∈ s.expressions, ¬Pattern.Wavers e)
    (userId : String) :
    ((∃ found, s.covers (.userId userId) = .ok found) ↔ ¬Blocked s.expressions userId) ∧
      (∀ found, s.covers (.userId userId) = .ok found →
        (found = true ↔ s.expressions = [] ∨ ∃ e ∈ s.expressions, FoundIn e userId)) ∧
      (∀ e, Pattern.Stumbles e → Pattern.Treacherous e.toList) ∧
      (∀ e, Pattern.Wavers e → Pattern.Intricate e.toList) ∧
      ∀ w : Web, w.network.WellKeyed → w.network.Readable → w.Answering := by
  refine ⟨?_, fun found hfound => ?_, fun e he => he.treacherous, fun e he => he.intricate,
    fun w hkeys hreadable => Web.answering_of_searchable hkeys hreadable.searchable⟩
  · rcases covers_cases hsteady userId with ⟨hblocked, fault, hfault⟩ | ⟨hfree, found, hfound, -⟩
    · rw [hfault]
      exact ⟨nofun, fun h => (h hblocked).elim⟩
    · exact ⟨fun _ => hfree, fun _ => ⟨found, hfound⟩⟩
  · rcases covers_cases hsteady userId with ⟨-, fault, hfault⟩ | ⟨-, found', hfound', hright⟩
    · rw [hfault] at hfound
      cases hfound
    · rw [hfound'] at hfound
      obtain rfl := Except.ok.inj hfound
      exact hright

/-! ### A stranger

`X`, whom nobody trusts, delegates to `C` within a scope. -/

namespace Stranger

open Introduction

def delegation (expression : String) : Signature :=
  { Introduction.delegation with
    issuer := { fingerprint := ⟨"X"⟩ }
    target := carol
    scope := ⟨[expression]⟩ }

def network (expression : String) : Network :=
  (builder.addSignature (delegation expression)).build moment

def web (expression : String) : Web where
  network := network expression
  roots := ⟨[(⟨"A"⟩, fullTrust)]⟩
  mode := .authentication
  wanted := fullTrust
  maxSearches := none
  wanted_pos := fullTrust_pos

/-- What the web authenticates of the user ID of `C`. -/
def found (expression : String) : Option Int :=
  ((web expression).authenticate ⟨"C"⟩ (.userId "carol@example.org") false).toOption.map
    (·.binding.amount)

theorem wellKeyed (expression : String) : (network expression).WellKeyed :=
  (reached.addSignature _).network_wellKeyed (reached.addSignature _) moment

end Stranger

/-- Expressions of bad form disturb neither the scope nor the queries. -/
theorem Scope.covers_unless_blocked_malformed :
    (∀ e ∈ ["(", "@example"], ¬Pattern.Wavers e) ∧ (Stranger.web "(").network.WellKeyed ∧ (Stranger.web "(").network.Readable ∧
      (Stranger.web "(").Answering ∧ Stranger.found "(" = some 90 ∧
      (⟨["(", "@example"]⟩ : Scope).covers (.userId "carol@example.org") = .ok true := by
  have hsteady : ∀ e ∈ ["(", "@example"], ¬Pattern.Wavers e := by decide +kernel
  have hreadable : (Stranger.web "(").network.Readable := by
    unfold Network.Readable
    decide +kernel
  obtain ⟨-, -, -, -, hanswering⟩ :=
    covers_unless_blocked ⟨["(", "@example"]⟩ hsteady "carol@example.org"
  exact ⟨hsteady, Stranger.wellKeyed _, hreadable,
    hanswering (Stranger.web "(") (Stranger.wellKeyed _) hreadable, by cbv, by cbv⟩

/-- A great repetition count disturbs both: no answer is given for the scope, nor for a user ID that
others certify. -/
theorem Scope.covers_blocked :
    (⟨["a\x7b4294967296\x7d"]⟩ : Scope).covers (.userId "carol@example.org") =
        .error (@Fault.repetitionCount .repetition) ∧
      Stranger.found "a\x7b4294967296\x7d" = none := by
  exact ⟨by cbv, by cbv⟩

end TrustWeb
