import TrustWeb.Proofs.Description.Tokens

/-! # Written statements

Statements are written with tokens in the order of the grammar. Nothing marks where a statement
ends, or its attributes or options: the next one starts there. All the same a text is read as the
statements that it was written for, whatever blanks and comments stand between its tokens, as long
as no number in it has too many digits. -/

namespace TrustWeb.Description

/-! ## The grammar -/

/-- A keyword as a token. -/
def Keyword.token (k : Keyword) : Token := ⟨.keyword k, k.text⟩

/-- A revocation and its tokens. -/
inductive RevocationTokens : WrittenRevocation → List Token → Prop where
  | hard : RevocationTokens .hard [Keyword.revoked.token, Keyword.hard.token]
  | soft {date : List Char} : RevocationTokens (.soft (String.ofList date))
      [Keyword.revoked.token, Keyword.soft.token, ⟨.date, date⟩]

/-- An attribute and its tokens. -/
inductive AttributeTokens : Attribute → List Token → Prop where
  | userId {text : List Char} :
      AttributeTokens (.userId (String.ofList text) none) [⟨.string, text⟩]
  | revokedUserId {text : List Char} {r : WrittenRevocation} {ts : List Token}
      (h : RevocationTokens r ts) : AttributeTokens (.userId (String.ofList text) (some r))
        (Keyword.userid.token :: ⟨.string, text⟩ :: ts)
  | expires {date : List Char} :
      AttributeTokens (.expires (String.ofList date)) [Keyword.expires.token, ⟨.date, date⟩]
  | revoked {r : WrittenRevocation} {ts : List Token} (h : RevocationTokens r ts) :
      AttributeTokens (.revoked r) ts

/-- An option and its tokens. The digits of a number are not told apart from others of the same
value. -/
inductive OptionTokens : SignatureOption → List Token → Prop where
  | amount {digits : List Char} : OptionTokens (.amount (Nat.ofDigitChars 10 digits 0))
      [Keyword.amount.token, ⟨.number, digits⟩]
  | depth {digits : List Char} : OptionTokens (.depth (Nat.ofDigitChars 10 digits 0))
      [Keyword.depth.token, ⟨.number, digits⟩]
  | unconstrained : OptionTokens (.depth 255) [Keyword.depth.token, Keyword.unconstrained.token]
  | regex {expression : List Char} :
      OptionTokens (.regex (String.ofList expression)) [Keyword.regex.token, ⟨.string, expression⟩]
  | created {date : List Char} :
      OptionTokens (.created (String.ofList date)) [Keyword.on.token, ⟨.date, date⟩]
  | expires {date : List Char} :
      OptionTokens (.expires (String.ofList date)) [Keyword.expires.token, ⟨.date, date⟩]
  | localOnly : OptionTokens .localOnly [Keyword.localOnly.token]

/-- Several things, and the tokens of one after the other. -/
inductive Each {α : Type} (tokensOf : α → List Token → Prop) : List α → List Token → Prop where
  | nil : Each tokensOf [] []
  | cons {a : α} {as : List α} {ts ts' : List Token} (h : tokensOf a ts)
      (hrest : Each tokensOf as ts') : Each tokensOf (a :: as) (ts ++ ts')

/-- A statement and its tokens. -/
inductive StatementTokens : Statement → List Token → Prop where
  | time {date : List Char} :
      StatementTokens (.time (String.ofList date)) [Keyword.atTime.token, ⟨.date, date⟩]
  | node {name : List Char} {attributes : List Attribute} {ts : List Token}
      (h : Each AttributeTokens attributes ts) :
      StatementTokens (.node (String.ofList name) attributes)
        (Keyword.node.token :: ⟨.name, name⟩ :: ts)
  | delegation {issuer target : List Char} {options : List SignatureOption} {ts : List Token}
      (h : Each OptionTokens options ts) :
      StatementTokens (.signature (String.ofList issuer) (String.ofList target) none options)
        (⟨.name, issuer⟩ :: Keyword.delegates.token :: ⟨.name, target⟩ :: ts)
  | certification {issuer target userId : List Char} {options : List SignatureOption}
      {ts : List Token} (h : Each OptionTokens options ts) :
      StatementTokens (.signature (String.ofList issuer) (String.ofList target)
          (some (String.ofList userId)) options)
        (⟨.name, issuer⟩ :: Keyword.certifies.token :: ⟨.name, target⟩ :: ⟨.string, userId⟩ :: ts)
  | root {name : List Char} :
      StatementTokens (.root (String.ofList name) 120) [Keyword.root.token, ⟨.name, name⟩]
  | rootAmount {name digits : List Char} :
      StatementTokens (.root (String.ofList name) (Nat.ofDigitChars 10 digits 0))
        [Keyword.root.token, ⟨.name, name⟩, Keyword.amount.token, ⟨.number, digits⟩]

/-- A text that is written for some statements with some tokens. -/
structure Renders (statements : List Statement) (tokens : List Token) (text : String) : Prop where
  grammar : Each StatementTokens statements tokens
  spaced : ∃ gap cs, Gap gap ∧ Spaced tokens cs ∧ text.toList = gap ++ cs

variable {complete complete' closed statements : List Statement} {p q p' : Place} {n : OpenNode}
  {s : OpenSignature} {t : Token} {ts tokens : List Token} {digits : List Char} {text : String}

/-! ## Steps -/

theorem ifShort_singleton {α : Type} (h : t.terminal ≠ .number) (a : α) :
    ifShort [t] a = .ok a := by
  rw [ifShort_cons (fun hnumber => absurd hnumber h)]
  rfl

/-- A token that leads on within a statement. -/
theorem Passes.within (ht : p.allowed.contains t.terminal = true) (hkind : t.terminal ≠ .number)
    (hnext : p.next t = .ok ([], q)) (h : Passes complete q ts complete' p') :
    Passes complete p (t :: ts) complete' p' := by
  refine .cons (by simpa using ht) (hnext.trans (ifShort_singleton hkind _).symm) ?_
  rw [List.append_nil]
  exact h

/-- A number comes to its value, or to a fault if it is too long. -/
theorem number_map {α : Type} (f : Nat → α) : (Place.number digits).map f =
    ifShort [⟨.number, digits⟩] (f (Nat.ofDigitChars 10 digits 0)) := by
  by_cases hlong : digits.length > Text.maxDigits
  · rw [ifShort_cons_of_not fun hshort => absurd (hshort rfl) (not_le.mpr hlong), Place.number,
      if_pos hlong]
    rfl
  · rw [ifShort_cons fun _ => not_lt.mp hlong, Place.number, if_neg hlong]
    rfl

/-- A number that ends a statement, or leads on within it. -/
theorem Passes.number (complete : List Statement) (ht : p.allowed.contains .number = true)
    {f : Nat → List Statement × Place}
    (hnext : p.next ⟨.number, digits⟩ = (Place.number digits).map f) :
    Passes complete p [⟨.number, digits⟩]
      (complete ++ (f (Nat.ofDigitChars 10 digits 0)).1) (f (Nat.ofDigitChars 10 digits 0)).2 :=
  .cons (by simpa using ht) (hnext.trans (number_map f)) .nil

/-- Where a statement may end, the next one may start. -/
theorem next_start (hclose : p.close? = some closed) (ht : t.terminal ∈ Place.starts) :
    t.terminal ∈ p.allowed ∧ p.next t = .ok (closed, Place.start t) := by
  obtain ⟨terminal, text⟩ := t
  simp only [Place.starts, List.mem_cons, List.not_mem_nil, or_false] at ht
  cases p with
  | fresh | node _ | signature _ | root _ =>
      cases hclose
      rcases ht with rfl | rfl | rfl | rfl <;> exact ⟨by simp [Place.allowed, Place.starts], rfl⟩
  | _ => cases hclose

/-- The first token of a statement, which also completes the one before. -/
theorem Passes.start (hclose : p.close? = some closed)
    (ht : Place.starts.contains t.terminal = true)
    (h : Passes (complete ++ closed) (Place.start t) ts complete' p') :
    Passes complete p (t :: ts) complete' p' := by
  obtain ⟨hallowed, hnext⟩ := next_start hclose (by simpa using ht)
  have hkind : t.terminal ≠ .number := by
    intro hnumber
    rw [hnumber] at ht
    cases ht
  exact .cons hallowed (hnext.trans (ifShort_singleton hkind _).symm) h

/-! ## Parts of statements -/

theorem passes_revocation {r : WrittenRevocation} {userId : Option String}
    (h : RevocationTokens r ts) (hp : p.allowed.contains (.keyword .revoked) = true)
    (hnext : p.next Keyword.revoked.token = .ok ([], .revoked n userId)) :
    Passes complete p ts complete (.node (n.revoke userId r)) := by
  cases h with
  | hard =>
      refine .within hp nofun hnext ?_
      exact .within rfl nofun rfl .nil
  | soft =>
      refine .within hp nofun hnext ?_
      refine .within rfl nofun rfl ?_
      exact .within rfl nofun rfl .nil

theorem passes_attribute {a : Attribute} (h : AttributeTokens a ts) :
    Passes complete (.node n) ts complete (.node (n.add a)) := by
  cases h with
  | userId => exact .within rfl nofun rfl .nil
  | @revokedUserId text r ts h =>
      refine .within rfl nofun rfl ?_
      refine .within rfl nofun rfl ?_
      exact passes_revocation (p := .userIdRevoked n (String.ofList text)) h rfl rfl
  | expires =>
      refine .within rfl nofun rfl ?_
      exact .within rfl nofun rfl .nil
  | revoked h => exact passes_revocation (p := .node n) h rfl rfl

theorem passes_option {o : SignatureOption} (h : OptionTokens o ts) :
    Passes complete (.signature s) ts complete (.signature (s.add o)) := by
  cases h with
  | amount =>
      refine .within rfl nofun rfl ?_
      simpa using Passes.number complete (p := .amount s) rfl rfl
  | depth =>
      refine .within rfl nofun rfl ?_
      simpa using Passes.number complete (p := .depth s) rfl rfl
  | unconstrained =>
      refine .within rfl nofun rfl ?_
      exact .within rfl nofun rfl .nil
  | regex =>
      refine .within rfl nofun rfl ?_
      exact .within rfl nofun rfl .nil
  | created =>
      refine .within rfl nofun rfl ?_
      exact .within rfl nofun rfl .nil
  | expires =>
      refine .within rfl nofun rfl ?_
      exact .within rfl nofun rfl .nil
  | localOnly => exact .within rfl nofun rfl .nil

/-- If the tokens of each of several things lead to one more of them, those of all lead to all. -/
theorem Each.passes {α : Type} {tokensOf : α → List Token → Prop} {as : List α}
    (place : List α → Place)
    (hone : ∀ {a ts} before, tokensOf a ts →
      Passes complete (place before) ts complete (place (before ++ [a])))
    (h : Each tokensOf as ts) (before : List α) :
    Passes complete (place before) ts complete (place (before ++ as)) := by
  induction h generalizing before with
  | nil =>
      rw [List.append_nil]
      exact .nil
  | @cons a _ _ _ ha _ ih =>
      have hrest := ih (before ++ [a])
      rw [List.append_assoc, List.singleton_append] at hrest
      exact (hone before ha).append hrest

/-! ## Statements -/

/-- A place where a statement may end, with the statements that are complete if it does. -/
structure Ended (complete : List Statement) (p : Place) (statements : List Statement) : Prop where
  close : ∃ closed, p.close? = some closed ∧ complete ++ closed = statements

/-- Where a statement may end, the tokens of another lead to where that one may end. -/
theorem Ended.passes_statement {statement : Statement} (h : Ended complete p statements)
    (hs : StatementTokens statement ts) :
    ∃ complete' p', Passes complete p ts complete' p' ∧
      Ended complete' p' (statements ++ [statement]) := by
  obtain ⟨closed, hclose, rfl⟩ := h
  cases hs with
  | @time date =>
      refine ⟨_, .fresh, .start hclose rfl ?_, [], rfl, List.append_nil _⟩
      have hnext : Place.time.next ⟨.date, date⟩ = .ok ([.time (String.ofList date)], .fresh) := rfl
      exact .cons List.mem_cons_self hnext .nil
  | @node name attributes ts h =>
      refine ⟨_, .node ⟨String.ofList name, attributes⟩, .start hclose rfl ?_, _, rfl, rfl⟩
      refine .within rfl nofun rfl ?_
      exact h.passes (fun attributes => .node ⟨String.ofList name, attributes⟩)
        (fun _ ha => passes_attribute ha) []
  | @delegation issuer target options ts h =>
      refine ⟨_, .signature ⟨String.ofList issuer, String.ofList target, none, options⟩,
        .start hclose rfl ?_, _, rfl, rfl⟩
      refine .within rfl nofun rfl ?_
      refine .within rfl nofun rfl ?_
      exact h.passes (fun options => .signature ⟨_, _, none, options⟩)
        (fun _ ho => passes_option ho) []
  | @certification issuer target userId options ts h =>
      refine ⟨_, .signature ⟨String.ofList issuer, String.ofList target,
        some (String.ofList userId), options⟩, .start hclose rfl ?_, _, rfl, rfl⟩
      refine .within rfl nofun rfl ?_
      refine .within rfl nofun rfl ?_
      refine .within rfl nofun rfl ?_
      exact h.passes (fun options => .signature ⟨_, _, some _, options⟩)
        (fun _ ho => passes_option ho) []
  | @root name =>
      refine ⟨_, .root (String.ofList name), .start hclose rfl ?_, _, rfl, rfl⟩
      exact .within rfl nofun rfl .nil
  | @rootAmount name digits =>
      refine ⟨_, .fresh, .start hclose rfl ?_, [], rfl, List.append_nil _⟩
      refine .within rfl nofun rfl ?_
      refine .within rfl nofun rfl ?_
      exact .number _ (p := .rootAmount (String.ofList name)) rfl rfl

/-- Where a statement may end, the tokens of others lead to where the last of them may end. -/
theorem Ended.passes_statements {more : List Statement} (h : Ended complete p statements)
    (hs : Each StatementTokens more ts) :
    ∃ complete' p', Passes complete p ts complete' p' ∧
      Ended complete' p' (statements ++ more) := by
  induction hs generalizing complete p statements with
  | nil =>
      rw [List.append_nil]
      exact ⟨complete, p, .nil, h⟩
  | @cons statement more _ _ hs _ ih =>
      obtain ⟨complete', p', hpasses, hended⟩ := h.passes_statement hs
      obtain ⟨complete'', p'', hpasses', hended'⟩ := ih hended
      rw [List.append_assoc, List.singleton_append] at hended'
      exact ⟨complete'', p'', hpasses.append hpasses', hended'⟩

/-! ## Texts -/

/-- A text comes to the statements that it was written for, or to the fault of the first number that
is too long. -/
theorem Renders.readAll_eq (h : Renders statements tokens text) :
    Statement.readAll text = ifShort tokens statements := by
  obtain ⟨gap, cs, hgap, hspaced, htext⟩ := h.spaced
  have hstart : Ended [] .fresh [] := ⟨[], rfl, rfl⟩
  obtain ⟨complete, p, hpasses, closed, hclose, hcomplete⟩ := hstart.passes_statements h.grammar
  rw [Statement.readAll, htext, ← List.nil_append statements, ← hcomplete]
  exact readFrom_spaced hspaced hpasses hclose hgap (Nat.lt_succ_self _) _ _

/-- A text that is written for some statements, whatever tokens it is written with and whatever
blanks and comments stand between them, is read as these statements exactly if no number in it has
too many digits; nothing else can go wrong. -/
theorem Statement.readAll_written (h : Renders statements tokens text) :
    (Statement.readAll text = .ok statements ↔ ∀ t ∈ tokens, t.IsShort) ∧
      ∀ fault, Statement.readAll text = .error fault →
        ∃ t ∈ tokens, ¬t.IsShort ∧ fault = .numeralLength t.text.length := by
  rw [h.readAll_eq, ifShort]
  cases hfind : tokens.find? (¬·.IsShort) with
  | none =>
      have hall : ∀ t ∈ tokens, t.IsShort := by simpa using hfind
      refine ⟨⟨fun _ => hall, fun _ => rfl⟩, ?_⟩
      intro fault hfault
      cases hfault
  | some t =>
      have ht : t ∈ tokens := List.mem_of_find?_eq_some hfind
      have hlong : ¬t.IsShort := by simpa using List.find?_some hfind
      refine ⟨⟨?_, fun hall => absurd (hall t ht) hlong⟩, ?_⟩
      · intro hread
        cases hread
      · intro fault hfault
        exact ⟨t, ht, hlong, (Except.error.inj hfault).symm⟩

/-! ### Samples -/

theorem writes_a : Writes ⟨.name, ['a']⟩ ['a'] := by
  refine .name (by simp) (by simp [isNameChar]) fun k => ?_
  cases k <;> decide

theorem gap_blank : Gap [' '] := .blank rfl .nil

/-- A string with two hyphens, a comment with a quotation mark, and a number with a zero in
front. -/
def sample : String :=
  "at 2023-01-01 node a \x22--\x22 -- \x22\na delegates a local root a amount 040"

def sampleStatements : List Statement :=
  [.time "2023-01-01", .node "a" [.userId "--" none], .signature "a" "a" none [.localOnly],
    .root "a" 40]

def sampleTokens : List Token :=
  [Keyword.atTime.token, ⟨.date, ['2', '0', '2', '3', '-', '0', '1', '-', '0', '1']⟩,
    Keyword.node.token, ⟨.name, ['a']⟩, ⟨.string, ['-', '-']⟩,
    ⟨.name, ['a']⟩, Keyword.delegates.token, ⟨.name, ['a']⟩, Keyword.localOnly.token,
    Keyword.root.token, ⟨.name, ['a']⟩, Keyword.amount.token, ⟨.number, ['0', '4', '0']⟩]

theorem renders_sample : Renders sampleStatements sampleTokens sample := by
  constructor
  case grammar =>
    have htime : StatementTokens (.time "2023-01-01") [Keyword.atTime.token,
        ⟨.date, ['2', '0', '2', '3', '-', '0', '1', '-', '0', '1']⟩] := .time
    have hnode : StatementTokens (.node "a" [.userId "--" none])
        [Keyword.node.token, ⟨.name, ['a']⟩, ⟨.string, ['-', '-']⟩] :=
      .node (.cons AttributeTokens.userId .nil)
    have hdelegation : StatementTokens (.signature "a" "a" none [.localOnly])
        [⟨.name, ['a']⟩, Keyword.delegates.token, ⟨.name, ['a']⟩, Keyword.localOnly.token] :=
      .delegation (.cons OptionTokens.localOnly .nil)
    have hroot : StatementTokens (.root "a" 40) [Keyword.root.token, ⟨.name, ['a']⟩,
        Keyword.amount.token, ⟨.number, ['0', '4', '0']⟩] :=
      @StatementTokens.rootAmount ['a'] ['0', '4', '0']
    exact .cons htime (.cons hnode (.cons hdelegation (.cons hroot .nil)))
  case spaced =>
    have hday : IsDay ['2', '0', '2', '3', '-', '0', '1', '-', '0', '1'] :=
      @IsDay.mk ['2', '0', '2', '3'] ['0', '1'] ['0', '1'] ⟨rfl, by simp⟩ ⟨rfl, by simp⟩
        ⟨rfl, by simp⟩
    have hcomment : Gap (' ' :: '-' :: '-' :: ([' ', '\x22'] ++ ['\n'])) :=
      .blank rfl (.comment (by decide) .nil)
    have hspaced : Spaced sampleTokens _ :=
      .cons (.keyword .atTime) gap_blank (.inr (by simp)) <|
      .cons (.date (.day hday)) gap_blank (.inr (by simp)) <|
      .cons (.keyword .node) gap_blank (.inr (by simp)) <|
      .cons writes_a gap_blank (.inr (by simp)) <|
      .cons (.string (by decide)) hcomment (.inr (by simp)) <|
      .cons writes_a gap_blank (.inr (by simp)) <|
      .cons (.keyword .delegates) gap_blank (.inr (by simp)) <|
      .cons writes_a gap_blank (.inr (by simp)) <|
      .cons (.keyword .localOnly) gap_blank (.inr (by simp)) <|
      .cons (.keyword .root) gap_blank (.inr (by simp)) <|
      .cons writes_a gap_blank (.inr (by simp)) <|
      .cons (.keyword .amount) gap_blank (.inr (by simp)) <|
      .cons (.number (by simp) (by simp)) .nil (.inl rfl) .nil
    exact ⟨[], _, .nil, hspaced, by decide +kernel⟩

/-- The sample is read as the statements that it was written for. -/
theorem Statement.readAll_written_sample :
    Renders sampleStatements sampleTokens sample ∧
      Statement.readAll sample = .ok sampleStatements := by
  have hshort : ∀ t ∈ sampleTokens, t.IsShort := by decide
  exact ⟨renders_sample, (readAll_written renders_sample).1.mpr hshort⟩

/-- A root with an amount of the given digits. -/
theorem renders_root (hne : digits ≠ []) (hdigits : ∀ c ∈ digits, c.isDigit = true) :
    Renders [.root "a" (Nat.ofDigitChars 10 digits 0)]
      [Keyword.root.token, ⟨.name, ['a']⟩, Keyword.amount.token, ⟨.number, digits⟩]
      ("root a amount " ++ String.ofList digits) := by
  have hspaced : Spaced [Keyword.root.token, ⟨.name, ['a']⟩, Keyword.amount.token,
      ⟨.number, digits⟩] _ :=
    .cons (.keyword .root) gap_blank (.inr (by simp)) <|
    .cons writes_a gap_blank (.inr (by simp)) <|
    .cons (.keyword .amount) gap_blank (.inr (by simp)) <|
    .cons (.number hne hdigits) .nil (.inl rfl) .nil
  have hstart : "root a amount ".toList = Keyword.root.text ++ ([' '] ++ (['a'] ++ ([' '] ++
      (Keyword.amount.text ++ [' '])))) := by decide
  have hgrammar : StatementTokens (.root "a" (Nat.ofDigitChars 10 digits 0)) [Keyword.root.token,
      ⟨.name, ['a']⟩, Keyword.amount.token, ⟨.number, digits⟩] :=
    @StatementTokens.rootAmount ['a'] digits
  refine ⟨.cons hgrammar .nil, [], _, .nil, hspaced, ?_⟩
  rw [String.toList_append, hstart, String.toList_ofList]
  simp only [List.append_assoc, List.nil_append, List.append_nil]

theorem readAll_root (hdigits : ∀ c ∈ digits, c.isDigit = true)
    (hlong : Text.maxDigits < digits.length) :
    Statement.readAll ("root a amount " ++ String.ofList digits) =
      .error (.numeralLength digits.length) := by
  have hne : digits ≠ [] := List.ne_nil_of_length_pos (by omega)
  rw [(renders_root hne hdigits).readAll_eq, ifShort_cons (by decide), ifShort_cons (by decide),
    ifShort_cons (by decide),
    ifShort_cons_of_not fun hshort => absurd (hshort rfl) (not_le.mpr hlong)]

/-- A text is refused for an amount that has too many digits, although the grammar knows no such
limit. -/
theorem Statement.readAll_overlong :
    ∃ statements tokens,
      Renders statements tokens ("root a amount " ++ String.ofList (List.replicate 4301 '9')) ∧
      Statement.readAll ("root a amount " ++ String.ofList (List.replicate 4301 '9')) =
        .error (.numeralLength 4301) := by
  have hdigits : ∀ c ∈ List.replicate 4301 '9', c.isDigit = true := by
    intro c hc
    rw [List.eq_of_mem_replicate hc]
    rfl
  have hlength : (List.replicate 4301 '9').length = 4301 := List.length_replicate
  refine ⟨_, _, renders_root ?_ hdigits, ?_⟩
  · rw [← List.length_pos_iff, hlength]
    decide
  · rw [readAll_root hdigits (by rw [hlength]; decide), hlength]

end TrustWeb.Description
