import Mathlib
import TrustWeb.Proofs.Pattern.Matching
import TrustWeb.Scope

/-! # Scopes of domains

The scope of a domain is an expression into which the name of the domain is written. Every character
with a meaning in expressions is escaped there, so that the name is read as itself, whatever it
holds. The expression is then found in exactly the texts that end with an address in the domain. -/

open scoped Computability

namespace TrustWeb.Pattern

/-! ## Reading step by step -/

namespace Reader

variable {α β : Type} {r r' : Reading} {t : Token} {rest : List Token} {c : Char}

theorem bind_apply {m : Reader α} {next : α → Reader β} {a : α} (h : m r = .ok (a, r')) :
    (m >>= next) r = next a r' := by
  simp only [Bind.bind, StateT.bind, h, Except.bind]

theorem peek?_apply (r : Reading) : peek? r = .ok (r.rest.head?, r) := rfl

theorem goOn_apply (hrest : rest.head? ≠ some .dangling) (r : Reading) :
    goOn rest r = .ok ((), { r with rest := rest }) := by
  unfold goOn
  split
  · simp at hrest
  · rfl

theorem take_apply (h : r.rest = t :: rest) (hrest : rest.head? ≠ some .dangling) :
    take r = .ok (t, { r with rest := rest }) := by
  have htake : take? r = .ok (some t, { r with rest := rest }) := by
    unfold take?
    rw [bind_apply rfl]
    simp only [h]
    exact bind_apply (goOn_apply hrest r)
  unfold take
  rw [bind_apply htake]
  rfl

theorem accept_apply (h : r.rest = .char c :: rest) (hrest : rest.head? ≠ some .dangling) :
    accept c r = .ok (true, { r with rest := rest }) := by
  unfold accept
  rw [bind_apply rfl]
  simp only [h, beq_self_eq_true, if_true]
  exact bind_apply (goOn_apply hrest r)

/-- The next piece is not taken for another one. -/
theorem accept_apply_of_ne (h : r.rest.head? ≠ some (.char c)) : accept c r = .ok (false, r) := by
  unfold accept
  rw [bind_apply rfl]
  cases hr : r.rest with
  | nil => rfl
  | cons t rest =>
      cases t with
      | escape d => rfl
      | dangling => rfl
      | char d =>
          have hne : (d == c) = false := by simpa [hr] using h
          simp only [hne, Bool.false_eq_true, if_false]
          rfl

end Reader

open Reader

section Steps

variable {fuel : Nat} {outermost first : Bool} {items : List (ItemShape × Pattern)} {c : Char}
  {r : Reading} {rest : List Token}

/-! ## Characters that stand for themselves -/

/-- The characters that have a meaning in expressions. -/
def special : List Char :=
  ['(', ')', '[', ']', '?', '*', '+', '-', '|', '^', '$', '\\', '.', '&', '~', '#', ' ', '\t', '\n',
    '\r', '\x0b', '\x0c', '\x7b', '\x7d']

/-- The piece that a character is written as to mean itself. -/
def Token.literal (c : Char) : Token := if c ∈ special then .escape c else .char c

/-- The pattern of one character. -/
def itself (c : Char) : Pattern := .char (.one .exact false c.toNat)

theorem escapeOutside_special (hc : c ∈ special) : escapeOutside {} c = pure (itself c) := by
  unfold special at hc
  fin_cases hc <;> rfl

theorem Token.literal_ne_dangling (c : Char) : literal c ≠ .dangling := by
  unfold literal
  split <;> simp

theorem sequence_literal (h : r.rest = .literal c :: rest) (hrest : rest.head? ≠ some .dangling) :
    sequence (fuel + 1) {} outermost first items r =
      sequence fuel {} outermost first ((.other, itself c) :: items) { r with rest := rest } := by
  rw [sequence, bind_apply (peek?_apply r), h]
  by_cases hc : c ∈ special
  · have hliteral : Token.literal c = .escape c := if_pos hc
    rw [hliteral] at h ⊢
    rw [if_neg (by simp), bind_apply (take_apply h hrest)]
    dsimp only
    rw [escapeOutside_special hc]
    rfl
  · have hliteral : Token.literal c = .char c := if_neg hc
    rw [hliteral] at h ⊢
    simp only [special, List.mem_cons, not_or] at hc
    rw [if_neg (by simp [hc]), bind_apply (take_apply h hrest)]
    simp [hc, itself]
    rfl

/-- Characters in a row that stand for themselves. -/
theorem sequence_literals {cs : List Char} (h : r.rest = cs.map .literal ++ rest)
    (hrest : rest.head? ≠ some .dangling) :
    sequence (fuel + cs.length) {} outermost first items r =
      sequence fuel {} outermost first ((cs.map fun c => (.other, itself c)).reverse ++ items)
        { r with rest := rest } := by
  induction cs generalizing items r with
  | nil =>
      obtain rfl : r.rest = rest := h
      rfl
  | cons c cs ih =>
      have hnext : (cs.map Token.literal ++ rest).head? ≠ some .dangling := by
        cases cs with
        | nil => exact hrest
        | cons d cs => simpa using Token.literal_ne_dangling d
      rw [List.length_cons, ← Nat.add_assoc, sequence_literal h hnext, ih rfl]
      simp

/-! ## Classes and repetitions -/

/-- The members of a class that has neither ranges nor named classes. -/
theorem classItems_apply (cs : List Char) {found : List ClassItem}
    (hcs : ∀ c ∈ cs, c ≠ ']' ∧ c ≠ '-') (hne : cs ≠ [] ∨ found ≠ [])
    (h : r.rest = cs.map .char ++ .char ']' :: rest) (hrest : rest.head? ≠ some .dangling)
    (hfuel : cs.length < fuel) :
    classItems {} fuel found r =
      .ok (found.reverse ++ cs.map fun c => .code c.toNat, { r with rest := rest }) := by
  induction cs generalizing fuel found r with
  | nil =>
      obtain ⟨fuel, rfl⟩ := Nat.exists_eq_add_one_of_ne_zero (Nat.ne_of_gt hfuel)
      have hfound : found ≠ [] := hne.resolve_left (· rfl)
      rw [classItems, bind_apply (take_apply h hrest)]
      simp [hfound]
      rfl
  | cons c cs ih =>
      obtain ⟨fuel, rfl⟩ := Nat.exists_eq_add_one_of_ne_zero (Nat.ne_zero_of_lt hfuel)
      obtain ⟨⟨hclose, -⟩, hothers⟩ := List.forall_mem_cons.mp hcs
      have hnext : (cs.map Token.char ++ .char ']' :: rest).head? ≠ some .dangling ∧
          (cs.map Token.char ++ .char ']' :: rest).head? ≠ some (.char '-') := by
        cases cs with
        | nil => simp
        | cons d cs => simpa using (List.forall_mem_cons.mp hothers).1.2
      rw [classItems, bind_apply (take_apply h hnext.1)]
      have hgo : (Token.char c == .char ']' && !found.isEmpty) = false := by simp [hclose]
      rw [hgo, if_neg Bool.false_ne_true, bind_apply rfl,
        bind_apply (accept_apply_of_ne (by exact hnext.2)), if_neg Bool.false_ne_true,
        ih hothers (.inr (by simp)) rfl (by simpa using hfuel)]
      simp

/-- The class of all characters but one. -/
theorem sequence_except (hc : c ≠ ']' ∧ c ≠ '-')
    (h : r.rest = .char '[' :: .char '^' :: .char c :: .char ']' :: rest)
    (hrest : rest.head? ≠ some .dangling) :
    sequence (fuel + 1) {} outermost first items r =
      sequence fuel {} outermost first
        ((.other, .char (.one .exact true c.toNat)) :: items) { r with rest := rest } := by
  have hclass : bracketClass {} { r with rest := .char '^' :: .char c :: .char ']' :: rest } =
      .ok (.char (.one .exact true c.toNat), { r with rest := rest }) := by
    unfold bracketClass
    rw [bind_apply (accept_apply rfl (by simp)), bind_apply rfl, bind_apply
      (classItems_apply [c] (by simpa using hc) (.inl (by simp)) rfl hrest (by simp))]
    rfl
  rw [sequence, bind_apply (peek?_apply r), h, if_neg (by simp),
    bind_apply (take_apply h (by simp))]
  exact bind_apply hclass

/-- A class of two characters. -/
theorem sequence_either {d : Char} (hc : c ≠ ']' ∧ c ≠ '-') (hd : d ≠ ']' ∧ d ≠ '-')
    (hne : c.toNat ≠ d.toNat) (hopen : c ≠ '^')
    (h : r.rest = .char '[' :: .char c :: .char d :: .char ']' :: rest)
    (hrest : rest.head? ≠ some .dangling) :
    sequence (fuel + 1) {} outermost first items r =
      sequence fuel {} outermost first
        ((.other, .char (.oneOf .exact false [.code c.toNat, .code d.toNat])) :: items)
        { r with rest := rest } := by
  have hclass : bracketClass {} { r with rest := .char c :: .char d :: .char ']' :: rest } =
      .ok (.char (.oneOf .exact false [.code c.toNat, .code d.toNat]),
        { r with rest := rest }) := by
    unfold bracketClass
    rw [bind_apply (accept_apply_of_ne (by simpa using hopen)), bind_apply rfl, bind_apply
      (classItems_apply [c, d] (by simp [hc, hd]) (.inl (by simp)) rfl hrest (by simp))]
    have hdups : List.eraseDups [ClassItem.code c.toNat, .code d.toNat] =
        [.code c.toNat, .code d.toNat] := by
      simp [List.eraseDups_cons, hne.symm]
    simp only [List.reverse_nil, List.nil_append, List.map_cons, List.map_nil, hdups]
    rfl
  rw [sequence, bind_apply (peek?_apply r), h, if_neg (by simp),
    bind_apply (take_apply h (by simp))]
  exact bind_apply hclass

/-- One time or more, of what was read last. -/
theorem sequence_plus {p : Pattern} (h : r.rest = .char '+' :: rest)
    (hrest : rest.head? ≠ some .dangling ∧ rest.head? ≠ some (.char '?') ∧
      rest.head? ≠ some (.char '+')) :
    sequence (fuel + 1) {} outermost first ((.other, p) :: items) r =
      sequence fuel {} outermost first ((.repetition, .times .greedy 1 none p) :: items)
        { r with rest := rest } := by
  have hrepeat : repeatLatest 1 none ((.other, p) :: items) { r with rest := rest } =
      .ok ((.repetition, .times .greedy 1 none p) :: items, { r with rest := rest }) := by
    unfold repeatLatest
    dsimp only
    rw [bind_apply (accept_apply_of_ne (by exact hrest.2.1)), if_neg Bool.false_ne_true,
      bind_apply (accept_apply_of_ne (by exact hrest.2.2))]
    rfl
  rw [sequence, bind_apply (peek?_apply r), h, if_neg (by simp), bind_apply (take_apply h hrest.1)]
  exact bind_apply hrepeat

/-- The end of the last line, at the end of the expression. -/
theorem sequence_end (h : r.rest = [.char '$']) :
    sequence (fuel + 2) {} outermost first items r =
      .ok (ofItems (items.reverse ++ [(.anchor, .anchor .lastLineEnd)]),
        { r with rest := [] }) := by
  have hlast : sequence (fuel + 1) {} outermost first
      ((.anchor, .anchor .lastLineEnd) :: items) { r with rest := [] } =
        .ok (ofItems (items.reverse ++ [(.anchor, .anchor .lastLineEnd)]),
          { r with rest := [] }) := by
    rw [sequence, bind_apply (peek?_apply _), if_pos (by simp), List.reverse_cons]
    rfl
  rw [sequence, bind_apply (peek?_apply r), h, if_neg (by simp),
    bind_apply (take_apply h (by simp))]
  exact hlast

end Steps

/-! ## The expression of a domain -/

/-- The items that an address in a domain is read as. -/
def addressItems (d : List Char) : List (ItemShape × Pattern) :=
  [(.other, itself '<'), (.repetition, .times .greedy 1 none (.char (.one .exact true '>'.toNat))),
      (.other, .char (.oneOf .exact false [.code '@'.toNat, .code '.'.toNat]))] ++
    d.map (fun c => (.other, itself c)) ++ [(.other, itself '>')]

/-- The items that the expression of a domain is read as. -/
def domainItems (d : List Char) : List (ItemShape × Pattern) :=
  addressItems d ++ [(.anchor, .anchor .lastLineEnd)]

/-- The pieces of the expression of a domain. -/
def domainTokens (d : List Char) : List Token :=
  .char '<' :: .char '[' :: .char '^' :: .char '>' :: .char ']' :: .char '+' :: .char '[' ::
    .char '@' :: .char '.' :: .char ']' :: (d.map .literal ++ [.char '>', .char '$'])

theorem Token.ofChars_cons {c : Char} (hc : c ≠ '\\') (cs : List Char) :
    ofChars (c :: cs) = .char c :: ofChars cs := by
  rw [ofChars] <;> simp [hc]

theorem Token.ofChars_literal (c : Char) (cs : List Char) :
    ofChars ((if special.contains c then ['\\', c] else [c]) ++ cs) = literal c :: ofChars cs := by
  unfold literal
  by_cases hc : c ∈ special
  · simp [hc, ofChars]
  · have hplain : c ≠ '\\' := by
      rintro rfl
      exact hc (by decide)
    simp [hc, ofChars_cons hplain]

theorem toList_escapeText (d : String) :
    (escapeText d).toList =
      d.toList.flatMap fun c => if special.contains c then ['\\', c] else [c] := by
  have hspecial : "()[]?*+-|^$\\.&~# \t\n\r\x0b\x0c\x7b\x7d".toList = special := by decide +kernel
  rw [escapeText, hspecial, String.toList_ofList]

theorem Token.ofChars_domain (d : String) :
    ofChars ("<[^>]+[@.]" ++ escapeText d ++ ">$").toList = domainTokens d.toList := by
  have hname : ∀ cs : List Char,
      ofChars ((cs.flatMap fun c => if special.contains c then ['\\', c] else [c]) ++
        [ '>', '$']) = cs.map literal ++ [.char '>', .char '$'] := by
    intro cs
    induction cs with
    | nil => rfl
    | cons c cs ih => rw [List.flatMap_cons, List.append_assoc, ofChars_literal, ih]; rfl
  have hfront : "<[^>]+[@.]".toList = ['<', '[', '^', '>', ']', '+', '[', '@', '.', ']'] := by
    decide +kernel
  have hback : ">$".toList = ['>', '$'] := by decide +kernel
  rw [String.toList_append, String.toList_append, toList_escapeText, hfront, hback,
    List.append_assoc]
  simp only [List.cons_append, List.nil_append, ne_eq, Char.reduceEq, not_false_eq_true,
    ofChars_cons, hname]
  rfl

theorem sequence_domain (fuel : Nat) (d : List Char) :
    sequence (fuel + 3 + d.length + 4) {} true true [] { rest := domainTokens d } =
      .ok (ofItems (domainItems d), { rest := [] }) := by
  have hname : (d.map Token.literal ++ [Token.char '>', .char '$']).head? ≠ some .dangling := by
    cases d with
    | nil => simp
    | cons c d => simpa using Token.literal_ne_dangling c
  rw [sequence_literal (c := '<') rfl (by simp),
    sequence_except (c := '>') (by decide) rfl (by simp), sequence_plus rfl (by simp),
    sequence_either (c := '@') (d := '.') (by decide) (by decide) (by decide) (by decide) rfl hname,
    sequence_literals rfl (by simp), sequence_literal (c := '>') rfl (by simp), sequence_end rfl]
  simp [domainItems, addressItems]

theorem looksBehindFixed_ofItems {items : List (ItemShape × Pattern)}
    (h : ∀ item ∈ items, item.2.looksBehindFixed = true) :
    (ofItems items).looksBehindFixed = true := by
  induction items with
  | nil => rfl
  | cons item items ih =>
      obtain ⟨hitem, hitems⟩ := List.forall_mem_cons.mp h
      cases items with
      | nil => exact hitem
      | cons other items =>
          change (item.2.looksBehindFixed && (ofItems (other :: items)).looksBehindFixed) = true
          rw [hitem, ih hitems]
          rfl

/-- The name of a domain is read as itself, whatever it holds. -/
theorem read_domain (d : String) :
    read ("<[^>]+[@.]" ++ escapeText d ++ ">$") = .ok (ofItems (domainItems d.toList)) := by
  have hfixed : (ofItems (domainItems d.toList)).looksBehindFixed = true := by
    refine looksBehindFixed_ofItems ?_
    simp only [domainItems, addressItems, List.forall_mem_append, List.forall_mem_cons,
      List.forall_mem_map]
    exact ⟨⟨⟨⟨rfl, rfl, rfl, nofun⟩, fun c _ => rfl⟩, rfl, nofun⟩, rfl, nofun⟩
  have hrun : StateT.run (do
        goOn (domainTokens d.toList)
        alternatives (3 * (domainTokens d.toList).length + 3) {} true true : Reader Pattern)
      { rest := domainTokens d.toList } = .ok (ofItems (domainItems d.toList), { rest := [] }) := by
    have hfuel : 3 * (domainTokens d.toList).length + 3 =
        2 * d.toList.length + 31 + 3 + d.toList.length + 4 + 1 := by
      simp [domainTokens]
      omega
    rw [StateT.run, bind_apply (goOn_apply (by simp [domainTokens]) _), hfuel, alternatives,
      bind_apply (sequence_domain _ _), bind_apply (accept_apply_of_ne (by simp))]
    rfl
  rw [read, Token.ofChars_domain, readTokens]
  simp only [hrun]
  change (do
    unless (ofItems (domainItems d.toList)).looksBehindFixed do throw .malformed
    return ofItems (domainItems d.toList) : Except ReadError Pattern) = _
  rw [hfixed]
  rfl

/-! ## The language of a sequence -/

theorem run_ofItems_cons (item : ItemShape × Pattern) (items : List (ItemShape × Pattern)) :
    run (ofItems (item :: items)) = fun k => run item.2 (run (ofItems items) k) := by
  cases items with
  | nil => rfl
  | cons other items => rfl

theorem run_ofItems_append (front back : List (ItemShape × Pattern)) :
    run (ofItems (front ++ back)) = fun k => run (ofItems front) (run (ofItems back) k) := by
  induction front with
  | nil => rfl
  | cons item front ih => rw [List.cons_append, run_ofItems_cons, run_ofItems_cons, ih]

/-- A sequence takes texts of its parts one after the other. -/
theorem spells_ofItems {items : List (ItemShape × Pattern)} {Ls : List (Language Char)}
    (h : List.Forall₂ (fun item L => Spells (run item.2) L) items Ls) :
    Spells (run (ofItems items)) Ls.prod := by
  induction h with
  | nil => exact .one
  | cons hitem _ ih =>
      rw [run_ofItems_cons, List.prod_cons]
      exact hitem.comp ih

/-! ## Addresses -/

theorem toNat_inj {c d : Char} : c.toNat = d.toNat ↔ c = d := by
  rw [← Char.val_inj, ← UInt32.toNat_inj]
  rfl

theorem holds_itself {c d : Char} : (CharTest.one .exact false c.toNat).holds d = true ↔ d = c := by
  rw [@eq_comm _ d c]
  simp [CharTest.holds, CaseRule.agrees, CaseRule.fold, toNat_inj]

theorem holds_except {c d : Char} : (CharTest.one .exact true c.toNat).holds d = true ↔ d ≠ c := by
  rw [ne_comm]
  simp [CharTest.holds, CaseRule.agrees, CaseRule.fold, toNat_inj]

theorem holds_either {c d e : Char} :
    (CharTest.oneOf .exact false [.code c.toNat, .code d.toNat]).holds e = true ↔
      e = c ∨ e = d := by
  rw [@eq_comm _ e c, @eq_comm _ e d]
  simp [CharTest.holds, ClassItem.holds, CaseRule.agrees, CaseRule.fold, toNat_inj]

/-- The pattern of one character takes this character. -/
theorem spells_itself (c : Char) : Spells (run (itself c)) {[c]} := by
  have hwords : (CharTest.one .exact false c.toNat).words = {[c]} := by
    ext w
    constructor
    · rintro ⟨d, hd, rfl⟩
      rw [holds_itself.mp hd]
      rfl
    · rintro rfl
      exact ⟨c, holds_itself.mpr rfl, rfl⟩
  exact hwords ▸ spells_char _

/-- One character after the other gives the text. -/
theorem prod_singletons (cs : List Char) :
    (cs.map fun c => ({[c]} : Language Char)).prod = {cs} := by
  induction cs with
  | nil => rfl
  | cons c cs ih =>
      rw [List.map_cons, List.prod_cons, ih]
      ext w
      rw [Language.mem_mul]
      constructor
      · rintro ⟨_, rfl, _, rfl, rfl⟩
        rfl
      · rintro rfl
        exact ⟨[c], rfl, cs, rfl, rfl⟩

/-- The addresses in a domain: in brackets, something without a closing bracket, an at sign or a
full stop, and the name of the domain. -/
def addresses (d : List Char) : Language Char :=
  {w | ∃ l c, w = '<' :: l ++ c :: d ++ ['>'] ∧ l ≠ [] ∧ '>' ∉ l ∧ (c = '@' ∨ c = '.')}

theorem addresses_eq (d : List Char) :
    addresses d =
      [{['<']}, (CharTest.one .exact true '>'.toNat).words ^ 1 *
          (CharTest.one .exact true '>'.toNat).words∗,
        (CharTest.oneOf .exact false [.code '@'.toNat, .code '.'.toNat]).words].prod *
          {d} * {['>']} := by
  simp only [List.prod_cons, List.prod_nil, mul_one, pow_one]
  ext w
  constructor
  · rintro ⟨l, c, rfl, hne, hfree, hc⟩
    have hl : l ∈ (CharTest.one .exact true '>'.toNat).words *
        (CharTest.one .exact true '>'.toNat).words∗ :=
      CharTest.mem_words_mul_kstar.mpr ⟨hne, fun x hx => holds_except.mpr fun he => hfree (he ▸ hx)⟩
    have hparts : '<' :: l ++ c :: d ++ ['>'] = ['<'] ++ (l ++ [c]) ++ d ++ ['>'] := by simp
    rw [hparts]
    exact Language.append_mem_mul (Language.append_mem_mul (Language.append_mem_mul rfl
      (Language.append_mem_mul hl ⟨c, holds_either.mpr hc, rfl⟩)) rfl) rfl
  · rintro ⟨_, ⟨_, ⟨_, rfl, _, ⟨l, hl, _, ⟨c, hc, rfl⟩, rfl⟩, rfl⟩, _, rfl, rfl⟩, _, rfl, rfl⟩
    obtain ⟨hne, hfree⟩ := CharTest.mem_words_mul_kstar.mp hl
    exact ⟨l, c, by simp, hne, fun hx => holds_except.mp (hfree _ hx) rfl, holds_either.mp hc⟩

theorem spells_addresses (d : List Char) :
    Spells (run (ofItems (addressItems d))) (addresses d) := by
  have hstart := @spells_ofItems [(.other, _), (.repetition, _), (.other, _)] _ (.cons
    (spells_itself '<') (.cons
      (spells_times (spells_char (.one .exact true '>'.toNat)) (CharTest.nil_not_mem_words _) 1)
      (.cons (spells_char (.oneOf .exact false [.code '@'.toNat, .code '.'.toNat])) .nil)))
  have hname : Spells (run (ofItems (d.map fun c => (.other, itself c)))) {d} := by
    rw [← prod_singletons d]
    refine spells_ofItems ?_
    rw [List.forall₂_map_left_iff, List.forall₂_map_right_iff, List.forall₂_same]
    exact fun c _ => spells_itself c
  have hclose : Spells (run (ofItems [(.other, itself '>')])) {['>']} := spells_itself '>'
  rw [addresses_eq, addressItems, run_ofItems_append, run_ofItems_append]
  exact (hstart.comp hname).comp hclose

/-- An address in a domain is found where it ends the text, or the last line of it. -/
theorem foundIn_domain (d s : String) :
    (ofItems (domainItems d.toList)).foundIn s = true ↔
      ∃ p w e, s.toList = p ++ w ++ e ∧ w ∈ addresses d.toList ∧ (e = [] ∨ e = ['\n']) := by
  have hend : ∀ c : Cursor, (run (ofItems [(.anchor, .anchor .lastLineEnd)]) some c).isSome = true ↔
      c.after = [] ∨ c.after = ['\n'] := fun c => by
    simp [ofItems, run, Anchor.holds]
  rw [foundIn, foundFrom_iff, domainItems, run_ofItems_append]
  simp only [spells_addresses d.toList _ _, hend]
  constructor
  · rintro ⟨p, rest, hs, w, e, rfl, hw, he⟩
    exact ⟨p, w, e, by rw [hs, List.append_assoc], hw, he⟩
  · rintro ⟨p, w, e, hs, hw, he⟩
    exact ⟨p, w ++ e, by rw [hs, List.append_assoc], w, e, rfl, hw, he⟩

end TrustWeb.Pattern

namespace TrustWeb.Scope

open Pattern

/-- Whatever the name of a domain holds, and whatever the user ID: the scope of the domain covers
the user ID exactly if this ends, up to one line feed, with an address in brackets, in the domain or
a subdomain of it. -/
theorem covers_forDomain_iff (d s : String) :
    ∃ covered, (forDomain d).covers (.userId s) = .ok covered ∧
      (covered = true ↔ ∃ p l c e : String, s = p ++ "<" ++ l ++ c ++ d ++ ">" ++ e ∧
        l ≠ "" ∧ '>' ∉ l.toList ∧ (c = "@" ∨ c = ".") ∧ (e = "" ∨ e = "\n")) := by
  refine ⟨(ofItems (domainItems d.toList)).foundIn s, ?_, ?_⟩
  · simp only [covers, isWildcard, forDomain, List.isEmpty_cons, findsAny, finds, read_domain]
    cases (ofItems (domainItems d.toList)).foundIn s <;> rfl
  · rw [foundIn_domain]
    constructor
    · rintro ⟨p, _, e, hs, ⟨l, c, rfl, hne, hfree, hc⟩, he⟩
      refine ⟨.ofList p, .ofList l, .ofList [c], .ofList e, ?_, ?_, by simpa using hfree, ?_, ?_⟩
      · rw [← String.toList_inj, hs]
        simp
      · simpa using hne
      · exact hc.imp (by rintro rfl; rfl) (by rintro rfl; rfl)
      · exact he.imp (by rintro rfl; rfl) (by rintro rfl; rfl)
    · rintro ⟨p, l, c, e, rfl, hne, hfree, hc, he⟩
      have hl : l.toList ≠ [] := mt String.toList_eq_nil_iff.mp hne
      have hend : e.toList = [] ∨ e.toList = ['\n'] :=
        he.imp (by rintro rfl; rfl) (by rintro rfl; rfl)
      obtain ⟨x, rfl, hx⟩ : ∃ x, c = .ofList [x] ∧ (x = '@' ∨ x = '.') :=
        hc.elim (fun h => ⟨'@', h, .inl rfl⟩) (fun h => ⟨'.', h, .inr rfl⟩)
      exact ⟨p.toList, _, e.toList, by simp, ⟨l.toList, x, rfl, hl, hfree, hx⟩, hend⟩

end TrustWeb.Scope
