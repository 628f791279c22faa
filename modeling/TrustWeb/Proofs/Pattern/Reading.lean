import Mathlib
import TrustWeb.Pattern.Reader

/-! # What reading an expression comes to

The reader of expressions fails for few reasons other than bad form: a repetition count is too great
or has too many digits, an escape names a code point beyond any encoding, or the flags of the whole
expression contradict each other. Each of them is accounted for by what is written. So are the
groups, the possessive repetitions and the conditions of the pattern that the reader gives, on which
it depends whether the matcher stands for the pattern. -/

namespace TrustWeb.Pattern

/-! ## What accounts for a fault -/

/-- Digits in a row that stand for no repetition count: the number is too great, or there are too
many digits. -/
structure Oversized (digits : List Char) : Prop where
  isDigit : ∀ d ∈ digits, d.isDigit = true
  size : countLimit ≤ digitsIn 10 digits ∨ Text.maxDigits < digits.length

/-- Hexadecimal digits in a row whose number is not even tried as a code point. -/
structure Unencodable (digits : List Char) : Prop where
  isHexDigit : ∀ d ∈ digits, isHexDigit d = true
  length : digits.length = 8
  size : codeLimit ≤ digitsIn 16 digits

/-- What is written accounts for a fault. Bad form needs no account. -/
def Accounts (written : List Token) : ReadError → Prop
  | .malformed => True
  | .repetitionTooLarge | .numeralLength _ =>
    ∃ digits, digits.map Token.char <:+: written ∧ Oversized digits
  | .codeTooLarge =>
    .escape 'U' ∈ written ∧ ∃ digits, digits.map Token.char <:+: written ∧ Unencodable digits
  | .clashingFlags => .char 'a' ∈ written ∧ .char 'u' ∈ written

/-- The letters of the flags for the scripts are written where these are in force. -/
structure Flags.Within (written : List Token) (f : Flags) : Prop where
  latinOnly : f.latinOnly = true → .char 'a' ∈ written
  allScripts : f.allScripts = true → .char 'u' ∈ written

/-- What is still to be read is the end of what is written. -/
structure Reading.Within (written : List Token) (r : Reading) : Prop where
  rest : r.rest <:+ written
  flags : r.flags.Within written

/-- The pattern has groups, possessive repetitions and conditions only where their signs are
written. -/
def Within (written : List Token) : Pattern → Prop
  | .seq p q => Within written p ∧ Within written q
  | .alt p q => Within written p ∧ Within written q
  | .times style _ _ p => (style = .possessive → .char '+' ∈ written) ∧ Within written p
  | .group _ p => .char '(' ∈ written ∧ Within written p
  | .given _ p q =>
    (.char '(' ∈ written ∧ .char '?' ∈ written) ∧ Within written p ∧ Within written q
  | .ahead _ p => Within written p
  | .behind _ p => Within written p
  | .atomic p => Within written p
  | _ => True

variable {written : List Token}

namespace Flags

theorem Within.none : ({} : Flags).Within written := ⟨nofun, nofun⟩

theorem Within.union {f g : Flags} (hf : f.Within written) (hg : g.Within written) :
    (f.union g).Within written := by
  refine ⟨fun h => ?_, fun h => ?_⟩
  · rcases (Bool.or_eq_true _ _).mp h with h | h
    · exact hf.latinOnly h
    · exact hg.latinOnly h
  · rcases (Bool.or_eq_true _ _).mp h with h | h
    · exact hf.allScripts h
    · exact hg.allScripts h

theorem within_ofLetter? {c : Char} {f : Flags} (h : ofLetter? c = some f)
    (hc : .char c ∈ written) : f.Within written := by
  unfold ofLetter? at h
  split at h
  all_goals cases h
  case h_5 => exact ⟨fun _ => hc, nofun⟩
  case h_6 => exact ⟨nofun, fun _ => hc⟩
  all_goals exact ⟨nofun, nofun⟩

end Flags

theorem Reading.Within.suffix {r : Reading} (h : r.Within written) {rest : List Token}
    (hrest : rest <:+ r.rest) : rest <:+ written := hrest.trans h.rest

/-! ## Rules for steps -/

/-- The outcome is a result that passes a test, or a fault that what is written accounts for. -/
def Settles (written : List Token) {α : Type} (P : α → Prop) : Except ReadError α → Prop
  | .ok a => P a
  | .error e => Accounts written e

namespace Reader

variable {α β : Type} {P : α → Prop} {Q : β → Prop}

/-- From a state within what is written, the step comes to one with a result that passes a test, or
it fails with a fault that is accounted for. -/
def Gives (written : List Token) (m : Reader α) (P : α → Prop) : Prop :=
  ∀ r : Reading, r.Within written →
    Settles written (fun found => found.2.Within written ∧ P found.1) (m r)

/-- The step gives any result. -/
abbrev Keeps (written : List Token) (m : Reader α) : Prop := Gives written m fun _ => True

namespace Gives

theorem pure {a : α} (h : P a) : Gives written (pure a) P := fun _ hr => ⟨hr, h⟩

theorem fail : Gives written fail P := fun _ _ => trivial

theorem throw {e : ReadError} (h : Accounts written e) : Gives written (throw e : Reader α) P :=
  fun _ _ => h

theorem get : Gives written get fun r => r.Within written := fun _ hr => ⟨hr, hr⟩

theorem set {r : Reading} (h : r.Within written) : Keeps written (set r : Reader PUnit) :=
  fun _ _ => ⟨h, trivial⟩

theorem modify {change : Reading → Reading}
    (h : ∀ r : Reading, r.Within written → (change r).Within written) :
    Keeps written (modify change : Reader PUnit) :=
  fun r hr => ⟨h r hr, trivial⟩

theorem bind {m : Reader α} {next : α → Reader β} (hm : Gives written m P)
    (hnext : ∀ a, P a → Gives written (next a) Q) : Gives written (m >>= next) Q := by
  intro r hr
  have hfirst := hm r hr
  simp only [Bind.bind, StateT.bind]
  cases h : m r with
  | error e =>
      rw [h] at hfirst
      exact hfirst
  | ok found =>
      obtain ⟨a, r'⟩ := found
      rw [h] at hfirst
      exact hnext a hfirst.2 r' hfirst.1

theorem ite {c : Prop} [Decidable c] {m m' : Reader α} (hm : Gives written m P)
    (hm' : Gives written m' P) : Gives written (if c then m else m') P := by
  split
  · exact hm
  · exact hm'

end Gives

/-! ## Steps over pieces -/

theorem goOn_keeps {rest : List Token} (h : rest <:+ written) : Keeps written (goOn rest) := by
  unfold goOn
  split
  · exact .fail
  · exact .modify fun r hr => ⟨h, hr.flags⟩

theorem peek?_keeps : Keeps written peek? := .bind .get fun _ _ => .pure trivial

theorem take?_gives : Gives written take? fun t? => ∀ t, t? = some t → t ∈ written := by
  refine .bind .get fun r hr => ?_
  cases hrest : r.rest with
  | nil => exact .pure (by simp)
  | cons t rest =>
      have ht : t :: rest <:+ written := hr.suffix (hrest ▸ List.suffix_rfl)
      refine .bind (goOn_keeps ((List.suffix_cons t rest).trans ht)) fun _ _ => .pure ?_
      rintro _ ⟨⟩
      exact ht.subset List.mem_cons_self

theorem take_gives : Gives written take fun t => t ∈ written := by
  refine .bind take?_gives fun t? ht => ?_
  cases t? with
  | none => exact .fail
  | some t => exact .pure (ht t rfl)

theorem accept_gives (c : Char) :
    Gives written (accept c) fun found => found = true → .char c ∈ written := by
  refine .bind .get fun r hr => ?_
  split
  · next d rest hrest =>
      have hd : .char d :: rest <:+ written := hr.suffix (hrest ▸ List.suffix_rfl)
      split
      · next hc =>
          obtain rfl : d = c := by simpa using hc
          refine .bind (goOn_keeps ((List.suffix_cons _ rest).trans hd)) fun _ _ => .pure ?_
          exact fun _ => hd.subset List.mem_cons_self
      · exact .pure nofun
  · exact .pure nofun

theorem expect_keeps (c : Char) : Keeps written (expect c) := by
  refine .bind (accept_gives c) fun found _ => ?_
  cases found with
  | true => exact .pure trivial
  | false => exact .fail

theorem goOn_cases (rest : List Token) (r : Reading) :
    goOn rest r = .error .malformed ∨ goOn rest r = .ok ((), { r with rest := rest }) := by
  unfold goOn
  split
  · exact .inl rfl
  · exact .inr rfl

theorem takeWhile_succ (limit : Nat) (test : Char → Bool) (r : Reading) :
    takeWhile (limit + 1) test r = .ok ([], r) ∨
      ∃ c rest, r.rest = .char c :: rest ∧ test c = true ∧
        takeWhile (limit + 1) test r = (goOn rest r).bind fun gone =>
          (takeWhile limit test gone.2).map fun found => (c :: found.1, found.2) := by
  simp only [takeWhile, Bind.bind, StateT.bind, get, getThe, MonadStateOf.get, StateT.get, pure,
    Except.bind, Except.pure]
  cases r.rest with
  | nil => exact .inl rfl
  | cons t rest =>
      cases t with
      | escape c => exact .inl rfl
      | dangling => exact .inl rfl
      | char c =>
          cases hc : test c with
          | false => exact .inl (by simp [hc, StateT.pure, Pure.pure, Except.pure])
          | true =>
              exact .inr ⟨c, rest, rfl, hc, by simp only [hc, if_true]; rfl⟩

/-- The characters that are taken stand at the start of what was to be read. -/
theorem takeWhile_cases (limit : Nat) (test : Char → Bool) (r : Reading) :
    takeWhile limit test r = .error .malformed ∨
      ∃ cs rest, takeWhile limit test r = .ok (cs, { r with rest := rest }) ∧
        r.rest = cs.map .char ++ rest ∧ ∀ c ∈ cs, test c = true := by
  induction limit generalizing r with
  | zero => exact .inr ⟨[], r.rest, rfl, rfl, by simp⟩
  | succ limit ih =>
      rcases takeWhile_succ limit test r with hstop | ⟨c, rest, hrest, hc, hgoes⟩
      · exact .inr ⟨[], r.rest, hstop, rfl, by simp⟩
      · rcases goOn_cases rest r with hgo | hgo
        · exact .inl (by rw [hgoes, hgo]; rfl)
        · rw [hgo] at hgoes
          rcases ih { r with rest := rest } with hmore | ⟨cs, rest', hmore, hsplit, hcs⟩
          · exact .inl (by rw [hgoes, Except.bind, hmore]; rfl)
          · refine .inr ⟨c :: cs, rest', by rw [hgoes, Except.bind, hmore]; rfl, ?_, ?_⟩
            · rw [hrest, List.map_cons, List.cons_append, ← hsplit]
            · exact List.forall_mem_cons.mpr ⟨hc, hcs⟩

theorem takeWhile_gives (limit : Nat) (test : Char → Bool) :
    Gives written (takeWhile limit test) fun cs =>
      cs.map .char <:+: written ∧ ∀ c ∈ cs, test c = true := by
  intro r hr
  rcases takeWhile_cases limit test r with h | ⟨cs, rest, h, hsplit, hcs⟩
  · rw [h]
    trivial
  · rw [h]
    refine ⟨⟨hr.suffix ⟨_, hsplit.symm⟩, hr.flags⟩, ?_, hcs⟩
    exact (List.IsPrefix.isInfix ⟨rest, hsplit.symm⟩).trans hr.rest.isInfix

theorem takeUntil_keeps (stop : Char) (fuel : Nat) : Keeps written (takeUntil stop fuel) := by
  induction fuel with
  | zero => exact .fail
  | succ fuel ih =>
      unfold takeUntil
      refine .bind take_gives fun t _ => ?_
      split
      · split
        · exact .pure trivial
        · exact .bind ih fun _ _ => .pure trivial
      · exact .bind ih fun _ _ => .pure trivial

theorem name_keeps (stop : Char) : Keeps written (name stop) := by
  refine .bind .get fun r _ => .bind (takeUntil_keeps stop _) fun cs _ => ?_
  split
  · exact .fail
  · exact .pure trivial

theorem isClosed_keeps (index : Nat) : Keeps written (isClosed index) := by
  refine .bind .get fun r _ => ?_
  split
  · exact .pure trivial
  · exact .pure trivial

theorem checkBehind_keeps (index : Nat) : Keeps written (checkBehind index) := by
  refine .bind .get fun r _ => ?_
  split
  · exact .pure trivial
  · refine .bind (isClosed_keeps index) fun closed _ => ?_
    dsimp only
    split
    · split
      · exact .fail
      · exact .pure trivial
    · exact .bind .fail fun _ => False.elim

end Reader

open Reader

/-! ## Characters and classes -/

theorem hexDigit_lt {c : Char} (h : isHexDigit c = true) :
    (if c.isDigit then c.toNat - 0x30 else (c.toLower.toNat - 0x61) + 10) < 16 := by
  unfold isHexDigit at h
  split
  · next hc =>
      have hbounds : 48 ≤ c.val ∧ c.val ≤ 57 := by simpa [Char.isDigit] using hc
      have hle : c.toNat ≤ 57 := hbounds.2
      omega
  · next hc =>
      have hle : c.toLower ≤ 'f' := by simp_all
      have hbound : c.toLower.toNat ≤ 0x66 := hle
      omega

theorem digitsIn_lt {digits : List Char} (h : ∀ d ∈ digits, isHexDigit d = true) :
    digitsIn 16 digits < 16 ^ digits.length := by
  induction digits using List.reverseRecOn with
  | nil => decide
  | append_singleton digits d ih =>
      obtain ⟨hdigits, hd⟩ := List.forall_mem_append.mp h
      have hlast := hexDigit_lt (hd d List.mem_cons_self)
      have hfront := ih hdigits
      rw [digitsIn, List.foldl_concat, List.length_append, List.length_singleton, Nat.pow_succ]
      rw [digitsIn] at hfront
      omega

/-- Only with eight digits can a number be beyond any encoding. -/
theorem unencodable_of_codeLimit_le {digits : List Char} (hall : ∀ d ∈ digits, isHexDigit d = true)
    (hlength : digits.length ≤ 8) (hsize : codeLimit ≤ digitsIn 16 digits) :
    Unencodable digits := by
  refine ⟨hall, ?_, hsize⟩
  by_contra hne
  have hpow : 16 ^ digits.length ≤ 16 ^ 7 := Nat.pow_le_pow_right (by decide) (by omega)
  exact absurd (hsize.trans_lt (digitsIn_lt hall)) (by rw [codeLimit]; omega)

theorem hexCode_keeps {count : Nat} (hcount : count ≤ 8)
    (hescape : count = 8 → .escape 'U' ∈ written) : Keeps written (hexCode count) := by
  refine .bind (takeWhile_gives count isHexDigit) fun digits ⟨hwritten, hall⟩ => ?_
  split
  · next hlength =>
      have hlength : digits.length = count := by simpa using hlength
      dsimp only
      split
      · exact .pure trivial
      split
      · next hsize =>
          have hbeyond := unencodable_of_codeLimit_le hall (hlength ▸ hcount) hsize
          exact .throw ⟨hescape (hlength ▸ hbeyond.length), digits, hwritten, hbeyond⟩
      · exact .fail
  · exact .fail

theorem namedCode_keeps : Keeps written namedCode := by
  refine .bind (expect_keeps _) fun _ _ => .bind (name_keeps _) fun cs _ => ?_
  split
  · exact .pure trivial
  · exact .fail

/-- The escapes for code points in hexadecimal digits. -/
theorem hexEscape_gives {c : Char} (hc : .escape c ∈ written) {α : Type} {P : α → Prop}
    {ofCode : Nat → α} (hcode : ∀ n, P (ofCode n)) {m : Reader α} (hm : Gives written m P) :
    Gives written (
      if c == 'x' then do return ofCode (← hexCode 2)
      else if c == 'u' then do return ofCode (← hexCode 4)
      else if c == 'U' then do return ofCode (← hexCode 8)
      else m) P := by
  refine .ite (.bind (hexCode_keeps (by decide) nofun) fun n _ => .pure (hcode n)) ?_
  refine .ite (.bind (hexCode_keeps (by decide) nofun) fun n _ => .pure (hcode n)) ?_
  split
  · next h =>
      obtain rfl : c = 'U' := by simpa using h
      exact .bind (hexCode_keeps (by decide) fun _ => hc) fun n _ => .pure (hcode n)
  · exact hm

theorem escapeInClass_keeps (flags : Flags) {c : Char} (hc : .escape c ∈ written) :
    Keeps written (escapeInClass flags c) := by
  unfold escapeInClass
  dsimp only
  split
  · exact .pure trivial
  refine .ite (.pure trivial) ?_
  split
  · exact .pure trivial
  refine hexEscape_gives hc (fun _ => trivial) ?_
  refine .ite (.bind namedCode_keeps fun _ _ => .pure trivial) ?_
  refine .ite (.bind (takeWhile_gives 2 isOctDigit) fun digits _ => ?_) ?_
  · exact .ite (.bind .fail fun _ => False.elim) (.pure trivial)
  · exact .ite (.bind .fail fun _ => False.elim) (.pure trivial)

/-- What the digits of an escape stand for. -/
theorem afterDigits_gives (flags : Flags) (digits third : List Char) :
    Gives written (do
      if third.isEmpty then
        match (← get).groups[digitsIn 10 digits - 1]? with
        | some (some (shortest, longest)) =>
          checkBehind (digitsIn 10 digits)
          return Pattern.again flags.rule (digitsIn 10 digits) shortest longest
        | _ => fail
      else if digitsIn 8 (digits ++ third) > 0o377 then fail
      else return .char (.one flags.rule false (digitsIn 8 (digits ++ third))))
      (Within written) := by
  split
  · refine .bind .get fun r _ => ?_
    split
    · exact .bind (checkBehind_keeps _) fun _ _ => .pure trivial
    · exact .fail
  · split
    · exact .fail
    · exact .pure trivial

theorem digitEscape_gives (flags : Flags) (c : Char) :
    Gives written (digitEscape flags c) (Within written) := by
  refine .bind (takeWhile_gives 1 _) fun more _ => ?_
  dsimp only
  split
  · split
    · exact .bind (takeWhile_gives 1 _) fun third _ => afterDigits_gives flags _ third
    · exact afterDigits_gives flags _ []
  · exact afterDigits_gives flags _ []

theorem escapeOutside_gives (flags : Flags) {c : Char} (hc : .escape c ∈ written) :
    Gives written (escapeOutside flags c) (Within written) := by
  unfold escapeOutside
  dsimp only
  refine .ite (.pure trivial) ?_
  refine .ite (.pure trivial) ?_
  refine .ite (.pure trivial) ?_
  refine .ite (.pure trivial) ?_
  split
  · exact .pure trivial
  split
  · exact .pure trivial
  refine hexEscape_gives hc (fun _ => trivial) ?_
  refine .ite (.bind namedCode_keeps fun _ _ => .pure trivial) ?_
  refine .ite (.bind (takeWhile_gives 2 isOctDigit) fun _ _ => .pure trivial) ?_
  exact .ite (digitEscape_gives flags c) (.ite .fail (.pure trivial))

theorem classItem_keeps (flags : Flags) {t : Token} (ht : t ∈ written) :
    Keeps written (classItem flags t) := by
  cases t with
  | char c => exact .pure trivial
  | escape c => exact escapeInClass_keeps flags ht
  | dangling => exact .fail

theorem classItems_keeps (flags : Flags) (fuel : Nat) (items : List ClassItem) :
    Keeps written (classItems flags fuel items) := by
  induction fuel generalizing items with
  | zero => exact .fail
  | succ fuel ih =>
      unfold classItems
      refine .bind take_gives fun this hthis => ?_
      split
      · exact .pure trivial
      refine .bind (classItem_keeps flags hthis) fun item _ => ?_
      refine .bind (accept_gives '-') fun found _ => ?_
      split
      · refine .bind take_gives fun that hthat => ?_
        split
        · exact .pure trivial
        refine .bind (classItem_keeps flags hthat) fun last _ => ?_
        split
        · split
          · exact .fail
          · exact ih _
        · exact .fail
      · exact ih _

theorem bracketClass_gives (flags : Flags) :
    Gives written (bracketClass flags) (Within written) := by
  refine .bind (accept_gives '^') fun negated _ => .bind .get fun r _ => ?_
  refine .bind (classItems_keeps flags _ []) fun items _ => ?_
  split
  · exact .pure trivial
  · exact .pure trivial

/-! ## Counts and flags -/

theorem count_keeps {digits : List Char} (hdigits : digits.map .char <:+: written)
    (hall : ∀ d ∈ digits, d.isDigit = true) : Keeps written (count digits) := by
  unfold count
  dsimp only
  split
  · next hlong =>
      exact .bind (.throw ⟨digits, hdigits, hall, .inr hlong⟩) fun _ => False.elim
  · split
    · next hlarge =>
        exact .bind (.throw ⟨digits, hdigits, hall, .inl hlarge⟩) fun _ => False.elim
    · exact .pure trivial

/-- The counts after their digits are read: `here` is where they started. -/
theorem afterCounts_keeps {here : List Token} {low high : List Char} (hhere : here <:+ written)
    (hlow : low.map .char <:+: written ∧ ∀ d ∈ low, d.isDigit = true)
    (hhigh : high.map .char <:+: written ∧ ∀ d ∈ high, d.isDigit = true) :
    Keeps written (do
      unless ← accept '\x7d' do
        goOn here
        return none
      let least ← count low
      if high.isEmpty then return some (least, none)
      let most ← count high
      if most < least then fail
      return some (least, some most) : Reader (Option (Nat × Option Nat))) := by
  refine .bind (accept_gives _) fun closed _ => ?_
  split
  · refine .bind (count_keeps hlow.1 hlow.2) fun least _ => ?_
    split
    · exact .pure trivial
    · refine .bind (count_keeps hhigh.1 hhigh.2) fun most _ => ?_
      dsimp only
      split
      · exact .bind .fail fun _ => False.elim
      · exact .pure trivial
  · exact .bind (goOn_keeps hhere) fun _ _ => .pure trivial

theorem counts?_keeps : Keeps written counts? := by
  refine .bind .get fun r hr => .bind peek?_keeps fun next _ => ?_
  split
  · exact .pure trivial
  refine .bind (takeWhile_gives _ Char.isDigit) fun low hlow => ?_
  refine .bind (accept_gives ',') fun comma _ => ?_
  dsimp only
  split
  · exact .bind (takeWhile_gives _ _) fun high hhigh => afterCounts_keeps hr.rest hlow hhigh
  · exact afterCounts_keeps hr.rest hlow hlow

theorem flagLetters_gives {c : Char} {flags : Flags} (fuel : Nat) (stops : List Char)
    (hc : .char c ∈ written) (hflags : flags.Within written) :
    Gives written (flagLetters fuel c flags stops) fun found => found.1.Within written := by
  induction fuel generalizing c flags with
  | zero => exact .fail
  | succ fuel ih =>
      unfold flagLetters
      cases hflag : Flags.ofLetter? c with
      | none => exact .fail
      | some flag =>
          have hunion := hflags.union (Flags.within_ofLetter? hflag hc)
          dsimp only
          split
          · exact .bind .fail fun _ => False.elim
          refine .bind take_gives fun t ht => ?_
          split
          · split
            · exact .pure hunion
            · exact ih ht hunion
          · exact .fail

/-- Flags that are added to the whole expression are written. -/
def FlagScope.Within (written : List Token) : FlagScope → Prop
  | .whole added => added.Within written
  | .inside _ _ => True

theorem afterFlags_gives {added : Flags} (fuel : Nat) (stop : Char)
    (hadded : added.Within written) : Gives written (do
      if stop == ')' then return FlagScope.whole added
      if added.template then fail
      if stop == ':' then return .inside added {}
      match ← take with
      | .char d =>
        let (dropped, _) ← flagLetters fuel d {} [':']
        if dropped.latinOnly || dropped.allScripts || dropped.template then fail
        if added.disjoint dropped then return .inside added dropped else fail
      | _ => fail) (FlagScope.Within written) := by
  split
  · exact .pure hadded
  dsimp only
  split
  · exact .bind .fail fun _ => False.elim
  split
  · exact .pure trivial
  refine .bind take_gives fun t ht => ?_
  split
  · refine .bind (flagLetters_gives fuel _ ht .none) fun found _ => ?_
    split
    · exact .bind .fail fun _ => False.elim
    split
    · exact .pure trivial
    · exact .fail
  · exact .fail

theorem groupFlags_gives {c : Char} (hc : .char c ∈ written) :
    Gives written (groupFlags c) (FlagScope.Within written) := by
  refine .bind .get fun r _ => ?_
  dsimp only
  split
  · exact afterFlags_gives _ '-' .none
  · exact .bind (flagLetters_gives _ _ hc .none) fun found hfound =>
      afterFlags_gives _ found.2 hfound

/-! ## Groups -/

/-- The patterns of the items have nothing that is not written. -/
def ItemsWithin (written : List Token) (items : List (ItemShape × Pattern)) : Prop :=
  ∀ item ∈ items, item.2.Within written

theorem ItemsWithin.cons {items : List (ItemShape × Pattern)} (h : ItemsWithin written items)
    {p : Pattern} (hp : p.Within written) (shape : ItemShape) :
    ItemsWithin written ((shape, p) :: items) := List.forall_mem_cons.mpr ⟨hp, h⟩

theorem ItemsWithin.ofItems {items : List (ItemShape × Pattern)} (h : ItemsWithin written items) :
    (ofItems items).Within written := by
  fun_induction Pattern.ofItems items with
  | case1 => trivial
  | case2 shape p => exact h _ List.mem_cons_self
  | case3 shape p items _ ih =>
      obtain ⟨hp, hitems⟩ := List.forall_mem_cons.mp h
      exact ⟨hp, ih hitems⟩

theorem repeatLatest_gives (least : Nat) (most : Option Nat) {items : List (ItemShape × Pattern)}
    (h : ItemsWithin written items) :
    Gives written (repeatLatest least most items) (ItemsWithin written) := by
  unfold repeatLatest
  split
  · next p items =>
      obtain ⟨hp, hitems⟩ := List.forall_mem_cons.mp h
      have hrepeated : ∀ style, (style = .possessive → .char '+' ∈ written) →
          ItemsWithin written ((.repetition, .times style least most p) :: items) :=
        fun style hplus => ItemsWithin.cons hitems
          (show Within written (.times style least most p) from ⟨hplus, hp⟩) _
      refine .bind (accept_gives '?') fun lazily _ => ?_
      split
      · exact .pure (hrepeated _ nofun)
      refine .bind (accept_gives '+') fun possessively hplus => ?_
      split
      · next hpossessive => exact .pure (hrepeated _ fun _ => hplus hpossessive)
      · exact .pure (hrepeated _ nofun)
  · exact .fail

theorem askedGroup_keeps : Keeps written askedGroup := by
  refine .bind (name_keeps ')') fun cs _ => ?_
  split
  · refine .bind .get fun r _ => ?_
    split
    · exact .pure trivial
    · exact .fail
  · split
    · dsimp only
      split
      · exact .bind .fail fun _ => False.elim
      · exact .bind (.modify fun r hr => ⟨hr.rest, hr.flags⟩) fun _ _ => .pure trivial
    · exact .fail

theorem openGroup_keeps (groupName : Option (List Char)) : Keeps written (openGroup groupName) := by
  refine .bind .get fun r hr => ?_
  have hopen : ∀ names index, Keeps written (do
      set { r with groups := r.groups ++ [none], names := names }
      return index : Reader Nat) := fun names index =>
    .bind (.set ⟨hr.rest, hr.flags⟩) fun _ _ => .pure trivial
  dsimp only
  split
  · exact hopen _ _
  · split
    · exact .bind .fail fun _ => False.elim
    · exact hopen _ _

theorem closeGroup_keeps (index : Nat) (p : Pattern) : Keeps written (closeGroup index p) :=
  .modify fun _ hr => ⟨hr.rest, hr.flags⟩

theorem skipLine_keeps (fuel : Nat) : Keeps written (skipLine fuel) := by
  induction fuel with
  | zero => exact .pure trivial
  | succ fuel ih =>
      refine .bind take?_gives fun t? _ => ?_
      split
      · exact .pure trivial
      · split
        · exact .pure trivial
        · exact ih

theorem skipComment_keeps (fuel : Nat) : Keeps written (skipComment fuel) := by
  induction fuel with
  | zero => exact .fail
  | succ fuel ih =>
      refine .bind take_gives fun t _ => ?_
      split
      · exact .pure trivial
      · exact ih

/-! ## Whole expressions -/

/-- With the given fuel, every part of an expression is read so. An extension stands after an opening
parenthesis and a question mark. -/
structure Kept (written : List Token) (fuel : Nat) : Prop where
  alternatives : ∀ flags outermost first,
    Gives written (alternatives fuel flags outermost first) (Within written)
  sequence : ∀ flags outermost first items, ItemsWithin written items →
    Gives written (sequence fuel flags outermost first items) (Within written)
  extension : ∀ flags d, .char '(' ∈ written → .char '?' ∈ written →
    Gives written (extension fuel flags d) (Within written)

namespace Kept

variable {fuel : Nat} {α : Type} {P : α → Prop}

theorem zero : Kept written 0 where
  alternatives flags outermost first := by
    rw [Pattern.alternatives]
    exact .fail
  sequence flags outermost first items _ := by
    rw [Pattern.sequence]
    exact .fail
  extension flags d _ _ := by
    rw [Pattern.extension]
    exact .fail

/-- A group around alternatives. -/
theorem enclosed (ih : Kept written fuel) {flags : Flags} {next : Pattern → Reader α}
    (hnext : ∀ p, p.Within written → Gives written (next p) P) :
    Gives written (do
      let p ← Pattern.alternatives fuel flags false false
      expect ')'
      next p) P :=
  .bind (ih.alternatives _ _ _) fun p hp => .bind (expect_keeps ')') fun _ _ => hnext p hp

/-- A numbered group around alternatives. -/
theorem numbered (ih : Kept written fuel) {flags : Flags} {groupName : Option (List Char)}
    {next : Nat → Pattern → Reader α}
    (hnext : ∀ index p, p.Within written → Gives written (next index p) P) :
    Gives written (do
      let index ← openGroup groupName
      let p ← Pattern.alternatives fuel flags false false
      expect ')'
      closeGroup index p
      next index p) P :=
  .bind (openGroup_keeps groupName) fun index _ => ih.enclosed fun p hp =>
    .bind (closeGroup_keeps index p) fun _ _ => hnext index p hp

theorem alternatives_succ (ih : Kept written fuel) (flags : Flags) (outermost first : Bool) :
    Gives written (Pattern.alternatives (fuel + 1) flags outermost first) (Within written) := by
  rw [Pattern.alternatives]
  refine .bind (ih.sequence _ _ _ _ nofun) fun p hp => .bind (accept_gives '|') fun more _ => ?_
  split
  · exact .bind .get fun r _ => .bind (ih.alternatives _ _ _) fun q hq => .pure ⟨hp, hq⟩
  · exact .pure hp

theorem sequence_succ (ih : Kept written fuel) (flags : Flags) (outermost first : Bool)
    {items : List (ItemShape × Pattern)} (hitems : ItemsWithin written items) :
    Gives written (Pattern.sequence (fuel + 1) flags outermost first items) (Within written) := by
  have hmore : ∀ flags, Gives written
      (Pattern.sequence fuel flags outermost first items) (Within written) :=
    fun flags => ih.sequence flags outermost first items hitems
  have hitem : ∀ flags shape p, p.Within written → Gives written
      (Pattern.sequence fuel flags outermost first ((shape, p) :: items)) (Within written) :=
    fun flags shape p hp => ih.sequence flags outermost first _ (hitems.cons hp shape)
  have hrepeat : ∀ least most, Gives written (do
      Pattern.sequence fuel flags outermost first (← repeatLatest least most items))
      (Within written) :=
    fun least most => .bind (repeatLatest_gives _ _ hitems) fun _ h => ih.sequence _ _ _ _ h
  rw [Pattern.sequence]
  refine .bind peek?_keeps fun next? _ => ?_
  refine .ite (.pure (ItemsWithin.ofItems fun item h => hitems item (List.mem_reverse.mp h)))
    (.bind take_gives fun t ht => ?_)
  cases t with
  | escape c => exact .bind (escapeOutside_gives _ ht) fun p hp => hitem _ _ _ hp
  | dangling => exact .fail
  | char c =>
      dsimp only
      refine .ite (hmore _) ?_
      refine .ite (.bind .get fun r _ => .bind (skipLine_keeps _) fun _ _ => hmore _) ?_
      refine .ite (.bind (bracketClass_gives _) fun p hp => hitem _ _ _ hp) ?_
      refine .ite (hrepeat _ _) (.ite (hrepeat _ _) (.ite (hrepeat _ _) ?_))
      refine .ite (.bind counts?_keeps fun counts _ => ?_) ?_
      · cases counts with
        | none => exact hitem _ _ _ trivial
        | some found => exact hrepeat _ _
      refine .ite (hitem _ _ _ trivial) (.ite (hitem _ _ _ trivial) (.ite (hitem _ _ _ trivial) ?_))
      split
      · next hc =>
          obtain rfl : c = '(' := by simpa using hc
          refine .bind (accept_gives '?') fun extended hextended => ?_
          split
          · next hquestion =>
              refine .bind take_gives fun d hd => ?_
              cases d with
              | escape d => exact .fail
              | dangling => exact .fail
              | char d =>
                  refine .ite
                    (.bind .get fun r _ => .bind (skipComment_keeps _) fun _ _ => hmore _) ?_
                  refine .ite (.bind (groupFlags_gives hd) fun scope hscope => ?_)
                    (.bind (ih.extension _ _ ht (hextended hquestion)) fun p hp => hitem _ _ _ hp)
                  cases scope with
                  | whole added =>
                      refine .ite ?_ (.bind .fail fun _ => False.elim)
                      exact .bind (.modify fun r hr => ⟨hr.rest, hr.flags.union hscope⟩)
                        fun _ _ => hmore _
                  | inside added dropped => exact ih.enclosed fun p hp => hitem _ _ _ hp
          · exact ih.numbered fun index p hp => hitem _ _ _ ⟨ht, hp⟩
      · exact hitem _ _ _ trivial

/-- A look-behind, after its sign. -/
theorem behind_gives (ih : Kept written fuel) {flags : Flags} {negated : Bool} :
    Gives written (do
      let outer := (← get).behindFrom
      modify fun r => { r with behindFrom := some (outer.getD (r.groups.length + 1)) }
      let p ← Pattern.alternatives fuel flags false false
      modify fun r => { r with behindFrom := outer }
      expect ')'
      return Pattern.behind negated p) (Within written) := by
  refine .bind .get fun r _ => .bind (.modify fun r hr => ⟨hr.rest, hr.flags⟩) fun _ _ => ?_
  refine .bind (ih.alternatives _ _ _) fun p hp => ?_
  refine .bind (.modify fun r hr => ⟨hr.rest, hr.flags⟩) fun _ _ => ?_
  exact .bind (expect_keeps _) fun _ _ => .pure hp

section Extension

variable (ih : Kept written fuel) (hopen : .char '(' ∈ written) (hquestion : .char '?' ∈ written)

include ih hopen hquestion

/-- What depends on a group, after the group is named. -/
theorem given_gives {flags : Flags} (index : Nat) :
    Gives written (do
      let yes ← Pattern.sequence fuel flags false false []
      let no ←
        if ← accept '|' then
          let no ← Pattern.sequence fuel flags false false []
          if (← peek?) == some (.char '|') then fail
          pure no
        else pure .empty
      expect ')'
      return Pattern.given index yes no) (Within written) := by
  have hclose : ∀ yes no : Pattern, yes.Within written → no.Within written → Gives written (do
      expect ')'
      return Pattern.given index yes no) (Within written) := fun yes no hyes hno =>
    .bind (expect_keeps ')') fun _ _ => .pure ⟨⟨hopen, hquestion⟩, hyes, hno⟩
  refine .bind (ih.sequence _ _ _ _ nofun) fun yes hyes =>
    .bind (accept_gives '|') fun more _ => ?_
  refine .ite (.bind (ih.sequence _ _ _ _ nofun) fun no hno => .bind peek?_keeps fun next? _ => ?_)
    (hclose yes _ hyes trivial)
  exact .ite (.bind .fail fun _ => False.elim) (hclose yes no hyes hno)

theorem extension_succ (flags : Flags) (d : Char) :
    Gives written (Pattern.extension (fuel + 1) flags d) (Within written) := by
  rw [Pattern.extension]
  refine .ite (ih.enclosed fun p hp => .pure hp) ?_
  refine .ite (ih.enclosed fun p hp => .pure hp) ?_
  refine .ite (ih.enclosed fun p hp => .pure hp) ?_
  refine .ite (.bind take_gives fun sign _ =>
    .ite ih.behind_gives (.bind .fail fun _ => False.elim)) ?_
  refine .ite (.bind askedGroup_keeps fun index _ =>
    .bind (checkBehind_keeps _) fun _ _ => ih.given_gives hopen hquestion index) ?_
  refine .ite (.bind (accept_gives '<') fun named _ => .ite ?_ ?_) .fail
  · refine .bind (name_keeps _) fun cs _ => .ite ?_ (.bind .fail fun _ => False.elim)
    exact ih.numbered fun index p hp => .pure ⟨hopen, hp⟩
  · refine .bind (accept_gives '=') fun again _ => .ite ?_ .fail
    refine .bind (name_keeps _) fun cs _ => .ite ?_ (.bind .fail fun _ => False.elim)
    refine .bind .get fun r _ => ?_
    split
    · exact .fail
    · refine .bind .get fun r' _ => ?_
      split
      · exact .bind (checkBehind_keeps _) fun _ _ => .pure trivial
      · exact .fail

end Extension

end Kept

theorem kept (written : List Token) (fuel : Nat) : Kept written fuel := by
  induction fuel with
  | zero => exact .zero
  | succ fuel ih =>
      exact ⟨ih.alternatives_succ, fun _ _ _ _ => ih.sequence_succ _ _ _,
        fun _ _ hopen hquestion => ih.extension_succ hopen hquestion _ _⟩

/-- The reader of a whole expression, from its start. -/
theorem whole_gives (written : List Token) :
    Gives written (do
      goOn written
      alternatives (3 * written.length + 3) {} true true) (Within written) :=
  .bind (goOn_keeps List.suffix_rfl) fun _ _ => (kept written _).alternatives _ _ _

namespace Settles

variable {α β : Type} {P : α → Prop} {Q : β → Prop}

theorem bind {x : Except ReadError α} {next : α → Except ReadError β} (hx : Settles written P x)
    (hnext : ∀ a, P a → Settles written Q (next a)) : Settles written Q (x >>= next) := by
  cases x with
  | error e => exact hx
  | ok a => exact hnext a hx

theorem guard {c : Prop} [Decidable c] {e : ReadError} {next : PUnit → Except ReadError α}
    (h : c → Accounts written e) (hnext : Settles written P (next ⟨⟩)) :
    Settles written P (if c then MonadExcept.throw e >>= next else next ⟨⟩) := by
  split
  · next hc => exact h hc
  · exact hnext

theorem require {c : Prop} [Decidable c] {e : ReadError} {next : PUnit → Except ReadError α}
    (h : Accounts written e) (hnext : Settles written P (next ⟨⟩)) :
    Settles written P (if c then next ⟨⟩ else MonadExcept.throw e >>= next) := by
  split
  · exact hnext
  · exact h

end Settles

/-- What is written accounts for the pattern that is read, or for the fault. -/
theorem readTokens_settles (written : List Token) :
    Settles written (Within written) (readTokens written) := by
  refine .bind (whole_gives written { rest := written } ⟨List.suffix_rfl, .none⟩) ?_
  rintro ⟨p, r⟩ ⟨hr, hp⟩
  have hflags := hr.flags
  dsimp only
  refine .guard (fun hboth => ?_) ?_
  · rw [Bool.and_eq_true] at hboth
    exact ⟨hflags.latinOnly hboth.1, hflags.allScripts hboth.2⟩
  exact .require trivial (.guard (fun _ => trivial) (.guard (fun _ => trivial) (.require trivial hp)))

/-! ## Texts -/

theorem Token.flatMap_chars_ofChars (cs : List Char) :
    (Token.ofChars cs).flatMap Token.chars = cs := by
  fun_induction Token.ofChars cs with
  | case1 => rfl
  | case2 => rfl
  | case3 c rest ih => simp [Token.chars, ih]
  | case4 c rest hne hne' ih => simp [Token.chars, ih]

/-- Pieces in a row are characters in a row. -/
theorem infix_of_written {pieces : List Token} {cs : List Char}
    (h : pieces <:+: Token.ofChars cs) : pieces.flatMap Token.chars <:+: cs := by
  obtain ⟨before, after, heq⟩ := h
  refine ⟨before.flatMap Token.chars, after.flatMap Token.chars, ?_⟩
  rw [← List.flatMap_append, ← List.flatMap_append, heq, Token.flatMap_chars_ofChars]

theorem Token.flatMap_chars_map (cs : List Char) :
    (cs.map Token.char).flatMap Token.chars = cs := by
  simp [List.flatMap_map, Token.chars]

theorem infix_of_digits {digits cs : List Char} (h : digits.map .char <:+: Token.ofChars cs) :
    digits <:+: cs :=
  Token.flatMap_chars_map digits ▸ infix_of_written h

theorem infix_of_mem {t : Token} {cs : List Char} (h : t ∈ Token.ofChars cs) : t.chars <:+: cs := by
  obtain ⟨before, after, heq⟩ := List.append_of_mem h
  have hpieces : [t] <:+: Token.ofChars cs := ⟨before, after, by simp [heq]⟩
  simpa using infix_of_written hpieces

theorem mem_of_written {c : Char} {cs : List Char} (h : .char c ∈ Token.ofChars cs) : c ∈ cs :=
  (infix_of_mem h).subset List.mem_cons_self

theorem read_settles (expression : String) :
    Settles (Token.ofChars expression.toList) (Within (Token.ofChars expression.toList))
      (read expression) := readTokens_settles _

/-! ### Faults -/

/-- Reading the expression fails for another reason than bad form. -/
def Stumbles (expression : String) : Prop :=
  ∃ e, read expression = .error e ∧ e ≠ .malformed

instance (expression : String) : Decidable (Stumbles expression) :=
  match h : read expression with
  | .ok p => isFalse (by rintro ⟨e, he, -⟩; simp [h] at he)
  | .error e =>
    if hne : e = .malformed then isFalse (by rintro ⟨e', he', hne'⟩; simp_all)
    else isTrue ⟨e, h, hne⟩

/-- What reading stumbles over: digits in a row that stand for no repetition count, an escape for a
code point beyond any encoding, or the flags of all scripts and of basic Latin alone. -/
def Treacherous (cs : List Char) : Prop :=
  (∃ digits, digits <:+: cs ∧ Oversized digits) ∨
    (['\\', 'U'] <:+: cs ∧ ∃ digits, digits <:+: cs ∧ Unencodable digits) ∨ 'a' ∈ cs ∧ 'u' ∈ cs

theorem Stumbles.treacherous {expression : String} (h : Stumbles expression) :
    Treacherous expression.toList := by
  obtain ⟨e, he, hne⟩ := h
  have haccounts := read_settles expression
  rw [he] at haccounts
  cases e with
  | malformed => exact (hne rfl).elim
  | repetitionTooLarge =>
      obtain ⟨digits, hdigits, hsize⟩ := haccounts
      exact .inl ⟨digits, infix_of_digits hdigits, hsize⟩
  | numeralLength n =>
      obtain ⟨digits, hdigits, hsize⟩ := haccounts
      exact .inl ⟨digits, infix_of_digits hdigits, hsize⟩
  | codeTooLarge =>
      obtain ⟨hescape, digits, hdigits, hsize⟩ := haccounts
      exact .inr (.inl ⟨infix_of_mem hescape, digits, infix_of_digits hdigits, hsize⟩)
  | clashingFlags => exact .inr (.inr ⟨mem_of_written haccounts.1, mem_of_written haccounts.2⟩)

example : Stumbles "(?a)(?u)" := by decide +kernel

example : ¬Stumbles "([unclosed" := by decide +kernel

/-! ### Patterns for which the matcher does not stand -/

/-- The expression is well formed, but what failed tries leave behind may make a difference to its
pattern, and the matcher does not stand for it. -/
def Wavers (expression : String) : Prop := ∃ p, read expression = .ok p ∧ p.steady = false

instance (expression : String) : Decidable (Wavers expression) :=
  match h : read expression with
  | .ok p => decidable_of_iff (p.steady = false) (by simp [Wavers, h])
  | .error e => isFalse (by simp [Wavers, h])

/-- The sign of a group is there, and that of a possessive repetition or of a condition. -/
def Intricate (cs : List Char) : Prop := '(' ∈ cs ∧ ('+' ∈ cs ∨ '?' ∈ cs)

theorem Within.open_of_hasGroup {p : Pattern} (h : p.Within written) (hgroup : p.hasGroup = true) :
    .char '(' ∈ written := by
  induction p with
  | seq p q ihp ihq =>
      rcases (Bool.or_eq_true _ _).mp hgroup with hp | hq
      · exact ihp h.1 hp
      · exact ihq h.2 hq
  | alt p q ihp ihq =>
      rcases (Bool.or_eq_true _ _).mp hgroup with hp | hq
      · exact ihp h.1 hp
      · exact ihq h.2 hq
  | given index p q _ _ => exact h.1.1
  | group index p _ => exact h.1
  | times style least most p ih => exact ih h.2 hgroup
  | ahead negated p ih => exact ih h hgroup
  | behind negated p ih => exact ih h hgroup
  | atomic p ih => exact ih h hgroup
  | _ => cases hgroup

theorem Within.of_not_steady {p : Pattern} {groups : List Nat} (h : p.Within written)
    (hsteady : p.steadyWithin groups = false) :
    .char '(' ∈ written ∧ (.char '+' ∈ written ∨ .char '?' ∈ written) := by
  induction p generalizing groups with
  | seq p q ihp ihq =>
      rcases (Bool.and_eq_false_iff).mp hsteady with hp | hq
      · exact ihp h.1 hp
      · exact ihq h.2 hq
  | alt p q ihp ihq =>
      rcases (Bool.and_eq_false_iff).mp hsteady with hp | hq
      · exact ihp h.1 hp
      · exact ihq h.2 hq
  | times style least most p ih =>
      rcases (Bool.and_eq_false_iff).mp hsteady with hpossessive | hp
      · obtain ⟨rfl, hgroup⟩ : style = .possessive ∧ p.hasGroup = true := by
          simpa using hpossessive
        exact ⟨h.2.open_of_hasGroup hgroup, .inl (h.1 rfl)⟩
      · exact ih h.2 hp
  | group index p ih => exact ih h.2 hsteady
  | given index p q _ _ => exact ⟨h.1.1, .inr h.1.2⟩
  | ahead negated p ih => exact ih h hsteady
  | behind negated p ih => exact ih h hsteady
  | atomic p ih => exact ih h hsteady
  | _ => cases hsteady

theorem Wavers.intricate {expression : String} (h : Wavers expression) :
    Intricate expression.toList := by
  obtain ⟨p, hp, hsteady⟩ := h
  have hwithin := read_settles expression
  rw [hp] at hwithin
  obtain ⟨hopen, hsign⟩ := Within.of_not_steady hwithin hsteady
  exact ⟨mem_of_written hopen, hsign.imp mem_of_written mem_of_written⟩

example : Wavers "(?:(@)|.)++$" := by decide +kernel

example : ¬Wavers "(?:(@)|.)+$" := by decide +kernel

end TrustWeb.Pattern
