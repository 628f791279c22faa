import Mathlib.Data.List.TakeWhile
import TrustWeb.Description.Grammar

/-! # Written tokens

Text is written token by token, with blanks and comments between them. At any place in a
description, a written token that may follow there is the one that is found, whatever comes after
the gap behind it. -/

namespace TrustWeb.Description

/-! ## Gaps -/

/-- Blanks and comments; a comment ends with its line. -/
inductive Gap : List Char → Prop where
  | nil : Gap []
  | blank {c : Char} {gap : List Char} (hc : isSpace c = true) (h : Gap gap) : Gap (c :: gap)
  | comment {words gap : List Char} (hwords : '\n' ∉ words) (h : Gap gap) :
      Gap ('-' :: '-' :: (words ++ '\n' :: gap))

/-- Text that starts with a gap, if it is not empty. -/
def Stops (rest : List Char) : Prop := ∀ c ∈ rest.head?, isSpace c = true ∨ c = '-'

variable {c : Char} {k : Keyword} {cs found gap rest text : List Char} {t : Token}
  {ts : List Token} {allowed : List Terminal} {test : Char → Bool}

theorem Gap.stops (h : Gap gap) (hsep : rest = [] ∨ gap ≠ []) : Stops (gap ++ rest) := by
  cases h with
  | nil =>
      obtain rfl : rest = [] := by simpa using hsep
      nofun
  | blank hc h =>
      intro c' hc'
      obtain rfl : _ = c' := by simpa using hc'
      exact .inl hc
  | comment hwords h =>
      intro c' hc'
      exact .inr (by simpa using hc'.symm)

/-- A comment is skipped to the end of its line. -/
theorem skip_comment {words : List Char} (hwords : '\n' ∉ words) (rest : List Char)
    (position : Position) :
    ∃ position', skip true position (words ++ '\n' :: rest) = skip false position' rest := by
  induction words generalizing position with
  | nil => exact ⟨position.after '\n', by simp [skip]⟩
  | cons c words ih =>
      rw [List.mem_cons, not_or] at hwords
      obtain ⟨position', hskip⟩ := ih hwords.2 (position.after c)
      refine ⟨position', ?_⟩
      rw [← hskip, List.cons_append, skip, if_pos rfl, bne_iff_ne.mpr (Ne.symm hwords.1)]

/-- A gap is skipped. -/
theorem Gap.skip_append (h : Gap gap) (rest : List Char) (position : Position) :
    ∃ position', skip false position (gap ++ rest) = skip false position' rest := by
  induction h generalizing position with
  | nil => exact ⟨position, rfl⟩
  | @blank c gap hc h ih =>
      obtain ⟨position', hskip⟩ := ih (position.after c)
      refine ⟨position', ?_⟩
      rw [← hskip, List.cons_append, skip, if_neg (by simp), if_pos hc]
  | @comment words gap hwords h ih =>
      obtain ⟨inner, hinner⟩ :=
        skip_comment hwords (gap ++ rest) ((position.after '-').after '-')
      obtain ⟨position', hskip⟩ := ih inner
      refine ⟨position', ?_⟩
      rw [← hskip, ← hinner]
      simp [skip, isSpace]

/-! ## Dates -/

/-- So many digits. -/
structure DigitsOf (n : Nat) (ds : List Char) : Prop where
  length : ds.length = n
  isDigit : ∀ c ∈ ds, c.isDigit = true

/-- Year, month and day. -/
inductive IsDay : List Char → Prop where
  | mk {year month day : List Char} (hyear : DigitsOf 4 year) (hmonth : DigitsOf 2 month)
      (hday : DigitsOf 2 day) : IsDay (year ++ '-' :: month ++ '-' :: day)

/-- A day, and maybe a time of it in hours and minutes, or in hours, minutes and seconds. -/
inductive IsDate : List Char → Prop where
  | day {day : List Char} (h : IsDay day) : IsDate day
  | minute {day hour minute : List Char} (h : IsDay day) (hhour : DigitsOf 2 hour)
      (hminute : DigitsOf 2 minute) : IsDate (day ++ 'T' :: hour ++ ':' :: minute)
  | second {day hour minute second : List Char} (h : IsDay day) (hhour : DigitsOf 2 hour)
      (hminute : DigitsOf 2 minute) (hsecond : DigitsOf 2 second) :
      IsDate (day ++ 'T' :: hour ++ ':' :: minute ++ ':' :: second)

theorem isDigit_of_ascii (h : c.isDigit = true) : Text.isDigit c = true := by
  obtain ⟨hlow, hhigh⟩ : 48 ≤ c.toNat ∧ c.toNat ≤ 57 := Char.isDigit_iff_toNat.mp h
  rw [Text.isDigit, Text.digitRuns, Text.inRuns, if_neg (by omega), if_pos (by omega)]

theorem DigitsOf.digits?_append {n : Nat} (h : DigitsOf n cs) :
    digits? n (cs ++ rest) = some (cs, rest) := by
  have htake : (cs ++ rest).take n = cs := by rw [← h.length, List.take_left]
  have hdrop : (cs ++ rest).drop n = rest := by rw [← h.length, List.drop_left]
  have hall : cs.all Text.isDigit = true :=
    List.all_eq_true.mpr fun c hc => isDigit_of_ascii (h.isDigit c hc)
  simp only [digits?, htake, hdrop, h.length, hall, beq_self_eq_true, Bool.and_self, if_true]

theorem DigitsOf.field?_append {separator : Char} (h : DigitsOf 2 cs) :
    field? separator (separator :: (cs ++ rest)) = some (separator :: cs, rest) := by
  simp [field?, h.digits?_append]

theorem Stops.field?_eq_none (h : Stops rest) {separator : Char}
    (hspace : isSpace separator = false) (hdash : separator ≠ '-') :
    field? separator rest = none := by
  cases rest with
  | nil => rfl
  | cons c rest =>
      have hne : c ≠ separator := by
        rintro rfl
        rcases h c rfl with hc | hc
        · rw [hspace] at hc
          cases hc
        · exact hdash hc
      simp [field?, hne]

theorem IsDate.date?_append (h : IsDate cs) (hrest : Stops rest) :
    date? (cs ++ rest) = some (cs, rest) := by
  have hnoT : field? 'T' rest = none := hrest.field?_eq_none (by decide) (by decide)
  have hnoColon : field? ':' rest = none := hrest.field?_eq_none (by decide) (by decide)
  cases h with
  | day h =>
      obtain ⟨hyear, hmonth, hday⟩ := h
      simp [date?, hyear.digits?_append, hmonth.field?_append, hday.field?_append, hnoT]
  | minute h hhour hminute =>
      obtain ⟨hyear, hmonth, hday⟩ := h
      simp [date?, hyear.digits?_append, hmonth.field?_append, hday.field?_append,
        hhour.field?_append, hminute.field?_append, hnoColon]
  | second h hhour hminute hsecond =>
      obtain ⟨hyear, hmonth, hday⟩ := h
      simp [date?, hyear.digits?_append, hmonth.field?_append, hday.field?_append,
        hhour.field?_append, hminute.field?_append, hsecond.field?_append]

theorem IsDay.exists_cons (h : IsDay cs) : ∃ d ds, cs = d :: ds ∧ d.isDigit = true := by
  obtain ⟨hyear, -, -⟩ := h
  obtain ⟨d, ds, rfl⟩ := List.exists_cons_of_length_eq_add_one hyear.length
  exact ⟨d, _, rfl, hyear.isDigit d List.mem_cons_self⟩

theorem IsDate.exists_cons (h : IsDate cs) : ∃ d ds, cs = d :: ds ∧ d.isDigit = true := by
  cases h with
  | day h => exact h.exists_cons
  | minute h _ _ =>
      obtain ⟨d, ds, rfl, hd⟩ := h.exists_cons
      exact ⟨d, _, rfl, hd⟩
  | second h _ _ _ =>
      obtain ⟨d, ds, rfl, hd⟩ := h.exists_cons
      exact ⟨d, _, rfl, hd⟩

/-! ## The text of a token -/

/-- A token and its text. -/
inductive Writes : Token → List Char → Prop where
  | keyword (k : Keyword) : Writes ⟨.keyword k, k.text⟩ k.text
  | name {name : List Char} (hne : name ≠ []) (hchars : ∀ c ∈ name, isNameChar c = true)
      (hword : ∀ k : Keyword, name ≠ k.text) : Writes ⟨.name, name⟩ name
  | number {digits : List Char} (hne : digits ≠ []) (hdigits : ∀ c ∈ digits, c.isDigit = true) :
      Writes ⟨.number, digits⟩ digits
  | string {content : List Char} (h : '\x22' ∉ content) :
      Writes ⟨.string, content⟩ ('\x22' :: (content ++ ['\x22']))
  | date {date : List Char} (h : IsDate date) : Writes ⟨.date, date⟩ date

theorem isNameChar_of_isDigit (h : c.isDigit = true) : isNameChar c = true := by
  simp [isNameChar, Char.isAlphanum, h]

theorem isDigit_eq_false (h : isNameChar c = false) : c.isDigit = false := by
  rw [Bool.eq_false_iff]
  intro hdigit
  rw [isNameChar_of_isDigit hdigit] at h
  cases h

theorem ne_quote (h : isNameChar c = true) : c ≠ '\x22' := by
  rintro rfl
  cases h

theorem Keyword.isNameChar_text (k : Keyword) : ∀ c ∈ k.text, isNameChar c = true := by
  rw [← List.all_eq_true]
  cases k <;> rfl

theorem Keyword.exists_cons_text (k : Keyword) :
    ∃ c cs, k.text = c :: cs ∧ isNameChar c = true ∧ c.isDigit = false ∧
      Text.isDigit c = false := by
  cases k <;> exact ⟨_, _, rfl, by decide, by decide, by decide⟩

/-- The text of a string starts with a quotation mark, that of any other token with a character of
names. -/
theorem Writes.exists_cons (h : Writes t text) :
    ∃ c cs, text = c :: cs ∧ (c = '\x22' ∧ t.terminal = .string ∨
      isNameChar c = true ∧ t.terminal ≠ .string) := by
  cases h with
  | keyword k =>
      obtain ⟨c, cs, hk, hc, -⟩ := k.exists_cons_text
      exact ⟨c, cs, hk, .inr ⟨hc, by simp⟩⟩
  | name hne hchars _ =>
      obtain ⟨c, cs, rfl⟩ := List.exists_cons_of_ne_nil hne
      exact ⟨c, cs, rfl, .inr ⟨hchars c List.mem_cons_self, by simp⟩⟩
  | number hne hdigits =>
      obtain ⟨c, cs, rfl⟩ := List.exists_cons_of_ne_nil hne
      exact ⟨c, cs, rfl, .inr ⟨isNameChar_of_isDigit (hdigits c List.mem_cons_self), by simp⟩⟩
  | string _ => exact ⟨_, _, rfl, .inl ⟨rfl, rfl⟩⟩
  | date h =>
      obtain ⟨d, ds, rfl, hd⟩ := h.exists_cons
      exact ⟨d, ds, rfl, .inr ⟨isNameChar_of_isDigit hd, by simp⟩⟩

theorem isNameChar_of_isSpace (h : isSpace c = true) : isNameChar c = false := by
  simp only [isSpace, Bool.or_eq_true, beq_iff_eq] at h
  rcases h with (((rfl | rfl) | rfl) | rfl) | rfl <;> decide

/-- Nothing is skipped at the text of a token. -/
theorem Writes.skip_append (h : Writes t text) (position : Position) :
    skip false position (text ++ rest) = (text ++ rest, position) := by
  obtain ⟨c, cs, rfl, hc⟩ := h.exists_cons
  have hspace : isSpace c = false := by
    rcases hc with ⟨rfl, -⟩ | ⟨hc, -⟩
    · decide
    · rw [Bool.eq_false_iff]
      intro hspace
      rw [isNameChar_of_isSpace hspace] at hc
      cases hc
  have hdash : (c == '-') = false := by
    rw [beq_eq_false_iff_ne]
    rintro rfl
    rcases hc with ⟨hc, -⟩ | ⟨hc, -⟩
    · cases hc
    · cases hc
  simp [skip, hspace, hdash]

theorem Stops.isNameChar (h : Stops rest) : ∀ c ∈ rest.head?, isNameChar c = false := by
  intro c hc
  rcases h c hc with hspace | rfl
  · exact isNameChar_of_isSpace hspace
  · decide

/-! ## One kind of token -/

theorem run?_append (hne : cs ≠ []) (htest : ∀ c ∈ cs, test c = true)
    (hrest : ∀ c ∈ rest.head?, test c = false) : run? test (cs ++ rest) = some (cs, rest) := by
  have hnone : rest.takeWhile test = [] ∧ rest.dropWhile test = rest := by
    cases rest with
    | nil => exact ⟨rfl, rfl⟩
    | cons c rest => simp [hrest c rfl]
  have htake : (cs ++ rest).takeWhile test = cs := by
    rw [List.takeWhile_append_of_pos htest, hnone.1, List.append_nil]
  have hdrop : (cs ++ rest).dropWhile test = rest := by
    rw [List.dropWhile_append_of_pos htest, hnone.2]
  unfold run?
  rw [htake, hdrop]
  split
  · exact absurd rfl hne
  · rfl

theorem run?_eq_none (h : test c = false) : run? test (c :: cs) = none := by
  simp [run?, h]

theorem string?_append (h : '\x22' ∉ cs) :
    string? ('\x22' :: (cs ++ ['\x22']) ++ rest) = some (cs, rest) := by
  have htest : ∀ c ∈ cs, (c != '\x22') = true := by
    intro c hc
    rw [bne_iff_ne]
    rintro rfl
    exact h hc
  simp [string?, List.takeWhile_append_of_pos htest, List.dropWhile_append_of_pos htest]

theorem string?_eq_none (h : c ≠ '\x22') : string? (c :: cs) = none := by
  unfold string?
  split
  · next heq => exact absurd (List.cons.inj heq).1 h
  · rfl

theorem date?_eq_none (h : Text.isDigit c = false) : date? (c :: cs) = none := by
  simp [date?, digits?, h]

/-- No keyword is the start of another. -/
theorem Keyword.eq_of_prefix {k k' : Keyword} (h : k.text <+: k'.text) : k = k' := by
  revert h
  cases k <;> cases k' <;> decide

theorem keyword?_append (k : Keyword) : keyword? k (k.text ++ rest) = some (k.text, rest) := by
  simp [keyword?]

/-- No keyword is found but the one that is written. -/
theorem keyword?_eq_none {k' : Keyword} (hne : k' ≠ k) :
    keyword? k' (k.text ++ rest) = none := by
  rw [keyword?, if_neg]
  intro hprefix
  rw [List.isPrefixOf_iff_prefix] at hprefix
  rcases List.prefix_or_prefix_of_prefix hprefix (List.prefix_append k.text rest) with h | h
  · exact hne (Keyword.eq_of_prefix h)
  · exact hne (Keyword.eq_of_prefix h).symm

/-- No keyword starts with a digit or a quotation mark. -/
theorem keyword?_eq_none_of_head (h : c.isDigit = true ∨ isNameChar c = false) :
    keyword? k (c :: cs) = none := by
  obtain ⟨d, ds, hk, hname, hdigit, -⟩ := k.exists_cons_text
  have hne : d ≠ c := by
    rintro rfl
    rcases h with h | h
    · rw [hdigit] at h
      cases h
    · rw [hname] at h
      cases h
  simp [keyword?, hk, hne]

theorem keywordOf?_text (h : .keyword k ∈ allowed) :
    keywordOf? allowed k.text = some (.keyword k) := by
  induction allowed with
  | nil => cases h
  | cons x allowed ih =>
      by_cases hx : x = .keyword k
      · subst hx
        simp [keywordOf?]
      · have hrest : .keyword k ∈ allowed := List.mem_of_ne_of_mem (Ne.symm hx) h
        rw [← ih hrest, keywordOf?, List.find?_cons_of_neg]
        · rfl
        · cases x with
          | keyword k' =>
              have hne : k' ≠ k := by
                rintro rfl
                exact hx rfl
              intro heq
              exact hne (Keyword.eq_of_prefix ⟨[], by simpa using heq⟩)
          | name | number | string | date => exact Bool.false_ne_true

theorem keywordOf?_eq_none (h : ∀ k : Keyword, cs ≠ k.text) : keywordOf? allowed cs = none := by
  rw [keywordOf?, List.find?_eq_none]
  intro x _
  cases x with
  | keyword k => simpa using (h k).symm
  | name | number | string | date => exact Bool.false_ne_true

/-! ## The token that is found -/

/-- Kinds of tokens that are told apart by their first character, or by the whole of a name. -/
structure Apart (allowed : List Terminal) : Prop where
  number_name : .number ∈ allowed → .name ∉ allowed
  date_name : .date ∈ allowed → .name ∉ allowed
  date_number : .date ∈ allowed → .number ∉ allowed

theorem Place.apart_allowed (p : Place) : Apart p.allowed := by
  constructor <;> cases p <;> simp [allowed, starts]

/-- A token is found if one of the allowed kinds gives it, and none of them gives another. -/
theorem next?_eq_some {found : Token × List Char} {x : Terminal} (hx : x ∈ allowed)
    (hfound : ofTerminal? allowed cs x = some found)
    (hothers : ∀ y ∈ allowed,
      ofTerminal? allowed cs y = none ∨ ofTerminal? allowed cs y = some found) :
    Token.next? allowed cs = some found := by
  cases hnext : Token.next? allowed cs with
  | none =>
      have hnone := List.findSome?_eq_none_iff.mp hnext x hx
      rw [hfound] at hnone
      cases hnone
  | some other =>
      obtain ⟨y, hy, hother⟩ := List.exists_of_findSome?_eq_some hnext
      rcases hothers y hy with h | h
      · rw [h] at hother
        cases hother
      · rw [← hother, h]

theorem next?_keyword (h : .keyword k ∈ allowed) (hrest : Stops rest) :
    Token.next? allowed (k.text ++ rest) = some (⟨.keyword k, k.text⟩, rest) := by
  obtain ⟨c, cs, hk, hname, hdigit, htextDigit⟩ := k.exists_cons_text
  have hrun : run? isNameChar (k.text ++ rest) = some (k.text, rest) :=
    run?_append (by simp [hk]) k.isNameChar_text hrest.isNameChar
  have hothers : ∀ y ∈ allowed, ofTerminal? allowed (k.text ++ rest) y = none ∨
      ofTerminal? allowed (k.text ++ rest) y = some (⟨.keyword k, k.text⟩, rest) := by
    intro y hy
    cases y with
    | keyword k' =>
        by_cases hany : .name ∈ allowed
        · simp [ofTerminal?, hany]
        · by_cases hne : k' = k
          · subst hne
            simp [ofTerminal?, hany, keyword?_append]
          · simp [ofTerminal?, hany, keyword?_eq_none hne]
    | name => simp [ofTerminal?, hrun, keywordOf?_text h]
    | number => simp [ofTerminal?, hk, run?_eq_none hdigit]
    | string => simp [ofTerminal?, hk, string?_eq_none (ne_quote hname)]
    | date => simp [ofTerminal?, hk, date?_eq_none htextDigit]
  by_cases hany : .name ∈ allowed
  · exact next?_eq_some hany (by simp [ofTerminal?, hrun, keywordOf?_text h]) hothers
  · exact next?_eq_some h (by simp [ofTerminal?, hany, keyword?_append]) hothers

theorem next?_name (h : .name ∈ allowed) (hapart : Apart allowed) (hrest : Stops rest)
    (hne : cs ≠ []) (hchars : ∀ c ∈ cs, isNameChar c = true)
    (hword : ∀ k : Keyword, cs ≠ k.text) :
    Token.next? allowed (cs ++ rest) = some (⟨.name, cs⟩, rest) := by
  have hfound : ofTerminal? allowed (cs ++ rest) .name = some (⟨.name, cs⟩, rest) := by
    simp [ofTerminal?, run?_append hne hchars hrest.isNameChar, keywordOf?_eq_none hword]
  refine next?_eq_some h hfound fun y hy => ?_
  cases y with
  | keyword k => simp [ofTerminal?, h]
  | name => exact .inr hfound
  | number => exact absurd h (hapart.number_name hy)
  | string =>
      obtain ⟨c, cs, rfl⟩ := List.exists_cons_of_ne_nil hne
      simp [ofTerminal?, string?_eq_none (ne_quote (hchars c List.mem_cons_self))]
  | date => exact absurd h (hapart.date_name hy)

theorem next?_string (h : .string ∈ allowed) (hcontent : '\x22' ∉ cs) :
    Token.next? allowed ('\x22' :: (cs ++ ['\x22']) ++ rest) = some (⟨.string, cs⟩, rest) := by
  have hfound : ofTerminal? allowed ('\x22' :: (cs ++ ['\x22']) ++ rest) .string =
      some (⟨.string, cs⟩, rest) := by
    simp only [ofTerminal?, string?_append hcontent, Option.map_some]
  have hname : isNameChar '\x22' = false := by decide
  have hdigit : Text.isDigit '\x22' = false := by decide
  refine next?_eq_some h hfound fun y hy => ?_
  cases y with
  | keyword k => simp [ofTerminal?, keyword?_eq_none_of_head (.inr hname)]
  | name => simp [ofTerminal?, run?_eq_none hname]
  | number => simp [ofTerminal?, run?_eq_none (isDigit_eq_false hname)]
  | string => exact .inr hfound
  | date => simp [ofTerminal?, date?_eq_none hdigit]

theorem next?_number (h : .number ∈ allowed) (hapart : Apart allowed) (hrest : Stops rest)
    (hne : cs ≠ []) (hdigits : ∀ c ∈ cs, c.isDigit = true) :
    Token.next? allowed (cs ++ rest) = some (⟨.number, cs⟩, rest) := by
  have hfound : ofTerminal? allowed (cs ++ rest) .number = some (⟨.number, cs⟩, rest) := by
    have hstop : ∀ c ∈ rest.head?, c.isDigit = false :=
      fun c hc => isDigit_eq_false (hrest.isNameChar c hc)
    simp [ofTerminal?, run?_append hne hdigits hstop]
  obtain ⟨c, cs, rfl⟩ := List.exists_cons_of_ne_nil hne
  have hc : c.isDigit = true := hdigits c List.mem_cons_self
  refine next?_eq_some h hfound fun y hy => ?_
  cases y with
  | keyword k => simp [ofTerminal?, keyword?_eq_none_of_head (.inl hc)]
  | name => exact absurd hy (hapart.number_name h)
  | number => exact .inr hfound
  | string => simp [ofTerminal?, string?_eq_none (ne_quote (isNameChar_of_isDigit hc))]
  | date => exact absurd h (hapart.date_number hy)

theorem next?_date (h : .date ∈ allowed) (hapart : Apart allowed) (hrest : Stops rest)
    (hdate : IsDate cs) : Token.next? allowed (cs ++ rest) = some (⟨.date, cs⟩, rest) := by
  have hfound : ofTerminal? allowed (cs ++ rest) .date = some (⟨.date, cs⟩, rest) := by
    simp [ofTerminal?, hdate.date?_append hrest]
  obtain ⟨d, ds, rfl, hd⟩ := hdate.exists_cons
  refine next?_eq_some h hfound fun y hy => ?_
  cases y with
  | keyword k => simp [ofTerminal?, keyword?_eq_none_of_head (.inl hd)]
  | name => exact absurd hy (hapart.date_name h)
  | number => exact absurd hy (hapart.date_number h)
  | string => simp [ofTerminal?, string?_eq_none (ne_quote (isNameChar_of_isDigit hd))]
  | date => exact .inr hfound

/-- A written token that may follow is found, and what follows it is left. -/
theorem Writes.next?_append (h : Writes t text) (p : Place) (ht : t.terminal ∈ p.allowed)
    (hrest : Stops rest) : Token.next? p.allowed (text ++ rest) = some (t, rest) := by
  cases h with
  | keyword k => exact next?_keyword ht hrest
  | name hne hchars hword => exact next?_name ht p.apart_allowed hrest hne hchars hword
  | number hne hdigits => exact next?_number ht p.apart_allowed hrest hne hdigits
  | string hcontent => exact next?_string ht hcontent
  | date hdate => exact next?_date ht p.apart_allowed hrest hdate

/-! ## Reading tokens -/

/-- Text of tokens, with a gap after each of them that only the last one can do without. -/
inductive Spaced : List Token → List Char → Prop where
  | nil : Spaced [] []
  | cons {t : Token} {ts : List Token} {text gap cs : List Char} (ht : Writes t text)
      (hgap : Gap gap) (hsep : ts = [] ∨ gap ≠ []) (h : Spaced ts cs) :
      Spaced (t :: ts) (text ++ (gap ++ cs))

/-- A token that is no number with too many digits. -/
def Token.IsShort (t : Token) : Prop := t.terminal = .number → t.text.length ≤ Text.maxDigits

instance : DecidablePred Token.IsShort := fun t =>
  inferInstanceAs (Decidable (t.terminal = .number → t.text.length ≤ Text.maxDigits))

/-- What comes of reading some tokens: the given result, or the fault of the first number that is
too long. -/
def ifShort {α : Type} (ts : List Token) (a : α) : Except SyntaxFault α :=
  match ts.find? (¬·.IsShort) with
  | some t => .error (.numeralLength t.text.length)
  | none => .ok a

theorem ifShort_cons_of_not {α : Type} (h : ¬t.IsShort) (a : α) :
    ifShort (t :: ts) a = .error (.numeralLength t.text.length) := by
  simp [ifShort, h]

theorem ifShort_cons {α : Type} (h : t.IsShort) (a : α) : ifShort (t :: ts) a = ifShort ts a := by
  simp [ifShort, h]

/-- Some tokens may follow at a place, and they lead from it to another, where more statements are
complete, if none of them is a number that is too long. -/
inductive Passes : List Statement → Place → List Token → List Statement → Place → Prop where
  | nil {complete : List Statement} {p : Place} : Passes complete p [] complete p
  | cons {complete closed complete' : List Statement} {p q p' : Place} {t : Token}
      {ts : List Token} (ht : t.terminal ∈ p.allowed) (hnext : p.next t = ifShort [t] (closed, q))
      (h : Passes (complete ++ closed) q ts complete' p') : Passes complete p (t :: ts) complete' p'

variable {complete complete' complete'' closed : List Statement} {p p' p'' : Place}
  {ts' : List Token}

theorem Passes.append (h : Passes complete p ts complete' p')
    (h' : Passes complete' p' ts' complete'' p'') :
    Passes complete p (ts ++ ts') complete'' p'' := by
  induction h with
  | nil => exact h'
  | cons ht hnext _ ih => exact .cons ht hnext (ih h')

/-- Reading goes from token to token. -/
theorem readFrom_spaced (hs : Spaced ts cs) (hp : Passes complete p ts complete' p')
    (hclose : p'.close? = some closed) (hgap : Gap gap) {fuel : Nat}
    (hfuel : (gap ++ cs).length < fuel) (position last : Position) :
    readFrom fuel complete p position last (gap ++ cs) = ifShort ts (complete' ++ closed) := by
  -- The induction is on the tokens; the gap before them and the fuel vary.
  induction hp generalizing cs gap fuel position last with
  | nil =>
      cases hs
      obtain ⟨fuel, rfl⟩ : ∃ fuel', fuel = fuel' + 1 := ⟨fuel - 1, by omega⟩
      obtain ⟨here, hskip⟩ := hgap.skip_append [] position
      rw [readFrom, hskip]
      simp [skip, hclose, ifShort]
  | @cons complete closed' _ p q _ t ts ht hnext _ ih =>
      cases hs with
      | @cons _ _ text gap' cs' hwrites hgap' hsep hs =>
          obtain ⟨fuel, rfl⟩ : ∃ fuel', fuel = fuel' + 1 := ⟨fuel - 1, by omega⟩
          have hstops : Stops (gap' ++ cs') := by
            refine hgap'.stops (hsep.imp_left ?_)
            rintro rfl
            cases hs
            rfl
          obtain ⟨here, hskip⟩ := hgap.skip_append (text ++ (gap' ++ cs')) position
          rw [hwrites.skip_append] at hskip
          have hfound := hwrites.next?_append p ht hstops
          obtain ⟨c, text', rfl, -⟩ := hwrites.exists_cons
          rw [List.cons_append] at hskip hfound
          rw [readFrom, List.cons_append, hskip]
          simp only [hfound, hnext]
          by_cases hshort : t.IsShort
          · rw [ifShort_cons hshort, ifShort_cons hshort]
            simp only [ifShort, List.find?_nil]
            refine ih hs hclose hgap' ?_ _ _
            simp only [List.length_append, List.length_cons] at hfuel ⊢
            omega
          · rw [ifShort_cons_of_not hshort, ifShort_cons_of_not hshort]

end TrustWeb.Description
