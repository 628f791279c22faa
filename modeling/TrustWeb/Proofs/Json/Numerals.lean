import Mathlib.Data.List.Basic
import Mathlib.Data.List.TakeWhile
import Mathlib.Tactic.IntervalCases
import Mathlib.Tactic.Ring
import TrustWeb.Json.Printer
import TrustWeb.Json.Reader

/-! # Numbers in JSON text

The text of a number is a sign, a whole part, a fraction and an exponent, of which all but the
whole part may be missing. A printed number is read back as the same number, whatever ends it, if
it is not too long; and what is read as a number has such a text. -/

namespace TrustWeb.Json

variable {cs ds fr ex rest minus : List Char}

/-! ## Parts of a number -/

/-- Text that stands after a value: nothing, or what goes on after it in an array or object. -/
def Ends (rest : List Char) : Prop := ∀ c ∈ rest.head?, c = ',' ∨ c = ']' ∨ c = '\x7d'

/-- Text that does not start with a digit. -/
def NoDigit (rest : List Char) : Prop := ∀ c ∈ rest.head?, c.isDigit = false

/-- Digits, of which there is at least one. -/
structure Digits (ds : List Char) : Prop where
  ne_nil : ds ≠ []
  isDigit : ∀ c ∈ ds, c.isDigit = true

theorem Digits.exists_cons (h : Digits ds) : ∃ d ds', ds = d :: ds' ∧ d.isDigit = true := by
  obtain ⟨d, ds', rfl⟩ := List.exists_cons_of_ne_nil h.ne_nil
  exact ⟨d, ds', rfl, h.isDigit d List.mem_cons_self⟩

theorem ne_of_isDigit {c d : Char} (hd : d.isDigit = true) (hc : c.isDigit = false) : d ≠ c := by
  rintro rfl
  rw [hd] at hc
  cases hc

/-- The whole part of a number: a zero comes first only if it stands alone. -/
structure Whole (ds : List Char) : Prop extends Digits ds where
  lead : ds.head? = some '0' → ds = ['0']

/-- The fraction of a number, or nothing. -/
inductive Fraction : List Char → Prop where
  | none : Fraction []
  | some {ds : List Char} (h : Digits ds) : Fraction ('.' :: ds)

/-- The exponent of a number, or nothing. -/
inductive Exponent : List Char → Prop where
  | none : Exponent []
  | some {e : Char} {sign ds : List Char} (he : e = 'e' ∨ e = 'E')
      (hsign : sign ∈ [[], ['+'], ['-']]) (h : Digits ds) : Exponent (e :: sign ++ ds)

theorem noDigit_cons {c : Char} (h : c.isDigit = false) : NoDigit (c :: rest) := by
  intro c' hc'
  obtain rfl : c = c' := by simpa using hc'
  exact h

theorem Ends.noDigit (h : Ends rest) : NoDigit rest := by
  intro c hc
  rcases h c hc with rfl | rfl | rfl <;> rfl

theorem readDigits_append (hds : ∀ c ∈ ds, c.isDigit = true) (hrest : NoDigit rest) :
    readDigits (ds ++ rest) = (ds, rest) := by
  have hnone : rest.takeWhile Char.isDigit = [] ∧ rest.dropWhile Char.isDigit = rest := by
    cases rest with
    | nil => exact ⟨rfl, rfl⟩
    | cons c cs => simp [hrest c rfl]
  rw [readDigits, List.takeWhile_append_of_pos hds, List.dropWhile_append_of_pos hds, hnone.1,
    hnone.2, List.append_nil]

theorem isDigit_readDigits (cs : List Char) : ∀ c ∈ (readDigits cs).1, c.isDigit = true :=
  fun _ hc => List.mem_takeWhile_imp hc

namespace Exponent

theorem noDigit (h : Exponent ex) (hrest : Ends rest) : NoDigit (ex ++ rest) := by
  cases h with
  | none => exact hrest.noDigit
  | some he _ _ => exact noDigit_cons (by rcases he with rfl | rfl <;> rfl)

/-- An exponent is read as far as it goes. -/
theorem read_append (h : Exponent ex) (hrest : Ends rest) :
    readExponent (ex ++ rest) = (ex, rest) := by
  cases h with
  | none =>
      cases rest with
      | nil => rfl
      | cons c cs => rcases hrest c rfl with rfl | rfl | rfl <;> rfl
  | @some e sign ds he hsign hds =>
      have hread := readDigits_append hds.isDigit hrest.noDigit
      have hsigned : readSign (sign ++ (ds ++ rest)) = (sign, ds ++ rest) := by
        simp only [List.mem_cons, List.not_mem_nil, or_false] at hsign
        rcases hsign with rfl | rfl | rfl
        · obtain ⟨d, ds, rfl, hd⟩ := hds.exists_cons
          unfold readSign
          split
          · next heq => cases heq; cases hd
          · next heq => cases heq; cases hd
          · rfl
        · rfl
        · rfl
      obtain ⟨d, ds, rfl⟩ := List.exists_cons_of_ne_nil hds.ne_nil
      rw [List.cons_append] at hread hsigned
      rcases he with rfl | rfl <;> simp [readExponent, hsigned, hread]

theorem read (cs : List Char) : Exponent (readExponent cs).1 := by
  have hsign : ∀ cs, (readSign cs).1 ∈ [[], ['+'], ['-']] := by
    intro cs
    unfold readSign
    split <;> simp
  cases cs with
  | nil => exact .none
  | cons e cs =>
      simp only [readExponent]
      split
      · next he =>
          have hds := isDigit_readDigits (readSign cs).2
          split
          · exact .none
          · next digits rest'' hne heq =>
              rw [heq] at hds
              exact .some (by simpa using he) (hsign cs) ⟨hne, hds⟩
      · exact .none

end Exponent

namespace Fraction

theorem noDigit (h : Fraction fr) (hrest : NoDigit rest) : NoDigit (fr ++ rest) := by
  cases h with
  | none => exact hrest
  | some _ => exact noDigit_cons rfl

/-- A fraction is read as far as it goes. -/
theorem read_append (h : Fraction fr) (hex : Exponent ex) (hrest : Ends rest) :
    readFraction (fr ++ (ex ++ rest)) = (fr, ex ++ rest) := by
  cases h with
  | none =>
      cases hex with
      | none =>
          cases rest with
          | nil => rfl
          | cons c cs => rcases hrest c rfl with rfl | rfl | rfl <;> rfl
      | some he _ _ => rcases he with rfl | rfl <;> rfl
  | some hds =>
      have hread := readDigits_append hds.isDigit (hex.noDigit hrest)
      obtain ⟨d, ds, rfl⟩ := List.exists_cons_of_ne_nil hds.ne_nil
      rw [List.cons_append] at hread
      simp [readFraction, hread]

theorem read (cs : List Char) : Fraction (readFraction cs).1 := by
  unfold readFraction
  split
  · next rest =>
      have hds := isDigit_readDigits rest
      split
      · exact .none
      · next digits rest' hne heq =>
          rw [heq] at hds
          exact .some ⟨hne, hds⟩
  · exact .none

end Fraction

namespace Whole

theorem read_append (h : Whole ds) (hrest : NoDigit rest) :
    readWhole? (ds ++ rest) = some (ds, rest) := by
  obtain ⟨d, ds, rfl⟩ := List.exists_cons_of_ne_nil h.ne_nil
  unfold readWhole?
  split
  · next heq =>
      obtain ⟨rfl, hrest⟩ := List.cons.inj heq
      obtain ⟨-, rfl⟩ := List.cons.inj (h.lead rfl)
      subst hrest
      rfl
  · rw [readDigits_append h.isDigit hrest]

theorem of_read (h : readWhole? cs = some (ds, rest)) : Whole ds := by
  unfold readWhole? at h
  split at h
  · obtain ⟨rfl, -⟩ := Prod.mk.inj (Option.some.inj h)
    exact ⟨⟨by simp, by simp [Char.isDigit]⟩, fun _ => rfl⟩
  · next hlead =>
      have hds := isDigit_readDigits cs
      split at h
      · cases h
      · next hne =>
          rw [Option.some.inj h] at hds hne
          refine ⟨⟨fun hnil => hne _ (by rw [hnil]), hds⟩, fun hzero => ?_⟩
          have hcs : ds = cs.takeWhile Char.isDigit := (congrArg Prod.fst (Option.some.inj h)).symm
          cases cs with
          | nil => simp [hcs] at hzero
          | cons c cs =>
              rw [hcs, List.takeWhile_cons] at hzero
              split at hzero
              · obtain rfl : c = '0' := by simpa using hzero
                exact (hlead cs rfl).elim
              · cases hzero

end Whole

theorem digitsValue_lt (hds : ∀ c ∈ ds, c.isDigit = true) : digitsValue ds < 10 ^ ds.length := by
  have hfold : ∀ n : Nat,
      ds.foldl (fun n c => 10 * n + (c.toNat - 0x30)) n < (n + 1) * 10 ^ ds.length := by
    induction ds with
    | nil => simp
    | cons c ds ih =>
        intro n
        obtain ⟨hc, hds⟩ := List.forall_mem_cons.mp hds
        have hdigit : c.toNat ≤ 57 := (Char.isDigit_iff_toNat.mp hc).2
        calc (c :: ds).foldl (fun n c => 10 * n + (c.toNat - 0x30)) n
            < (10 * n + (c.toNat - 0x30) + 1) * 10 ^ ds.length := ih hds _
          _ ≤ (10 * (n + 1)) * 10 ^ ds.length := Nat.mul_le_mul_right _ (by omega)
          _ = (n + 1) * 10 ^ (c :: ds).length := by
              rw [List.length_cons, pow_succ']
              ring
  simpa [digitsValue] using hfold 0

/-- The literal of a number with a fraction or an exponent, or a word that counts as a number. -/
inductive Literal : String → Prop where
  | word {l : String} (h : (l.toList, Json.decimal l) ∈ words) : Literal l
  | number {minus ds fr ex : List Char} (hminus : minus ∈ [[], ['-']]) (hds : Whole ds)
      (hfr : Fraction fr) (hex : Exponent ex) (hne : (!fr.isEmpty || !ex.isEmpty) = true) :
      Literal (String.ofList (minus ++ ds ++ fr ++ ex))

/-- A number that is not too long to be read. -/
def Short (n : Int) : Prop := (Nat.toDigits 10 n.natAbs).length ≤ Text.maxDigits

instance : DecidablePred Short := fun n =>
  inferInstanceAs (Decidable ((Nat.toDigits 10 n.natAbs).length ≤ Text.maxDigits))

theorem short_of_digits (hds : ∀ c ∈ ds, c.isDigit = true) (hlength : ds.length ≤ Text.maxDigits)
    {n : Int} (hn : n.natAbs = digitsValue ds) : Short n := by
  rw [Short, Nat.length_toDigits_le_iff (by decide) (by decide), hn]
  exact (digitsValue_lt hds).trans_le (Nat.pow_le_pow_right (by decide) hlength)

/-- The parts of a number are read one after the other. -/
theorem readNumber_append (hminus : minus ∈ [[], ['-']]) (hds : Whole ds) (hfr : Fraction fr)
    (hex : Exponent ex) (hrest : Ends rest) :
    readNumber (minus ++ (ds ++ (fr ++ (ex ++ rest)))) =
      if !fr.isEmpty || !ex.isEmpty then
        .ok (.decimal (String.ofList (minus ++ ds ++ fr ++ ex)), rest)
      else if ds.length > Text.maxDigits then .error (.numeralLength ds.length)
      else .ok (.number (if minus.isEmpty then digitsValue ds else -digitsValue ds), rest) := by
  have hsign : readMinus (minus ++ (ds ++ (fr ++ (ex ++ rest)))) =
      (minus, ds ++ (fr ++ (ex ++ rest))) := by
    rcases List.mem_pair.mp hminus with rfl | rfl
    · obtain ⟨d, ds, rfl, hd⟩ := hds.exists_cons
      unfold readMinus
      split
      · next heq => cases heq; cases hd
      · rfl
    · rfl
  have hwhole := hds.read_append (hfr.noDigit (hex.noDigit hrest))
  simp only [readNumber, hsign, hwhole, hfr.read_append hex hrest, hex.read_append hrest]
  split
  · rfl
  · next hne =>
      obtain ⟨rfl, rfl⟩ : fr = [] ∧ ex = [] := by simpa using hne
      rfl

theorem readMinus_mem (cs : List Char) : (readMinus cs).1 ∈ [[], ['-']] := by
  unfold readMinus
  split <;> simp

/-- A value that a number can stand for: one that is not too long, or a literal. -/
inductive Numeric : Json → Prop where
  | number {n : Int} (h : Short n) : Numeric (.number n)
  | decimal {l : String} (h : Literal l) : Numeric (.decimal l)

theorem numeric_of_readNumber {v : Json} (h : readNumber cs = .ok (v, rest)) : Numeric v := by
  unfold readNumber at h
  have hminus := readMinus_mem cs
  generalize readMinus cs = found at h hminus
  obtain ⟨minus, body⟩ := found
  simp only at h
  split at h
  · cases h
  · next digits rest' hwhole =>
      have hds := Whole.of_read hwhole
      split at h
      · next hne =>
          cases h
          exact .decimal (.number hminus hds (Fraction.read _) (Exponent.read _) hne)
      split at h
      · cases h
      · next hlength =>
          cases h
          refine .number (short_of_digits hds.isDigit (not_lt.mp hlength) ?_)
          split <;> simp

theorem digitsValue_toDigits (n : Nat) : digitsValue (Nat.toDigits 10 n) = n :=
  Nat.ofDigitChars_ten_toDigits

theorem whole_toDigits (n : Nat) : Whole (Nat.toDigits 10 n) := by
  have hdigit : ∀ c ∈ Nat.toDigits 10 n, c.isDigit = true :=
    fun _ hc => Nat.isDigit_of_mem_toDigits (by decide) (by decide) hc
  refine ⟨⟨Nat.toDigits_ne_nil, hdigit⟩, ?_⟩
  clear hdigit
  induction n using Nat.strongRecOn with
  | _ n ih =>
      intro hzero
      rw [Nat.toDigits_eq_if (by decide)] at hzero ⊢
      split at hzero
      · next hn =>
          rw [if_pos hn]
          simpa using hzero
      · next hn =>
          -- a longer number would start with the digits of a tenth of it, which is not 0
          rw [List.head?_append_of_ne_nil _ Nat.toDigits_ne_nil] at hzero
          have hvalue := digitsValue_toDigits (n / 10)
          rw [ih (n / 10) (by omega) hzero] at hvalue
          have : n / 10 = 0 := hvalue.symm
          omega

theorem toList_toString (n : Int) :
    (toString n).toList = (if n < 0 then ['-'] else []) ++ Nat.toDigits 10 n.natAbs := by
  change n.repr.toList = _
  rcases Int.lt_or_le n 0 with hn | hn
  · have habs : (-n).toNat = n.natAbs := by omega
    simp [Int.repr_eq_if, Int.not_le.mpr hn, hn, habs, Nat.repr_eq_ofList_toDigits]
  · have habs : n.toNat = n.natAbs := by omega
    simp [Int.repr_eq_if, hn, Int.not_lt.mpr hn, habs, Nat.repr_eq_ofList_toDigits]

theorem readNumber_number {n : Int} (hn : Short n) (hrest : Ends rest) :
    readNumber ((toString n).toList ++ rest) = .ok (.number n, rest) := by
  have hminus : (if n < 0 then ['-'] else []) ∈ [[], ['-']] := by split <;> simp
  have hread := readNumber_append hminus (whole_toDigits n.natAbs) .none .none hrest
  have hlength : ¬ (Nat.toDigits 10 n.natAbs).length > Text.maxDigits := not_lt.mpr hn
  have hvalue :
      (if (if n < 0 then ['-'] else []).isEmpty then (n.natAbs : Int) else -n.natAbs) = n := by
    rcases Int.lt_or_le n 0 with hneg | hpos
    · rw [if_pos hneg]
      simp only [List.isEmpty_cons, Bool.false_eq_true, if_false]
      omega
    · rw [if_neg (Int.not_lt.mpr hpos)]
      simp only [List.isEmpty_nil, if_true]
      omega
  rw [toList_toString, List.append_assoc]
  simp only [List.nil_append] at hread
  rw [hread, if_neg (by simp), if_neg hlength, digitsValue_toDigits, hvalue]

theorem readNumber_overlong (hds : Whole ds) (hlength : Text.maxDigits < ds.length)
    (hrest : Ends rest) : readNumber (ds ++ rest) = .error (.numeralLength ds.length) := by
  have hminus : [] ∈ [[], ['-']] := by simp
  have hread := readNumber_append hminus hds .none .none hrest
  simp only [List.nil_append] at hread
  rw [hread, if_neg (by simp), if_pos hlength]

theorem readWord_digit {d : Char} (hd : d.isDigit = true) :
    readWord (d :: cs) = none ∧ readWord ('-' :: d :: cs) = none := by
  have hne : ∀ c : Char, c.isDigit = false → c ≠ d := fun c hc => (ne_of_isDigit hd hc).symm
  simp [readWord, words, hne 'n' rfl, hne 't' rfl, hne 'f' rfl, hne 'N' rfl, hne 'I' rfl,
    hne '-' rfl]

end TrustWeb.Json
