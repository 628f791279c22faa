import Mathlib
import TrustWeb.Pattern.Matcher

/-! # What patterns match

A pattern tries its ways in order and goes back when what follows fails. Without groups and looks
around, the order decides which way is found first but not whether one is found: the pattern then
matches the texts of a language, whatever follows it. -/

open scoped Computability

namespace TrustWeb

/-- The cursor after text that was taken, with the text that remains. -/
def Cursor.past (s : Cursor) (taken rest : List Char) : Cursor :=
  ⟨taken.reverse ++ s.before, rest, s.marks⟩

/-- The texts of one character that passes a test. -/
def CharTest.words (t : CharTest) : Language Char := {w | ∃ c, t.holds c = true ∧ w = [c]}

namespace CharTest

theorem nil_not_mem_words (t : CharTest) : [] ∉ t.words := by
  rintro ⟨c, -, h⟩
  cases h

/-- Any number of characters that pass a test. -/
theorem mem_kstar_words {t : CharTest} {w : List Char} :
    w ∈ t.words∗ ↔ ∀ c ∈ w, t.holds c = true := by
  rw [Language.mem_kstar]
  constructor
  · rintro ⟨ws, rfl, hws⟩ c hc
    obtain ⟨w, hw, hcw⟩ := List.mem_flatten.mp hc
    obtain ⟨d, hd, rfl⟩ := hws w hw
    obtain rfl : c = d := by simpa using hcw
    exact hd
  · intro h
    refine ⟨w.map fun c => [c], by rw [← List.flatMap_def, List.flatMap_singleton'], fun v hv => ?_⟩
    obtain ⟨c, hc, rfl⟩ := List.mem_map.mp hv
    exact ⟨c, h c hc, rfl⟩

/-- At least one character, all of which pass a test. -/
theorem mem_words_mul_kstar {t : CharTest} {w : List Char} :
    w ∈ t.words * t.words∗ ↔ w ≠ [] ∧ ∀ c ∈ w, t.holds c = true := by
  rw [Language.mem_mul]
  constructor
  · rintro ⟨_, ⟨c, hc, rfl⟩, rest, hrest, rfl⟩
    exact ⟨by simp, List.forall_mem_cons.mpr ⟨hc, mem_kstar_words.mp hrest⟩⟩
  · rintro ⟨hne, hall⟩
    cases w with
    | nil => exact (hne rfl).elim
    | cons c rest =>
        obtain ⟨hc, hrest⟩ := List.forall_mem_cons.mp hall
        exact ⟨[c], ⟨c, hc, rfl⟩, rest, mem_kstar_words.mpr hrest, rfl⟩

end CharTest

namespace Pattern

variable {m m' : Rest → Rest} {L M : Language Char} {p : Pattern}

/-- What is tried first takes any text of a language, if what follows succeeds after it. -/
def Spells (m : Rest → Rest) (L : Language Char) : Prop :=
  ∀ (k : Rest) (s : Cursor), (m k s).isSome = true ↔
    ∃ taken rest, s.after = taken ++ rest ∧ taken ∈ L ∧ (k (s.past taken rest)).isSome = true

theorem Spells.one : Spells id 1 := by
  intro k s
  have hstay : s.past [] s.after = s := rfl
  constructor
  · intro h
    exact ⟨[], s.after, rfl, Language.nil_mem_one, by rwa [hstay]⟩
  · rintro ⟨taken, rest, hafter, htaken, h⟩
    obtain rfl : taken = [] := htaken
    obtain rfl : s.after = rest := hafter
    exact h

theorem Spells.comp (h : Spells m L) (h' : Spells m' M) : Spells (fun k => m (m' k)) (L * M) := by
  intro k s
  rw [h]
  constructor
  · rintro ⟨taken, rest, hafter, htaken, hk⟩
    obtain ⟨taken', rest', hafter', htaken', hk'⟩ := (h' k _).mp hk
    obtain rfl : rest = taken' ++ rest' := hafter'
    refine ⟨taken ++ taken', rest', by rw [hafter, List.append_assoc], ?_, ?_⟩
    · exact Language.append_mem_mul htaken htaken'
    · simpa [Cursor.past] using hk'
  · rintro ⟨both, rest, hafter, hboth, hk⟩
    obtain ⟨taken, htaken, taken', htaken', rfl⟩ := Language.mem_mul.mp hboth
    refine ⟨taken, taken' ++ rest, by rw [hafter, List.append_assoc], htaken, ?_⟩
    exact (h' k _).mpr ⟨taken', rest, rfl, htaken', by simpa [Cursor.past] using hk⟩

theorem Spells.exactly (h : Spells m L) (n : Nat) : Spells (Pattern.exactly m n) (L ^ n) := by
  induction n with
  | zero => exact .one
  | succ n ih =>
      rw [pow_succ']
      exact h.comp ih

/-- A further time round is tried, and then what follows. -/
theorem isSome_greedily_succ {k : Rest} {fuel : Nat} {last : Option Nat} {s : Cursor}
    (hlast : last ≠ some s.position) :
    (Pattern.greedily m k (fuel + 1) none last s).isSome = true ↔
      (m (Pattern.greedily m k fuel none (some s.position)) s).isSome = true ∨
        (k s).isSome = true := by
  have hgo : (none == some 0 || last == some s.position) = false := by simpa using hlast
  rw [Pattern.greedily, hgo, if_neg Bool.false_ne_true, Option.map_none]
  cases m (Pattern.greedily m k fuel none (some s.position)) s <;> simp

/-- As often as possible is any number of times, as far as success goes. -/
theorem Spells.greedily (h : Spells m L) (hmoves : [] ∉ L) {k : Rest} {fuel : Nat}
    {last : Option Nat} {s : Cursor} (hfuel : s.after.length < fuel)
    (hlast : last ≠ some s.position) :
    (Pattern.greedily m k fuel none last s).isSome = true ↔
      ∃ taken rest, s.after = taken ++ rest ∧ taken ∈ L∗ ∧
        (k (s.past taken rest)).isSome = true := by
  induction fuel generalizing last s with
  | zero => exact absurd hfuel (Nat.not_lt_zero _)
  | succ fuel ih =>
      -- A time round takes some text, so that the next one starts further on with less left.
      have hnext : ∀ taken rest, s.after = taken ++ rest → taken ∈ L →
          ((Pattern.greedily m k fuel none (some s.position) (s.past taken rest)).isSome = true ↔
            ∃ taken' rest', rest = taken' ++ rest' ∧ taken' ∈ L∗ ∧
              (k (s.past (taken ++ taken') rest')).isSome = true) := by
        intro taken rest hafter htaken
        have hne : taken ≠ [] := fun hnil => hmoves (hnil ▸ htaken)
        have hlength := List.length_pos_iff.mpr hne
        rw [hafter, List.length_append] at hfuel
        have hmoved : some s.position ≠ some (s.past taken rest).position := by
          simpa [Cursor.position, Cursor.past] using hne
        rw [ih (by simp only [Cursor.past]; omega) hmoved]
        simp [Cursor.past]
      rw [isSome_greedily_succ hlast, h, ← Language.one_add_self_mul_kstar_eq_kstar]
      constructor
      · rintro (⟨taken, rest, hafter, htaken, hmore⟩ | hstop)
        · obtain ⟨taken', rest', rfl, htaken', hk⟩ := (hnext taken rest hafter htaken).mp hmore
          exact ⟨taken ++ taken', rest', by rw [hafter, List.append_assoc],
            .inr (Language.append_mem_mul htaken htaken'), hk⟩
        · exact ⟨[], s.after, rfl, .inl rfl, hstop⟩
      · rintro ⟨both, rest, hafter, hnone | hsome, hk⟩
        · obtain rfl : both = [] := hnone
          obtain rfl : s.after = rest := hafter
          exact .inr hk
        · obtain ⟨taken, htaken, taken', htaken', rfl⟩ := Language.mem_mul.mp hsome
          rw [List.append_assoc] at hafter
          exact .inl ⟨taken, taken' ++ rest, hafter, htaken,
            (hnext taken _ hafter htaken).mpr ⟨taken', rest, rfl, htaken', hk⟩⟩

/-! ## Patterns -/

/-- Repeating a pattern that takes some text each time. -/
theorem spells_times (h : Spells p.run L) (hmoves : [] ∉ L) (least : Nat) :
    Spells (run (.times .greedy least none p)) (L ^ least * L∗) := by
  have hmore : Spells (fun k s => Pattern.greedily p.run k (s.after.length + 2) none none s) L∗ :=
    fun k s => h.greedily hmoves (by omega) nofun
  exact (h.exactly least).comp hmore

theorem spells_char (t : CharTest) : Spells (run (.char t)) t.words := by
  intro k s
  obtain ⟨before, after, marks⟩ := s
  constructor
  · intro h
    cases after with
    | nil => cases h
    | cons c rest =>
        simp only [run, Cursor.next?] at h
        split at h
        · next hc => exact ⟨[c], rest, rfl, ⟨c, hc, rfl⟩, h⟩
        · cases h
  · rintro ⟨_, rest, rfl, ⟨c, hc, rfl⟩, h⟩
    simp only [run, List.singleton_append, Cursor.next?, hc, if_true]
    exact h

/-! ## Where a pattern is found -/

theorem foundFrom_iff (p : Pattern) (before after : List Char) :
    p.foundFrom before after = true ↔
      ∃ skipped rest, after = skipped ++ rest ∧
        (p.run some ⟨skipped.reverse ++ before, rest, []⟩).isSome = true := by
  induction after generalizing before with
  | nil => simp [foundFrom]
  | cons c after ih =>
      rw [foundFrom, Bool.or_eq_true, ih]
      constructor
      · rintro (h | ⟨skipped, rest, rfl, h⟩)
        · exact ⟨[], c :: after, rfl, h⟩
        · exact ⟨c :: skipped, rest, rfl, by simpa using h⟩
      · rintro ⟨skipped, rest, hafter, h⟩
        cases skipped with
        | nil => exact .inl (by rw [hafter]; exact h)
        | cons d skipped =>
            obtain ⟨rfl, rfl⟩ := List.cons.inj hafter
            exact .inr ⟨skipped, rest, rfl, by simpa using h⟩

end Pattern
end TrustWeb
