import Mathlib
import TrustWeb.Text.Blank
import TrustWeb.Text.Upper

/-! # Capitals

The characters that a capital is made of are capitals of themselves, and none of them is blank, so
that text in upper case stays as it is and has the blanks of the text that it comes from. The tables
are compared row by row: what a shift moves code points to is a row of code points again, with the
same steps, and such a row lies apart from all that is moved, expanded or blank. -/

namespace TrustWeb.Text

/-! ## Rows of code points -/

namespace Shift

variable {a b s : Shift} {n : Nat}

/-- The row of the images of a shift, which moves them back. -/
def back (s : Shift) : Shift :=
  ⟨(s.first + s.distance).toNat, (s.last + s.distance).toNat, s.step, -s.distance⟩

/-- The row of one code point. -/
def single (n : Nat) : Shift := ⟨n, n, 1, 0⟩

/-- Whether two rows lie apart: one ends before the other begins, or the second one skips all of the
first. -/
def apart (a b : Shift) : Bool :=
  a.last.blt b.first || b.last.blt a.first ||
    ((a.step % b.step == 0 || a.first == a.last) && a.first % b.step != b.first % b.step)

/-- Whether code points from `first` to `last` are all outside the class with the given runs. -/
def outside : List Nat → (first last : Nat) → Bool
  | skipped :: inside :: rest, first, last =>
    last.blt skipped ||
      ((skipped + inside).ble first &&
        outside rest (first - (skipped + inside)) (last - (skipped + inside)))
  | _, _, _ => true

theorem moves_iff :
    s.moves n = true ↔ s.first ≤ n ∧ n ≤ s.last ∧ n ≡ s.first [MOD s.step] := by
  simp only [moves, Bool.and_eq_true, decide_eq_true_eq, beq_iff_eq, and_assoc]
  refine and_congr_right fun hfirst => and_congr_right fun _ => ?_
  rw [Nat.ModEq.comm, Nat.modEq_iff_dvd' hfirst, Nat.dvd_iff_mod_eq_zero]

theorem moves_single : (single n).moves n = true := by simp [moves, single]

/-- The image of a code point stands in the row of the images. -/
theorem moves_back (hfirst : 0 ≤ s.first + s.distance) (h : s.moves n = true) :
    s.back.moves (n + s.distance).toNat = true := by
  obtain ⟨hlow, hhigh, hstep⟩ := moves_iff.mp h
  have himage : (n + s.distance).toNat = s.back.first + (n - s.first) := by
    simp only [back]
    omega
  have hoffset : n - s.first ≡ 0 [MOD s.step] := by
    rw [Nat.modEq_zero_iff_dvd]
    exact (Nat.modEq_iff_dvd' hlow).mp hstep.symm
  refine moves_iff.mpr ⟨?_, ?_, ?_⟩
  · omega
  · simp only [back]
    omega
  · rw [himage]
    exact hoffset.add_left s.back.first

theorem not_moves_of_apart (h : a.apart b = true) (hn : a.moves n = true) :
    b.moves n = false := by
  obtain ⟨hlow, hhigh, hstep⟩ := moves_iff.mp hn
  rw [← Bool.not_eq_true, moves_iff]
  rintro ⟨hlow', hhigh', hstep'⟩
  simp only [apart, Bool.or_eq_true, Bool.and_eq_true, beq_iff_eq, bne_iff_ne, Nat.blt_eq] at h
  rcases h with (h | h) | ⟨hcoarse, hskips⟩
  · omega
  · omega
  · refine hskips (Nat.ModEq.trans ?_ hstep')
    rcases hcoarse with hcoarse | hone
    · exact (hstep.of_dvd (Nat.dvd_of_mod_eq_zero hcoarse)).symm
    · rw [show n = a.first by omega]

theorem inRuns_of_outside {runs : List Nat} {first last : Nat}
    (h : outside runs first last = true) (hfirst : first ≤ n) (hlast : n ≤ last) :
    inRuns runs n = false := by
  fun_induction outside runs first last generalizing n with
  | case1 skipped inside rest first last ih =>
      simp only [Bool.or_eq_true, Bool.and_eq_true, Nat.blt_eq, Nat.ble_eq] at h
      rw [inRuns]
      rcases h with hbefore | ⟨hafter, hrest⟩
      · rw [if_pos (by omega)]
      · rw [if_neg (by omega), if_neg (by omega)]
        exact ih hrest (by omega) (by omega)
  | case2 runs first last hshort =>
      rw [inRuns]
      exact hshort

end Shift

/-! ## Code points that capitals are made of -/

/-- A code point that upper-casing keeps, and that is not blank. -/
structure Settled (n : Nat) : Prop where
  unmoved : ∀ s ∈ upperShifts, s.moves n = false
  whole : upperExpansions.lookup n = none
  valid : n.isValidChar
  visible : inRuns blankRuns n = false

/-- Whether a row of characters lies apart from all code points that have other capitals, and from
those that are blank. -/
def settles (a : Shift) : Bool :=
  upperShifts.all a.apart &&
    upperExpansions.all (fun entry => entry.1.blt a.first || a.last.blt entry.1) &&
    Shift.outside blankRuns a.first a.last &&
    (a.last.blt 0xd800 || (Nat.blt 0xdfff a.first && a.last.blt 0x110000))

theorem settled_of_settles {a : Shift} {n : Nat} (h : settles a = true) (hn : a.moves n = true) :
    Settled n := by
  obtain ⟨hlow, hhigh, -⟩ := Shift.moves_iff.mp hn
  simp only [settles, Bool.and_eq_true, Bool.or_eq_true, List.all_eq_true, Nat.blt_eq] at h
  obtain ⟨⟨⟨hshifts, hexpansions⟩, hblanks⟩, hvalid⟩ := h
  refine ⟨fun s hs => Shift.not_moves_of_apart (hshifts s hs) hn, ?_, ?_,
    Shift.inRuns_of_outside hblanks hlow hhigh⟩
  · rw [List.lookup_eq_none_iff]
    intro entry hentry
    have hapart := hexpansions entry hentry
    rw [bne_iff_ne]
    omega
  · rw [Nat.isValidChar]
    omega

/-- The rows that the shifts lead to are rows of capitals. -/
theorem settles_images :
    (upperShifts.all fun s => decide (0 ≤ s.first + s.distance) && settles s.back) = true := by
  decide +kernel

/-- Expansions are made of capitals. -/
theorem settles_expansions :
    (upperExpansions.all fun entry =>
      !entry.2.isEmpty && entry.2.all fun n => settles (.single n)) = true := by
  decide +kernel

theorem toNat_ofNat {n : Nat} (h : n.isValidChar) : (Char.ofNat n).toNat = n := by
  rw [Char.ofNat, dif_pos h]
  rfl

/-- A character is its own capital, or has one that is made of other capitals. -/
theorem upperChar_cases (c : Char) :
    upperChar c = [c] ∨ upperChar c ≠ [] ∧ ∀ d ∈ upperChar c, Settled d.toNat := by
  rw [upperChar]
  cases hexpansion : upperExpansions.lookup c.toNat with
  | some codes =>
      right
      obtain ⟨front, back, hentries, -⟩ := List.lookup_eq_some_iff.mp hexpansion
      have hentry : (c.toNat, codes) ∈ upperExpansions := hentries ▸ by simp
      have hcodes := List.all_eq_true.mp settles_expansions _ hentry
      simp only [Bool.and_eq_true, Bool.not_eq_true', List.isEmpty_eq_false_iff,
        List.all_eq_true] at hcodes
      refine ⟨by simpa using hcodes.1, List.forall_mem_map.mpr fun n hn => ?_⟩
      have hsettled := settled_of_settles (hcodes.2 n hn) Shift.moves_single
      rwa [toNat_ofNat hsettled.valid]
  | none =>
      simp only [Shift.apply]
      cases hshift : upperShifts.find? (·.moves c.toNat) with
      | none =>
          left
          simp
      | some s =>
          right
          have hs := List.all_eq_true.mp settles_images s (List.mem_of_find?_eq_some hshift)
          simp only [Bool.and_eq_true, decide_eq_true_eq] at hs
          have hmoves := List.find?_some hshift
          have hsettled := settled_of_settles hs.2 (Shift.moves_back hs.1 hmoves)
          refine ⟨List.cons_ne_nil _ _, List.forall_mem_singleton.mpr ?_⟩
          rwa [toNat_ofNat hsettled.valid]

theorem upperChar_of_settled {c : Char} (h : Settled c.toNat) : upperChar c = [c] := by
  simp [upperChar, h.whole, Shift.apply_of_not_moves h.unmoved]

theorem upperChar_ne_nil (c : Char) : upperChar c ≠ [] := by
  rcases upperChar_cases c with hown | ⟨hne, -⟩
  · simp [hown]
  · exact hne

theorem flatMap_upperChar (c : Char) : (upperChar c).flatMap upperChar = upperChar c := by
  rcases upperChar_cases c with hown | ⟨-, hsettled⟩
  · simp [hown]
  · calc (upperChar c).flatMap upperChar = (upperChar c).flatMap fun d => [d] :=
          List.flatMap_congr fun d hd => upperChar_of_settled (hsettled d hd)
      _ = upperChar c := List.flatMap_singleton' _

/-- Text in upper case stays as it is. -/
theorem upper_upper (s : String) : upper (upper s) = upper s := by
  simp only [upper, String.toList_ofList, List.flatMap_assoc, flatMap_upperChar]

/-- Only a blank has a blank in its capital. -/
theorem isBlank_of_mem_upperChar {c d : Char} (hd : d ∈ upperChar c) (hblank : isBlank d = true) :
    isBlank c = true := by
  rcases upperChar_cases c with hown | ⟨-, hsettled⟩
  · rw [hown, List.mem_singleton] at hd
    rwa [← hd]
  · have hvisible := (hsettled d hd).visible
    rw [isBlank, hvisible] at hblank
    cases hblank

end TrustWeb.Text
