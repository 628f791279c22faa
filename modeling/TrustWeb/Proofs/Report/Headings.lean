import Mathlib
import TrustWeb.Report
import TrustWeb.Proofs.Authentication.Run
import TrustWeb.Proofs.Path.Book
import TrustWeb.Proofs.PathCheck.Soundness
import TrustWeb.Proofs.Web.Bindings

/-! # The headings of reported paths

A report of several paths has a heading for each of them, with the amount that the path carries. The
binding has the sum of what the paths contribute, and a path contributes less than it carries where
an earlier one has taken from its edges. The amounts in the headings are then more than the amount
that is reported above them. -/

namespace TrustWeb

/-! ## Lines that are headings -/

namespace Report

/-- The heading of a path: its number, of how many, and an amount. -/
def pathHeading (count index : Nat) (amount : Int) : String :=
  "  Path #" ++ toString index ++ " of " ++ toString count ++ ", trust amount " ++
    toString amount ++ ":"

/-- Whether a line starts like the heading of a path. -/
def isHeading (line : String) : Bool := "  Path #".toList.isPrefixOf line.toList

/-- The headings among some lines are those of paths that are numbered from `index` on, of `count`
in all, with the given amounts. -/
def Headed (count index : Nat) (amounts : List Int) (lines : List String) : Prop :=
  lines.filter isHeading =
    (amounts.zipIdx index).map fun (amount, index) => pathHeading count index amount

theorem isHeading_pathHeading (count index : Nat) (amount : Int) :
    isHeading (pathHeading count index amount) = true := by
  rw [isHeading, List.isPrefixOf_iff_prefix, pathHeading]
  simp only [String.toList_append, List.append_assoc]
  exact List.prefix_append _ _

theorem isHeading_indented (line : String) : isHeading ("    " ++ line) = false := by
  have hindent : "    ".toList = [' ', ' ', ' ', ' '] := by decide +kernel
  have hstart : "  Path #".toList = [' ', ' ', 'P', 'a', 't', 'h', ' ', '#'] := by decide +kernel
  rw [isHeading, String.toList_append, hindent, hstart]
  rfl

theorem exists_indented_signaturesLines (indent : String) (ss : List Signature) :
    ∀ line ∈ signaturesLines indent ss, ∃ text, line = indent ++ text := by
  have hone : ∀ isLast s, ∀ line ∈ signatureLines indent isLast s,
      ∃ text, line = indent ++ text := by
    simp only [signatureLines, String.append_assoc, List.forall_mem_cons]
    exact fun isLast s => ⟨⟨_, rfl⟩, ⟨_, rfl⟩, nofun⟩
  induction ss with
  | nil => nofun
  | cons s rest ih =>
      cases rest with
      | nil => exact hone true s
      | cons t rest => exact List.forall_mem_append.mpr ⟨hone false s, ih⟩

/-- Among the lines for a path with a heading there is no other heading. -/
theorem filter_pathLines (p : Path) : (pathLines "    " p).filter isHeading = [] := by
  have hindented : ∀ line ∈ pathLines "    " p, ∃ text, line = "    " ++ text := by
    simp only [pathLines, String.append_assoc, List.forall_mem_cons]
    exact ⟨⟨_, rfl⟩, exists_indented_signaturesLines _ _⟩
  refine List.filter_eq_nil_iff.mpr fun line hline => ?_
  obtain ⟨text, rfl⟩ := hindented line hline
  rw [isHeading_indented]
  exact Bool.false_ne_true

theorem headed_numberedLines (count index : Nat) (items : List PathItem) :
    Headed count index (items.map (·.path.amount)) (numberedLines count index items) := by
  unfold Headed
  induction items generalizing index with
  | nil => rfl
  | cons item rest ih =>
      -- The blank line before the next path is no heading.
      have hmore : (if rest.isEmpty then [] else "" :: numberedLines count (index + 1) rest).filter
          isHeading = (numberedLines count (index + 1) rest).filter isHeading := by
        cases rest with
        | nil => rfl
        | cons other rest => exact List.filter_cons_of_neg (by decide +kernel)
      have hheading := isHeading_pathHeading count index item.path.amount
      rw [pathHeading] at hheading
      rw [numberedLines, List.cons_append, List.filter_cons_of_pos hheading, List.filter_append,
        filter_pathLines, hmore, ih]
      rfl

/-- Several paths have a heading each, with what they carry. -/
theorem headed_pathsLines {items : List PathItem} (h : 2 ≤ items.length) :
    Headed items.length 1 (items.map (·.path.amount)) (pathsLines items) := by
  match items with
  | [] => simp at h
  | [_] => simp at h
  | i :: j :: rest => exact headed_numberedLines _ 1 (i :: j :: rest)

end Report

/-! ## Amounts -/

namespace Paths

variable {ps : Paths}

/-- What each path carries, and its heading shows. -/
def announced (ps : Paths) : List Int := ps.items.map (·.path.amount)

/-- The same paths, if each contributed all that it carries. -/
def inFull (ps : Paths) : Paths := ⟨ps.items.map fun i => ⟨i.path, i.path.amount⟩⟩

/-- No path contributes more than it carries. -/
def Within (ps : Paths) : Prop := ∀ i ∈ ps.items, i.amount ≤ i.path.amount

theorem Within.amount_le (h : ps.Within) : ps.amount ≤ ps.announced.sum := by
  rw [PathBook.amount_eq_sum]
  exact List.sum_le_sum h

theorem Within.announced_eq_iff (h : ps.Within) :
    ps.announced.sum = ps.amount ↔ ∀ i ∈ ps.items, i.amount = i.path.amount := by
  rw [PathBook.amount_eq_sum]
  constructor
  · intro hsame i hi
    by_contra hne
    have hless := List.sum_lt_sum _ _ h ⟨i, hi, lt_of_le_of_ne (h i hi) hne⟩
    exact hless.ne' hsame
  · intro hall
    rw [announced, List.map_congr_left hall]

theorem inFull_eq (h : ∀ i ∈ ps.items, i.amount = i.path.amount) : ps.inFull = ps := by
  have hitems : ps.items.map (fun i => ⟨i.path, i.path.amount⟩) = ps.items := by
    conv_rhs => rw [← List.map_id ps.items]
    exact List.map_congr_left fun i hi => by rw [← h i hi, id]
  rw [inFull, hitems]

end Paths

theorem Paths.le_amount_of_add {ps ps' : Paths} {p : Path} {amount : Int}
    (h : ps.add p amount = .ok ps') : amount ≤ p.amount := by
  unfold add at h
  split at h
  · cases h
  · next hle => exact not_lt.mp hle

/-- The paths of an authentication contribute no more than they carry, and over no edge more than
full trust together. -/
theorem Query.within_of_authenticate {q : Query} (hkeys : q.network.WellKeyed) {f : Fingerprint}
    {subject : Subject} {wanted : Int} {paths : Paths}
    (h : q.authenticate f subject wanted = .ok paths) :
    paths.Within ∧ ∀ k, paths.carried k ≤ fullTrust := by
  have hstep : ∀ r ps best, q.Balanced r ps → ps.Within → q.roots.isRoot best.start = true →
      (q.searchIn r f subject).Sound best →
      Paths.Within ⟨ps.items ++ [⟨best.path, best.amount⟩]⟩ := by
    intro r ps best B hps _ hsound
    obtain ⟨-, -, hadd, -⟩ := B.step hkeys hsound
    exact List.forall_mem_append.mpr
      ⟨hps, List.forall_mem_singleton.mpr (Paths.le_amount_of_add hadd)⟩
  obtain ⟨hwithin, r, B⟩ :=
    (collects_of_authenticate hkeys h).preserves hkeys q.balanced_start nofun hstep
  exact ⟨hwithin, B.within⟩

namespace Web

variable {w : Web} {b : Binding}

/-- The report of a binding that a query gives, if it has several paths, states the level and the
percentage of its amount, and then has a heading for each path with the amount that the path
carries. These amounts add up to no less than the amount of the binding; they add up to it exactly
if every path contributes all that it carries, and to more where the paths over an edge carry more
than full trust together. -/
theorem report_headings (hkeys : w.network.WellKeyed) (h : w.Gives b)
    (hseveral : 2 ≤ b.paths.items.length) (least : Int) {reference : Int}
    (hreference : reference ≠ 0) :
    ∃ first lines percentage,
      Report.binding b least reference =
        .ok (String.intercalate "\n" (first :: lines) ++ "\n") ∧
      b.percentage reference = .ok percentage ∧
      first = (if b.amount ≥ least then "[✓] " else "[ ] ") ++ b.fingerprint.text ++ " " ++
        b.subject.shown ++ ": " ++ Report.level b.amount ++ " authenticated (" ++
        toString percentage ++ "%)" ∧
      Report.Headed b.paths.items.length 1 b.paths.announced lines ∧
      b.amount ≤ b.paths.announced.sum ∧
      (b.paths.announced.sum = b.amount ↔ ∀ i ∈ b.paths.items, i.amount = i.path.amount) ∧
      ∀ k, fullTrust < b.paths.inFull.carried k → b.amount < b.paths.announced.sum := by
  obtain ⟨f, subject, hpaths⟩ := h.authenticated (List.ne_nil_of_length_pos (by omega))
  obtain ⟨hwithin, hedges⟩ := Query.within_of_authenticate hkeys hpaths
  have hpercentage : b.percentage reference = .ok (Int.fdiv (b.amount * 100) reference) := by
    simp [Binding.percentage, hreference]
  refine ⟨_, Report.pathsLines b.paths.items, _, ?_, hpercentage, rfl,
    Report.headed_pathsLines hseveral, hwithin.amount_le, hwithin.announced_eq_iff, fun k hk => ?_⟩
  · rw [Report.binding, hpercentage]
    rfl
  · refine lt_of_le_of_ne hwithin.amount_le fun hsame => not_lt.mpr (hedges k) ?_
    rwa [Paths.inFull_eq (hwithin.announced_eq_iff.mp hsame.symm)] at hk

end Web

namespace Introduction

/-- The path over `B` is the second one that is found; the paths share no edge. -/
theorem items_web :
    (web.authenticate ⟨"C"⟩ (.userId "carol@example.org") false).toOption.map (fun v =>
      v.binding.paths.items.map fun i => (i.amount, i.path.amount)) =
        some [(30, 30), (60, 60)] := by
  cbv

end Introduction

theorem Web.report_headings_introduction :
    Introduction.web.network.WellKeyed ∧
      ∃ v, Introduction.web.authenticate ⟨"C"⟩ (.userId "carol@example.org") false = .ok v ∧
        v.binding.paths.items.length = 2 ∧
        ∃ first lines, Report.binding v.binding fullTrust fullTrust =
            .ok (String.intercalate "\n" (first :: lines) ++ "\n") ∧
          Report.Headed 2 1 [30, 60] lines ∧ v.binding.amount = 30 + 60 := by
  obtain ⟨v, hv, hitems⟩ := exists_ok_of_toOption Introduction.items_web
  have hlength : v.binding.paths.items.length = 2 := by simpa using congrArg List.length hitems
  have hamounts : v.binding.paths.items.map (·.amount) = [30, 60] := by
    simpa [Function.comp_def] using congrArg (List.map Prod.fst) hitems
  have hshown : v.binding.paths.announced = [30, 60] := by
    simpa [Paths.announced, Function.comp_def] using congrArg (List.map Prod.snd) hitems
  have hfull : ∀ i ∈ v.binding.paths.items, i.amount = i.path.amount :=
    List.map_inj_left.mp (hamounts.trans hshown.symm)
  obtain ⟨first, lines, -, htext, -, -, hheaded, -, hsum, -⟩ :=
    Web.report_headings Introduction.wellKeyed_complete (.authenticate hv) hlength.ge fullTrust
      (by decide : fullTrust ≠ 0)
  rw [hlength, hshown] at hheaded
  exact ⟨Introduction.wellKeyed_complete, v, hv, hlength, first, lines, htext, hheaded,
    (hsum.mpr hfull).symm.trans (by rw [hshown]; rfl)⟩

/-! ### A shared edge

Where two signatures of `A` over `B` coexist, the path that `B` ends takes 60 from the edge of `A`
and `B`, so that the path over `D` contributes 20. -/

namespace Coexisting

theorem items_web :
    (web.authenticate ⟨"C"⟩ (.userId "carol@example.org") false).toOption.map (fun v =>
      v.binding.paths.items.map fun i => (i.amount, i.path.amount)) =
        some [(60, 60), (20, 80)] := by
  cbv

end Coexisting

/-- The binding has an amount of 80, and the headings of its paths show 60 and 80. -/
theorem Web.report_headings_exceed :
    ∃ v, Coexisting.web.authenticate ⟨"C"⟩ (.userId "carol@example.org") false = .ok v ∧
      v.binding.amount = 80 ∧
      (Report.pathsLines v.binding.paths.items).filter Report.isHeading =
        [Report.pathHeading 2 1 60, Report.pathHeading 2 2 80] := by
  obtain ⟨v, hv, hitems⟩ := exists_ok_of_toOption Coexisting.items_web
  have hlength : v.binding.paths.items.length = 2 := by simpa using congrArg List.length hitems
  have hamounts : v.binding.paths.items.map (·.amount) = [60, 20] := by
    simpa [Function.comp_def] using congrArg (List.map Prod.fst) hitems
  have hshown : v.binding.paths.items.map (·.path.amount) = [60, 80] := by
    simpa [Function.comp_def] using congrArg (List.map Prod.snd) hitems
  refine ⟨v, hv, ?_, ?_⟩
  · rw [Binding.amount, PathBook.amount_eq_sum, hamounts]
    rfl
  · have hheaded := Report.headed_pathsLines hlength.ge
    rw [hlength, hshown] at hheaded
    exact hheaded

end TrustWeb
