import TrustWeb.Pattern.Basic

/-!
# Matching patterns

A pattern is matched by trying its ways in order and going back to the latest choice when what
follows fails. `Pattern.run` takes what follows as a function, so that each way is tried only when
it is needed.

A try that fails leaves nothing behind: where groups were entered and left is known from the tries
that succeeded alone. A search may also keep what failed tries have set until it is set again. For
patterns that are `Pattern.steady` that makes no difference. For the others such a search may find a
pattern where this matcher does not, or the other way round, or break off where a group would end
before it begins, and this matcher does not stand for it.
-/

namespace TrustWeb

/-- A place in the text, with the text before it read backwards, and the places where groups were
entered (even marks) and left (odd marks), latest first. -/
structure Cursor where
  before : List Char
  after : List Char
  marks : List (Nat × Nat)
  deriving DecidableEq, Repr

namespace Cursor

/-- The start of a text. -/
def start (text : List Char) : Cursor := ⟨[], text, []⟩

/-- The number of characters before the place. -/
def position (s : Cursor) : Nat := s.before.length

/-- The cursor with a mark set at its place. -/
def mark (s : Cursor) (index : Nat) : Cursor :=
  { s with marks := (index, s.position) :: s.marks }

/-- The extent of a group that was entered and left. -/
def extent? (s : Cursor) (index : Nat) : Option (Nat × Nat) :=
  match s.marks.lookup (2 * index), s.marks.lookup (2 * index + 1) with
  | some first, some last => if first ≤ last then some (first, last) else none
  | _, _ => none

/-- The text of a group. -/
def groupText? (s : Cursor) (index : Nat) : Option (List Char) :=
  (s.extent? index).map fun (first, last) =>
    ((s.before.reverse ++ s.after).drop first).take (last - first)

/-- The cursor one character on. -/
def next? (s : Cursor) : Option (Char × Cursor) :=
  match s.after with
  | [] => none
  | c :: rest => some (c, { s with before := c :: s.before, after := rest })

/-- The cursor `n` characters back. -/
def back? (s : Cursor) (n : Nat) : Option Cursor :=
  if n ≤ s.before.length then
    some { s with before := s.before.drop n, after := (s.before.take n).reverse ++ s.after }
  else none

/-- The cursor after text that agrees with `wanted`. -/
def skip? (rule : CaseRule) (s : Cursor) : List Char → Option Cursor
  | [] => some s
  | w :: wanted =>
    match s.next? with
    | some (c, s') => if rule.fold w.toNat == rule.fold c.toNat then skip? rule s' wanted else none
    | none => none

end Cursor

namespace Pattern

/-- What is tried after a part of a pattern. -/
abbrev Rest := Cursor → Option Cursor

/-- The body `n` times, then the rest. -/
def exactly (body : Rest → Rest) : Nat → Rest → Rest
  | 0, k => k
  | n + 1, k => body (exactly body n k)

/-- The body as often as possible, at most `left` more times, then the rest. A body that did not
move is not tried again at the same place; `last` is the place of the latest try. -/
def greedily (body : Rest → Rest) (k : Rest) : Nat → Option Nat → Option Nat → Rest
  | 0, _, _, s => k s
  | fuel + 1, left, last, s =>
    if left == some 0 || last == some s.position then k s
    else
      match body (greedily body k fuel (left.map (· - 1)) (some s.position)) s with
      | some found => some found
      | none => k s

/-- The rest, or the body as rarely as possible and then the rest. -/
def lazily (body : Rest → Rest) (k : Rest) : Nat → Option Nat → Option Nat → Rest
  | 0, _, _, s => k s
  | fuel + 1, left, last, s =>
    match k s with
    | some found => some found
    | none =>
      if left == some 0 || last == some s.position then none
      else body (lazily body k fuel (left.map (· - 1)) (some s.position)) s

/-- The place after matching the body as often as possible, each time in its first way. -/
def eagerly (body : Rest → Rest) : Nat → Option Nat → Option Nat → Cursor → Cursor
  | 0, _, _, s => s
  | fuel + 1, left, last, s =>
    if left == some 0 || last == some s.position then s
    else
      match body some s with
      | some s' => eagerly body fuel (left.map (· - 1)) (some s.position) s'
      | none => s

/-- The place after matching the body `n` times, each time in its first way. -/
def firmly (body : Rest → Rest) : Nat → Cursor → Option Cursor
  | 0, s => some s
  | n + 1, s =>
    match body some s with
    | some s' => firmly body n s'
    | none => none

/-- The least and greatest length of the text a pattern matches; a repetition without bound counts
as longer than any text. -/
def widths : Pattern → Nat × Nat
  | .empty => (0, 0)
  | .char _ => (1, 1)
  | .anchor _ => (0, 0)
  | .seq p q => (p.widths.1 + q.widths.1, p.widths.2 + q.widths.2)
  | .alt p q => (min p.widths.1 q.widths.1, max p.widths.2 q.widths.2)
  | .times _ least most p =>
    (least * p.widths.1,
      match most with
      | some n => n * p.widths.2
      | none => if p.widths.2 == 0 then 0 else Nat.pow 2 64)
  | .group _ p => p.widths
  | .again _ _ shortest longest => (shortest, longest)
  | .given _ p q => (min p.widths.1 q.widths.1, max p.widths.2 q.widths.2)
  | .ahead _ _ => (0, 0)
  | .behind _ _ => (0, 0)
  | .atomic p => p.widths

/-- The end of the first way to match the pattern at a place such that the rest succeeds after it,
as the rest gives it. -/
def run : Pattern → Rest → Rest
  | .empty, k, s => k s
  | .char test, k, s =>
    match s.next? with
    | some (c, s') => if test.holds c then k s' else none
    | none => none
  | .anchor place, k, s => if place.holds s.before s.after then k s else none
  | .seq p q, k, s => run p (run q k) s
  | .alt p q, k, s =>
    match run p k s with
    | some found => some found
    | none => run q k s
  | .times style least most p, k, s =>
    let left := most.map (· - least)
    match style with
    | .greedy =>
      exactly (run p) least
        (fun s' => greedily (run p) k (s'.after.length + 2) left none s') s
    | .lazy =>
      exactly (run p) least
        (fun s' => lazily (run p) k (s'.after.length + 2) left none s') s
    | .possessive =>
      match firmly (run p) least s with
      | some s' => k (eagerly (run p) (s'.after.length + 2) left none s')
      | none => none
  | .group index p, k, s => run p (fun s' => k (s'.mark (2 * index + 1))) (s.mark (2 * index))
  | .again rule index _ _, k, s =>
    match s.groupText? index with
    | some wanted =>
      match Cursor.skip? rule s wanted with
      | some s' => k s'
      | none => none
    | none => none
  | .given index p q, k, s =>
    match s.extent? index with
    | some _ => run p k s
    | none => run q k s
  | .ahead negated p, k, s =>
    match run p some s with
    | some s' => if negated then none else k { s with marks := s'.marks }
    | none => if negated then k s else none
  | .behind negated p, k, s =>
    match s.back? p.widths.1 with
    | some b =>
      match run p some b with
      | some s' => if negated then none else k { s with marks := s'.marks }
      | none => if negated then k s else none
    | none => if negated then k s else none
  | .atomic p, k, s =>
    match run p some s with
    | some s' => k s'
    | none => none

/-- Whether the pattern matches at the cursor or at a later place. -/
def foundFrom (p : Pattern) (before : List Char) : List Char → Bool
  | [] => (p.run some ⟨before, [], []⟩).isSome
  | c :: rest =>
    (p.run some ⟨before, c :: rest, []⟩).isSome || foundFrom p (c :: before) rest

/-- Whether the pattern matches somewhere in the text. -/
def foundIn (p : Pattern) (text : String) : Bool := foundFrom p [] text.toList

/-- Whether every look behind, at any depth, has a body of one length below 2^32. -/
def looksBehindFixed : Pattern → Bool
  | .seq p q => looksBehindFixed p && looksBehindFixed q
  | .alt p q => looksBehindFixed p && looksBehindFixed q
  | .times _ _ _ p => looksBehindFixed p
  | .group _ p => looksBehindFixed p
  | .given _ p q => looksBehindFixed p && looksBehindFixed q
  | .ahead _ p => looksBehindFixed p
  | .behind _ p => p.widths.1 == p.widths.2 && p.widths.1 < Nat.pow 2 32 && looksBehindFixed p
  | .atomic p => looksBehindFixed p
  | _ => true

/-- Whether a group occurs in the pattern. -/
def hasGroup : Pattern → Bool
  | .seq p q => hasGroup p || hasGroup q
  | .alt p q => hasGroup p || hasGroup q
  | .times _ _ _ p => hasGroup p
  | .group _ _ => true
  | .given _ p q => hasGroup p || hasGroup q
  | .ahead _ p => hasGroup p
  | .behind _ p => hasGroup p
  | .atomic p => hasGroup p
  | _ => false

/-- Whether no possessive repetition in the pattern goes around a group, and no condition in it
looks at a group that is still open; the pattern itself is inside the given groups. -/
def steadyWithin (groups : List Nat) : Pattern → Bool
  | .seq p q => steadyWithin groups p && steadyWithin groups q
  | .alt p q => steadyWithin groups p && steadyWithin groups q
  | .times style _ _ p => !(style == .possessive && p.hasGroup) && steadyWithin groups p
  | .group index p => steadyWithin (index :: groups) p
  | .given index p q =>
    !groups.contains index && steadyWithin groups p && steadyWithin groups q
  | .ahead _ p => steadyWithin groups p
  | .behind _ p => steadyWithin groups p
  | .atomic p => steadyWithin groups p
  | _ => true

/-- Whether it makes no difference to the pattern what failed tries leave behind. -/
def steady (p : Pattern) : Bool := p.steadyWithin []

/-- Whether a repetition occurs in the pattern. -/
def repeats : Pattern → Bool
  | .seq p q => repeats p || repeats q
  | .alt p q => repeats p || repeats q
  | .times _ _ _ _ => true
  | .group _ p => repeats p
  | .given _ p q => repeats p || repeats q
  | .ahead _ p => repeats p
  | .behind _ p => repeats p
  | .atomic p => repeats p
  | _ => false

end Pattern

end TrustWeb
