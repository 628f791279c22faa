import TrustWeb.Pattern.Matcher
import TrustWeb.Text.CharacterName
import TrustWeb.Text.Name
import TrustWeb.Text.Numeral

/-!
# Reading patterns

A pattern is written as a sequence of characters and of characters after a reverse solidus. The
reader goes through it once from the left; the first fault decides the outcome. Look-behinds of
varying length are found after the whole pattern is read.
-/

namespace TrustWeb.Pattern

/-- Why text is not read as a pattern. -/
inductive ReadError where
  | malformed
  | repetitionTooLarge
  /-- A repetition count with too many digits. -/
  | numeralLength (digits : Nat)
  /-- An escape for a code point that is beyond any encoding. -/
  | codeTooLarge
  | clashingFlags
  deriving DecidableEq, Repr

/-- A piece of a written pattern. A reverse solidus at the end has nothing to stand before. -/
inductive Token where
  | char (c : Char)
  | escape (c : Char)
  | dangling
  deriving DecidableEq, Repr

/-- The pieces of a written pattern. -/
def Token.ofChars : List Char → List Token
  | [] => []
  | ['\\'] => [.dangling]
  | '\\' :: c :: rest => .escape c :: ofChars rest
  | c :: rest => .char c :: ofChars rest

/-- The characters of a piece. -/
def Token.chars : Token → List Char
  | .char c => [c]
  | .escape c => ['\\', c]
  | .dangling => ['\\']

/-- The flags that are in force for a part of a pattern. -/
structure Flags where
  ignoreCase : Bool := false
  multiLine : Bool := false
  dotAll : Bool := false
  verbose : Bool := false
  latinOnly : Bool := false
  allScripts : Bool := false
  template : Bool := false
  deriving DecidableEq, Repr

namespace Flags

/-- The flag with a letter. -/
def ofLetter? : Char → Option Flags
  | 'i' => some { ignoreCase := true }
  | 'm' => some { multiLine := true }
  | 's' => some { dotAll := true }
  | 'x' => some { verbose := true }
  | 'a' => some { latinOnly := true }
  | 'u' => some { allScripts := true }
  | 't' => some { template := true }
  | _ => none

/-- All flags of either. -/
def union (f g : Flags) : Flags where
  ignoreCase := f.ignoreCase || g.ignoreCase
  multiLine := f.multiLine || g.multiLine
  dotAll := f.dotAll || g.dotAll
  verbose := f.verbose || g.verbose
  latinOnly := f.latinOnly || g.latinOnly
  allScripts := f.allScripts || g.allScripts
  template := f.template || g.template

/-- Whether no flag is in both. -/
def disjoint (f g : Flags) : Bool :=
  !(f.ignoreCase && g.ignoreCase) && !(f.multiLine && g.multiLine) && !(f.dotAll && g.dotAll) &&
    !(f.verbose && g.verbose)

/-- The flags inside a group that adds some and drops some. A group that names its scripts forgets
which were named outside. -/
def within (f added dropped : Flags) : Flags where
  ignoreCase := (f.ignoreCase || added.ignoreCase) && !dropped.ignoreCase
  multiLine := (f.multiLine || added.multiLine) && !dropped.multiLine
  dotAll := (f.dotAll || added.dotAll) && !dropped.dotAll
  verbose := (f.verbose || added.verbose) && !dropped.verbose
  latinOnly := added.latinOnly || (f.latinOnly && !added.allScripts)
  allScripts := added.allScripts || (f.allScripts && !added.latinOnly)
  template := f.template

/-- How characters are compared under the flags. -/
def rule (f : Flags) : CaseRule :=
  if f.ignoreCase then (if f.latinOnly then .latin else .full) else .exact

end Flags

/-- What is known while reading: the pieces not yet read, the flags of the whole pattern, the named
groups, the lengths of the groups that are closed, the number of groups when the outermost
look-behind was entered, and the groups that conditions ask about. -/
structure Reading where
  rest : List Token
  flags : Flags := {}
  names : List (List Char × Nat) := []
  groups : List (Option (Nat × Nat)) := []
  behindFrom : Option Nat := none
  asked : List Nat := []

/-- A step of reading. -/
abbrev Reader (α : Type) := StateT Reading (Except ReadError) α

namespace Reader

/-- The pattern is malformed. -/
def fail {α : Type} : Reader α := throw .malformed

/-- Goes on with the given pieces, of which the next may not be dangling. -/
def goOn (rest : List Token) : Reader Unit :=
  match rest with
  | .dangling :: _ => fail
  | _ => modify fun r => { r with rest := rest }

/-- The next piece. -/
def peek? : Reader (Option Token) := do return (← get).rest.head?

/-- Takes the next piece. -/
def take? : Reader (Option Token) := do
  match (← get).rest with
  | [] => return none
  | t :: rest => goOn rest; return some t

/-- Takes the next piece, which has to exist. -/
def take : Reader Token := do
  match ← take? with
  | some t => return t
  | none => fail

/-- Takes the next piece if it is the given character. -/
def accept (c : Char) : Reader Bool := do
  match (← get).rest with
  | .char d :: rest => if d == c then goOn rest; return true else return false
  | _ => return false

/-- The next piece has to be the given character. -/
def expect (c : Char) : Reader Unit := do
  unless ← accept c do fail

/-- Takes up to `limit` characters that pass a test. -/
def takeWhile (limit : Nat) (test : Char → Bool) : Reader (List Char) :=
  match limit with
  | 0 => return []
  | limit + 1 => do
    match (← get).rest with
    | .char c :: rest =>
      if test c then
        goOn rest
        return c :: (← takeWhile limit test)
      else return []
    | _ => return []

/-- Takes the characters before the next `stop`, of which there has to be one, and the `stop`. -/
def takeUntil (stop : Char) (fuel : Nat) : Reader (List Char) :=
  match fuel with
  | 0 => fail
  | fuel + 1 => do
    match ← take with
    | .char c => if c == stop then return [] else return c :: (← takeUntil stop fuel)
    | t => return t.chars ++ (← takeUntil stop fuel)

/-- A non-empty name that ends at the next `stop`. -/
def name (stop : Char) : Reader (List Char) := do
  let cs ← takeUntil stop ((← get).rest.length + 1)
  if cs.isEmpty then fail else return cs

/-- Whether group `index` is closed. -/
def isClosed (index : Nat) : Reader Bool := do
  match (← get).groups[index - 1]? with
  | some (some _) => return index != 0
  | _ => return false

/-- A look-behind may only ask about groups that were closed before it. -/
def checkBehind (index : Nat) : Reader Unit := do
  match (← get).behindFrom with
  | none => return
  | some count =>
    unless ← isClosed index do fail
    if index ≥ count then fail

end Reader

open Reader

/-- The value of digits in a base. -/
def digitsIn (base : Nat) (digits : List Char) : Nat :=
  digits.foldl (fun n c =>
    base * n + (if c.isDigit then c.toNat - 0x30 else (c.toLower.toNat - 0x61) + 10)) 0

/-- Whether a character is a hexadecimal digit. -/
def isHexDigit (c : Char) : Bool := c.isDigit || ('a' ≤ c.toLower && c.toLower ≤ 'f')

/-- Whether a character is an octal digit. -/
def isOctDigit (c : Char) : Bool := '0' ≤ c && c ≤ '7'

/-- The greatest number that is tried as a code point is below this. -/
def codeLimit : Nat := 0x80000000

/-- Exactly `count` hexadecimal digits. -/
def hexCode (count : Nat) : Reader Nat := do
  let digits ← takeWhile count isHexDigit
  if digits.length == count then
    let n := digitsIn 16 digits
    if n ≤ 0x10ffff then return n else if n ≥ codeLimit then throw .codeTooLarge else fail
  else fail

/-- A code point given by the name of its character between curly brackets. -/
def namedCode : Reader Nat := do
  expect '\x7b'
  let cs ← name '\x7d'
  match Text.characterNamed? (String.ofList cs) with
  | some n => return n
  | none => fail

/-- The code points of the escapes for control characters. -/
def controlCode? : Char → Option Nat
  | 'a' => some 7
  | 'f' => some 12
  | 'n' => some 10
  | 'r' => some 13
  | 't' => some 9
  | 'v' => some 11
  | '\\' => some 92
  | _ => none

/-- The named class with a letter. -/
def kindItem? (flags : Flags) : Char → Option ClassItem
  | 'd' => some (.kind .digit false flags.latinOnly)
  | 'D' => some (.kind .digit true flags.latinOnly)
  | 's' => some (.kind .blank false flags.latinOnly)
  | 'S' => some (.kind .blank true flags.latinOnly)
  | 'w' => some (.kind .word false flags.latinOnly)
  | 'W' => some (.kind .word true flags.latinOnly)
  | _ => none

/-- The item of a bracketed class that an escape stands for. -/
def escapeInClass (flags : Flags) (c : Char) : Reader ClassItem := do
  if let some n := controlCode? c then return .code n
  if c == 'b' then return .code 8
  if let some item := kindItem? flags c then return item
  if c == 'x' then return .code (← hexCode 2)
  if c == 'u' then return .code (← hexCode 4)
  if c == 'U' then return .code (← hexCode 8)
  if c == 'N' then return .code (← namedCode)
  if isOctDigit c then
    let n := digitsIn 8 (c :: (← takeWhile 2 isOctDigit))
    if n > 0o377 then fail else return .code n
  if c.isDigit || c.isAlpha then fail
  return .code c.toNat

/-- The part of a pattern that an escaped digit other than zero starts: a code point of three octal
digits, or the text of a group again. -/
def digitEscape (flags : Flags) (c : Char) : Reader Pattern := do
  let literal (n : Nat) : Pattern := .char (.one flags.rule false n)
  let more ← takeWhile 1 Char.isDigit
  let digits := c :: more
  let third ←
    match more with
    | [d] => if isOctDigit c && isOctDigit d then takeWhile 1 isOctDigit else pure []
    | _ => pure []
  if third.isEmpty then
    let index := digitsIn 10 digits
    match (← get).groups[index - 1]? with
    | some (some (shortest, longest)) =>
      checkBehind index
      return .again flags.rule index shortest longest
    | _ => fail
  else
    let n := digitsIn 8 (digits ++ third)
    if n > 0o377 then fail else return literal n

/-- The part of a pattern that an escape stands for, outside bracketed classes. -/
def escapeOutside (flags : Flags) (c : Char) : Reader Pattern := do
  let literal (n : Nat) : Pattern := .char (.one flags.rule false n)
  if c == 'A' then return .anchor .textStart
  if c == 'Z' then return .anchor .textEnd
  if c == 'b' then return .anchor (.wordEdge false flags.latinOnly)
  if c == 'B' then return .anchor (.wordEdge true flags.latinOnly)
  if let some item := kindItem? flags c then return .char (.oneOf flags.rule false [item])
  if let some n := controlCode? c then return literal n
  if c == 'x' then return literal (← hexCode 2)
  if c == 'u' then return literal (← hexCode 4)
  if c == 'U' then return literal (← hexCode 8)
  if c == 'N' then return literal (← namedCode)
  if c == '0' then return literal (digitsIn 8 (← takeWhile 2 isOctDigit))
  if c.isDigit then digitEscape flags c
  else if c.isAlpha then fail
  else return literal c.toNat

/-- The item that a piece inside brackets stands for. -/
def classItem (flags : Flags) : Token → Reader ClassItem
  | .char c => return .code c.toNat
  | .escape c => escapeInClass flags c
  | .dangling => fail

/-- The items of a bracketed class up to its closing bracket. A closing bracket in the first place
is an item. -/
def classItems (flags : Flags) (fuel : Nat) (items : List ClassItem) : Reader (List ClassItem) :=
  match fuel with
  | 0 => fail
  | fuel + 1 => do
    let this ← take
    if this == .char ']' && !items.isEmpty then return items.reverse
    let item ← classItem flags this
    if ← accept '-' then
      let that ← take
      if that == .char ']' then return (.code 0x2d :: item :: items).reverse
      match item, ← classItem flags that with
      | .code first, .code last =>
        if last < first then fail else classItems flags fuel (.range first last :: items)
      | _, _ => fail
    else classItems flags fuel (item :: items)

/-- A bracketed class, after its opening bracket. -/
def bracketClass (flags : Flags) : Reader Pattern := do
  let negated ← accept '^'
  let items ← classItems flags ((← get).rest.length + 1) []
  match items.eraseDups with
  | [.code n] => return .char (.one flags.rule negated n)
  | items => return .char (.oneOf flags.rule negated items)

/-- The greatest count that a repetition may have is below this. -/
def countLimit : Nat := 0xffffffff

/-- The repetition count that digits stand for. -/
def count (digits : List Char) : Reader Nat := do
  if digits.length > Text.maxDigits then throw (.numeralLength digits.length)
  let n := digitsIn 10 digits
  if n ≥ countLimit then throw .repetitionTooLarge
  return n

/-- The counts between curly brackets, after the opening one, or nothing if no counts stand there
and the bracket means itself. -/
def counts? : Reader (Option (Nat × Option Nat)) := do
  let here := (← get).rest
  if (← peek?) == some (.char '\x7d') then return none
  let low ← takeWhile here.length Char.isDigit
  let high ← if ← accept ',' then takeWhile here.length Char.isDigit else pure low
  unless ← accept '\x7d' do
    goOn here
    return none
  let least ← count low
  if high.isEmpty then return some (least, none)
  let most ← count high
  if most < least then fail
  return some (least, some most)

/-- The flags written before `stop` or one of the characters that may follow flags. -/
def flagLetters (fuel : Nat) (c : Char) (flags : Flags) (stops : List Char) :
    Reader (Flags × Char) :=
  match fuel with
  | 0 => fail
  | fuel + 1 => do
    match Flags.ofLetter? c with
    | none => fail
    | some flag =>
      let flags := flags.union flag
      if flags.latinOnly && flags.allScripts && (flag.latinOnly || flag.allScripts) then fail
      match ← take with
      | .char d => if stops.contains d then return (flags, d) else flagLetters fuel d flags stops
      | _ => fail

/-- What flags in a group do: they hold for the whole pattern, or inside the group. -/
inductive FlagScope where
  | whole (added : Flags)
  | inside (added dropped : Flags)

/-- The flags of a group, of which the first character was taken. -/
def groupFlags (c : Char) : Reader FlagScope := do
  let fuel := (← get).rest.length + 1
  let (added, stop) ← if c == '-' then pure ({}, '-') else flagLetters fuel c {} [')', '-', ':']
  if stop == ')' then return .whole added
  if added.template then fail
  if stop == ':' then return .inside added {}
  match ← take with
  | .char d =>
    let (dropped, _) ← flagLetters fuel d {} [':']
    if dropped.latinOnly || dropped.allScripts || dropped.template then fail
    if added.disjoint dropped then return .inside added dropped else fail
  | _ => fail

/-- How an item of a sequence takes a repetition. -/
inductive ItemShape where
  | anchor
  | repetition
  | other
  deriving DecidableEq

/-- The items of a sequence as one pattern. -/
def ofItems : List (ItemShape × Pattern) → Pattern
  | [] => .empty
  | [(_, p)] => p
  | (_, p) :: items => .seq p (ofItems items)

/-- Repeats the latest item. -/
def repeatLatest (least : Nat) (most : Option Nat) (items : List (ItemShape × Pattern)) :
    Reader (List (ItemShape × Pattern)) := do
  match items with
  | (.other, p) :: items =>
    if ← accept '?' then
      return (.repetition, .times .lazy least most p) :: items
    if ← accept '+' then
      return (.repetition, .times .possessive least most p) :: items
    return (.repetition, .times .greedy least most p) :: items
  | _ => fail

/-- The group that a condition asks about. -/
def askedGroup : Reader Nat := do
  let cs ← name ')'
  if Text.isName cs then
    match (← get).names.lookup cs with
    | some index => return index
    | none => fail
  else
    match Text.readInt (String.ofList cs) with
    | .ok index =>
      if index ≤ 0 || index ≥ 1073741823 then fail
      modify fun r => { r with asked := index.toNat :: r.asked }
      return index.toNat
    | .error _ => fail

/-- Opens a group, under a name if one is given. -/
def openGroup (groupName : Option (List Char)) : Reader Nat := do
  let r ← get
  let index := r.groups.length + 1
  let names ←
    match groupName with
    | none => pure r.names
    | some cs => if (r.names.lookup cs).isSome then fail else pure ((cs, index) :: r.names)
  set { r with groups := r.groups ++ [none], names := names }
  return index

/-- Closes a group around a pattern. -/
def closeGroup (index : Nat) (p : Pattern) : Reader Unit :=
  modify fun r => { r with groups := r.groups.set (index - 1) (some p.widths) }

/-- Skips a comment in verbose writing, up to and with the line feed that ends it. -/
def skipLine (fuel : Nat) : Reader Unit :=
  match fuel with
  | 0 => return
  | fuel + 1 => do
    match ← take? with
    | none => return
    | some t => if t == .char '\n' then return else skipLine fuel

/-- Skips a comment up to and with its closing parenthesis. -/
def skipComment (fuel : Nat) : Reader Unit :=
  match fuel with
  | 0 => fail
  | fuel + 1 => do
    if (← take) == .char ')' then return else skipComment fuel

mutual

/-- Alternatives up to a closing parenthesis or the end. -/
def alternatives (fuel : Nat) (flags : Flags) (outermost first : Bool) : Reader Pattern :=
  match fuel with
  | 0 => fail
  | fuel + 1 => do
    let p ← sequence fuel flags outermost first []
    if ← accept '|' then
      let whole := (← get).flags
      let flags := if outermost then whole else flags
      let q ← alternatives fuel flags outermost false
      return .alt p q
    else return p

/-- A sequence up to a bar, a closing parenthesis or the end. The items read so far stand latest
first. -/
def sequence (fuel : Nat) (flags : Flags) (outermost first : Bool)
    (items : List (ItemShape × Pattern)) : Reader Pattern :=
  match fuel with
  | 0 => fail
  | fuel + 1 => do
    let next? ← peek?
    if next? == none || next? == some (.char '|') || next? == some (.char ')') then
      return ofItems items.reverse
    match ← take with
    | .escape c =>
      let p ← escapeOutside flags c
      let shape : ItemShape := match p with
        | .anchor _ => .anchor
        | _ => .other
      sequence fuel flags outermost first ((shape, p) :: items)
    | .dangling => fail
    | .char c =>
      if flags.verbose && (c == ' ' || (9 ≤ c.toNat && c.toNat ≤ 13)) then
        sequence fuel flags outermost first items
      else if flags.verbose && c == '#' then
        skipLine ((← get).rest.length + 1)
        sequence fuel flags outermost first items
      else if c == '[' then
        sequence fuel flags outermost first ((.other, ← bracketClass flags) :: items)
      else if c == '?' then
        sequence fuel flags outermost first (← repeatLatest 0 (some 1) items)
      else if c == '*' then
        sequence fuel flags outermost first (← repeatLatest 0 none items)
      else if c == '+' then
        sequence fuel flags outermost first (← repeatLatest 1 none items)
      else if c == '\x7b' then
        match ← counts? with
        | some (least, most) =>
          sequence fuel flags outermost first (← repeatLatest least most items)
        | none =>
          sequence fuel flags outermost first
            ((.other, .char (.one flags.rule false c.toNat)) :: items)
      else if c == '.' then
        let test := if flags.dotAll then CharTest.anyChar else CharTest.notLineFeed
        sequence fuel flags outermost first ((.other, .char test) :: items)
      else if c == '^' then
        let place := if flags.multiLine then Anchor.lineStart else Anchor.textStart
        sequence fuel flags outermost first ((.anchor, .anchor place) :: items)
      else if c == '$' then
        let place := if flags.multiLine then Anchor.lineEnd else Anchor.lastLineEnd
        sequence fuel flags outermost first ((.anchor, .anchor place) :: items)
      else if c == '(' then
        if ← accept '?' then
          match ← take with
          | .char d =>
            if d == '#' then
              skipComment ((← get).rest.length + 1)
              sequence fuel flags outermost first items
            else if (Flags.ofLetter? d).isSome || d == '-' then
              match ← groupFlags d with
              | .whole added =>
                unless outermost && first && items.isEmpty do fail
                modify fun r => { r with flags := r.flags.union added }
                sequence fuel (flags.union added) outermost first items
              | .inside added dropped =>
                let p ← alternatives fuel (flags.within added dropped) false false
                expect ')'
                sequence fuel flags outermost first ((.other, p) :: items)
            else
              let p ← extension fuel flags d
              sequence fuel flags outermost first ((.other, p) :: items)
          | _ => fail
        else
          let index ← openGroup none
          let p ← alternatives fuel flags false false
          expect ')'
          closeGroup index p
          sequence fuel flags outermost first ((.other, .group index p) :: items)
      else
        sequence fuel flags outermost first
          ((.other, .char (.one flags.rule false c.toNat)) :: items)

/-- A group that starts with a question mark and `d`. -/
def extension (fuel : Nat) (flags : Flags) (d : Char) : Reader Pattern :=
  match fuel with
  | 0 => fail
  | fuel + 1 => do
    if d == ':' then
      let p ← alternatives fuel flags false false
      expect ')'
      return p
    else if d == '>' then
      let p ← alternatives fuel flags false false
      expect ')'
      return .atomic p
    else if d == '=' || d == '!' then
      let p ← alternatives fuel flags false false
      expect ')'
      return .ahead (d == '!') p
    else if d == '<' then
      let sign ← take
      unless sign == .char '=' || sign == .char '!' do fail
      let outer := (← get).behindFrom
      modify fun r => { r with behindFrom := some (outer.getD (r.groups.length + 1)) }
      let p ← alternatives fuel flags false false
      modify fun r => { r with behindFrom := outer }
      expect ')'
      return .behind (sign == .char '!') p
    else if d == '(' then
      let index ← askedGroup
      checkBehind index
      let yes ← sequence fuel flags false false []
      let no ←
        if ← accept '|' then
          let no ← sequence fuel flags false false []
          if (← peek?) == some (.char '|') then fail
          pure no
        else pure .empty
      expect ')'
      return .given index yes no
    else if d == 'P' then
      if ← accept '<' then
        let cs ← name '>'
        unless Text.isName cs do fail
        let index ← openGroup (some cs)
        let p ← alternatives fuel flags false false
        expect ')'
        closeGroup index p
        return .group index p
      else if ← accept '=' then
        let cs ← name ')'
        unless Text.isName cs do fail
        match (← get).names.lookup cs with
        | none => fail
        | some index =>
          match (← get).groups[index - 1]? with
          | some (some (shortest, longest)) =>
            checkBehind index
            return .again flags.rule index shortest longest
          | _ => fail
      else fail
    else fail

end

/-- Reads a whole pattern. -/
def readTokens (tokens : List Token) : Except ReadError Pattern := do
  let reader : Reader Pattern := do
    goOn tokens
    alternatives (3 * tokens.length + 3) {} true true
  let (p, r) ← reader.run { rest := tokens }
  if r.flags.latinOnly && r.flags.allScripts then throw .clashingFlags
  unless r.rest.isEmpty do throw .malformed
  if r.asked.any fun index => index > r.groups.length then throw .malformed
  if r.flags.template && p.repeats then throw .malformed
  unless p.looksBehindFixed do throw .malformed
  return p

/-- Reads a pattern from text. -/
def read (text : String) : Except ReadError Pattern := readTokens (Token.ofChars text.toList)

/-- Text with a reverse solidus before every character that has a meaning in patterns. -/
def escapeText (text : String) : String :=
  String.ofList (text.toList.flatMap fun c =>
    if "()[]?*+-|^$\\.&~# \t\n\r\x0b\x0c\x7b\x7d".toList.contains c then ['\\', c] else [c])

end TrustWeb.Pattern
