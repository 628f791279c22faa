import TrustWeb.Text.Digit

/-!
# Tokens of network descriptions

Which tokens may come next depends on the place in the description, and only those are looked for.
Where a name may stand, a keyword counts as one only if it is a whole name; elsewhere it counts
wherever the text starts with it. Blanks and comments, which start with two hyphens and end with
the line, stand between tokens.
-/

namespace TrustWeb.Description

/-- The keywords. -/
inductive Keyword where
  | atTime
  | node
  | root
  | delegates
  | certifies
  | userid
  | expires
  | revoked
  | hard
  | soft
  | amount
  | depth
  | unconstrained
  | regex
  | on
  | localOnly
  deriving DecidableEq, Repr

/-- The text of a keyword. -/
def Keyword.text : Keyword → List Char
  | .atTime => "at".toList
  | .node => "node".toList
  | .root => "root".toList
  | .delegates => "delegates".toList
  | .certifies => "certifies".toList
  | .userid => "userid".toList
  | .expires => "expires".toList
  | .revoked => "revoked".toList
  | .hard => "hard".toList
  | .soft => "soft".toList
  | .amount => "amount".toList
  | .depth => "depth".toList
  | .unconstrained => "unconstrained".toList
  | .regex => "regex".toList
  | .on => "on".toList
  | .localOnly => "local".toList

/-- The kinds of tokens. -/
inductive Terminal where
  | keyword (k : Keyword)
  | name
  | number
  | string
  | date
  deriving DecidableEq, Repr

/-- A token: its kind, and its text; the text of a string is what stands between its marks. -/
structure Token where
  terminal : Terminal
  text : List Char
  deriving DecidableEq, Repr

/-- A place in the text: line and column, counted from one. -/
structure Position where
  line : Nat := 1
  column : Nat := 1
  deriving DecidableEq, Repr

namespace Position

/-- The place after a character. -/
def after (p : Position) (c : Char) : Position :=
  if c == '\n' then ⟨p.line + 1, 1⟩ else ⟨p.line, p.column + 1⟩

/-- The place after some characters. -/
def afterAll (p : Position) (cs : List Char) : Position := cs.foldl after p

end Position

/-! ## Classes of characters -/

/-- Whether a character is a blank of descriptions. -/
def isSpace (c : Char) : Bool :=
  c == ' ' || c == '\t' || c == '\x0c' || c == '\r' || c == '\n'

/-- Whether a character may stand in names. -/
def isNameChar (c : Char) : Bool := c.isAlphanum || c == '_'

/-- What follows blanks and comments, and its place; `inComment` says whether the text starts
inside a comment. -/
def skip (inComment : Bool) (p : Position) : List Char → List Char × Position
  | [] => ([], p)
  | c :: rest =>
    if inComment then skip (c != '\n') (p.after c) rest
    else if isSpace c then skip false (p.after c) rest
    else if c == '-' && rest.head? == some '-' then skip true (p.after c) rest
    else (c :: rest, p)

/-! ## Matching one kind of token -/

/-- Exactly `n` decimal digits and what follows them. -/
def digits? (n : Nat) (cs : List Char) : Option (List Char × List Char) :=
  let found := cs.take n
  if found.length == n && found.all Text.isDigit then some (found, cs.drop n) else none

/-- A separator and two decimal digits, and what follows them. -/
def field? (separator : Char) : List Char → Option (List Char × List Char)
  | c :: rest =>
    if c == separator then (digits? 2 rest).map fun (found, rest') => (c :: found, rest') else none
  | [] => none

/-- A date with an optional time, and what follows it. -/
def date? (cs : List Char) : Option (List Char × List Char) := do
  let (year, rest) ← digits? 4 cs
  let (month, rest) ← field? '-' rest
  let (day, rest) ← field? '-' rest
  let date := year ++ month ++ day
  match field? 'T' rest with
  | none => some (date, rest)
  | some (hour, afterHour) =>
    match field? ':' afterHour with
    | none => some (date, rest)
    | some (minute, afterMinute) =>
      match field? ':' afterMinute with
      | none => some (date ++ hour ++ minute, afterMinute)
      | some (second, afterSecond) => some (date ++ hour ++ minute ++ second, afterSecond)

/-- A string between quotation marks: what stands between them, and what follows. -/
def string? : List Char → Option (List Char × List Char)
  | '\x22' :: rest =>
    match rest.dropWhile (· != '\x22') with
    | _ :: rest' => some (rest.takeWhile (· != '\x22'), rest')
    | [] => none
  | _ => none

/-- One or more characters that pass a test, and what follows them. -/
def run? (test : Char → Bool) (cs : List Char) : Option (List Char × List Char) :=
  match cs.takeWhile test with
  | [] => none
  | found => some (found, cs.dropWhile test)

/-- A keyword at the start of the text, and what follows it. -/
def keyword? (k : Keyword) (cs : List Char) : Option (List Char × List Char) :=
  if k.text.isPrefixOf cs then some (k.text, cs.drop k.text.length) else none

/-- The keyword of a whole name, among the given kinds of tokens. -/
def keywordOf? (allowed : List Terminal) (found : List Char) : Option Terminal :=
  allowed.find? fun
    | .keyword k => k.text == found
    | _ => false

/-- A token of one kind at the start of the text, and what follows it. -/
def ofTerminal? (allowed : List Terminal) (cs : List Char) :
    Terminal → Option (Token × List Char)
  | .keyword k =>
    if allowed.contains .name then none
    else (keyword? k cs).map fun (found, rest) => (⟨.keyword k, found⟩, rest)
  | .name =>
    (run? isNameChar cs).map fun (found, rest) =>
      (⟨(keywordOf? allowed found).getD .name, found⟩, rest)
  | .number => (run? Char.isDigit cs).map fun (found, rest) => (⟨.number, found⟩, rest)
  | .string => (string? cs).map fun (found, rest) => (⟨.string, found⟩, rest)
  | .date => (date? cs).map fun (found, rest) => (⟨.date, found⟩, rest)

/-- The token of an allowed kind at the start of the text, and what follows it. -/
def Token.next? (allowed : List Terminal) (cs : List Char) : Option (Token × List Char) :=
  allowed.findSome? (ofTerminal? allowed cs)

end TrustWeb.Description
