import TrustWeb.Text.Quoted

/-!
# Moments

A moment is an instant, counted in microseconds from the start of 1970, together with the offset it
is written with. A moment without offset counts as universal time in arithmetic, but it never
equals a moment with one. Comparisons of the program use whole seconds.
-/

namespace TrustWeb

/-- An instant and the offset from universal time, in seconds, that it is written with. -/
structure Moment where
  micros : Int
  offset : Option Int
  deriving DecidableEq, Repr

namespace Moment

/-- Why text is not read as a moment. -/
inductive ReadError where
  | malformed (text : String)
  | year (n : Nat)
  | month
  | day
  | hour
  | minute
  | second
  deriving DecidableEq, Repr

/-- The wording of a failed reading. -/
def ReadError.message : ReadError → String
  | .malformed text => "Invalid isoformat string: " ++ Text.quoted text
  | .year n => "year " ++ toString n ++ " is out of range"
  | .month => "month must be in 1..12"
  | .day => "day is out of range for month"
  | .hour => "hour must be in 0..23"
  | .minute => "minute must be in 0..59"
  | .second => "second must be in 0..59"

/-! ## Calendar -/

/-- Whether a year has a leap day. -/
def isLeap (year : Nat) : Bool := year % 4 == 0 && (year % 100 != 0 || year % 400 == 0)

/-- The number of days of a month. -/
def daysInMonth (year month : Nat) : Nat :=
  if month == 2 then (if isLeap year then 29 else 28)
  else if month == 4 || month == 6 || month == 9 || month == 11 then 30
  else 31

/-- Days from the start of 1970 to a date. Years are counted from March, so that the leap day comes
last. -/
def dayNumber (year month day : Nat) : Int :=
  let y : Int := if month ≤ 2 then (year : Int) - 1 else year
  let era := y / 400
  let yearOfEra := y % 400
  let shifted : Int := if month > 2 then (month : Int) - 3 else month + 9
  let dayOfYear := (153 * shifted + 2) / 5 + day - 1
  let dayOfEra := yearOfEra * 365 + yearOfEra / 4 - yearOfEra / 100 + dayOfYear
  era * 146097 + dayOfEra - 719468

/-- The year, month and day of a day number. -/
def dateOfDay (number : Int) : Int × Int × Int :=
  let z := number + 719468
  let era := z / 146097
  let dayOfEra := z % 146097
  let yearOfEra := (dayOfEra - dayOfEra / 1460 + dayOfEra / 36524 - dayOfEra / 146096) / 365
  let dayOfYear := dayOfEra - (365 * yearOfEra + yearOfEra / 4 - yearOfEra / 100)
  let shifted := (5 * dayOfYear + 2) / 153
  let day := dayOfYear - (153 * shifted + 2) / 5 + 1
  let month := if shifted < 10 then shifted + 3 else shifted - 9
  let year := yearOfEra + era * 400 + (if month ≤ 2 then 1 else 0)
  (year, month, day)

/-! ## Seconds and comparison -/

/-- The quotient of two numbers, rounded to the nearest number and to the even one of two. -/
def roundedQuotient (n d : Nat) : Nat :=
  let q := n / d
  let r := n % d
  if 2 * r < d then q else if 2 * r > d then q + 1 else if q % 2 == 0 then q else q + 1

/-- Whole seconds in a count of microseconds. The count is first taken to seconds with 53
significant bits, so that a fraction close to one may round up. -/
def wholeSeconds (micros : Nat) : Nat :=
  let whole := micros / 1000000
  if whole == 0 then 0
  else
    let scale := Nat.pow 2 (52 - Nat.log2 whole)
    roundedQuotient (micros * scale) 1000000 / scale

/-- Whole seconds from the start of 1970, fractions being dropped toward zero. -/
def seconds (m : Moment) : Int :=
  if m.micros < 0 then -(wholeSeconds m.micros.natAbs : Int) else wholeSeconds m.micros.natAbs

/-- Whether two moments are the same instant, both written with an offset or both without. -/
def same (a b : Moment) : Bool := a.offset.isSome == b.offset.isSome && a.micros == b.micros

/-- Whether two moments can be put in order. -/
def comparable (a b : Moment) : Bool := a.offset.isSome == b.offset.isSome

/-! ## Writing -/

/-- A number in decimal, padded with zeros to `width`. -/
def padded (width : Nat) (n : Int) : String :=
  let digits := toString n
  String.ofList (List.replicate (width - digits.length) '0') ++ digits

/-- Microseconds on the clock that the moment is written for. -/
def localMicros (m : Moment) : Int := m.micros + m.offset.getD 0 * 1000000

/-- The date on the clock that the moment is written for. -/
def localDate (m : Moment) : Int × Int × Int := dateOfDay (m.localMicros / 86400000000)

/-- The time of day, as `hh:mm:ss`, with six decimals if it has a fraction. -/
def timeText (m : Moment) : String :=
  let inDay := m.localMicros % 86400000000
  let fraction := inDay % 1000000
  padded 2 (inDay / 3600000000) ++ ":" ++ padded 2 (inDay / 60000000 % 60) ++ ":" ++
    padded 2 (inDay / 1000000 % 60) ++
    (if fraction == 0 then "" else "." ++ padded 6 fraction)

/-- The offset, as `±hh:mm`, with seconds if it has any. -/
def offsetText (m : Moment) : String :=
  match m.offset with
  | none => ""
  | some offset =>
    let size := (offset.natAbs : Int)
    (if offset < 0 then "-" else "+") ++ padded 2 (size / 3600) ++ ":" ++
      padded 2 (size / 60 % 60) ++ (if size % 60 == 0 then "" else ":" ++ padded 2 (size % 60))

/-- The moment as `yyyy-mm-ddThh:mm:ss`, with a fraction and an offset if it has them. -/
def text (m : Moment) : String :=
  let (year, month, day) := m.localDate
  padded 4 year ++ "-" ++ padded 2 month ++ "-" ++ padded 2 day ++ "T" ++ m.timeText ++
    m.offsetText

/-- The date as `y-mm-dd`, the year being written with as many digits as it has. -/
def dateText (m : Moment) : String :=
  let (year, month, day) := m.localDate
  toString year ++ "-" ++ padded 2 month ++ "-" ++ padded 2 day

/-! ## Reading -/

/-- The value of two digits. -/
def twoDigits? (a b : Char) : Option Nat :=
  if a.isDigit && b.isDigit then some (10 * (a.toNat - 0x30) + (b.toNat - 0x30)) else none

/-- A time of day: hours, minutes, seconds and microseconds. -/
structure Clock where
  hour : Nat
  minute : Nat
  second : Nat
  micro : Nat

/-- The microseconds of up to six digits after a point. -/
def microsOfDigits (digits : List Char) : Nat :=
  let taken := digits.take 6
  taken.foldl (fun n c => 10 * n + (c.toNat - 0x30)) 0 * Nat.pow 10 (6 - taken.length)

/-- The time at the start of the text, and what follows it. -/
def readClock? : List Char → Option (Clock × List Char)
  | h₁ :: h₂ :: ':' :: m₁ :: m₂ :: rest => do
    let hour ← twoDigits? h₁ h₂
    let minute ← twoDigits? m₁ m₂
    match rest with
    | ':' :: s₁ :: s₂ :: rest => do
      let second ← twoDigits? s₁ s₂
      match rest with
      | '.' :: rest =>
        let digits := rest.takeWhile Char.isDigit
        if digits.isEmpty then none
        else some (⟨hour, minute, second, microsOfDigits digits⟩, rest.dropWhile Char.isDigit)
      | rest => some (⟨hour, minute, second, 0⟩, rest)
    | rest => some (⟨hour, minute, 0, 0⟩, rest)
  | _ => none

/-- An offset that is the whole text, in seconds; no text is no offset. -/
def readOffset? : List Char → Option (Option Int)
  | [] => some none
  | ['Z'] => some (some 0)
  | sign :: rest =>
    if sign == '+' || sign == '-' then
      match readClock? rest with
      | some (clock, []) =>
        if clock.hour < 24 && clock.minute < 60 && clock.second < 60 && clock.micro == 0 then
          let size : Int := 3600 * clock.hour + 60 * clock.minute + clock.second
          some (some (if sign == '-' then -size else size))
        else none
      | _ => none
    else none

/-- The date at the start of the text, and what follows it. -/
def readDate? : List Char → Option ((Nat × Nat × Nat) × List Char)
  | y₁ :: y₂ :: y₃ :: y₄ :: '-' :: m₁ :: m₂ :: '-' :: d₁ :: d₂ :: rest => do
    let century ← twoDigits? y₁ y₂
    let year ← twoDigits? y₃ y₄
    let month ← twoDigits? m₁ m₂
    let day ← twoDigits? d₁ d₂
    some ((100 * century + year, month, day), rest)
  | _ => none

/-- The parts of a written moment: the date, the time of day, midnight if there is none, and the
offset. -/
def readParts? (cs : List Char) : Option ((Nat × Nat × Nat) × Clock × Option Int) := do
  let (date, rest) ← readDate? cs
  match rest with
  | [] => some (date, ⟨0, 0, 0, 0⟩, none)
  | separator :: rest =>
    if separator == 'T' || separator == ' ' then do
      let (clock, rest) ← readClock? rest
      let offset ← readOffset? rest
      some (date, clock, offset)
    else none

/-- Reads a moment: a date, or a date and a time with an optional offset. -/
def read (s : String) : Except ReadError Moment :=
  match readParts? s.toList with
  | none => .error (.malformed s)
  | some ((year, month, day), clock, offset) =>
    if year == 0 then .error (.year year)
    else if month == 0 || month > 12 then .error .month
    else if day == 0 || day > daysInMonth year month then .error .day
    else if clock.hour > 23 then .error .hour
    else if clock.minute > 59 then .error .minute
    else if clock.second > 59 then .error .second
    else
      let seconds := dayNumber year month day * 86400 + 3600 * clock.hour + 60 * clock.minute +
        clock.second - offset.getD 0
      .ok ⟨seconds * 1000000 + clock.micro, offset⟩

/-- The moment, as universal time if it is written without offset. -/
def universal (m : Moment) : Moment := ⟨m.micros, some (m.offset.getD 0)⟩

end Moment

end TrustWeb
