import ConfigRollout.Text.WhiteSpace

/-!
# Timestamps

Times in API objects and in credentials are read in a relaxed RFC 3339 form:

`[sign]YYYY-MM-DD(T|t|space)HH:MM:SS[.fraction](Z|z|UTC|±HH[:]MM)`

* white space (Unicode White_Space) may stand before every number, around the `-` and `:`
  separators, and before and after the zone;
* a year without a sign has one to four digits, a signed year any number; month, day, hour,
  minute and second have one or two digits; a fraction has at least one digit, and digits
  past the ninth are skipped;
* the zone is `Z` or `z`, `UTC` in any case, or a sign (`+`, `-` or U+2212) with two digits of
  hours, any run of colons and white space, and two digits of minutes;
* the date must exist (years -262143 to 262142, leap years included), the hour is below 24,
  the minute below 60, the second at most 60 (a leap second), the offset less than a day, and
  the instant it names must lie in the range of dates too.

A text that does not read fails with one of the reader's reasons (`TimeError`); a text that
reads gives the instant it names, in seconds and nanoseconds since 1970-01-01T00:00:00Z.
-/

set_option autoImplicit false

namespace ConfigRollout.Text

/-- Why a time does not read. -/
inductive TimeError where
  | outOfRange
  | impossible
  | notEnough
  | invalid
  | tooShort
  | tooLong
  deriving DecidableEq, Repr, Inhabited

/-- The reader's words for each reason. -/
def TimeError.message : TimeError → String
  | .outOfRange => "input is out of range"
  | .impossible => "no possible date and time matching input"
  | .notEnough => "input is not enough for unique date and time"
  | .invalid => "input contains invalid characters"
  | .tooShort => "premature end of input"
  | .tooLong => "trailing input"

/-- An instant: seconds since 1970-01-01T00:00:00Z and nanoseconds within the second. -/
structure Instant where
  seconds : Int
  nanos : Nat
  deriving DecidableEq, Repr, Inhabited

/-- Whether a year is a leap year of the Gregorian calendar. -/
def isLeapYear (y : Int) : Bool :=
  (y % 4 == 0 && y % 100 != 0) || y % 400 == 0

/-- The number of days of a month (1 to 12) of a year. -/
def daysInMonth (y : Int) (m : Nat) : Nat :=
  if m = 2 then (if isLeapYear y then 29 else 28)
  else if m = 4 ∨ m = 6 ∨ m = 9 ∨ m = 11 then 30
  else 31

/-- The number of days from 1970-01-01 to a date of the proleptic Gregorian calendar. -/
def daysFromCivil (y : Int) (m d : Nat) : Int :=
  let y := if m ≤ 2 then y - 1 else y
  let era := y.fdiv 400
  let yoe := y - era * 400
  let mp : Int := if m > 2 then m - 3 else m + 9
  let doy := (153 * mp + 2) / 5 + d - 1
  let doe := yoe * 365 + yoe / 4 - yoe / 100 + doy
  era * 146097 + doe - 719468

/-- The first and last years of the calendar's range. -/
def minYear : Int := -262143
def maxYear : Int := 262142

/-- Reads from one to `max` ASCII digits; none when the text is empty or starts otherwise. -/
def readNumber (cs : List Char) (max : Nat) : Except TimeError (Nat × List Char) :=
  match cs with
  | [] => .error .tooShort
  | c :: _ =>
    if !c.isDigit then .error .invalid
    else
      let ds := (cs.take max).takeWhile Char.isDigit
      let v := ds.foldl (fun acc d => 10 * acc + (d.toNat - 48)) 0
      if v ≥ Nat.pow 2 63 then .error .outOfRange else .ok (v, cs.drop ds.length)

/-- Drops leading White_Space. -/
def skipSpace (cs : List Char) : List Char :=
  cs.dropWhile isWhiteSpace

/-- Reads a separator character after optional white space. -/
def readLiteral (sep : Char) (cs : List Char) : Except TimeError (List Char) :=
  match skipSpace cs with
  | [] => .error .tooShort
  | c :: rest => if c == sep then .ok rest else .error .invalid

/-- Reads a number of one or two digits after optional white space, within bounds. -/
def readField (lo hi : Nat) (cs : List Char) : Except TimeError (Nat × List Char) := do
  let (v, rest) ← readNumber (skipSpace cs) 2
  if lo ≤ v ∧ v ≤ hi then .ok (v, rest) else .error .outOfRange

/-- Reads the year: a sign and any number of digits, or one to four digits. -/
def readYear (cs : List Char) : Except TimeError (Int × List Char) := do
  let cs := skipSpace cs
  let (y, rest) ← match cs with
    | '-' :: rest => do let (v, r) ← readNumber rest (rest.length + 1); pure (-(v : Int), r)
    | '+' :: rest => do let (v, r) ← readNumber rest (rest.length + 1); pure ((v : Int), r)
    | _ => do let (v, r) ← readNumber cs 4; pure ((v : Int), r)
  if -2147483648 ≤ y ∧ y ≤ 2147483647 then .ok (y, rest) else .error .outOfRange

/-- Reads a fraction of a second after `.`: at least one digit, nine at most counted. -/
def readFraction (cs : List Char) : Except TimeError (Nat × List Char) :=
  match cs with
  | '.' :: rest => do
    let (v, after) ← readNumber rest 9
    let used := rest.length - after.length
    .ok (v * Nat.pow 10 (9 - used), after.dropWhile Char.isDigit)
  | _ => .ok (0, cs)

/-- The value of two ASCII digits. -/
def twoDigits (a b : Char) : Nat :=
  10 * (a.toNat - 48) + (b.toNat - 48)

/-- Reads a zone: `Z`, `UTC` in any case, or a signed offset in seconds. -/
def readZone (cs : List Char) : Except TimeError (Int × List Char) :=
  match cs with
  | u :: t :: c :: rest =>
    if u.toLower == 'u' && t.toLower == 't' && c.toLower == 'c' && u.toNat < 128 &&
        t.toNat < 128 && c.toNat < 128 then .ok (0, rest)
    else readOffset cs
  | _ => readOffset cs
where
  readOffset (cs : List Char) : Except TimeError (Int × List Char) :=
    match cs with
    | [] => .error .tooShort
    | c :: rest =>
      if c == 'Z' || c == 'z' then .ok (0, rest)
      else if c == '+' || c == '-' || c == '−' then
        let negative := c != '+'
        match rest with
        | h₁ :: h₂ :: afterHours =>
          if !(h₁.isDigit && h₂.isDigit) then .error .invalid
          else
            let hours := twoDigits h₁ h₂
            let afterColons := afterHours.dropWhile (fun x => x == ':' || isWhiteSpace x)
            match afterColons with
            | m₁ :: m₂ :: afterMinutes =>
              if '0' ≤ m₁ && m₁ ≤ '5' && m₂.isDigit then
                let secs : Int := hours * 3600 + twoDigits m₁ m₂ * 60
                .ok (if negative then -secs else secs, afterMinutes)
              else if '6' ≤ m₁ && m₁ ≤ '9' && m₂.isDigit then .error .outOfRange
              else .error .invalid
            | _ => .error .tooShort
        | _ => .error .tooShort
      else .error .invalid

/-- Reads a time. -/
def readTime (s : String) : Except TimeError Instant := do
  let cs := s.toList
  let (year, cs) ← readYear cs
  let cs ← readLiteral '-' cs
  let (month, cs) ← readField 1 12 cs
  let cs ← readLiteral '-' cs
  let (day, cs) ← readField 1 31 cs
  let cs ← match cs with
    | [] => .error .tooShort
    | c :: rest => if c == 'T' || c == 't' || c == ' ' then .ok rest else .error .invalid
  let (hour, cs) ← readField 0 23 cs
  let cs ← readLiteral ':' cs
  let (minute, cs) ← readField 0 59 cs
  let cs ← readLiteral ':' cs
  let (second, cs) ← readField 0 60 cs
  let (nanos, cs) ← readFraction cs
  let (offset, cs) ← readZone (skipSpace cs)
  if !(skipSpace cs).isEmpty then .error .tooLong
  else if year < minYear ∨ maxYear < year ∨ daysInMonth year month < day then .error .outOfRange
  else if 86400 ≤ offset.natAbs then .error .outOfRange
  else
    let (second, nanos) := if second = 60 then (59, nanos + 1000000000) else (second, nanos)
    let wall := daysFromCivil year month day * 86400 + hour * 3600 + minute * 60 + second
    let utc := wall - offset
    if utc < daysFromCivil minYear 1 1 * 86400 ∨ daysFromCivil (maxYear + 1) 1 1 * 86400 ≤ utc then
      .error .outOfRange
    else .ok ⟨utc + nanos / 1000000000, nanos % 1000000000⟩

/-- Whether a text reads as a time. -/
def isTimestamp (s : String) : Bool :=
  (readTime s).toBool

end ConfigRollout.Text
