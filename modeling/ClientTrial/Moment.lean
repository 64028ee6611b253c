import ClientTrial.Decimal.Places
import ClientTrial.Fault

/-!
# Moments and durations

A moment is a reading of a wall calendar, to the microsecond, with or without a
known offset from universal time.  The clock of a trial counts seconds from noon
on the first of January 2026, universal time.

## Main definitions

* `Moment` — microseconds since the beginning of year 1, and the offset.
* `Moment.ofClock`, `Moment.reading` — the time of day at a reading of the clock.
* `Moment.iso`, `Moment.spaced`, `Moment.stamp` — three ways to write a moment.
* `Moment.parse?` — the moment that an ISO text denotes.
* `Moment.since?` — the microseconds between two moments of one kind.
* `secondsOf` — a count of microseconds in seconds.
-/

namespace ClientTrial

/-! ### The calendar -/

/-- A day of the proleptic Gregorian calendar. -/
structure Date where
  year : Int
  month : Nat
  day : Nat
  deriving DecidableEq, Repr

namespace Date

/-- The days from the beginning of year 1 to a date.  Years are counted from March, so that the
leap day is the last day of its year. -/
def toDays (d : Date) : Int :=
  let year := if d.month ≤ 2 then d.year - 1 else d.year
  let era := year / 400
  let yearOfEra := year % 400
  let monthFromMarch : Int := if d.month ≤ 2 then d.month + 9 else (d.month : Int) - 3
  let dayOfYear := (153 * monthFromMarch + 2) / 5 + (d.day : Int) - 1
  let dayOfEra := yearOfEra * 365 + yearOfEra / 4 - yearOfEra / 100 + dayOfYear
  era * 146097 + dayOfEra - 306

/-- The date a given count of days after the beginning of year 1. -/
def ofDays (days : Int) : Date :=
  let shifted := days + 306
  let era := shifted / 146097
  let dayOfEra := shifted % 146097
  let yearOfEra := (dayOfEra - dayOfEra / 1460 + dayOfEra / 36524 - dayOfEra / 146096) / 365
  let dayOfYear := dayOfEra - (365 * yearOfEra + yearOfEra / 4 - yearOfEra / 100)
  let monthFromMarch := (5 * dayOfYear + 2) / 153
  let day := dayOfYear - (153 * monthFromMarch + 2) / 5 + 1
  let month := if monthFromMarch < 10 then monthFromMarch + 3 else monthFromMarch - 9
  let year := yearOfEra + era * 400
  ⟨if month ≤ 2 then year + 1 else year, month.toNat, day.toNat⟩

end Date

/-! ### Moments -/

/-- A reading of a wall calendar. -/
structure Moment where
  /-- Microseconds since the beginning of year 1, as the wall shows it. -/
  micros : Int
  /-- The microseconds by which the wall is ahead of universal time, if that is known. -/
  offset : Option Int
  deriving DecidableEq, Repr

namespace Moment

/-- The microseconds of a day. -/
def dayMicros : Int := 86400000000

/-- Where the clock of a trial stands at zero. -/
def noon : Moment := ⟨(Date.toDays ⟨2026, 1, 1⟩) * dayMicros + dayMicros / 2, some 0⟩

/-- The whole microseconds of a number of seconds.  The fraction of a second is taken in
microseconds and rounded, a half to the even neighbour; the whole seconds are exact. -/
def roundMicros (seconds : Float) : Int :=
  match Decimal.Binary.ofFloat seconds with
  | .finite negative significand exponent =>
    let whole :=
      Decimal.Binary.numerator significand exponent / Decimal.Binary.denominator exponent
    let fraction := (seconds.abs - Float.ofNat whole) * 1000000.0
    let part :=
      match Decimal.Binary.ofFloat fraction with
      | .finite _ s e =>
        Decimal.roundDiv (Decimal.Binary.numerator s e) (Decimal.Binary.denominator e)
      | _ => 0
    let micros : Int := (whole * 1000000 + part : Nat)
    if negative then -micros else micros
  | _ => 0

/-- The time of day at a reading of the clock. -/
def ofClock (seconds : Float) : Moment := ⟨noon.micros + roundMicros seconds, some 0⟩

/-- The first microsecond after the year 9999. -/
def endMicros : Int := (Date.toDays ⟨9999, 12, 31⟩ + 1) * dayMicros

/-- The most days that a duration may have. -/
def mostDays : Nat := 999999999

/-- The time of day at a reading of the clock, which must be a moment of the years 1 to 9999. -/
def reading (seconds : Float) : Except Fault Moment :=
  match Decimal.Binary.ofFloat seconds with
  | .nan => .error ⟨.value, "cannot convert float NaN to integer"⟩
  | .infinite _ => .error ⟨.overflow, "cannot convert float infinity to integer"⟩
  | .finite .. =>
    let days := roundMicros seconds / dayMicros
    let t := ofClock seconds
    if mostDays < days.natAbs then
      .error ⟨.overflow, "days=" ++ Fault.numberText days ++ "; must have magnitude <= " ++
        Fault.numberText mostDays⟩
    else if t.micros < 0 ∨ endMicros ≤ t.micros then .error ⟨.overflow, "date value out of range"⟩
    else .ok t

/-! ### Writing -/

/-- The date of a moment. -/
def date (t : Moment) : Date := Date.ofDays (t.micros / dayMicros)

/-- The microseconds since midnight. -/
def inDay (t : Moment) : Nat := (t.micros % dayMicros).toNat

/-- Year, month and day with dashes between; the year has at least so many digits. -/
def dateText (digits : Nat) (t : Moment) : List Char :=
  let d := t.date
  Decimal.padded digits d.year.toNat ++ '-' :: Decimal.padded 2 d.month ++ '-' ::
    Decimal.padded 2 d.day

/-- Hours and minutes, of a count of minutes. -/
def hoursText (minutes : Nat) : List Char :=
  Decimal.padded 2 (minutes / 60) ++ ':' :: Decimal.padded 2 (minutes % 60)

/-- The time of day to the second. -/
def timeText (t : Moment) : List Char :=
  let seconds := t.inDay / 1000000
  hoursText (seconds / 60) ++ ':' :: Decimal.padded 2 (seconds % 60)

/-- The microseconds of a second, if there are any. -/
def microsText (micros : Nat) : List Char :=
  if micros = 0 then [] else '.' :: Decimal.padded 6 micros

/-- The offset from universal time, if it is known.  Seconds are left out if there are none. -/
def offsetText (t : Moment) : List Char :=
  match t.offset with
  | none => []
  | some micros =>
    let size := micros.natAbs
    let seconds := size / 1000000
    (if micros < 0 then '-' else '+') :: hoursText (seconds / 60) ++
      (if size % 60000000 = 0 then []
        else ':' :: Decimal.padded 2 (seconds % 60) ++ microsText (size % 1000000))

/-- Date and time with a separator between. -/
def withSeparator (sep : Char) (t : Moment) : String :=
  String.ofList (t.dateText 4 ++ sep :: t.timeText ++ microsText (t.inDay % 1000000) ++
    t.offsetText)

/-- A moment as ISO 8601 writes it. -/
def iso (t : Moment) : String := t.withSeparator 'T'

/-- A moment with a space between date and time. -/
def spaced (t : Moment) : String := t.withSeparator ' '

/-- Date and time to the second, without offset.  The year is not filled with zeros. -/
def stamp (t : Moment) : String := String.ofList (t.dateText 1 ++ ' ' :: t.timeText)

/-! ### Reading -/

/-- The number that exactly `count` digits at the start of a text denote, and what follows. -/
def takeNumber? (count : Nat) (s : List Char) : Option (Nat × List Char) :=
  let ds := s.take count
  if ds.length = count then (Decimal.ofDigits? ds).map fun n => (n, s.drop count) else none

/-- What follows a given character. -/
def after? (c : Char) : List Char → Option (List Char)
  | [] => none
  | d :: rest => if d = c then some rest else none

/-- One to six digits of a fraction, in microseconds. -/
def fraction? : List Char → Option (Nat × List Char)
  | '.' :: s =>
    let (ds, rest) := Decimal.takeDigits s
    if ds.length ≤ 6 then
      (Decimal.ofDigits? ds).map fun n => (n * Nat.pow 10 (6 - ds.length), rest)
    else none
  | s => some (0, s)

/-- An offset at the end of a text. -/
def offset? : List Char → Option (Option Int)
  | [] => some none
  | c :: s => do
    let (hours, s) ← takeNumber? 2 s
    let (minutes, s) ← takeNumber? 2 (← after? ':' s)
    let micros : Int := (hours * 60 + minutes : Nat) * 60000000
    if ¬s.isEmpty ∨ 24 ≤ hours ∨ 60 ≤ minutes then none
    else if c = '+' then pure (some micros)
    else if c = '-' then pure (some (-micros))
    else none

/-- The moment that a text `YYYY-MM-DDThh:mm:ss`, with an optional fraction and an optional
offset, denotes. -/
def parse? (text : String) : Option Moment := do
  let (year, s) ← takeNumber? 4 text.toList
  let (month, s) ← takeNumber? 2 (← after? '-' s)
  let (day, s) ← takeNumber? 2 (← after? '-' s)
  let (hour, s) ← takeNumber? 2 (← after? 'T' s)
  let (minute, s) ← takeNumber? 2 (← after? ':' s)
  let (second, s) ← takeNumber? 2 (← after? ':' s)
  let (micros, s) ← fraction? s
  let offset ← offset? s
  let date : Date := ⟨year, month, day⟩
  let days := date.toDays
  if Date.ofDays days = date ∧ 1 ≤ year ∧ hour < 24 ∧ minute < 60 ∧ second < 60 then
    let seconds : Int := ((hour * 60 + minute) * 60 + second : Nat)
    pure ⟨days * dayMicros + seconds * 1000000 + micros, offset⟩
  else none

/-! ### Durations -/

/-- The microseconds from `start` to `t`.  There is no answer if only one of the two offsets is
known. -/
def since? (t start : Moment) : Option Int :=
  match t.offset, start.offset with
  | none, none => some (t.micros - start.micros)
  | some a, some b => some ((t.micros - a) - (start.micros - b))
  | _, _ => none

end Moment

/-- A count of microseconds in seconds: the nearest floating-point number. -/
def secondsOf (micros : Int) : Float :=
  let size := Float.ofScientific micros.natAbs true 6
  if micros < 0 then -size else size

end ClientTrial
