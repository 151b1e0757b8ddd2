import SearchDesk.Text.Integer
import SearchDesk.Yaml.Fault

/-!
# Dates in a configuration text

A date is spelled `2001-12-14`, and a moment as a date, a `T` or blanks, and a time of day
with seconds, a fraction and a zone.

* `Spelled.ofText?` takes a text apart; month, day and hour may have one digit or two;
* `Spelled.isSure` tells whether a scalar without a tag is read as a date: a date without a
  time of day needs two digits for month and day;
* `Timestamp.ofSpelled` checks that the date exists;
* `Timestamp.same` compares two dates; moments with zones are compared as points in time.
-/

namespace SearchDesk.Yaml

/-- A zone as it is spelled. -/
inductive SpelledZone where
  | universal
  | offset (west : Bool) (hours minutes : Nat)
deriving DecidableEq, Repr

/-- A time of day as it is spelled. -/
structure SpelledTime where
  hour : Nat
  minute : Nat
  second : Nat
  /-- The fraction in millionths. -/
  micro : Nat
  zone : Option SpelledZone
deriving DecidableEq, Repr

/-- A date as it is spelled. -/
structure Spelled where
  year : Nat
  month : Nat
  day : Nat
  /-- Whether month and day have two digits. -/
  padded : Bool
  time : Option SpelledTime
deriving DecidableEq, Repr

namespace Spelled

/-- The number that ASCII digits stand for. -/
def value (ds : List Char) : Nat := ofDecimalDigits (ds.map fun c => c.toNat - 48)

/-- The number of exactly `n` digits, and what is left. -/
def digits? (n : Nat) (s : List Char) : Option (Nat × List Char) :=
  let ds := s.take n
  if ds.length = n ∧ ds.all Char.isDigit then some (value ds, s.drop n) else none

/-- The number of one digit or two, how many there are, and what is left. -/
def oneOrTwo? (s : List Char) : Option (Nat × Nat × List Char) :=
  match digits? 2 s with
  | some (n, rest) => some (n, 2, rest)
  | none => (digits? 1 s).map fun (n, rest) => (n, 1, rest)

/-- What is left after a given character. -/
def after? (c : Char) : List Char → Option (List Char)
  | d :: rest => if d = c then some rest else none
  | [] => none

/-- A space or a tab. -/
def isBlank (c : Char) : Bool := c = ' ' || c = '\t'

/-- A fraction in millionths: what is beyond the sixth digit is cut off. -/
def micro (ds : List Char) : Nat := value ((ds ++ List.replicate 6 '0').take 6)

/-- A zone, which has to take up the rest of the text; blanks may stand before it. -/
def zone? (s : List Char) : Option (Option SpelledZone) :=
  if s.isEmpty then some none
  else
    match s.dropWhile isBlank with
    | ['Z'] => some (some .universal)
    | c :: rest =>
      if c = '+' ∨ c = '-' then
        match oneOrTwo? rest with
        | some (hours, _, []) => some (some (.offset (c = '-') hours 0))
        | some (hours, _, ':' :: rest) =>
          match digits? 2 rest with
          | some (minutes, []) => some (some (.offset (c = '-') hours minutes))
          | _ => none
        | _ => none
      else none
    | [] => none

/-- A time of day, which has to take up the rest of the text. -/
def time? (s : List Char) : Option SpelledTime := do
  let (hour, _, s) ← oneOrTwo? s
  let (minute, s) ← digits? 2 (← after? ':' s)
  let (second, s) ← digits? 2 (← after? ':' s)
  let (fraction, s) := match s with
    | '.' :: rest => (rest.takeWhile Char.isDigit, rest.dropWhile Char.isDigit)
    | _ => ([], s)
  return { hour, minute, second, micro := micro fraction, zone := ← zone? s }

/-- The time of day after a date: nothing, or a `T` or blanks and the time. -/
def timeAfter? (s : List Char) : Option (Option SpelledTime) :=
  match s with
  | [] => some none
  | c :: rest =>
    if c = 'T' ∨ c = 't' then (time? rest).map some
    else if isBlank c then (time? (rest.dropWhile isBlank)).map some
    else none

/-- The parts of a date. -/
def ofText? (s : List Char) : Option Spelled := do
  let (year, s) ← digits? 4 s
  let (month, m, s) ← oneOrTwo? (← after? '-' s)
  let (day, d, s) ← oneOrTwo? (← after? '-' s)
  return { year, month, day, padded := m = 2 && d = 2, time := ← timeAfter? s }

/-- Whether a scalar without a tag is read as a date. -/
def isSure (d : Spelled) : Bool := d.padded || d.time.isSome

end Spelled

/-- A time of day; the zone is the distance to universal time in seconds. -/
structure TimeOfDay where
  hour : Nat
  minute : Nat
  second : Nat
  micro : Nat
  zone : Option Int
deriving DecidableEq, Repr

/-- A date, with a time of day or without. -/
structure Timestamp where
  year : Nat
  month : Nat
  day : Nat
  time : Option TimeOfDay
deriving DecidableEq, Repr

namespace Timestamp

/-- Whether the year has a 29th of February. -/
def isLeap (year : Nat) : Bool := year % 4 = 0 && (year % 100 ≠ 0 || year % 400 = 0)

/-- The number of days of a month. -/
def daysIn (year month : Nat) : Nat :=
  if month = 2 then (if isLeap year then 29 else 28)
  else if [4, 6, 9, 11].contains month then 30
  else 31

/-- The number of seconds of a day. -/
def daySeconds : Int := 86400

/-- The distance of a zone to universal time in seconds; it has to be less than a day. -/
def zoneSeconds : SpelledZone → Except ClockFault Int
  | .universal => .ok 0
  | .offset west hours minutes =>
    let east : Int := 3600 * hours + 60 * minutes
    let seconds := if west then -east else east
    if -daySeconds < seconds ∧ seconds < daySeconds then .ok seconds
    else .error (.zone (seconds.fdiv daySeconds) (seconds.fmod daySeconds).toNat)

/-- Check that a date exists. -/
def checkDate (year month day : Nat) : Except ClockFault Unit :=
  if year = 0 then .error (.year year)
  else if month = 0 ∨ 12 < month then .error .month
  else if day = 0 ∨ daysIn year month < day then .error .day
  else .ok ()

/-- Check that a time of day exists. -/
def checkTime (hour minute second : Nat) : Except ClockFault Unit :=
  if 23 < hour then .error .hour
  else if 59 < minute then .error .minute
  else if 59 < second then .error .second
  else .ok ()

/-- The date that is spelled, if it exists. The zone is checked first. -/
def ofSpelled (d : Spelled) : Except ClockFault Timestamp :=
  match d.time with
  | none => do
    checkDate d.year d.month d.day
    return ⟨d.year, d.month, d.day, none⟩
  | some t => do
    let zone ← match t.zone with
      | some z => some <$> zoneSeconds z
      | none => pure none
    checkDate d.year d.month d.day
    checkTime t.hour t.minute t.second
    return ⟨d.year, d.month, d.day, some ⟨t.hour, t.minute, t.second, t.micro, zone⟩⟩

/-- The number of days before a year. -/
def daysBeforeYear (year : Nat) : Nat :=
  let n := year - 1
  365 * n + n / 4 - n / 100 + n / 400

/-- The number of days from the start of the calendar to a date. -/
def dayNumber (year month day : Nat) : Nat :=
  daysBeforeYear year + ((List.range month).drop 1).foldl (fun n m => n + daysIn year m) 0 + day

/-- The point in time of a moment with a zone, in seconds. -/
def seconds (t : Timestamp) (time : TimeOfDay) (zone : Int) : Int :=
  daySeconds * dayNumber t.year t.month t.day + 3600 * time.hour + 60 * time.minute + time.second
    - zone

/-- Whether two dates are the same: moments with zones as points in time. -/
def same (a b : Timestamp) : Bool :=
  match a.time, b.time with
  | some s, some t =>
    match s.zone, t.zone with
    | some y, some z => a.seconds s y = b.seconds t z && s.micro = t.micro
    | _, _ => a = b
  | _, _ => a = b

/-- A natural number with at least the given number of digits. -/
def padded (width n : Nat) : String :=
  let ds := Nat.toDigits 10 n
  String.ofList (List.replicate (width - ds.length) '0' ++ ds)

/-- A zone as text: a sign, hours and minutes. -/
def zoneText (zone : Int) : String :=
  let minutes := zone.natAbs / 60
  (if zone < 0 then "-" else "+") ++ padded 2 (minutes / 60) ++ ":" ++ padded 2 (minutes % 60)

/-- A date as text. -/
def text (t : Timestamp) : String :=
  let date := padded 4 t.year ++ "-" ++ padded 2 t.month ++ "-" ++ padded 2 t.day
  match t.time with
  | none => date
  | some d =>
    date ++ " " ++ padded 2 d.hour ++ ":" ++ padded 2 d.minute ++ ":" ++ padded 2 d.second
      ++ (if d.micro = 0 then "" else "." ++ padded 6 d.micro)
      ++ match d.zone with
        | some z => zoneText z
        | none => ""

end Timestamp

end SearchDesk.Yaml
