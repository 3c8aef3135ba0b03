import Rulebook.Number.Numeral

/-!
# Dates and times

A date is a day of the years 1 to 9999, counted from the first. A time is what a clock shows on
such a day, in microseconds since the start of the first day, with or without the offset of the
clock from universal time. Counted this way, order and change of zone are arithmetic; years and
months matter only where a date is read or written.
-/

namespace Rulebook

/-- The number of days in the years 1 to 9999. -/
def calendarDays : Nat := 3652059

/-- The number of microseconds in a day. -/
def microsPerDay : Nat := 86400000000

/-- A day, counted from the first day of year 1. -/
structure Date where
  ordinal : Nat
  inRange : ordinal < calendarDays
deriving DecidableEq

/-- What a clock shows, in microseconds since the start of year 1, and how many microseconds the
clock is ahead of universal time, if that is known. -/
structure DateTime where
  clock : Nat
  offset : Option Int
  inRange : clock < calendarDays * microsPerDay
deriving DecidableEq

/-- Why a time could not be moved to another zone. -/
inductive ZoneError where
  /-- The result lies outside the years 1 to 9999. -/
  | outOfRange
  /-- The local clock shows a year outside the years 1 to 9999. -/
  | localYear (year : Nat)
deriving DecidableEq

/-! ## Years and months -/

/-- Whether the year has a 29 February. -/
def isLeapYear (y : Nat) : Bool := y % 4 == 0 && (y % 100 != 0 || y % 400 == 0)

/-- The number of days before the first day of the year. -/
def daysBeforeYear (y : Nat) : Nat := (y - 1) * 365 + (y - 1) / 4 - (y - 1) / 100 + (y - 1) / 400

/-- The number of days of a month. -/
def daysInMonth (y m : Nat) : Nat :=
  if m == 2 then (if isLeapYear y then 29 else 28)
  else if m == 4 || m == 6 || m == 9 || m == 11 then 30 else 31

/-- The number of days in the months of the year before the month. -/
def daysBeforeMonth (y m : Nat) : Nat :=
  ((List.range m).drop 1).foldl (fun n k => n + daysInMonth y k) 0

/-- The month and day of the month of the day `n` of a year, both counted as on a calendar. -/
def monthAndDay (y n : Nat) : Nat × Nat :=
  let months := (List.range 13).drop 1
  let m := (months.filter fun k => daysBeforeMonth y k ≤ n).length
  (m, n - daysBeforeMonth y m + 1)

namespace Date

/-- The day of a year, month and day of the month, if there is one. -/
def ofYmd? (y m d : Nat) : Option Date :=
  let n := daysBeforeYear y + daysBeforeMonth y m + (d - 1)
  if h : 1 ≤ y ∧ y ≤ 9999 ∧ 1 ≤ m ∧ m ≤ 12 ∧ 1 ≤ d ∧ d ≤ daysInMonth y m ∧ n < calendarDays then
    some ⟨n, h.2.2.2.2.2.2⟩
  else none

/-- The year, month and day of the month. Years come in cycles of 400, 100, 4 and 1. -/
def ymd (d : Date) : Nat × Nat × Nat :=
  let n400 := d.ordinal / 146097
  let r := d.ordinal % 146097
  let n100 := min 3 (r / 36524)
  let r := r - n100 * 36524
  let n4 := r / 1461
  let r := r % 1461
  let n1 := min 3 (r / 365)
  let r := r - n1 * 365
  let y := n400 * 400 + n100 * 100 + n4 * 4 + n1 + 1
  let (m, day) := monthAndDay y r
  (y, m, day)

end Date

namespace DateTime

/-- The day a clock shows. -/
def date (t : DateTime) : Date :=
  ⟨t.clock / microsPerDay, by
    have h := t.inRange
    exact Nat.div_lt_of_lt_mul (by rw [Nat.mul_comm]; exact h)⟩

/-- The microseconds since the start of the day. -/
def timeOfDay (t : DateTime) : Nat := t.clock % microsPerDay

/-- The clock and offset, if the clock is within the years 1 to 9999. -/
def ofClock? (clock : Int) (offset : Option Int) : Option DateTime :=
  if h : 0 ≤ clock ∧ clock.toNat < calendarDays * microsPerDay then
    some ⟨clock.toNat, offset, h.2⟩
  else none

/-- A day and the microseconds since its start. -/
def ofDate? (d : Date) (time : Nat) (offset : Option Int) : Option DateTime :=
  ofClock? (d.ordinal * microsPerDay + time) offset

/-- The moment in microseconds of universal time, for a clock with an offset. -/
def instant (t : DateTime) (offset : Int) : Int := t.clock - offset

/-- The same moment on a clock that is `zone` ahead, for a clock that is `offset` ahead. Universal
time is computed in between and has to be in range as well. -/
def moveZone (t : DateTime) (offset zone : Int) : Except ZoneError DateTime :=
  match ofClock? (t.instant offset) none with
  | none => .error .outOfRange
  | some u =>
    match ofClock? (u.clock + zone) (some zone) with
    | none => .error .outOfRange
    | some r => .ok r

/-- The microseconds of seconds by which a clock is ahead. -/
def offsetOfSeconds (zone : Int) : Int := zone * 1000000

/-- The whole seconds of a calendar. -/
def calendarSeconds : Int := calendarDays * 86400

/-- The offset of the local clock is found by looking at the local clock around the time; every
time looked at has to be in range. -/
def checkLocal (t : DateTime) (zone : Int) : Except ZoneError Unit :=
  let s : Int := t.clock / 1000000
  if s + zone < 0 || s < 86400 then .error (.localYear 0)
  else if calendarSeconds ≤ s + zone then .error (.localYear 10000)
  else .ok ()

/-- The same moment on the local clock, which is `zone` seconds ahead. A time without an offset is
a local one. -/
def toLocal (t : DateTime) (zone : Int) : Except ZoneError DateTime :=
  let ahead := offsetOfSeconds zone
  match t.offset with
  | some offset => t.moveZone offset ahead
  | none => do
    t.checkLocal zone
    t.moveZone ahead ahead

end DateTime

/-! ## Written forms -/

/-- The number, filled up with zeros to the given width. -/
def padded (width n : Nat) : String :=
  let digits := toString n
  String.ofList (List.replicate (width - digits.length) '0') ++ digits

/-- Hours, minutes and, if there are any, seconds and microseconds of an offset. -/
def offsetText (offset : Int) : String :=
  let n := offset.natAbs
  let s := n / 1000000
  (if offset < 0 then "-" else "+") ++ padded 2 (s / 3600) ++ ":" ++ padded 2 (s / 60 % 60) ++
    (if n % 60000000 == 0 then "" else ":" ++ padded 2 (s % 60)) ++
    (if n % 1000000 == 0 then "" else "." ++ padded 6 (n % 1000000))

namespace Date

/-- Year, month and day with hyphens. -/
def text (d : Date) : String :=
  let (y, m, day) := d.ymd
  padded 4 y ++ "-" ++ padded 2 m ++ "-" ++ padded 2 day

/-- Reads `year-month-day`, also without the hyphens. -/
def ofText? (s : String) : Option Date :=
  match s.toList with
  | [a, b, c, d, '-', e, f, '-', g, h] => digits [a, b, c, d] [e, f] [g, h]
  | [a, b, c, d, e, f, g, h] => digits [a, b, c, d] [e, f] [g, h]
  | _ => none
where
  digits (y m d : List Char) : Option Date :=
    if (y ++ m ++ d).all isAsciiDigit then
      ofYmd? (natOfDigits y) (natOfDigits m) (natOfDigits d)
    else none

end Date

namespace DateTime

/-- The time of day: hours, minutes, seconds and, if there are any, microseconds. -/
def timeText (t : DateTime) : String :=
  let n := t.timeOfDay
  let s := n / 1000000
  padded 2 (s / 3600) ++ ":" ++ padded 2 (s / 60 % 60) ++ ":" ++ padded 2 (s % 60) ++
    (if n % 1000000 == 0 then "" else "." ++ padded 6 (n % 1000000))

/-- Day and time with the given separator, and the offset if there is one. -/
def text (separator : String) (t : DateTime) : String :=
  t.date.text ++ separator ++ t.timeText ++ (t.offset.map offsetText).getD ""

/-- Two digits and the rest. -/
private def twoDigits? : List Char → Option (Nat × List Char)
  | a :: b :: rest =>
    if isAsciiDigit a && isAsciiDigit b then some (natOfDigits [a, b], rest) else none
  | _ => none

/-- Reads `hh[:mm[:ss[.ffffff]]]` as microseconds; the fraction counts to six digits. -/
private def clockOf? (cs : List Char) : Option Nat := do
  let (h, rest) ← twoDigits? cs
  let (m, rest) ← match rest with
    | ':' :: rest => twoDigits? rest
    | [] => some (0, [])
    | _ => twoDigits? rest
  let (s, rest) ← match rest with
    | ':' :: rest => twoDigits? rest
    | [] => some (0, [])
    | _ => twoDigits? rest
  let micros ← match rest with
    | [] => some 0
    | c :: digits =>
      if (c == '.' || c == ',') && digits.all isAsciiDigit && !digits.isEmpty then
        some (natOfDigits ((digits ++ List.replicate 6 '0').take 6))
      else none
  if h < 24 && m < 60 && s < 60 then some ((h * 3600 + m * 60 + s) * 1000000 + micros) else none

/-- Reads an offset: nothing, `Z`, or a sign and a time. -/
private def offsetOf? : List Char → Option (Option Int)
  | [] => some none
  | ['Z'] => some (some 0)
  | c :: body => (clockOf? body).map fun n => some (if c == '-' then -(n : Int) else n)

/-- Reads a day, a separator, a time of day and an offset or none. -/
def ofText? (s : String) : Option DateTime := do
  let cs := s.toList
  let size := if cs[4]? == some '-' then 10 else 8
  let d ← Date.ofText? (String.ofList (cs.take size))
  let rest := cs.drop (size + 1)
  let time := rest.takeWhile fun c => c != '+' && c != '-' && c != 'Z'
  let zone := rest.dropWhile fun c => c != '+' && c != '-' && c != 'Z'
  let micros ← if rest.isEmpty then some 0 else clockOf? time
  let offset ← offsetOf? zone
  ofDate? d micros offset

end DateTime

end Rulebook
