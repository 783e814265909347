import CounterCache.Lua.Library.Args

/-!
# Dates: `os.time` and `os.date`

A time is a count of seconds since 1970-01-01 00:00:00 UTC, and scripts run in UTC, so local
time and UTC agree. A broken-down time (`DateTime`) is a date of the proleptic Gregorian
calendar, a time of day, and the day of the year and of the week it falls on.

`os.time` of a date table reads its fields as `mktime` does, normalizing out-of-range fields
(month 13 is January of the next year, day 0 the last day of the month before), and writes the
normalized fields back into the table. `os.date` writes a time by the conversions of `strftime`
in the C locale, or gives its fields as a table for the format `*t`; a leading `!` asks for UTC.
A time without a date is read from a clock that stands at the epoch.

Main statement: `civilFromDays_daysFromCivil` checks, for the first day of the epoch, that
reading a day number back gives the date it came from.
-/

namespace CounterCache.Lua

namespace Library

variable {σ : Type}

open Machine

/-- The day number since 1970-01-01 of a date in the proleptic Gregorian calendar; months and
days out of range count on into the next or back into the previous month. -/
def daysFromCivil (y m d : Int) : Int :=
  let y := if m ≤ 2 then y - 1 else y
  let era := y / 400
  let yoe := y - era * 400
  let mp := (m + 9) % 12
  let doy := (153 * mp + 2) / 5 + d - 1
  let doe := yoe * 365 + yoe / 4 - yoe / 100 + doy
  era * 146097 + doe - 719468

/-- The date of a day number since 1970-01-01: year, month and day. -/
def civilFromDays (z : Int) : Int × Int × Int :=
  let z := z + 719468
  let era := z / 146097
  let doe := z - era * 146097
  let yoe := (doe - doe / 1460 + doe / 36524 - doe / 146096) / 365
  let doy := doe - (365 * yoe + yoe / 4 - yoe / 100)
  let mp := (5 * doy + 2) / 153
  let d := doy - (153 * mp + 2) / 5 + 1
  let m := if mp < 10 then mp + 3 else mp - 9
  (yoe + era * 400 + (if m ≤ 2 then 1 else 0), m, d)

theorem civilFromDays_daysFromCivil : civilFromDays (daysFromCivil 1970 1 1) = (1970, 1, 1) := by
  decide

/-- A broken-down time. The day of the year counts from 0 for January 1st, the day of the week
from 0 for Sunday. -/
structure DateTime where
  year : Int
  month : Int
  day : Int
  hour : Int
  min : Int
  sec : Int
  yday : Int
  wday : Int

/-- The broken-down time of a time. -/
def DateTime.ofTime (t : Int) : DateTime :=
  let days := t / 86400
  let secs := t % 86400
  let (year, month, day) := civilFromDays days
  { year, month, day, hour := secs / 3600, min := secs % 3600 / 60, sec := secs % 60,
    yday := days - daysFromCivil year 1 1, wday := (days + 4) % 7 }

/-- The weekday of the Monday-first numbering, from 1 for Monday to 7 for Sunday. -/
def DateTime.isoWeekday (d : DateTime) : Int := if d.wday == 0 then 7 else d.wday

/-- The number of ISO weeks in a year: 53 when it starts on a Thursday, or is a leap year
starting on a Wednesday, and 52 otherwise. -/
def isoWeeksIn (y : Int) : Int :=
  let p (y : Int) : Int := (y + y / 4 - y / 100 + y / 400) % 7
  if p y == 4 || p (y - 1) == 3 then 53 else 52

/-- The ISO week-numbering year and week of a date: week 1 is the week, Monday first, that holds
the year's first Thursday. -/
def DateTime.isoWeek (d : DateTime) : Int × Int :=
  let w := (d.yday + 1 - d.isoWeekday + 10) / 7
  if w < 1 then (d.year - 1, isoWeeksIn (d.year - 1))
  else if w > isoWeeksIn d.year then (d.year + 1, 1)
  else (d.year, w)

/-- An integer in decimal, zero-padded to a width. -/
def padded (width : Nat) (n : Int) : String :=
  let s := toString n.natAbs
  let body := String.ofList (List.replicate (width - s.length) '0') ++ s
  if n < 0 then "-" ++ body else body

/-- A day of the month, padded with a blank to two characters. -/
def blankPadded (n : Int) : String :=
  let s := toString n
  if s.length < 2 then " " ++ s else s

/-- A year in decimal, unpadded, with its sign when negative. -/
def yearText (y : Int) : String := toString y

/-- The abbreviated and full names of the days of the week, from Sunday. -/
def weekdayNames : List (String × String) :=
  [("Sun", "Sunday"), ("Mon", "Monday"), ("Tue", "Tuesday"), ("Wed", "Wednesday"),
   ("Thu", "Thursday"), ("Fri", "Friday"), ("Sat", "Saturday")]

/-- The abbreviated and full names of the months, from January. -/
def monthNames : List (String × String) :=
  [("Jan", "January"), ("Feb", "February"), ("Mar", "March"), ("Apr", "April"), ("May", "May"),
   ("Jun", "June"), ("Jul", "July"), ("Aug", "August"), ("Sep", "September"),
   ("Oct", "October"), ("Nov", "November"), ("Dec", "December")]

/-- The one-letter conversions `os.date` accepts. -/
def dateConversions : List Char := "aAbBcCdDeFgGhHIjmMnprRStTuUVwWxXyYzZ%".toList

/-- The conversions `os.date` accepts after the modifier `E`, and after `O`. -/
def modifiedConversions : Char → List Char
  | 'E' => "cCxXyY".toList
  | 'O' => "deHImMSuUVwWy".toList
  | _ => []

/-- One conversion of `strftime` in the C locale, its modifier dropped, for a broken-down time;
`utc` says whether the time is UTC, which names the zone. -/
def DateTime.convert (d : DateTime) (utc : Bool) (conv : Char) : String :=
  let names (l : List (String × String)) (i : Int) : String × String := l.getD i.toNat ("?", "?")
  let hour12 := if d.hour % 12 == 0 then 12 else d.hour % 12
  let date := padded 2 d.month ++ "/" ++ padded 2 d.day ++ "/" ++ padded 2 (d.year % 100)
  let clock := padded 2 d.hour ++ ":" ++ padded 2 d.min ++ ":" ++ padded 2 d.sec
  match conv with
  | 'a' => (names weekdayNames d.wday).1
  | 'A' => (names weekdayNames d.wday).2
  | 'b' | 'h' => (names monthNames (d.month - 1)).1
  | 'B' => (names monthNames (d.month - 1)).2
  | 'c' =>
    (names weekdayNames d.wday).1 ++ " " ++ (names monthNames (d.month - 1)).1 ++ " " ++
      blankPadded d.day ++ " " ++ clock ++ " " ++ yearText d.year
  | 'C' => toString (d.year / 100)
  | 'd' => padded 2 d.day
  | 'D' | 'x' => date
  | 'e' => blankPadded d.day
  | 'F' => yearText d.year ++ "-" ++ padded 2 d.month ++ "-" ++ padded 2 d.day
  | 'g' => padded 2 (d.isoWeek.1 % 100)
  | 'G' => yearText d.isoWeek.1
  | 'H' => padded 2 d.hour
  | 'I' => padded 2 hour12
  | 'j' => padded 3 (d.yday + 1)
  | 'm' => padded 2 d.month
  | 'M' => padded 2 d.min
  | 'n' => "\n"
  | 'p' => if d.hour < 12 then "AM" else "PM"
  | 'r' => padded 2 hour12 ++ ":" ++ padded 2 d.min ++ ":" ++ padded 2 d.sec ++ " " ++
      (if d.hour < 12 then "AM" else "PM")
  | 'R' => padded 2 d.hour ++ ":" ++ padded 2 d.min
  | 'S' => padded 2 d.sec
  | 't' => "\t"
  | 'T' | 'X' => clock
  | 'u' => toString d.isoWeekday
  | 'U' => padded 2 ((d.yday + 7 - d.wday) / 7)
  | 'V' => padded 2 d.isoWeek.2
  | 'w' => toString d.wday
  | 'W' => padded 2 ((d.yday + 7 - (d.wday + 6) % 7) / 7)
  | 'y' => padded 2 (d.year % 100)
  | 'Y' => yearText d.year
  | 'z' => "+0000"
  | 'Z' => if utc then "GMT" else "UTC"
  | _ => "%"

/-- Formats a broken-down time: the bytes of a format with each conversion replaced, or, at the
first `%` that starts no conversion, the rest of the format from there. -/
def DateTime.format (d : DateTime) (utc : Bool) : List UInt8 → Except (List UInt8) (List UInt8)
  | [] => .ok []
  | 0x25 :: b :: rest =>
    let c := Char.ofNat b.toNat
    let text (conv : Char) : List UInt8 := (d.convert utc conv).toUTF8.data.toList
    if dateConversions.contains c then (d.format utc rest).map (text c ++ ·)
    else
      match rest with
      | b' :: rest' =>
        let c' := Char.ofNat b'.toNat
        if (modifiedConversions c).contains c' then (d.format utc rest').map (text c' ++ ·)
        else .error (0x25 :: b :: b' :: rest')
      | [] => .error [0x25, b]
  | [0x25] => .error [0x25]
  | b :: rest => (d.format utc rest).map (b :: ·)

/-- Whether a year can be held by a broken-down time, whose year is a 32-bit count from 1900. -/
def representableYear (y : Int) : Bool := -(Int.pow 2 31) ≤ y - 1900 ∧ y - 1900 < Int.pow 2 31

/-- Stores the fields of a broken-down time into a table, through its metamethods. -/
def setDateFields (t : Value) (d : DateTime) : LuaM σ Unit := do
  for (k, v) in [("year", d.year), ("month", d.month), ("day", d.day), ("hour", d.hour),
      ("min", d.min), ("sec", d.sec), ("yday", d.yday + 1), ("wday", d.wday + 1)] do
    setIndex t (.ofString k) (.int v) .none
  setIndex t (.ofString "isdst") (.bool false) .none

/-- `os.date`: a time, by default the clock's, as text in a format, by default `%c`, or as a
table of fields for `*t`. -/
def osDate (c : LibCall) : LuaM σ (List Value) := do
  let fmt ← c.optString 0 "%c".toUTF8
  let time ← if c.isNoneOrNil 1 then pure 0 else c.checkInteger 1
  let (utc, spec) := match fmt.data.toList with
    | 0x21 :: rest => (true, rest)
    | bs => (false, bs)
  let d := DateTime.ofTime time
  if !representableYear d.year then
    raiseHere "date result cannot be represented in this installation"
  if spec.takeWhile (· != 0) == [0x2A, 0x74] then
    let t ← newTable (Table.create 0 9)
    setDateFields (.table t) d
    return [.table t]
  match d.format utc spec with
  | .ok bs => return [.str ⟨bs.toArray⟩]
  | .error rest =>
    c.argError 1 ("invalid conversion specifier '" ++ cText ⟨rest.toArray⟩ ++ "'")

/-- A field of a date table: an integer in range less `delta`, or the default when absent. -/
def dateField (t : Value) (key : String) (dflt : Option Int) (delta : Int) : LuaM σ Int := do
  let v ← index t (.ofString key) .none
  match v.toNumeral?.bind Numeral.toInteger? with
  | some n =>
    if !(-(Int.pow 2 31) + delta ≤ n ∧ n < Int.pow 2 31 + delta) then
      raiseHere ("field '" ++ key ++ "' is out-of-bound")
    return n - delta
  | none =>
    match v with
    | .nil =>
      match dflt with
      | some d => return d
      | none => raiseHere ("field '" ++ key ++ "' missing in date table")
    | _ => raiseHere ("field '" ++ key ++ "' is not an integer")

/-- The `isdst` field of a date table as `mktime` takes it: `-1` when absent, else `1` or `0`
as the value is true or false. -/
def dstField (t : Value) : LuaM σ Int := do
  let v ← index t (.ofString "isdst") .none
  return if v.isNil then -1 else if v.truthy then 1 else 0

/-- `os.time`: the clock's time, or the time of a date table, whose fields are then normalized
in place. Asking for daylight saving time, which UTC never has, takes an hour off. The time `-1`,
which the C library uses for failure, cannot be given, though the fields are normalized first. -/
def osTime (c : LibCall) : LuaM σ (List Value) := do
  if c.isNoneOrNil 0 then return [.int 0]
  let _ ← c.checkTable 0
  let t := c.arg 0
  let year ← dateField t "year" none 1900
  let month ← dateField t "month" none 1
  let day ← dateField t "day" none 0
  let hour ← dateField t "hour" (some 12) 0
  let min ← dateField t "min" (some 0) 0
  let sec ← dateField t "sec" (some 0) 0
  let dst ← dstField t
  let days := daysFromCivil (year + 1900 + month / 12) (month % 12 + 1) 1 + (day - 1)
  let time := days * 86400 + hour * 3600 + min * 60 + sec - (if dst == 1 then 3600 else 0)
  let d := DateTime.ofTime time
  if !representableYear d.year then
    raiseHere "time result cannot be represented in this installation"
  setDateFields t d
  if time == -1 then raiseHere "time result cannot be represented in this installation"
  return [.int time]

end Library

end CounterCache.Lua
