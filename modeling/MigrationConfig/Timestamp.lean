/-
# Dates and times

A timestamp of a document: a calendar date, or a date with a time of day and
perhaps an offset from universal time.  The fields of a written timestamp are
checked against the calendar in a fixed order, and the first one that is out of
range names the fault.
-/
import MigrationConfig.Text.Digit

namespace MigrationConfig

/-- A calendar date, or a date with a time of day.  The zone is an offset in
minutes. -/
inductive Timestamp where
  | date (year month day : Nat)
  | moment (year month day hour minute second microsecond : Nat) (zone : Option Int)
  deriving DecidableEq

/-- What is out of range in a written timestamp. -/
inductive CalendarFault where
  | year (year : Nat)
  | month
  | day
  | hour
  | minute
  | second
  | zone (minutes : Int)

namespace Timestamp

/-- A number with at least `width` digits. -/
def padded (width n : Nat) : String :=
  let ds := Text.digitsOf n
  String.ofList (List.replicate (width - ds.length) '0' ++ ds)

/-- A leap year of the Gregorian calendar. -/
def isLeap (year : Nat) : Bool := (year % 4 == 0 && year % 100 != 0) || year % 400 == 0

/-- The number of days of a month. -/
def daysIn (year month : Nat) : Nat :=
  if month == 2 then (if isLeap year then 29 else 28)
  else if month == 4 || month == 6 || month == 9 || month == 11 then 30 else 31

/-- Checks the fields of a date. -/
def checkDate (year month day : Nat) : Except CalendarFault Unit :=
  if year == 0 then .error (.year year)
  else if month == 0 || 12 < month then .error .month
  else if day == 0 || daysIn year month < day then .error .day
  else .ok ()

/-- Checks the fields of a time of day. -/
def checkTime (hour minute second : Nat) : Except CalendarFault Unit :=
  if 23 < hour then .error .hour
  else if 59 < minute then .error .minute
  else if 59 < second then .error .second
  else .ok ()

/-- Checks an offset: it stays below a whole day. -/
def checkZone : Option Int → Except CalendarFault Unit
  | none => .ok ()
  | some z => if z.natAbs < 1440 then .ok () else .error (.zone z)

/-- The date of given fields. -/
def ofDate (year month day : Nat) : Except CalendarFault Timestamp := do
  checkDate year month day
  return .date year month day

/-- The moment of given fields. -/
def ofMoment (year month day hour minute second microsecond : Nat) (zone : Option Int) :
    Except CalendarFault Timestamp := do
  checkZone zone
  checkDate year month day
  checkTime hour minute second
  return .moment year month day hour minute second microsecond zone

/-- An offset as sign, hours and minutes. -/
def zoneText (z : Int) : String :=
  (if z < 0 then "-" else "+") ++ padded 2 (z.natAbs / 60) ++ ":" ++ padded 2 (z.natAbs % 60)

/-- The text of a timestamp. -/
def text : Timestamp → String
  | .date y m d => padded 4 y ++ "-" ++ padded 2 m ++ "-" ++ padded 2 d
  | .moment y m d h mi s us zone =>
      padded 4 y ++ "-" ++ padded 2 m ++ "-" ++ padded 2 d ++ " " ++
        padded 2 h ++ ":" ++ padded 2 mi ++ ":" ++ padded 2 s ++
        (if us == 0 then "" else "." ++ padded 6 us) ++
        (match zone with
          | none => ""
          | some z => zoneText z)

/-- The number of days before a year. -/
def daysBeforeYear (year : Nat) : Nat :=
  let past := year - 1
  365 * past + past / 4 - past / 100 + past / 400

/-- The number of days before a month of a year. -/
def daysBeforeMonth (year month : Nat) : Nat :=
  (List.range (month - 1)).foldl (fun days m => days + daysIn year (m + 1)) 0

/-- The microseconds that have passed on a calendar at a moment. -/
def microsecondsAt (year month day hour minute second microsecond : Nat) : Nat :=
  let days := daysBeforeYear year + daysBeforeMonth year month + day
  (((days * 24 + hour) * 60 + minute) * 60 + second) * 1000000 + microsecond

/-- The instant of a moment with a known offset, in microseconds of universal
time. -/
def instant? : Timestamp → Option Int
  | .moment y m d h mi s us (some zone) =>
      some (Int.ofNat (microsecondsAt y m d h mi s us) - zone * 60000000)
  | _ => none

/-- Two timestamps mean the same: moments with an offset by their instant, and
all others by their fields. -/
def agrees (s t : Timestamp) : Bool :=
  match s.instant?, t.instant? with
  | some a, some b => a == b
  | _, _ => s == t

/-- A span of minutes as it stands inside a literal: whole days, rounded down,
and the seconds that remain. -/
def spanLiteral (minutes : Int) : String :=
  let days := Int.fdiv minutes 1440
  let seconds := Int.fmod minutes 1440 * 60
  let parts := (if days == 0 then [] else ["days=" ++ Text.integerText days]) ++
    (if seconds == 0 then [] else ["seconds=" ++ Text.integerText seconds])
  "datetime.timedelta(" ++ (if parts.isEmpty then "0" else ", ".intercalate parts) ++ ")"

/-- An offset as it stands inside a literal. -/
def zoneLiteral (z : Int) : String :=
  "datetime.timezone" ++ (if z == 0 then ".utc" else "(" ++ spanLiteral z ++ ")")

/-- A timestamp as it stands inside a literal; a time of day is written without
the seconds and microseconds that are zero at its end. -/
def literal : Timestamp → String
  | .date y m d =>
      "datetime.date(" ++ ", ".intercalate ([y, m, d].map fun n => Text.integerText (Int.ofNat n)) ++ ")"
  | .moment y m d h mi s us zone =>
      let fields := [y, m, d, h, mi] ++
        (if us == 0 then (if s == 0 then [] else [s]) else [s, us])
      "datetime.datetime(" ++ ", ".intercalate (fields.map fun n => Text.integerText (Int.ofNat n)) ++
        (match zone with
          | none => ""
          | some z => ", tzinfo=" ++ zoneLiteral z) ++ ")"

end Timestamp

/-- The wording of a calendar fault. -/
def CalendarFault.message : CalendarFault → String
  | .year y => "year " ++ Text.integerText y ++ " is out of range"
  | .month => "month must be in 1..12"
  | .day => "day is out of range for month"
  | .hour => "hour must be in 0..23"
  | .minute => "minute must be in 0..59"
  | .second => "second must be in 0..59"
  | .zone z =>
      "offset must be a timedelta strictly between -timedelta(hours=24) and " ++
        "timedelta(hours=24), not " ++ Timestamp.spanLiteral z ++ "."

end MigrationConfig
