/-!
# Dates and times

A settings document may hold dates and times. No setting is one, so all that is done with them is to
name them in a message.
-/

namespace Reconcile

/-- A day of the calendar. -/
structure Day where
  year : Nat
  month : Nat
  day : Nat
deriving DecidableEq

/-- A time of day. -/
structure Clock where
  hour : Nat
  minute : Nat
  second : Nat
  microsecond : Nat
deriving DecidableEq

/-- How far a time is from universal time: behind it if the mark of the offset is a minus sign, and
ahead of it otherwise. -/
inductive Zone where
  | universal
  | offset (mark : Char) (hours minutes : Nat)
deriving DecidableEq

/-- A day, a time of day, or both, with or without a zone. -/
inductive Moment where
  | day (day : Day)
  | clock (clock : Clock)
  | civil (day : Day) (clock : Clock)
  | zoned (day : Day) (clock : Clock) (zone : Zone)
deriving DecidableEq

namespace Moment

/-- Numbers between commas. -/
private def listed (numbers : List Nat) : String :=
  ", ".intercalate (numbers.map toString)

/-- The coordinates of a day. -/
private def dayParts (day : Day) : List Nat :=
  [day.year, day.month, day.day]

/-- The coordinates of a time of day, without those at the end that are zero, but always with the
minute. -/
private def clockParts (clock : Clock) : List Nat :=
  [clock.hour, clock.minute] ++
    if clock.microsecond != 0 then [clock.second, clock.microsecond]
    else if clock.second != 0 then [clock.second]
    else []

/-- A number in two digits. -/
private def twoDigits (number : Nat) : String :=
  if number < 10 then "0" ++ toString number else toString number

/-- A zone as messages show it. -/
private def zoneText : Zone → String
  | .universal => "datetime.timezone(datetime.timedelta(0), 'UTC')"
  | .offset mark hours minutes =>
    let seconds := hours * 3600 + minutes * 60
    let size :=
      if seconds = 0 then "0"
      else if mark = '-' then "days=-1, seconds=" ++ toString (86400 - seconds)
      else "seconds=" ++ toString seconds
    "datetime.timezone(datetime.timedelta(" ++ size ++ "), '" ++ String.singleton mark
      ++ twoDigits hours ++ ":" ++ twoDigits minutes ++ "')"

/-- A moment as messages show it. -/
def text : Moment → String
  | day d => "datetime.date(" ++ listed (dayParts d) ++ ")"
  | clock c => "datetime.time(" ++ listed (clockParts c) ++ ")"
  | civil d c => "datetime.datetime(" ++ listed (dayParts d ++ clockParts c) ++ ")"
  | zoned d c zone =>
    "datetime.datetime(" ++ listed (dayParts d ++ clockParts c) ++ ", tzinfo=" ++ zoneText zone
      ++ ")"

/-- The name of the kind of a moment. -/
def kind : Moment → String
  | day _ => "date"
  | clock _ => "time"
  | civil .. => "datetime"
  | zoned .. => "datetime"

end Moment

end Reconcile
