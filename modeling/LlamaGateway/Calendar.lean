/-!
# Calendar dates

Dates of the Gregorian calendar, extended to all years from -9999 to 9999, and their text in
prompts.
-/

namespace LlamaGateway

namespace Calendar

/-- Every fourth year but three of four centuries. -/
def isLeapYear (year : Int) : Bool :=
  year % 4 = 0 && (year % 100 ≠ 0 || year % 400 = 0)

/-- The number of days of a month, zero for a month that does not exist. -/
def daysInMonth (year : Int) (month : Nat) : Nat :=
  match month with
  | 1 | 3 | 5 | 7 | 8 | 10 | 12 => 31
  | 4 | 6 | 9 | 11 => 30
  | 2 => if isLeapYear year then 29 else 28
  | _ => 0

/-- The date exists. -/
def Exists (year : Int) (month day : Nat) : Prop :=
  -9999 ≤ year ∧ year ≤ 9999 ∧ 1 ≤ day ∧ day ≤ daysInMonth year month

instance (year : Int) (month day : Nat) : Decidable (Exists year month day) :=
  inferInstanceAs (Decidable (_ ∧ _))

/-- The name of a month. -/
def monthName : Nat → String
  | 1 => "January"
  | 2 => "February"
  | 3 => "March"
  | 4 => "April"
  | 5 => "May"
  | 6 => "June"
  | 7 => "July"
  | 8 => "August"
  | 9 => "September"
  | 10 => "October"
  | 11 => "November"
  | _ => "December"

end Calendar

/-- A date that exists. -/
structure CalendarDate where
  /-- The year. -/
  year : Int
  /-- The month, from one. -/
  month : Nat
  /-- The day of the month, from one. -/
  day : Nat
  /-- There is such a day. -/
  exist : Calendar.Exists year month day
deriving DecidableEq, Repr

namespace CalendarDate

/-- The date with the given parts, if it exists. -/
def of? (year month day : Int) : Option CalendarDate :=
  if exist : Calendar.Exists year month.toNat day.toNat then some ⟨year, _, _, exist⟩ else none

/-- The third of July 2024. -/
def thirdOfJuly : CalendarDate :=
  ⟨2024, 7, 3, by decide⟩

/-- A number with zeros in front of its digits up to a width, which counts its sign. -/
def padded (width : Nat) (value : Int) : String :=
  let sign := if value < 0 then ['-'] else []
  let digits := Nat.toDigits 10 value.natAbs
  String.ofList (sign ++ List.replicate (width - sign.length - digits.length) '0' ++ digits)

/-- Day of two characters, English month and year of four characters. -/
def toText (date : CalendarDate) : String :=
  padded 2 date.day ++ " " ++ Calendar.monthName date.month ++ " " ++ padded 4 date.year

end CalendarDate

end LlamaGateway
