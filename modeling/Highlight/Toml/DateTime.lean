/-
  Dates and times of day.

  A `DateTime` may lack its date, its time or its offset from universal time; the reader decides
  which of them may stand together.  `DateTime.text` is the standard form: `T` between date and
  time, and no more digits behind the seconds than are needed.
-/

namespace Highlight.Toml

/-- A day of the calendar. -/
structure Date where
  year : Nat
  month : Nat
  day : Nat
  deriving DecidableEq, Repr, Inhabited

/-- A time of day. -/
structure Time where
  hour : Nat
  minute : Nat
  second : Nat
  nanosecond : Nat
  deriving DecidableEq, Repr, Inhabited

/-- The distance from universal time: none, or some minutes. -/
inductive Offset where
  | utc
  | minutes (behind : Bool) (count : Nat)
  deriving DecidableEq, Repr, Inhabited

/-- A date, a time, or both. -/
structure DateTime where
  date : Option Date
  time : Option Time
  offset : Option Offset
  deriving DecidableEq, Repr, Inhabited

/-- The key that marks a table as the writing of a date or a time; no document is likely to use it
    for anything else. -/
def DateTime.key : String := "$__toml_private_datetime"

/-! ## The calendar -/

def isLeapYear (year : Nat) : Bool := year % 4 = 0 && (year % 100 ≠ 0 || year % 400 = 0)

/-- The number of days of a month. -/
def daysOfMonth (year month : Nat) : Nat :=
  if month = 2 then (if isLeapYear year then 29 else 28)
  else if month = 4 ∨ month = 6 ∨ month = 9 ∨ month = 11 then 30
  else 31

/-- Whether a day is on the calendar. -/
def Date.isValid (d : Date) : Bool :=
  1 ≤ d.month && d.month ≤ 12 && 1 ≤ d.day && d.day ≤ daysOfMonth d.year d.month

/-- Whether a time is on the clock; a minute may have a leap second. -/
def Time.isValid (t : Time) : Bool := t.hour ≤ 23 && t.minute ≤ 59 && t.second ≤ 60

/-! ## The standard form -/

/-- A number with at least `width` digits. -/
def padded (width n : Nat) : List Char :=
  let digits := Nat.toDigits 10 n
  List.replicate (width - digits.length) '0' ++ digits

def Date.text (d : Date) : List Char :=
  padded 4 d.year ++ '-' :: padded 2 d.month ++ '-' :: padded 2 d.day

/-- The digits behind the seconds, without zeros at the end. -/
def fractionText (nanosecond : Nat) : List Char :=
  if nanosecond = 0 then []
  else '.' :: ((padded 9 nanosecond).reverse.dropWhile (· = '0')).reverse

def Time.text (t : Time) : List Char :=
  padded 2 t.hour ++ ':' :: padded 2 t.minute ++ ':' :: padded 2 t.second ++ fractionText t.nanosecond

def Offset.text : Offset → List Char
  | utc => ['Z']
  | minutes behind n =>
    (if behind && n ≠ 0 then '-' else '+') :: padded 2 (n / 60) ++ ':' :: padded 2 (n % 60)

/-- A date and time in the standard form. -/
def DateTime.text (d : DateTime) : String :=
  let date := (d.date.map Date.text).getD []
  let time := (d.time.map Time.text).getD []
  let between := if d.date.isSome && d.time.isSome then ['T'] else []
  String.ofList (date ++ between ++ time ++ (d.offset.map Offset.text).getD [])

end Highlight.Toml
