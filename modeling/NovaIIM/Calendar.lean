import Mathlib.Data.Int.Notation

/-!
The timestamps of the database rows: UTC calendar time as text.

`formatUtc` is `gmtime_r` with `strftime("%Y-%m-%d %H:%M:%S")`; `scanUtc` is
`sscanf("%d-%d-%d %d:%d:%d")` with `timegm` behind it, as the recall handler
reads the text back. Days are counted by the proleptic Gregorian calendar in
eras of 400 years; `timegm` brings a month outside of the year back into it.
-/
namespace NovaIIM.Calendar

/-- Calendar fields, month and day counted from 1. -/
structure Tm where
  year : Int
  month : Int
  day : Int
  hour : Int
  minute : Int
  second : Int
deriving DecidableEq, Repr

/-- The days from 1970-01-01 to the first of a month. -/
def daysFromCivil (year month : Int) : Int :=
  let y := if month ≤ 2 then year - 1 else year
  let era := y / 400
  let yearOfEra := y % 400
  let dayOfYear := (153 * ((month + 9) % 12) + 2) / 5
  era * 146097 + (yearOfEra * 365 + yearOfEra / 4 - yearOfEra / 100 + dayOfYear) - 719468

/-- The calendar day with a number of days from 1970-01-01. -/
def civilFromDays (days : Int) : Int × Int × Int :=
  let z := days + 719468
  let era := z / 146097
  let dayOfEra := z % 146097
  let yearOfEra := (dayOfEra - dayOfEra / 1460 + dayOfEra / 36524 - dayOfEra / 146096) / 365
  let dayOfYear := dayOfEra - (365 * yearOfEra + yearOfEra / 4 - yearOfEra / 100)
  let shifted := (5 * dayOfYear + 2) / 153
  let day := dayOfYear - (153 * shifted + 2) / 5 + 1
  let month := if shifted < 10 then shifted + 3 else shifted - 9
  let year := yearOfEra + era * 400
  (if month ≤ 2 then year + 1 else year, month, day)

/-- `gmtime_r`. -/
def gmtime (seconds : Int) : Tm :=
  let (year, month, day) := civilFromDays (seconds / 86400)
  let clock := seconds % 86400
  ⟨year, month, day, clock / 3600, clock % 3600 / 60, clock % 60⟩

/-- `timegm`. -/
def timegm (tm : Tm) : Int :=
  let months := tm.year * 12 + (tm.month - 1)
  (daysFromCivil (months / 12) (months % 12 + 1) + (tm.day - 1)) * 86400 +
    tm.hour * 3600 + tm.minute * 60 + tm.second

/-- A number in decimal, with zeros in front up to a width. -/
def decimal (width : Nat) (n : Int) : List UInt8 :=
  let digits := (Nat.toDigits 10 n.toNat).map fun c => UInt8.ofNat c.toNat
  List.replicate (width - digits.length) 48 ++ digits

/-- `strftime("%Y-%m-%d %H:%M:%S")` of the UTC time. -/
def formatUtc (seconds : Int) : List UInt8 :=
  let tm := gmtime seconds
  decimal 4 tm.year ++ [45] ++ decimal 2 tm.month ++ [45] ++ decimal 2 tm.day ++ [32] ++
    decimal 2 tm.hour ++ [58] ++ decimal 2 tm.minute ++ [58] ++ decimal 2 tm.second

/-- `strftime("%Y%m%d")`. -/
def formatDate (seconds : Int) : List UInt8 :=
  let tm := gmtime seconds
  decimal 4 tm.year ++ decimal 2 tm.month ++ decimal 2 tm.day

/-! ### Reading a timestamp back -/

/-- `isspace`. -/
def isSpace (c : UInt8) : Bool := c == 32 || (9 ≤ c && c ≤ 13)

def isDigit (c : UInt8) : Bool := 48 ≤ c && c ≤ 57

/-- `%d`: blanks, a sign and digits. -/
def scanInt (text : List UInt8) : Option (Int × List UInt8) :=
  let text := text.dropWhile isSpace
  let (negative, text) := match text with
    | 45 :: rest => (true, rest)
    | 43 :: rest => (false, rest)
    | _ => (false, text)
  let digits := text.takeWhile isDigit
  if digits.isEmpty then none
  else
    let value : Int := digits.foldl (fun n c => 10 * n + (c.toNat - 48)) 0
    some (if negative then -value else value, text.drop digits.length)

/-- A character of the format that is no blank. -/
def scanChar (c : UInt8) (text : List UInt8) : Option (List UInt8) :=
  match text with
  | d :: rest => if d = c then some rest else none
  | [] => none

/-- The fields `sscanf` reads, when it reads all six. -/
def scanTm (text : List UInt8) : Option Tm := do
  let text := text.takeWhile (· ≠ 0)
  let (year, text) ← scanInt text
  let (month, text) ← scanInt (← scanChar 45 text)
  let (day, text) ← scanInt (← scanChar 45 text)
  let (hour, text) ← scanInt (text.dropWhile isSpace)
  let (minute, text) ← scanInt (← scanChar 58 text)
  let (second, _) ← scanInt (← scanChar 58 text)
  some ⟨year, month, day, hour, minute, second⟩

/-- The seconds a timestamp stands for. -/
def scanUtc (text : List UInt8) : Option Int := (scanTm text).map timegm

end NovaIIM.Calendar
