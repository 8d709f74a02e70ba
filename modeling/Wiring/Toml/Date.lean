import Wiring.Decimal.Basic

/-!
# Dates and times in TOML

A date is kept as its text in the one form that is usual for it: a capital letter between date and
time and for universal time, and no zeros at the end of a fraction.

* `date?`, `time?`: a date of the calendar, and a time of the day;
* `offset?`: an offset from universal time;
* `dateTime?`: a date, a time, or both.
-/

namespace Wiring.Toml

/-- A number of so many decimal digits, at most a bound, and what follows it. -/
def field? (count least greatest : Nat) (cs : List Char) : Option (Nat × List Char) :=
  let digits := cs.take count
  let value := digitsValue digits
  if digits.length = count ∧ digits.all Char.isDigit ∧ least ≤ value ∧ value ≤ greatest then
    some (value, cs.drop count)
  else none

/-- A number with zeros before it. -/
def padded (width n : Nat) : String :=
  let digits := Nat.repr n
  String.ofList (List.replicate (width - digits.length) '0') ++ digits

/-- The number of days in a month. -/
def daysIn (year month : Nat) : Nat :=
  if month = 2 then
    if year % 4 = 0 ∧ (year % 100 ≠ 0 ∨ year % 400 = 0) then 29 else 28
  else if month = 4 ∨ month = 6 ∨ month = 9 ∨ month = 11 then 30
  else 31

/-- What follows a given character. -/
def after? (c : Char) : List Char → Option (List Char)
  | d :: cs => if d = c then some cs else none
  | [] => none

/-- A date of the calendar, as its text, and what follows it. -/
def date? (cs : List Char) : Option (String × List Char) := do
  let (year, cs) ← field? 4 0 9999 cs
  let (month, cs) ← field? 2 1 12 (← after? '-' cs)
  let (day, cs) ← field? 2 1 (daysIn year month) (← after? '-' cs)
  return (padded 4 year ++ "-" ++ padded 2 month ++ "-" ++ padded 2 day, cs)

/-- The digits after the point of a second: at most nine, without zeros at the end. -/
def fractionText (digits : List Char) : String :=
  let kept := ((digits.take 9).reverse.dropWhile (· = '0')).reverse
  if kept.isEmpty then "" else "." ++ String.ofList kept

/-- A time of the day, as its text, and what follows it. -/
def time? (cs : List Char) : Option (String × List Char) := do
  let (hour, cs) ← field? 2 0 23 cs
  let (minute, cs) ← field? 2 0 59 (← after? ':' cs)
  let (second, cs) ← field? 2 0 60 (← after? ':' cs)
  let text := padded 2 hour ++ ":" ++ padded 2 minute ++ ":" ++ padded 2 second
  match after? '.' cs with
  | none => return (text, cs)
  | some cs =>
    let digits := cs.takeWhile Char.isDigit
    if digits.isEmpty then none
    else return (text ++ fractionText digits, cs.dropWhile Char.isDigit)

/-- An offset from universal time as a whole word, as its text. -/
def offset? : List Char → Option String
  | [] => some ""
  | ['Z'] => some "Z"
  | ['z'] => some "Z"
  | sign :: cs => do
    if sign ≠ '+' ∧ sign ≠ '-' then none
    let (hour, cs) ← field? 2 0 23 cs
    let (minute, cs) ← field? 2 0 59 (← after? ':' cs)
    if !cs.isEmpty then none
    let mark := if sign = '-' ∧ 0 < hour + minute then "-" else "+"
    return mark ++ padded 2 hour ++ ":" ++ padded 2 minute

/-- A date, a time, or a date with a time and perhaps an offset, as its text. -/
def dateTime? (cs : List Char) : Option String :=
  match date? cs with
  | none => (time? cs).bind fun (time, rest) => if rest.isEmpty then some time else none
  | some (date, []) => some date
  | some (date, c :: rest) => do
    if c ≠ 'T' ∧ c ≠ 't' ∧ c ≠ ' ' then none
    let (time, rest) ← time? rest
    return date ++ "T" ++ time ++ (← offset? rest)

end Wiring.Toml
