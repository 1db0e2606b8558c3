import MarkdownTree.Toml.Quoted

/-! Dates and times as TOML writes them. -/

namespace MarkdownTree.Toml.Date

def isDigit (c : Char) : Bool :=
  '0' ≤ c && c ≤ '9'

/-- A number of exactly `count` digits, and what follows it. -/
def number? (count : Nat) (chars : List Char) : Option (Nat × List Char) :=
  let digits := (chars.take count).takeWhile isDigit
  if digits.length = count then some (numberOf 10 digits, chars.drop count) else none

/-- What follows a character. -/
def after? (c : Char) : List Char → Option (List Char)
  | first :: rest => if first = c then some rest else none
  | [] => none

/-- How many days a month has. -/
def daysIn (year month : Nat) : Nat :=
  if month = 2 then
    if year % 4 = 0 && (year % 100 ≠ 0 || year % 400 = 0) then 29 else 28
  else if [4, 6, 9, 11].contains month then 30
  else 31

/-- What follows a day of the calendar. -/
def day? (chars : List Char) : Option (List Char) := do
  let (year, rest) ← number? 4 chars
  let (month, rest) ← number? 2 (← after? '-' rest)
  let (day, rest) ← number? 2 (← after? '-' rest)
  guard (1 ≤ month && month ≤ 12 && 1 ≤ day && day ≤ daysIn year month)
  return rest

/-- What follows the fraction of a second. -/
def fraction? (chars : List Char) : Option (List Char) :=
  match chars with
  | '.' :: rest => if rest.head?.any isDigit then some (rest.dropWhile isDigit) else none
  | _ => some chars

/-- What follows a time of the day; the seconds may be left out. -/
def time? (chars : List Char) : Option (List Char) := do
  let (hour, rest) ← number? 2 chars
  let (minute, rest) ← number? 2 (← after? ':' rest)
  guard (hour ≤ 23 && minute ≤ 59)
  match rest with
  | ':' :: seconds =>
    let (second, rest) ← number? 2 seconds
    guard (second ≤ 60)
    fraction? rest
  | _ => return rest

/-- What follows the distance from universal time. -/
def offset? (chars : List Char) : Option (List Char) :=
  match chars with
  | [] => some []
  | sign :: rest =>
    if sign = 'Z' || sign = 'z' then some rest
    else if sign = '+' || sign = '-' then do
      let (hour, rest) ← number? 2 rest
      let (minute, rest) ← number? 2 (← after? ':' rest)
      guard (minute ≤ 59 && hour * 60 + minute ≤ 1440)
      return rest
    else none

/-- Whether a text is a date, a time, or both with a letter or a space between. -/
def isValid (chars : List Char) : Bool :=
  let rest := match day? chars with
    | some [] => some []
    | some (separator :: rest) =>
      if separator = 'T' || separator = 't' || separator = ' ' then (time? rest).bind offset?
      else none
    | none => time? chars
  rest == some []

end MarkdownTree.Toml.Date
