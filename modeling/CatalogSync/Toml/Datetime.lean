/-!
# Dates and times

A date, a time, or both with perhaps an offset, such as `1979-05-27T07:32:00.5-07:00`. Reading brings each to its one written
form: the letters T and Z in capitals, fractions of a second without zeros at the end and of at most nine digits.
-/

namespace CatalogSync.Toml.Datetime

/-- Takes decimal digits, exactly as many as asked for: their value. -/
def digits? : Nat → Nat → List Char → Option (Nat × List Char)
  | 0, n, cs => some (n, cs)
  | _, _, [] => none
  | count + 1, n, c :: rest => if c.isDigit then digits? count (10 * n + (c.toNat - '0'.toNat)) rest else none

/-- Takes the given character. -/
def char? (c : Char) : List Char → Option (List Char)
  | [] => none
  | x :: rest => if x = c then some rest else none

/-- The digits of a number, padded with zeros to a width. -/
def padded (width n : Nat) : List Char :=
  let ds := Nat.toDigits 10 n
  List.replicate (width - ds.length) '0' ++ ds

/-- Reads a date: its written form. -/
def date? (cs : List Char) : Option (List Char × List Char) := do
  let (year, cs) ← digits? 4 0 cs
  let cs ← char? '-' cs
  let (month, cs) ← digits? 2 0 cs
  let cs ← char? '-' cs
  let (day, cs) ← digits? 2 0 cs
  if 1 ≤ month ∧ month ≤ 12 ∧ 1 ≤ day ∧ day ≤ 31 then
    return (padded 4 year ++ '-' :: padded 2 month ++ '-' :: padded 2 day, cs)
  else none

/-- Reads a fraction of a second if there is one: its written form. -/
def fraction? (cs : List Char) : Option (List Char × List Char) :=
  match cs with
  | '.' :: rest =>
    match rest.takeWhile Char.isDigit with
    | [] => none
    | ds =>
      let kept := ((ds.take 9).reverse.dropWhile (· == '0')).reverse
      some (if kept.isEmpty then [] else '.' :: kept, rest.dropWhile Char.isDigit)
  | _ => some ([], cs)

/-- Reads a time: its written form. -/
def time? (cs : List Char) : Option (List Char × List Char) := do
  let (hour, cs) ← digits? 2 0 cs
  let cs ← char? ':' cs
  let (minute, cs) ← digits? 2 0 cs
  let cs ← char? ':' cs
  let (second, cs) ← digits? 2 0 cs
  let (fraction, cs) ← fraction? cs
  if hour ≤ 24 ∧ minute ≤ 59 ∧ second ≤ 59 then
    return (padded 2 hour ++ ':' :: padded 2 minute ++ ':' :: padded 2 second ++ fraction, cs)
  else none

/-- Reads the offset that a text ends with, if it does not end before: its written form. -/
def offset? (cs : List Char) : Option (List Char) :=
  match cs with
  | [] => some []
  | sign :: rest =>
    if sign == 'Z' || sign == 'z' then (if rest.isEmpty then some ['Z'] else none)
    else if sign == '+' || sign == '-' then do
      let (hours, rest) ← digits? 2 0 rest
      let rest ← char? ':' rest
      let (minutes, rest) ← digits? 2 0 rest
      let sign := if hours = 0 then '+' else sign
      if rest.isEmpty then return sign :: padded 2 hours ++ ':' :: padded 2 minutes else none
    else none

/-- The one written form of a date, a time, or both. -/
def normalize? (text : List Char) : Option (List Char) :=
  if text[2]? = some ':' then do
    let (time, rest) ← time? text
    if rest.isEmpty then return time else none
  else do
    let (date, rest) ← date? text
    match rest with
    | [] => return date
    | c :: rest =>
      if c == 'T' || c == 't' || c == ' ' then do
        let (time, rest) ← time? rest
        return date ++ 'T' :: time ++ (← offset? rest)
      else none

end CatalogSync.Toml.Datetime
