import CatalogSync.Url.Ipv4

/-!
# Internet addresses of version 6 as hosts

An address is eight pieces of 16 bits in hexadecimal. One run of zero pieces may be left out as `::`, and the last two pieces
may be written like an address of version 4. Written out, the first longest run of at least two zero pieces is left out.
-/

namespace CatalogSync.Url

/-- A decimal number from 0 to 255 without needless zeros, and what follows it. -/
def byte? (cs : List Char) : Option (Nat × List Char) :=
  let digits := cs.takeWhile Char.isDigit
  let n := digits.foldl (fun n c => 10 * n + (Text.hexDigit? c).getD 0) 0
  if digits.isEmpty ∨ (1 < digits.length ∧ digits.head? = some '0') ∨ 255 < n then none
  else some (n, cs.dropWhile Char.isDigit)

/-- The last two pieces of an address, written as four bytes. -/
def dottedPieces? (cs : List Char) : Option (List Nat) := do
  let bytes ← (labels cs).mapM fun part => do
    let (n, rest) ← byte? part
    if rest.isEmpty then some n else none
  match bytes with
  | [a, b, c, d] => some [256 * a + b, 256 * c + d]
  | _ => none

/-- Reads pieces up to the end. `front` are the pieces before the gap, `back?` those after it once the gap is met. -/
def ipv6Pieces? (fuel : Nat) (front : List Nat) (back? : Option (List Nat)) (cs : List Char) :
    Option (List Nat × Option (List Nat)) :=
  let count := front.length + (back?.map (·.length + 1)).getD 0
  let add (pieces : List Nat) : List Nat × Option (List Nat) :=
    match back? with
    | none => (front ++ pieces, none)
    | some back => (front, some (back ++ pieces))
  match fuel with
  | 0 => none
  | fuel + 1 =>
    match cs with
    | [] => some (front, back?)
    | ':' :: rest =>
      if count = 8 ∨ back?.isSome then none else ipv6Pieces? fuel front (some []) rest
    | _ =>
      if count = 8 then none
      else
        let digits := (cs.take 4).takeWhile fun c => (Text.hexDigit? c).isSome
        let rest := cs.drop digits.length
        let (front', back') := add [Text.hexValue digits]
        match rest with
        | [] => some (front', back')
        | '.' :: _ =>
          if digits.isEmpty ∨ 6 < count then none else (dottedPieces? cs).map add
        | [':'] => none
        | ':' :: rest => if digits.isEmpty then none else ipv6Pieces? fuel front' back' rest
        | _ => none

/-- The eight pieces of an address, none when it is not well formed. -/
def parseIpv6? (cs : List Char) : Option (List Nat) := do
  let read ←
    match cs with
    | ':' :: ':' :: rest => ipv6Pieces? (rest.length + 1) [] (some []) rest
    | ':' :: _ => none
    | [] | [_] => none
    | _ => ipv6Pieces? (cs.length + 1) [] none cs
  match read with
  | (front, none) => if front.length = 8 then some front else none
  | (front, some back) =>
    if front.length + back.length ≤ 7 then
      some (front ++ List.replicate (8 - front.length - back.length) 0 ++ back)
    else none

/-- The length of the run of zeros at the head. -/
def zeroRun (pieces : List Nat) : Nat := (pieces.takeWhile (· == 0)).length

/-- Where the first longest run of at least two zeros begins and how long it is. -/
def longestZeroRun (pieces : List Nat) : Option (Nat × Nat) :=
  (List.range pieces.length).foldl (fun best i =>
    let n := zeroRun (pieces.drop i)
    if 2 ≤ n ∧ (best.map Prod.snd).getD 0 < n then some (i, n) else best) none

/-- Pieces in hexadecimal between colons. -/
def renderPieces (pieces : List Nat) : String :=
  ":".intercalate (pieces.map fun p => String.ofList (Nat.toDigits 16 p))

/-- An address with its longest run of zeros left out. -/
def renderIpv6 (pieces : List Nat) : String :=
  match longestZeroRun pieces with
  | none => renderPieces pieces
  | some (i, n) => renderPieces (pieces.take i) ++ "::" ++ renderPieces (pieces.drop (i + n))

end CatalogSync.Url
