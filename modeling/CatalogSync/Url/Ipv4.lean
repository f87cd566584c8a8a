import CatalogSync.Text.CharTable

/-!
# Internet addresses of version 4 as hosts

A host whose last label is a number is an address: one to four numbers, decimal, octal after `0` or hexadecimal after `0x`, of
which the last fills all bytes that the others leave.
-/

namespace CatalogSync.Url

/-- The labels of a text between its dots. -/
def labels (cs : List Char) : List (List Char) := cs.splitOn '.'

/-- The digits of a part of an address and the base they are written in. -/
def numberBase (cs : List Char) : Nat × List Char :=
  match cs with
  | '0' :: 'x' :: rest | '0' :: 'X' :: rest => (16, rest)
  | '0' :: c :: rest => (8, c :: rest)
  | _ => (10, cs)

/-- The number a part of an address stands for, none when it is not one. -/
def ipv4Number? (cs : List Char) : Option Nat :=
  if cs.isEmpty then none
  else
    let (base, digits) := numberBase cs
    digits.foldlM (fun n c =>
      match Text.hexDigit? c with
      | some d => if d < base then some (base * n + d) else none
      | none => none) 0

/-- The last label, or the one before it when the last is empty. -/
def lastLabel (parts : List (List Char)) : List Char :=
  match parts.reverse with
  | [] :: last :: _ => last
  | last :: _ => last
  | [] => []

/-- Whether a host has to be an address: its last label is a number or at least all digits. -/
def endsInNumber (cs : List Char) : Bool :=
  let last := lastLabel (labels cs)
  !last.isEmpty && (last.all Char.isDigit || (ipv4Number? last).isSome)

/-- Joins the numbers of an address, the last of which fills the bytes left. -/
def joinIpv4 (numbers : List Nat) : Option Nat :=
  match numbers.reverse with
  | [] => none
  | last :: front =>
    let front := front.reverse
    if 4 < numbers.length ∨ front.any (255 < ·) ∨ 1 <<< (8 * (4 - front.length)) ≤ last then none
    else
      let high := (front ++ List.replicate (4 - front.length) 0).foldl (fun n d => 256 * n + d) 0
      some (high + last)

/-- The address a host stands for, none when it is not well formed. -/
def parseIpv4? (cs : List Char) : Option Nat :=
  let parts := labels cs
  let parts := if parts.getLast? == some [] then parts.dropLast else parts
  if 4 < parts.length then none else (parts.mapM ipv4Number?).bind joinIpv4

/-- An address as four numbers. -/
def renderIpv4 (address : Nat) : String :=
  ".".intercalate ([16777216, 65536, 256, 1].map fun unit => toString (address / unit % 256))

end CatalogSync.Url
