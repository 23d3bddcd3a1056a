import SchemaCompiler.Text.Basic

/-!
# IPv6 addresses

An address is eight pieces of sixteen bits. It is written as hexadecimal groups between colons; one
double colon may stand for one or more groups of zeros, and the last two pieces may be written as
four decimal numbers between dots. The normal form writes hexadecimal groups only and puts the
double colon in place of the first longest run of two or more zeros.
-/

namespace SchemaCompiler

/-- The pieces of an address, eight of them. -/
abbrev Ipv6 := List Nat

namespace Ipv6

/-- The value of a hexadecimal digit. -/
def hexValue? (c : Char) : Option Nat :=
  if c.isDigit then some (c.toNat - '0'.toNat)
  else if 'a' ≤ c ∧ c ≤ 'f' then some (c.toNat - 'a'.toNat + 10)
  else if 'A' ≤ c ∧ c ≤ 'F' then some (c.toNat - 'A'.toNat + 10)
  else none

/-- The value of a group of one to four hexadecimal digits. -/
def group? (t : Text) : Option Nat :=
  if t = [] ∨ t.length > 4 then none
  else (t.mapM hexValue?).map fun digits => digits.foldl (fun n d => n * 16 + d) 0

/-- A decimal number of one byte, without leading zeros. -/
def byte? (t : Text) : Option Nat :=
  if t = [] ∨ t.length > 3 ∨ !t.all Char.isDigit then none
  else
    let n := t.foldl (fun n c => n * 10 + (c.toNat - '0'.toNat)) 0
    if (t.head? = some '0' ∧ t.length > 1) ∨ n > 255 then none else some n

/-- The two pieces that four decimal numbers write. -/
def quad? (t : Text) : Option (List Nat) :=
  match (t.splitOn '.').mapM byte? with
  | some [a, b, c, d] => some [a * 256 + b, c * 256 + d]
  | _ => none

/-- The pieces of groups between colons; `atEnd` tells whether the last group ends the address and
may be written in decimal. -/
def groups? (atEnd : Bool) : List Text → Option (List Nat)
  | [] => some []
  | [last] => if atEnd && last.contains '.' then quad? last else (group? last).map fun n => [n]
  | g :: next :: rest => do
    let n ← group? g
    let ns ← groups? atEnd (next :: rest)
    pure (n :: ns)

/-- The two sides of the first double colon. -/
def splitDouble : Text → Option (Text × Text)
  | ':' :: ':' :: rest => some ([], rest)
  | [] => none
  | c :: cs => (splitDouble cs).map fun (front, back) => (c :: front, back)

/-- The groups of a side of a double colon, which may be empty. -/
def side (t : Text) : List Text := if t = [] then [] else t.splitOn ':'

/-- Reads an address. -/
def parse? (t : Text) : Option Ipv6 :=
  match splitDouble t with
  | none => do
    let pieces ← groups? true (t.splitOn ':')
    if pieces.length = 8 then some pieces else none
  | some (front, back) => do
    let front ← groups? false (side front)
    let back ← groups? true (side back)
    if front.length + back.length ≤ 7 then
      some (front ++ List.replicate (8 - front.length - back.length) 0 ++ back)
    else none

/-- The length of the run of zeros at the start. -/
def zerosAhead (pieces : List Nat) : Nat := (pieces.takeWhile (· == 0)).length

/-- The place and the length of the first longest run of zeros; `passed` counts the pieces before
it. -/
def longestZeros (passed : Nat) : List Nat → Nat × Nat
  | [] => (passed, 0)
  | p :: ps =>
    let here := zerosAhead (p :: ps)
    let later := longestZeros (passed + 1) ps
    if later.2 > here then later else (passed, here)

/-- Pieces in lower-case hexadecimal, between colons. -/
def renderGroups (pieces : List Nat) : Text :=
  Text.join [':'] (pieces.map fun n => Nat.toDigits 16 n)

/-- The normal form of an address. -/
def render (address : Ipv6) : Text :=
  let (start, length) := longestZeros 0 address
  if length < 2 then renderGroups address
  else
    renderGroups (address.take start) ++ ([':', ':'] : Text) ++
      renderGroups (address.drop (start + length))

end Ipv6

end SchemaCompiler
