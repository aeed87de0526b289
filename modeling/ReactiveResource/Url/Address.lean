import ReactiveResource.Text.Split
import ReactiveResource.Url.Percent

/-!
# Internet addresses

The addresses that may stand for the host of a URL. An address of version 4 is written as up to four
numbers in base ten, eight or sixteen, of which the last fills what the others leave; an address of
version 6 as eight pieces, a run of zeros written as two colons.

* `endsInNumber`, `ipv4?`, `printIpv4`: addresses of version 4;
* `ipv6?`, `printIpv6`: addresses of version 6.
-/

namespace ReactiveResource.Url.Address

/-- The number of digits in a base. -/
def ofDigits (base : Nat) (digits : List Nat) : Nat := digits.foldl (fun n d => base * n + d) 0

/-- The number that a text of digits in a base stands for; none if it has other characters. -/
def numeral? (base : Nat) (cs : List Char) : Option Nat :=
  (cs.mapM fun c => (Percent.hexValue? c).filter (· < base)).map (ofDigits base)

/-! ### Version 4 -/

/-- A part of an address: a number in base sixteen after `0x`, in base eight after `0`, in base ten
otherwise. -/
def part? : List Char → Option Nat
  | [] => none
  | '0' :: 'x' :: rest => numeral? 16 rest
  | '0' :: 'X' :: rest => numeral? 16 rest
  | '0' :: d :: rest => numeral? 8 (d :: rest)
  | cs => numeral? 10 cs

/-- The parts of a name, without an empty one at the end. -/
def nameParts (cs : List Char) : List (List Char) :=
  let parts := Text.splitOn '.' cs
  if parts.getLast? = some [] ∧ 1 < parts.length then parts.dropLast else parts

/-- Whether a name ends in a number; it must then be an address. -/
def endsInNumber (cs : List Char) : Bool :=
  match (nameParts cs).getLast? with
  | none => false
  | some last => (!last.isEmpty && last.all (·.isDigit)) || (part? last).isSome

/-- The address of numbers: all but the last are octets, and the last fills the rest. -/
def ofNumbers? (numbers : List Nat) : Option Nat :=
  let leading := numbers.dropLast
  match numbers.getLast? with
  | none => none
  | some last =>
    if 4 < numbers.length ∨ leading.any (255 < ·)
        ∨ Nat.pow 256 (4 - leading.length) ≤ last then none
    else some (ofDigits 256 leading * Nat.pow 256 (4 - leading.length) + last)

/-- The address of version 4 that a name stands for. -/
def ipv4? (cs : List Char) : Option Nat := ((nameParts cs).mapM part?).bind ofNumbers?

/-- The text of an address of version 4. -/
def printIpv4 (address : Nat) : String :=
  ".".intercalate
    [toString (address / Nat.pow 256 3), toString (address / Nat.pow 256 2 % 256),
      toString (address / 256 % 256), toString (address % 256)]

/-! ### Version 6 -/

/-- A piece: one to four hexadecimal digits. -/
def piece? (cs : List Char) : Option Nat :=
  if cs.isEmpty ∨ 4 < cs.length then none else numeral? 16 cs

/-- An octet in base ten, without zeros in front. -/
def octet? (cs : List Char) : Option Nat :=
  match cs with
  | [] => none
  | '0' :: _ :: _ => none
  | cs => (numeral? 10 cs).filter (· ≤ 255)

/-- The last two pieces may be written as an address of version 4. -/
def lastPieces? (cs : List Char) : Option (List Nat) :=
  if cs.contains '.' then
    match (Text.splitOn '.' cs).mapM octet? with
    | some [a, b, c, d] => some [256 * a + b, 256 * c + d]
    | _ => none
  else (piece? cs).map fun p => [p]

/-- Pieces between colons. -/
def pieces? : List (List Char) → Option (List Nat)
  | [] => some []
  | [last] => lastPieces? last
  | p :: rest =>
    match piece? p with
    | none => none
    | some n => (pieces? rest).map (n :: ·)

/-- The pieces of a text, of which there may be none. -/
def piecesOf? (cs : List Char) : Option (List Nat) :=
  if cs.isEmpty then some [] else pieces? (Text.splitOn ':' cs)

/-- The text before the first two colons that stand side by side, and the text after them. -/
def splitGap? : List Char → Option (List Char × List Char)
  | ':' :: ':' :: rest => some ([], rest)
  | c :: rest => (splitGap? rest).map fun (before, after) => (c :: before, after)
  | [] => none

/-- The pieces of an address of version 6. -/
def ipv6? (cs : List Char) : Option (List Nat) :=
  match splitGap? cs with
  | none => (piecesOf? cs).filter (·.length = 8)
  | some (before, after) =>
    match piecesOf? before, piecesOf? after with
    | some front, some back =>
      if before.contains '.' ∨ 7 < front.length + back.length then none
      else some (front ++ List.replicate (8 - front.length - back.length) 0 ++ back)
    | _, _ => none

/-- The length of the run of zeros at the beginning. -/
def zeros (pieces : List Nat) : Nat := (pieces.takeWhile (· = 0)).length

/-- The length of the longest run of zeros. -/
def longestZeros : List Nat → Nat
  | [] => 0
  | p :: rest => max (zeros (p :: rest)) (longestZeros rest)

/-- A piece in hexadecimal digits. -/
def printPiece (n : Nat) : String := String.ofList (Nat.toDigits 16 n)

/-- The pieces before the first run of zeros of a length, and those from there on. -/
def splitAtZeros (length : Nat) : List Nat → List Nat × List Nat
  | [] => ([], [])
  | p :: rest =>
    if zeros (p :: rest) = length then ([], p :: rest)
    else
      let (before, after) := splitAtZeros length rest
      (p :: before, after)

/-- The text of an address of version 6: the first of its longest runs of zeros is left out, if it
is longer than one piece. -/
def printIpv6 (pieces : List Nat) : String :=
  let join (ps : List Nat) : String := ":".intercalate (ps.map printPiece)
  let run := longestZeros pieces
  if run < 2 then join pieces
  else
    let (before, after) := splitAtZeros run pieces
    join before ++ "::" ++ join (after.drop run)

end ReactiveResource.Url.Address
