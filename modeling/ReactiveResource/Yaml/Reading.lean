import ReactiveResource.Number.Binary64

/-!
# What plain YAML text is read as

A text that stands in a document without quotes is read as nothing, as a truth value or as a number
if it looks like one. A text that is to be read as a text must then stand in quotes. So must the
words for truth values of earlier versions of the notation, and numbers that begin with a zero,
which some take for numbers and others do not.

* `isNull`, `isTruth`, `isInteger`, `isFloat`: the texts that are no texts;
* `isFormerTruth`, `hasLeadingZero`: the texts that some do not read as texts;
* `isAmbiguous`: all of them.
-/

namespace ReactiveResource.Yaml.Reading

/-! ### Words -/

/-- Whether a text is read as nothing. -/
def isNull (cs : List Char) : Bool :=
  ["", "~", "null", "Null", "NULL"].contains (String.ofList cs)

/-- Whether a text is read as a truth value. -/
def isTruth (cs : List Char) : Bool :=
  ["true", "True", "TRUE", "false", "False", "FALSE"].contains (String.ofList cs)

/-- Whether a text once was read as a truth value. -/
def isFormerTruth (cs : List Char) : Bool :=
  ["y", "Y", "yes", "Yes", "YES", "n", "N", "no", "No", "NO", "on", "On", "ON", "off", "Off",
    "OFF"].contains (String.ofList cs)

/-! ### Numbers -/

/-- The value of a digit, if the base has it. -/
def digit? (base : Nat) (c : Char) : Option Nat :=
  let value :=
    if c.isDigit then c.toNat - '0'.toNat
    else if c.isAlpha then c.toLower.toNat - 'a'.toNat + 10
    else base
  if value < base then some value else none

/-- The number that digits denote, if there are digits and nothing else. -/
def natural? (base : Nat) (cs : List Char) : Option Nat :=
  if cs.isEmpty then none
  else cs.foldlM (fun n c => (digit? base c).map (base * n + ·)) 0

/-- The text after a sign, if it begins with that sign. -/
def after? (sign : Char) : List Char → Option (List Char)
  | c :: rest => if c = sign then some rest else none
  | [] => none

/-- A text without a plus sign in front. -/
def dropPlus (cs : List Char) : List Char := (after? '+' cs).getD cs

/-- Whether a text is a zero with more digits after it, and perhaps a sign in front. -/
def hasLeadingZero (cs : List Char) : Bool :=
  match (after? '-' cs).getD (dropPlus cs) with
  | '0' :: c :: rest => (c :: rest).all Char.isDigit
  | _ => false

/-- The number of a text without a minus sign, which may say its base. -/
def magnitude? : List Char → Option Nat
  | '0' :: 'x' :: rest => natural? 16 rest
  | '0' :: 'o' :: rest => natural? 8 rest
  | '0' :: 'b' :: rest => natural? 2 rest
  | cs => natural? 10 cs

/-- Whether a text is read as an integer. An integer has at most 128 bits. -/
def isInteger (cs : List Char) : Bool :=
  !hasLeadingZero cs
    && match after? '-' cs with
      | some rest => (magnitude? rest).any (· ≤ Nat.pow 2 127)
      | none => (magnitude? (dropPlus cs)).any (· < Nat.pow 2 128)

/-- The exponent of a text that is empty or begins with its mark. -/
def exponent? : List Char → Option Int
  | [] => some 0
  | mark :: rest =>
    if mark = 'e' ∨ mark = 'E' then
      match after? '-' rest with
      | some ds => (natural? 10 ds).map fun n => -(n : Int)
      | none => (natural? 10 (dropPlus rest)).map fun n => (n : Int)
    else none

/-- Whether a text without a sign is a decimal number that is near a finite double. It has a digit
before or after its point. -/
def isDecimal (cs : List Char) : Bool :=
  let whole := cs.takeWhile Char.isDigit
  let rest := cs.dropWhile Char.isDigit
  let afterPoint := after? '.' rest
  let fraction := (afterPoint.map (·.takeWhile Char.isDigit)).getD []
  let rest := (afterPoint.map (·.dropWhile Char.isDigit)).getD rest
  match natural? 10 (whole ++ fraction), exponent? rest with
  | some n, some e => Binary64.reachesDecimal n (e - fraction.length)
  | _, _ => false

/-- The words for what is beyond all numbers. -/
def infinities : List String := [".inf", ".Inf", ".INF"]

/-- The words for what is no number. -/
def notNumbers : List String := [".nan", ".NaN", ".NAN"]

/-- Whether a text is read as a number that is no integer. -/
def isFloat (cs : List Char) : Bool :=
  let unsigned := (after? '-' cs).getD (dropPlus cs)
  infinities.contains (String.ofList unsigned) || notNumbers.contains (String.ofList cs)
    || isDecimal unsigned

/-! ### All together -/

/-- Whether somebody might read a text as something else than a text. -/
def isAmbiguous (cs : List Char) : Bool :=
  isNull cs || isTruth cs || isFormerTruth cs || hasLeadingZero cs || isInteger cs || isFloat cs

end ReactiveResource.Yaml.Reading
