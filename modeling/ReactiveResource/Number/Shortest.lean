import ReactiveResource.Number.Binary64

/-!
# The shortest decimal text of a double

Every finite double has an interval of reals that round to it. The shortest text is a multiple of
the largest power of ten that has a multiple in that interval; of several such multiples it is the
one nearest to the double.

* `Binary64.interval`: the interval, four times over in units of `2 ^ -1074`;
* `Binary64.shortest`: the digits and the exponent;
* `DecimalLayout`: where positional notation begins and ends, and how exponents are written;
* `Binary64.toText`: the shortest text in a layout.
-/

namespace ReactiveResource

namespace Binary64

/-- The interval of reals that round to `x`. All three numbers are four times a number of units;
the ends belong to the interval when the mantissa is even. -/
structure Interval where
  low : Nat
  value : Nat
  high : Nat
  closed : Bool

/-- The reals that round to `x`: half a step up, and half a step down, which is half as long below
a power of two. -/
def interval (x : Binary64) : Interval :=
  let step := Nat.pow 2 x.scale
  let below := if x.bits % leadingBit = 0 ∧ leadingBit < x.bits then step else 2 * step
  { low := 4 * x.units - below
    value := 4 * x.units
    high := 4 * x.units + 2 * step
    closed := x.mantissa % 2 = 0 }

/-- Whether `n * 10 ^ e` lies in the interval. The comparison is between integers: a negative
power of ten multiplies the ends, a positive one the candidate. -/
def Interval.contains (i : Interval) (n : Nat) (e : Int) : Bool :=
  let up := Nat.pow 10 e.toNat * 4 * unitsPerOne
  let down := Nat.pow 10 (-e).toNat
  let candidate := n * up
  if i.closed then i.low * down ≤ candidate && candidate ≤ i.high * down
  else i.low * down < candidate && candidate < i.high * down

/-- The multiple of `10 ^ e` in the interval that is nearest to its value, a tie going to the even
one. -/
def Interval.nearest? (i : Interval) (e : Int) : Option Nat :=
  let up := Nat.pow 10 e.toNat * 4 * unitsPerOne
  let value := i.value * Nat.pow 10 (-e).toNat
  let n := value / up
  let best := roundHalfEven value up
  let other := if best = n then n + 1 else n
  [best, other].find? fun m => 0 < m && i.contains m e

/-- The exponents at which a double can have a short text, the largest first. -/
def exponents : List Int := (List.range 634).map fun k : Nat => 309 - (k : Int)

/-- The digits and the exponent of the shortest text of a nonzero double. -/
def shortest (x : Binary64) : Nat × Int :=
  (exponents.findSome? fun e => (x.interval.nearest? e).map (·, e)).getD (0, 0)

end Binary64

/-- The layout of a decimal number: it is written positionally while its decimal point stands
between `lowestPoint` and `highestPoint`, counted from the first digit, and otherwise with an
exponent, which may have a plus sign if it is positive. -/
structure DecimalLayout where
  lowestPoint : Int
  highestPoint : Int
  plusSign : Bool

/-- JSON writes up to sixteen digits before the point and up to four zeros after it, and a plus sign
before positive exponents. -/
def DecimalLayout.json : DecimalLayout :=
  { lowestPoint := -4, highestPoint := 16, plusSign := true }

/-- YAML writes no plus sign before exponents. -/
def DecimalLayout.yaml : DecimalLayout := { DecimalLayout.json with plusSign := false }

/-- The text of an exponent. -/
def DecimalLayout.exponent (layout : DecimalLayout) (e : Int) : String :=
  (if layout.plusSign ∧ 0 ≤ e then "e+" else "e") ++ toString e

/-- The text of `digits * 10 ^ e`, without a sign. -/
def DecimalLayout.write (layout : DecimalLayout) (digits : Nat) (e : Int) : String :=
  let cs := Nat.toDigits 10 digits
  let point := cs.length + e
  let zeros (n : Int) := List.replicate n.toNat '0'
  if 0 ≤ e ∧ point ≤ layout.highestPoint then
    String.ofList (cs ++ zeros e ++ ['.', '0'])
  else if 0 < point ∧ point ≤ layout.highestPoint then
    String.ofList (cs.take point.toNat ++ '.' :: cs.drop point.toNat)
  else if layout.lowestPoint ≤ point ∧ point ≤ 0 then
    String.ofList ('0' :: '.' :: (zeros (-point) ++ cs))
  else
    let fraction := if cs.length = 1 then [] else '.' :: cs.drop 1
    String.ofList (cs.take 1 ++ fraction) ++ layout.exponent (point - 1)

/-- The shortest text that reads back as `x`; a whole number keeps `.0`. -/
def Binary64.toText (x : Binary64) (layout : DecimalLayout) : String :=
  let sign := if x.negative then "-" else ""
  if x.bits = 0 then sign ++ "0.0"
  else
    let (digits, e) := x.shortest
    sign ++ layout.write digits e

end ReactiveResource
