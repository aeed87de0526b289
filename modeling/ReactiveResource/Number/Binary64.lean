/-!
# Finite double-precision numbers

A finite double is kept as its sign and the 63 bits below the sign, read as one natural number.
Its magnitude is then a natural number of units of `2 ^ -1074`, so that every operation is exact
arithmetic followed by one rounding.

* `Binary64`, `Binary64.units`: the number and its magnitude;
* `Binary64.ofRatio?`: the double nearest to a quotient, ties going to the even neighbour;
* `Binary64.mul?`, `Binary64.div?`, `Binary64.ofNat?`: rounded operations on magnitudes;
* `Binary64.ofDecimal?`: a decimal significand and exponent read as a double;
* `Binary64.reachesDecimal`: whether a decimal number is near a finite double;
* `==` compares values, so the two zeros are equal.
-/

namespace ReactiveResource

/-- The quotient `num / den` rounded to the nearest natural number, a tie going to the even one. -/
def roundHalfEven (num den : Nat) : Nat :=
  let q := num / den
  let r := num % den
  if 2 * r < den then q
  else if den < 2 * r then q + 1
  else if q % 2 = 0 then q else q + 1

/-- The weight of the leading bit of a fraction, which no double stores. -/
def Binary64.leadingBit : Nat := Nat.pow 2 52

/-- A finite double: its sign, and the exponent and fraction fields read as one number. -/
structure Binary64 where
  negative : Bool
  bits : Nat
  finite : bits < 2047 * Binary64.leadingBit := by decide
  deriving DecidableEq, Repr

namespace Binary64

instance : Inhabited Binary64 := ⟨{ negative := false, bits := 0 }⟩

/-- Positive zero. -/
def zero : Binary64 := { negative := false, bits := 0 }

/-- The number with the given fields, if the fields are those of a finite number. -/
def ofBits? (negative : Bool) (bits : Nat) : Option Binary64 :=
  if h : bits < 2047 * Binary64.leadingBit then some { negative, bits, finite := h } else none

/-- The same magnitude with the other sign. -/
def neg (x : Binary64) : Binary64 := { x with negative := !x.negative }

/-- The fraction with its leading bit, an integer below `2 ^ 53`. -/
def mantissa (x : Binary64) : Nat :=
  if x.bits < leadingBit then x.bits else leadingBit + x.bits % leadingBit

/-- The power of two that one step of the mantissa is worth, in units. -/
def scale (x : Binary64) : Nat := x.bits / leadingBit - 1

/-- The magnitude in units of `2 ^ -1074`. -/
def units (x : Binary64) : Nat := x.mantissa * Nat.pow 2 x.scale

/-- How many units make one. -/
def unitsPerOne : Nat := Nat.pow 2 1074

/-- Doubles are compared by value: both zeros are one number. -/
instance : BEq Binary64 where
  beq x y := x.bits == y.bits && (x.negative == y.negative || x.bits == 0)

/-- The field bits of the double nearest to a number of `2 ^ -1074` units given as a quotient;
a tie goes to the even mantissa. -/
def roundUnits (num den : Nat) : Nat :=
  let width := if num / den = 0 then 0 else (num / den).log2 + 1
  let shift := width - 53
  shift * leadingBit + roundHalfEven num (den * Nat.pow 2 shift)

/-- The double nearest to `num / den`; none if that is beyond the largest double. -/
def ofRatio? (negative : Bool) (num den : Nat) : Option Binary64 :=
  ofBits? negative (roundUnits (num * unitsPerOne) den)

/-- The double nearest to a natural number. -/
def ofNat? (n : Nat) : Option Binary64 := ofRatio? false n 1

/-- The double nearest to an integer. -/
def ofInt? (n : Int) : Option Binary64 := ofRatio? (n < 0) n.natAbs 1

/-- The product, rounded; none on overflow. -/
def mul? (x y : Binary64) : Option Binary64 :=
  ofRatio? (x.negative != y.negative) (x.units * y.units) (unitsPerOne * unitsPerOne)

/-- The quotient, rounded; none on overflow or when the divisor is zero. -/
def div? (x y : Binary64) : Option Binary64 :=
  if y.units = 0 then none else ofRatio? (x.negative != y.negative) x.units y.units

/-- `10 ^ k` as a double, for `k` up to 308. -/
def powerOfTen? (k : Nat) : Option Binary64 := ofNat? (Nat.pow 10 k)

/-- `x / 10 ^ k`, in steps of at most 308 decimal places, each of them rounded. -/
def scaleDown (x : Binary64) (k : Nat) : Option Binary64 :=
  if k ≤ 308 then (powerOfTen? k).bind x.div?
  else if x.bits = 0 then some x
  else ((powerOfTen? 308).bind x.div?).bind fun y => scaleDown y (k - 308)
termination_by k

/-- `x * 10 ^ k`, rounded; none on overflow. -/
def scaleUp (x : Binary64) (k : Nat) : Option Binary64 :=
  if x.bits = 0 then some x
  else if k ≤ 308 then (powerOfTen? k).bind x.mul?
  else none

/-- A decimal number `significand * 10 ^ exponent` as a double: the significand is rounded first,
then scaled. None if the result is beyond the largest double. -/
def ofDecimal? (negative : Bool) (significand : Nat) (exponent : Int) : Option Binary64 :=
  let magnitude := (ofNat? significand).bind fun x =>
    if exponent < 0 then x.scaleDown exponent.natAbs else x.scaleUp exponent.natAbs
  magnitude.map fun x => if negative then x.neg else x

/-- Whether the double nearest to `significand * 10 ^ exponent` is finite. Numbers below `10 ^ 308`
have one that is, and numbers from `10 ^ 309` on have none. -/
def reachesDecimal (significand : Nat) (exponent : Int) : Bool :=
  let places := (Nat.toDigits 10 significand).length + exponent
  significand == 0 || places ≤ 308
    || (places == 309
      && (ofRatio? false (significand * Nat.pow 10 exponent.toNat)
        (Nat.pow 10 (-exponent).toNat)).isSome)

end Binary64

end ReactiveResource
