import ReactiveResource.Number.Binary64

/-!
# Durations

A length of time is a whole number of nanoseconds. As seconds it is read from a double, rounded to
the nearest nanosecond with ties going to the even one; `2 ^ 64` seconds and more are too long.

* `Duration`, its whole seconds and the nanoseconds beyond them;
* `Duration.ofSeconds?`: seconds as a double;
* `Duration.ceilMillis`: the milliseconds that cover it;
* `Duration.describe`: the text, in the largest unit that it fills.
-/

namespace ReactiveResource

/-- A length of time. -/
structure Duration where
  nanos : Nat
  deriving DecidableEq, Repr, Inhabited

namespace Duration

/-- A length of time in milliseconds. -/
def ofMillis (ms : Nat) : Duration := { nanos := ms * 1000000 }

/-- The whole seconds. -/
def seconds (d : Duration) : Nat := d.nanos / 1000000000

/-- The nanoseconds beyond the whole seconds. -/
def subsecond (d : Duration) : Nat := d.nanos % 1000000000

/-- The milliseconds that cover the duration: a timer counts in whole milliseconds. -/
def ceilMillis (d : Duration) : Nat := (d.nanos + 999999) / 1000000

/-- The magnitude of a double in seconds, none if it is too long. -/
def ofSeconds? (x : Binary64) : Option Duration :=
  if x.units < UInt64.size * Binary64.unitsPerOne then
    some { nanos := roundHalfEven (x.units * 1000000000) Binary64.unitsPerOne }
  else none

/-- `whole` and `part` of `10 ^ places`, as a decimal number without trailing zeros. -/
def decimalText (whole part places : Nat) : String :=
  let digits := Nat.toDigits 10 part
  let padded := List.replicate (places - digits.length) '0' ++ digits
  let fraction := (padded.reverse.dropWhile (· = '0')).reverse
  if part = 0 ∨ fraction.isEmpty then toString whole
  else toString whole ++ "." ++ String.ofList fraction

/-- The text of a duration, in the largest unit that it fills. -/
def describe (d : Duration) : String :=
  if 1000000000 ≤ d.nanos then decimalText d.seconds d.subsecond 9 ++ "s"
  else if 1000000 ≤ d.nanos then decimalText (d.nanos / 1000000) (d.nanos % 1000000) 6 ++ "ms"
  else if 1000 ≤ d.nanos then decimalText (d.nanos / 1000) (d.nanos % 1000) 3 ++ "µs"
  else toString d.nanos ++ "ns"

end Duration

end ReactiveResource
