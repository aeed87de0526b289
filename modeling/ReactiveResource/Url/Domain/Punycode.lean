/-!
# Labels in ASCII

A label with other characters than those of ASCII is written as its ASCII characters, a dash, and
digits that tell, in ascending order of the other characters, how far each is from the one before
it. A digit is a letter or a decimal digit; numbers are written with their lowest digit first, and
the digit that ends a number is below a threshold, which adapts to the numbers before it.

* `adapt`, `threshold`: the thresholds;
* `writeNumber`, `encode`: a label in ASCII;
* `readNumber?`, `decode?`: the label of a text in ASCII.
-/

namespace ReactiveResource.Url.Domain.Punycode

/-! ### Digits and thresholds -/

/-- The digit of a value below 36. -/
def digit (d : Nat) : Char := if d < 26 then Char.ofNat (0x61 + d) else Char.ofNat (0x30 + (d - 26))

/-- The value of a digit. -/
def digitValue? (c : Char) : Option Nat :=
  if c.isLower then some (c.toNat - 0x61)
  else if c.isUpper then some (c.toNat - 0x41)
  else if c.isDigit then some (c.toNat - 0x30 + 26)
  else none

/-- The threshold of a place, the places being 36, 72 and so on. -/
def threshold (bias place : Nat) : Nat :=
  if place ≤ bias then 1 else if bias + 26 ≤ place then 26 else place - bias

theorem threshold_pos (bias place : Nat) : 1 ≤ threshold bias place := by
  unfold threshold
  split
  · omega
  · split <;> omega

/-- A distance divided by 35 until it is small, and 36 for each division. -/
def shrink (delta bias : Nat) : Nat × Nat :=
  if 455 < delta then shrink (delta / 35) (bias + 36) else (delta, bias)
termination_by delta
decreasing_by exact Nat.div_lt_self (by omega) (by omega)

/-- The bias after a distance, when so many characters have been placed. -/
def adapt (delta count : Nat) (isFirst : Bool) : Nat :=
  let delta := if isFirst then delta / 700 else delta / 2
  let (delta, bias) := shrink (delta + delta / count) 0
  bias + 36 * delta / (delta + 38)

/-! ### Writing -/

/-- The digits of a number from a place on. -/
def writeNumber (bias place n : Nat) : List Char :=
  let t := threshold bias place
  if n < t then [digit n]
  else digit (t + (n - t) % (36 - t)) :: writeNumber bias (place + 36) ((n - t) / (36 - t))
termination_by n
decreasing_by
  have := threshold_pos bias place
  calc (n - threshold bias place) / (36 - threshold bias place)
      ≤ n - threshold bias place := Nat.div_le_self _ _
    _ < n := by omega

/-- What has been written, and what is known while a label is written. -/
structure Writer where
  out : List Char := []
  delta : Nat := 0
  bias : Nat := 72
  placed : Nat
  deriving Repr, Inhabited

/-- One character of the label is passed, while those of one kind are placed. -/
def Writer.pass (basic code : Nat) (w : Writer) (c : Char) : Writer :=
  if c.toNat < code then { w with delta := w.delta + 1 }
  else if c.toNat = code then
    { out := w.out ++ writeNumber w.bias 36 w.delta, delta := 0
      bias := adapt w.delta (w.placed + 1) (w.placed == basic), placed := w.placed + 1 }
  else w

/-- The characters of the label that are not of ASCII are placed, by ascending code. -/
def Writer.place (label : List Char) (basic : Nat) : List Nat → Nat → Writer → Writer
  | [], _, w => w
  | code :: more, next, w =>
    let w := { w with delta := w.delta + (code - next) * (w.placed + 1) }
    let w := label.foldl (Writer.pass basic code) w
    Writer.place label basic more (code + 1) { w with delta := w.delta + 1 }

/-- A number put in its place among ascending ones, once. -/
def insertCode (n : Nat) : List Nat → List Nat
  | [] => [n]
  | m :: rest =>
    if n < m then n :: m :: rest else if n = m then m :: rest else m :: insertCode n rest

/-- The codes of a label that are not of ASCII, ascending. -/
def otherCodes (label : List Char) : List Nat :=
  ((label.map Char.toNat).filter (0x80 ≤ ·)).foldr insertCode []

/-- A label in ASCII. -/
def encode (label : List Char) : List Char :=
  let basic := label.filter (·.toNat < 0x80)
  let w := Writer.place label basic.length (otherCodes label) 0x80 { placed := basic.length }
  (if basic.isEmpty then [] else basic ++ ['-']) ++ w.out

/-! ### Reading -/

/-- The number at the beginning of a text, added to another one, and the text after it. -/
def readNumber? (bias place weight sum : Nat) : List Char → Option (Nat × List Char)
  | [] => none
  | c :: rest =>
    match digitValue? c with
    | none => none
    | some d =>
      if d < threshold bias place then some (sum + d * weight, rest)
      else
        readNumber? bias (place + 36) (weight * (36 - threshold bias place)) (sum + d * weight)
          rest

theorem length_lt_of_readNumber? {cs rest : List Char} {bias place weight sum n : Nat}
    (h : readNumber? bias place weight sum cs = some (n, rest)) : rest.length < cs.length := by
  induction cs generalizing place weight sum with
  | nil => simp [readNumber?] at h
  | cons c cs ih =>
    rw [readNumber?] at h
    split at h
    · simp at h
    · split at h
      · simp only [Option.some.injEq, Prod.mk.injEq] at h
        simp [← h.2]
      · have := ih h
        simp only [List.length_cons]; omega

/-- The characters that digits tell of are put into a label. The next one has at least a given code;
if it has that code, it comes at the place `start` or after it. -/
def readOthers? (bias code start : Nat) (label : List Char) (cs : List Char) :
    Option (List Char) :=
  if cs.isEmpty then some label
  else
    match _h : readNumber? bias 36 1 start cs with
    | none => none
    | some (n, rest) =>
      let count := label.length + 1
      let code := code + n / count
      if code.isValidChar then
        readOthers? (adapt (n - start) count (start == 0)) code (n % count + 1)
          (label.insertIdx (n % count) (Char.ofNat code)) rest
      else none
termination_by cs.length
decreasing_by exact length_lt_of_readNumber? _h

/-- A text around its last dash. Without one, or with nothing before it, the first part is empty. -/
def splitLastDash (cs : List Char) : List Char × List Char :=
  let after := (cs.reverse.takeWhile (· != '-')).reverse
  let before := cs.take (cs.length - after.length - 1)
  if before.isEmpty then ([], cs) else (before, after)

/-- The label of a text in ASCII. -/
def decode? (cs : List Char) : Option (List Char) :=
  let (basic, digits) := splitLastDash cs
  if cs.all (·.toNat < 0x80) then readOthers? 72 0x80 0 basic digits else none

end ReactiveResource.Url.Domain.Punycode
