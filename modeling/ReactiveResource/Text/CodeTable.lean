import ReactiveResource.Text.Split

/-!
# Tables of code points

A table is written as runs with blanks between them. A run is a code point or a range of them, in
base sixteen; a distance may follow after a slash, if not all of the range is meant, and numbers
after a colon, with plus signs between them: `41-5A:61`, `100-12E/2:101`, `C0:41+300`.

* `CodeRun`, `CodeTable`: a run, and a table;
* `CodeTable.ofLines`: the table that lines hold;
* `CodeTable.find?`, `CodeTable.has`: the run of a code point.
-/

namespace ReactiveResource.Text

/-- Code points at equal distances, and the numbers that are given for them. -/
structure CodeRun where
  first : Nat
  last : Nat
  step : Nat := 1
  values : List Nat := []
  deriving DecidableEq, Repr, Inhabited

/-- The runs of a table. -/
structure CodeTable where
  runs : List CodeRun
  deriving DecidableEq, Repr, Inhabited

namespace CodeRun

/-- The value of a digit in base sixteen. -/
def digitValue (c : Char) : Nat :=
  if c.isDigit then c.toNat - '0'.toNat else c.toNat - 'A'.toNat + 10

/-- The number of digits in base sixteen. -/
def number (cs : List Char) : Nat := cs.foldl (fun n c => 16 * n + digitValue c) 0

/-- The text before a sign, and the text after it if the sign is there. -/
def cut (sign : Char) (cs : List Char) : List Char × Option (List Char) :=
  (cs.takeWhile (· != sign),
    match cs.dropWhile (· != sign) with
    | [] => none
    | _ :: rest => some rest)

/-- The run of a text. -/
def ofChars (cs : List Char) : CodeRun :=
  let (place, values) := cut ':' cs
  let (range, step) := cut '/' place
  let (first, last) := cut '-' range
  { first := number first
    last := number (last.getD first)
    step := (step.map number).getD 1
    values := (values.map fun vs => (splitOn '+' vs).map number).getD [] }

/-- Whether a code point belongs to a run. -/
def has (run : CodeRun) (c : Nat) : Bool :=
  decide (run.first ≤ c) && decide (c ≤ run.last) && (c - run.first) % run.step == 0

end CodeRun

namespace CodeTable

/-- The table that lines hold. -/
def ofLines (lines : List String) : CodeTable :=
  { runs := lines.flatMap fun line => (splitOn ' ' line.toList).map CodeRun.ofChars }

/-- The place of a code point in its run, and the numbers of the run. -/
def find? (t : CodeTable) (c : Nat) : Option (Nat × List Nat) :=
  (t.runs.find? (·.has c)).map fun run => (c - run.first, run.values)

/-- Whether a code point belongs to a run of the table. -/
def has (t : CodeTable) (c : Nat) : Bool := t.runs.any (·.has c)

end CodeTable

end ReactiveResource.Text
