/-!
# Text as octets

UTF-8 octets read as text. Octets that no text encodes are replaced: the longest part that could
begin a character, or else one octet, becomes one `U+FFFD`.

* `Utf8Reader`: the characters read so far and the character under way;
* `Utf8Reader.push`, `Utf8Reader.finish`: one more octet, and the end;
* `decodeLossy`: the text of any octets;
* `isUtf8`: whether nothing has to be replaced.
-/

namespace ReactiveResource.Text

/-- A character of which some octets are still missing: the bits so far, how many octets follow,
and the range the next one must lie in. -/
structure PartialChar where
  value : Nat
  missing : Nat
  low : Nat
  high : Nat

/-- The characters read so far, the last one first, the character under way, and whether all octets
before it belong to characters. -/
structure Utf8Reader where
  chars : List Char := []
  pending : Option PartialChar := none
  sound : Bool := true

namespace Utf8Reader

/-- The character that stands for octets outside the encoding. -/
def replacement : Char := Char.ofNat 0xFFFD

/-- A character has been read. -/
def emit (r : Utf8Reader) (c : Char) : Utf8Reader :=
  { r with chars := c :: r.chars, pending := none }

/-- Octets that belong to no character have been read. -/
def replace (r : Utf8Reader) : Utf8Reader := { r.emit replacement with sound := false }

/-- An octet where a character begins. -/
def start (r : Utf8Reader) (b : Nat) : Utf8Reader :=
  let await value missing low high : Utf8Reader :=
    { r with pending := some { value, missing, low, high } }
  if b < 0x80 then r.emit (Char.ofNat b)
  else if 0xC2 ≤ b ∧ b ≤ 0xDF then await (b - 0xC0) 1 0x80 0xBF
  else if b = 0xE0 then await 0 2 0xA0 0xBF
  else if b = 0xED then await 0xD 2 0x80 0x9F
  else if 0xE1 ≤ b ∧ b ≤ 0xEF then await (b - 0xE0) 2 0x80 0xBF
  else if b = 0xF0 then await 0 3 0x90 0xBF
  else if 0xF1 ≤ b ∧ b ≤ 0xF3 then await (b - 0xF0) 3 0x80 0xBF
  else if b = 0xF4 then await 4 3 0x80 0x8F
  else r.replace

/-- One more octet. An octet that cannot follow ends the character under way and begins another. -/
def push (r : Utf8Reader) (b : Nat) : Utf8Reader :=
  match r.pending with
  | none => r.start b
  | some p =>
    if p.low ≤ b ∧ b ≤ p.high then
      let value := p.value * 64 + (b - 0x80)
      if p.missing ≤ 1 then r.emit (Char.ofNat value)
      else { r with pending := some { value, missing := p.missing - 1, low := 0x80, high := 0xBF } }
    else r.replace.start b

/-- The end of the octets: no character is under way. -/
def finish (r : Utf8Reader) : Utf8Reader := if r.pending.isSome then r.replace else r

end Utf8Reader

/-- All octets read. -/
def readOctets (octets : List Nat) : Utf8Reader := (octets.foldl Utf8Reader.push {}).finish

/-- The text of any octets. -/
def decodeLossy (octets : List Nat) : String := String.ofList (readOctets octets).chars.reverse

/-- Whether octets are those of a text. -/
def isUtf8 (octets : List Nat) : Bool := (readOctets octets).sound

end ReactiveResource.Text
