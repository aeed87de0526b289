import ReactiveResource.Json.Value
import ReactiveResource.Number.Shortest
import ReactiveResource.Yaml.Reading

/-!
# YAML text

The text of a value as a YAML document in block style. A text is written plainly where it can only
be read as that text, in quotes or as a block of lines otherwise.

* `Scalar.Style`, `Scalar.style`: the ways to write a text, and the one that is chosen;
* `Scalar.print`: a text in the way chosen for it;
* `render`: the document of a value; members are written in the order in which they are given.
-/

namespace ReactiveResource.Yaml

/-- Blanks for a level of indentation. -/
def pad (indent : Nat) : String := String.ofList (List.replicate indent ' ')

/-! ### Texts -/

namespace Scalar

/-- The ways to write a text. -/
inductive Style where
  | plain
  | singleQuoted
  | doubleQuoted
  | literal
  deriving DecidableEq, Repr, Inhabited

/-- Whether a character ends a line. -/
def isBreak (c : Char) : Bool := [0x0A, 0x0D, 0x85, 0x2028, 0x2029].contains c.toNat

/-- Whether a character separates what is on either side of it. -/
def isGap (c : Char) : Bool := c == ' ' || c == '\t' || c == '\x00' || isBreak c

/-- Whether a character may be written as it is. -/
def isPrintable (c : Char) : Bool :=
  c == '\n' || (0x20 ≤ c.toNat && c.toNat ≤ 0x7E)
    || (0xA0 ≤ c.toNat && !([0xFEFF, 0xFFFE, 0xFFFF].contains c.toNat))

/-- Whether some character has a property and the one after it another. -/
def hasPair (p q : Char → Bool) : List Char → Bool
  | a :: b :: rest => (p a && q b) || hasPair p q (b :: rest)
  | _ => false

/-- Whether the first character is a mark of the notation. -/
def startsWithMark : List Char → Bool
  | [] => false
  | c :: rest =>
    [',', '[', ']', '{', '}', '#', '&', '*', '!', '|', '>', '\x27', '"', '%', '@', '\x60'].contains
        c
      || ((c == '?' || c == ':' || c == '-') && rest.head?.all isGap)

/-- Whether a colon or a number sign after the first character would be read as a mark. -/
def hasInnerMark : List Char → Bool
  | a :: b :: rest =>
    (b == ':' && rest.head?.all isGap) || (b == '#' && isGap a) || hasInnerMark (b :: rest)
  | _ => false

/-- Whether a text begins like the border of a document. -/
def startsWithBorder : List Char → Bool
  | '-' :: '-' :: '-' :: _ => true
  | '.' :: '.' :: '.' :: _ => true
  | _ => false

/-- A blank before or after a line end. -/
def hasBlankAtBreak (cs : List Char) : Bool :=
  hasPair isBreak (· == ' ') cs || hasPair (· == ' ') isBreak cs

/-- Whether a text has a character that has to be escaped. -/
def needsEscape (cs : List Char) : Bool := cs.any (!isPrintable ·)

/-- Whether a text may stand without quotes. -/
def allowsPlain (cs : List Char) : Bool :=
  let isEdge (c : Char) : Bool := c == ' ' || isBreak c
  !(cs.head?.any isEdge || cs.getLast?.any isEdge || cs.any isBreak || needsEscape cs
    || startsWithBorder cs || startsWithMark cs || hasInnerMark cs)

/-- Whether a text may stand in single quotes. -/
def allowsSingle (cs : List Char) : Bool := !(hasBlankAtBreak cs || needsEscape cs)

/-- Whether a text may be written as a block of lines. -/
def allowsLiteral (cs : List Char) : Bool :=
  !(cs.getLast? == some ' ' || hasPair (· == ' ') isBreak cs || needsEscape cs)

/-- The way in which a text is written. -/
def style (cs : List Char) : Style :=
  if cs.contains '\n' then (if allowsLiteral cs then .literal else .doubleQuoted)
  else if allowsPlain cs && !Reading.isAmbiguous cs then .plain
  else if allowsSingle cs then .singleQuoted
  else .doubleQuoted

/-- A text between single quotes: quotes are doubled, and lines after the first are indented. -/
def singleQuoted (indent : Nat) (cs : List Char) : String :=
  let rec go (afterBreak : Bool) : List Char → List Char
    | [] => if afterBreak then (pad indent).toList else []
    | c :: rest =>
      if isBreak c then c :: go true rest
      else
        (if afterBreak then (pad indent).toList else [])
          ++ (if c = '\x27' then [c, c] else [c]) ++ go false rest
  "'" ++ String.ofList (go false cs) ++ "'"

/-- The digits of a number in base sixteen, filled with zeros. -/
def hex (width n : Nat) : List Char :=
  let digits := (Nat.toDigits 16 n).map Char.toUpper
  List.replicate (width - digits.length) '0' ++ digits

/-- The escape of a character. -/
def escape (c : Char) : List Char :=
  match c.toNat with
  | 0x00 => ['\\', '0']
  | 0x07 => ['\\', 'a']
  | 0x08 => ['\\', 'b']
  | 0x09 => ['\\', 't']
  | 0x0A => ['\\', 'n']
  | 0x0B => ['\\', 'v']
  | 0x0C => ['\\', 'f']
  | 0x0D => ['\\', 'r']
  | 0x1B => ['\\', 'e']
  | 0x22 => ['\\', '"']
  | 0x5C => ['\\', '\\']
  | 0x85 => ['\\', 'N']
  | 0xA0 => ['\\', '_']
  | 0x2028 => ['\\', 'L']
  | 0x2029 => ['\\', 'P']
  | n =>
    if n ≤ 0xFF then '\\' :: 'x' :: hex 2 n
    else if n ≤ 0xFFFF then '\\' :: 'u' :: hex 4 n
    else '\\' :: 'U' :: hex 8 n

/-- A text between double quotes. -/
def doubleQuoted (cs : List Char) : String :=
  let escaped (c : Char) : List Char :=
    if !isPrintable c || isBreak c || c == '"' || c == '\\' then escape c else [c]
  "\"" ++ String.ofList (cs.flatMap escaped) ++ "\""

/-- What is said in front of a block of lines: whether its first line begins with a blank, and what
becomes of the line ends after its last line. -/
def literalHeader (cs : List Char) : String :=
  let start := if cs.head?.any fun c => c == ' ' || isBreak c then "|2" else "|"
  match cs.reverse with
  | last :: before =>
    if !isBreak last then start ++ "-"
    else if before.head?.all isBreak then start ++ "+"
    else start
  | [] => start ++ "-"

/-- A text as a block of lines. -/
def literal (indent : Nat) (cs : List Char) : String :=
  let rec go (afterBreak : Bool) : List Char → List Char
    | [] => []
    | c :: rest =>
      if isBreak c then c :: go true rest
      else (if afterBreak then (pad indent).toList else []) ++ c :: go false rest
  literalHeader cs ++ "\n" ++ String.ofList (go true cs)

/-- A text whose further lines have an indentation. -/
def print (indent : Nat) (s : String) : String :=
  let cs := s.toList
  match style cs with
  | .plain => s
  | .singleQuoted => singleQuoted indent cs
  | .doubleQuoted => doubleQuoted cs
  | .literal => literal indent cs

end Scalar

/-! ### Values -/

/-- A part with a line end after it. A block of lines brings its own, if the text has one. -/
def closeLine (part : String) : String :=
  if part.toList.getLast?.any Scalar.isBreak then part else part ++ "\n"

/-- Parts, each on a line of its own with an indentation; the first one stands where it is. -/
def joinLines (indent : Nat) : List String → String
  | [] => ""
  | [part] => part
  | part :: rest => closeLine part ++ pad indent ++ joinLines indent rest

/-- Whether a key stands on the line of its value. -/
def isSimpleKey (key : String) : Bool := key.utf8ByteSize ≤ 128 && !key.toList.any Scalar.isBreak

/-- The text of a value that has no parts, whose further lines have an indentation. -/
def printScalar (indent : Nat) : Json → String
  | .null => "null"
  | .bool true => "true"
  | .bool false => "false"
  | .int n => toString n
  | .float x => x.toText .yaml
  | .str s => Scalar.print indent s
  | .arr _ => "[]"
  | .obj _ => "\x7b\x7d"

mutual

/-- What stands after the mark of an item in a list with an indentation. -/
def printItem (indent : Nat) : Json → String
  | .arr (v :: vs) => joinLines (indent + 2) (printItems (indent + 2) (v :: vs))
  | .obj (m :: ms) => joinLines (indent + 2) (printMembers (indent + 2) (m :: ms))
  | v => printScalar (indent + 2) v

/-- The items of a list. -/
def printItems (indent : Nat) : List Json → List String
  | [] => []
  | v :: vs => ("- " ++ printItem indent v) :: printItems indent vs

/-- What stands after the colon of a member with an indentation. Items are not indented further. -/
def printValue (indent : Nat) : Json → String
  | .arr (v :: vs) => "\n" ++ pad indent ++ joinLines indent (printItems indent (v :: vs))
  | .obj (m :: ms) =>
    "\n" ++ pad (indent + 2) ++ joinLines (indent + 2) (printMembers (indent + 2) (m :: ms))
  | v => " " ++ printScalar (indent + 2) v

/-- The members of an object. -/
def printMembers (indent : Nat) : List (String × Json) → List String
  | [] => []
  | (key, v) :: ms =>
    let written := Scalar.print (indent + 2) key
    (if isSimpleKey key then written ++ ":" ++ printValue indent v
      else joinLines indent ["? " ++ written, ": " ++ printItem indent v])
      :: printMembers indent ms

end

/-- The document of a value, with a line end. -/
def render (v : Json) : String :=
  closeLine
    (match v with
    | .arr (w :: ws) => joinLines 0 (printItems 0 (w :: ws))
    | .obj (m :: ms) => joinLines 0 (printMembers 0 (m :: ms))
    | v => printScalar 2 v)

end ReactiveResource.Yaml
