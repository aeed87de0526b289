import ReactiveResource.Json.Value
import ReactiveResource.Number.Shortest

/-!
# JSON text

The text of a value, on one line or indented by two blanks a level. An empty container is written
without a line break.

* `printText`: a text in quotes;
* `Json.compress`: a value on one line;
* `Json.pretty`: a value over several lines.
-/

namespace ReactiveResource.Json

/-- A character inside quotes: control characters have an escape, all others stand for
themselves. -/
def printChar (c : Char) : List Char :=
  if c = '"' then ['\\', '"']
  else if c = '\\' then ['\\', '\\']
  else if c = '\x08' then ['\\', 'b']
  else if c = '\x0c' then ['\\', 'f']
  else if c = '\n' then ['\\', 'n']
  else if c = '\r' then ['\\', 'r']
  else if c = '\t' then ['\\', 't']
  else if c.toNat < 0x20 then
    ['\\', 'u', '0', '0', if c.toNat < 0x10 then '0' else '1', Nat.digitChar (c.toNat % 16)]
  else [c]

/-- A text in quotes. -/
def printText (s : String) : String :=
  String.ofList ('"' :: s.toList.flatMap printChar ++ ['"'])

/-- The text of a value that has no parts. -/
def printScalar : Json → String
  | .null => "null"
  | .bool true => "true"
  | .bool false => "false"
  | .int n => toString n
  | .float x => x.toText .json
  | .str s => printText s
  | .arr _ => "[]"
  | .obj _ => "\x7b\x7d"

mutual

/-- A value on one line. -/
def compress : Json → String
  | .arr items => "[" ++ compressItems items ++ "]"
  | .obj members => "\x7b" ++ compressMembers members ++ "\x7d"
  | v => printScalar v

/-- Items with commas between them. -/
def compressItems : List Json → String
  | [] => ""
  | [v] => compress v
  | v :: w :: rest => compress v ++ "," ++ compressItems (w :: rest)

/-- Members with commas between them. -/
def compressMembers : List (String × Json) → String
  | [] => ""
  | [(k, v)] => printText k ++ ":" ++ compress v
  | (k, v) :: m :: rest => printText k ++ ":" ++ compress v ++ "," ++ compressMembers (m :: rest)

end

/-- A line break, and the indentation of a level. -/
def newline (level : Nat) : String := String.ofList ('\n' :: List.replicate (2 * level) ' ')

mutual

/-- A value over several lines, inside a line of the given level. -/
def prettyAt (level : Nat) : Json → String
  | .arr (v :: rest) =>
    "[" ++ newline (level + 1) ++ prettyItems (level + 1) (v :: rest) ++ newline level ++ "]"
  | .obj (m :: rest) =>
    "\x7b" ++ newline (level + 1) ++ prettyMembers (level + 1) (m :: rest) ++ newline level
      ++ "\x7d"
  | v => printScalar v

/-- Items, one a line. -/
def prettyItems (level : Nat) : List Json → String
  | [] => ""
  | [v] => prettyAt level v
  | v :: w :: rest => prettyAt level v ++ "," ++ newline level ++ prettyItems level (w :: rest)

/-- Members, one a line. -/
def prettyMembers (level : Nat) : List (String × Json) → String
  | [] => ""
  | [(k, v)] => printText k ++ ": " ++ prettyAt level v
  | (k, v) :: m :: rest =>
    printText k ++ ": " ++ prettyAt level v ++ "," ++ newline level
      ++ prettyMembers level (m :: rest)

end

/-- A value over several lines. -/
def pretty (v : Json) : String := prettyAt 0 v

end ReactiveResource.Json
