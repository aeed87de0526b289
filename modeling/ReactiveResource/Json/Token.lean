import ReactiveResource.Json.Value

/-!
# The tokens of JSON text

Text is read character by character. What is under way is a `Scan`: a text, a number, a word, or
nothing. A token that the grammar admits but that has no value (a number beyond the doubles, a text
with half a surrogate pair) is kept as such, so that a reader who skips it need not object.

* `Token`: punctuation, words, numbers and texts;
* `numberOf?`: the value of a number's digits;
* `Scan`, `Lexer`, `Lexer.push`: what is under way, and one more character;
* `tokens`: the tokens of a text.
-/

namespace ReactiveResource.Json

/-- A token. A number or a text without a value is well-formed all the same; `malformed` is where
the text left the grammar, and nothing follows it. -/
inductive Token where
  | leftBrace
  | rightBrace
  | leftBracket
  | rightBracket
  | colon
  | comma
  | null
  | bool (value : Bool)
  | number (value : Option Json)
  | text (value : Option String)
  | malformed

/-- Where a number stands: which characters may follow is a matter of the phase alone. -/
inductive NumberPhase where
  | sign
  | zero
  | whole
  | point
  | fraction
  | mark
  | markSign
  | exponent
  deriving DecidableEq

/-- The phase after one more character, if it belongs to the number. -/
def NumberPhase.next? (p : NumberPhase) (c : Char) : Option NumberPhase :=
  let digit := c.isDigit
  match p with
  | .sign => if c = '0' then some .zero else if digit then some .whole else none
  | .zero => if c = '.' then some .point else if c = 'e' ∨ c = 'E' then some .mark else none
  | .whole =>
    if digit then some .whole else if c = '.' then some .point
    else if c = 'e' ∨ c = 'E' then some .mark else none
  | .point => if digit then some .fraction else none
  | .fraction => if digit then some .fraction else if c = 'e' ∨ c = 'E' then some .mark else none
  | .mark => if c = '+' ∨ c = '-' then some .markSign else if digit then some .exponent else none
  | .markSign => if digit then some .exponent else none
  | .exponent => if digit then some .exponent else none

/-- Whether a number may end here before the character `c`: after a leading zero no digit may
stand. -/
def NumberPhase.endsBefore (p : NumberPhase) (c : Char) : Bool :=
  match p with
  | .zero => !c.isDigit
  | .whole | .fraction | .exponent => true
  | _ => false

/-- Whether a number may end here with the text. -/
def NumberPhase.isComplete : NumberPhase → Bool
  | .zero | .whole | .fraction | .exponent => true
  | _ => false

/-- The number that decimal digits denote. -/
def natOfDigits (digits : List Char) : Nat :=
  digits.foldl (fun n c => 10 * n + (c.toNat - '0'.toNat)) 0

/-- A significand continued by digits for as long as a 64-bit word holds it, and how many digits
went into it: the first one that does not fit ends it. -/
def significand : Nat → List Char → Nat × Nat
  | n, [] => (n, 0)
  | n, c :: cs =>
    let m := 10 * n + (c.toNat - '0'.toNat)
    if m < UInt64.size then let (s, k) := significand m cs; (s, k + 1) else (n, 0)

/-- The value of a number's characters. Without fraction and exponent it is an integer when a
64-bit word, with or without sign, holds it; `-0` and everything else is a double, none if no double
is near enough. -/
def numberOf? (cs : List Char) : Option Json :=
  let negative := cs.head? = some '-'
  let cs := if negative then cs.drop 1 else cs
  let whole := cs.takeWhile Char.isDigit
  let rest := cs.dropWhile Char.isDigit
  let fraction := if rest.head? = some '.' then (rest.drop 1).takeWhile Char.isDigit else []
  let rest := if rest.head? = some '.' then (rest.drop 1).dropWhile Char.isDigit else rest
  let power : Int :=
    match rest.drop 1 with
    | '-' :: ds => -(natOfDigits ds : Int)
    | '+' :: ds => natOfDigits ds
    | ds => natOfDigits ds
  let n := natOfDigits whole
  if fraction.isEmpty ∧ rest.isEmpty ∧ !negative ∧ n < UInt64.size then some (.int n)
  else if fraction.isEmpty ∧ rest.isEmpty ∧ negative ∧ 0 < n ∧ n ≤ Nat.pow 2 63 then
    some (.int (-n))
  else
    let (s, usedWhole) := significand 0 whole
    let (s, usedFraction) := significand s fraction
    let shift : Int := (whole.length : Int) - usedWhole - usedFraction
    (Binary64.ofDecimal? negative s (shift + power)).map .float

/-- What stands inside a text: characters, an escape, or the digits of an escape by number. -/
inductive TextPhase where
  | plain
  | escape
  | digits (count value : Nat)

/-- What is under way. The characters of a text or a number are kept last first; a text also has
the high half of a surrogate pair that waits for its low half, and whether it is still a text. -/
inductive Scan where
  | idle
  | number (phase : NumberPhase) (chars : List Char)
  | word (rest : List Char) (token : Token)
  | text (phase : TextPhase) (chars : List Char) (high : Option Nat) (valid : Bool)
  | stopped

/-- The tokens read so far, the last one first, and what is under way. -/
structure Lexer where
  scan : Scan := .idle
  tokens : List Token := []

namespace Lexer

/-- The text has left the grammar. -/
def stop (l : Lexer) : Lexer := { scan := .stopped, tokens := .malformed :: l.tokens }

/-- A token is complete. -/
def emit (l : Lexer) (t : Token) : Lexer := { scan := .idle, tokens := t :: l.tokens }

/-- A character outside every token. -/
def begin (l : Lexer) (c : Char) : Lexer :=
  match c with
  | ' ' | '\t' | '\n' | '\r' => { l with scan := .idle }
  | '{' => l.emit .leftBrace
  | '}' => l.emit .rightBrace
  | '[' => l.emit .leftBracket
  | ']' => l.emit .rightBracket
  | ':' => l.emit .colon
  | ',' => l.emit .comma
  | '"' => { l with scan := .text .plain [] none true }
  | 'n' => { l with scan := .word ['u', 'l', 'l'] .null }
  | 't' => { l with scan := .word ['r', 'u', 'e'] (.bool true) }
  | 'f' => { l with scan := .word ['a', 'l', 's', 'e'] (.bool false) }
  | '-' => { l with scan := .number .sign ['-'] }
  | '0' => { l with scan := .number .zero ['0'] }
  | c => if c.isDigit then { l with scan := .number .whole [c] } else l.stop

/-- The character that a single letter after a backslash stands for. -/
def escaped? : Char → Option Char
  | '"' => some '"'
  | '\\' => some '\\'
  | '/' => some '/'
  | 'b' => some '\x08'
  | 'f' => some '\x0c'
  | 'n' => some '\n'
  | 'r' => some '\r'
  | 't' => some '\t'
  | _ => none

/-- The value of a digit in base sixteen. -/
def hexDigit? (c : Char) : Option Nat :=
  if c.isDigit then some (c.toNat - '0'.toNat)
  else if 'a' ≤ c ∧ c ≤ 'f' then some (c.toNat - 'a'.toNat + 10)
  else if 'A' ≤ c ∧ c ≤ 'F' then some (c.toNat - 'A'.toNat + 10)
  else none

/-- A text goes on with a character; a high half that waited for its low half is lost by that. -/
def textChar (l : Lexer) (chars : List Char) (high : Option Nat) (valid : Bool) (c : Char) :
    Lexer :=
  { l with scan := .text .plain (c :: chars) none (valid && high.isNone) }

/-- A text goes on with an escape by number: a character, or one half of a surrogate pair. -/
def textUnit (l : Lexer) (chars : List Char) (high : Option Nat) (valid : Bool) (unit : Nat) :
    Lexer :=
  match high with
  | some h =>
    if 0xDC00 ≤ unit ∧ unit ≤ 0xDFFF then
      let c := Char.ofNat (0x10000 + (h - 0xD800) * 0x400 + (unit - 0xDC00))
      { l with scan := .text .plain (c :: chars) none valid }
    else { l with scan := .text .plain chars none false }
  | none =>
    if 0xD800 ≤ unit ∧ unit ≤ 0xDBFF then { l with scan := .text .plain chars (some unit) valid }
    else if 0xDC00 ≤ unit ∧ unit ≤ 0xDFFF then { l with scan := .text .plain chars none false }
    else { l with scan := .text .plain (Char.ofNat unit :: chars) none valid }

/-- One more character. -/
def push (l : Lexer) (c : Char) : Lexer :=
  match l.scan with
  | .idle => l.begin c
  | .stopped => l
  | .number p cs =>
    match p.next? c with
    | some p' => { l with scan := .number p' (c :: cs) }
    | none =>
      if p.endsBefore c then (l.emit (.number (numberOf? cs.reverse))).begin c else l.stop
  | .word [] _ => l.stop
  | .word [d] t => if c = d then l.emit t else l.stop
  | .word (d :: ds) t => if c = d then { l with scan := .word ds t } else l.stop
  | .text .plain cs high valid =>
    if c = '"' then
      l.emit (.text (if valid && high.isNone then some (String.ofList cs.reverse) else none))
    else if c = '\\' then { l with scan := .text .escape cs high valid }
    else if c.toNat < 0x20 then l.stop
    else l.textChar cs high valid c
  | .text .escape cs high valid =>
    if c = 'u' then { l with scan := .text (.digits 0 0) cs high valid }
    else match escaped? c with
      | some d => l.textChar cs high valid d
      | none => l.stop
  | .text (.digits count value) cs high valid =>
    match hexDigit? c with
    | none => l.stop
    | some d =>
      let value := 16 * value + d
      if count = 3 then l.textUnit cs high valid value
      else { l with scan := .text (.digits (count + 1) value) cs high valid }

/-- The tokens of a text that ends here. -/
def finish (l : Lexer) : List Token :=
  match l.scan with
  | .idle | .stopped => l.tokens.reverse
  | .number p cs =>
    if p.isComplete then (l.emit (.number (numberOf? cs.reverse))).tokens.reverse
    else l.stop.tokens.reverse
  | _ => l.stop.tokens.reverse

end Lexer

/-- The tokens of a text. -/
def tokens (cs : List Char) : List Token := (cs.foldl Lexer.push {}).finish

end ReactiveResource.Json
