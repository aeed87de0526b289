import ReactiveResource.Text.Unprintable

/-!
# Quoted text

Text in double quotes, as descriptions of values show it: quotes, backslashes and the common
control characters have an escape of two characters, other characters that are not printed are
shown by number.

* `quotedChar`: one character;
* `quoted`: a text.
-/

namespace ReactiveResource.Text

/-- The digits of a number in base sixteen, in lower case. -/
def hex (n : Nat) : List Char := Nat.toDigits 16 n

/-- A character inside quotes. -/
def quotedChar (c : Char) : List Char :=
  if c = '"' then ['\\', '"']
  else if c = '\\' then ['\\', '\\']
  else if c = '\n' then ['\\', 'n']
  else if c = '\r' then ['\\', 'r']
  else if c = '\t' then ['\\', 't']
  else if c = '\x00' then ['\\', '0']
  else if isUnprintable c then ['\\', 'u', '{'] ++ hex c.toNat ++ ['}']
  else [c]

/-- A text in quotes. -/
def quoted (s : String) : String :=
  String.ofList ('"' :: s.toList.flatMap quotedChar ++ ['"'])

end ReactiveResource.Text
