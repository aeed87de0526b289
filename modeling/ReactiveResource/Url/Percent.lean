/-!
# Percent encoding

Characters that may not stand for themselves in a part of a URL are written as the octets of their
UTF-8 encoding, each as a percent sign and two hexadecimal digits.

* `encode`: a text, given the characters that have to be encoded;
* `isControl`, `inFragment`, `inPath`, `inUserInfo`, `inQuery`: what has to be encoded in each part;
* `decode`: the octets of a text.
-/

namespace ReactiveResource.Url.Percent

/-- A hexadecimal digit in upper case. -/
def hexDigit (n : Nat) : Char := (Nat.digitChar n).toUpper

/-- An octet in its written form. -/
def encodeOctet (octet : Nat) : List Char := ['%', hexDigit (octet / 16), hexDigit (octet % 16)]

/-- The octets of a character. -/
def octets (c : Char) : List Nat := (String.utf8EncodeChar c).map (·.toNat)

/-- A character, encoded if it has to be. -/
def encodeChar (reserved : Char → Bool) (c : Char) : List Char :=
  if reserved c then (octets c).flatMap encodeOctet else [c]

/-- A text whose reserved characters are encoded. -/
def encode (reserved : Char → Bool) (cs : List Char) : List Char :=
  cs.flatMap (encodeChar reserved)

/-! ### Parts of a URL -/

/-- Control characters, and all that is not ASCII. -/
def isControl (c : Char) : Bool := c.toNat < 0x20 || 0x7E < c.toNat

/-- What has to be encoded in a fragment. -/
def inFragment (c : Char) : Bool := isControl c || [' ', '"', '<', '>', '\x60'].contains c

/-- What has to be encoded in a path. -/
def inPath (c : Char) : Bool := inFragment c || ['#', '?', '{', '}'].contains c

/-- What has to be encoded in a user name or a password. -/
def inUserInfo (c : Char) : Bool :=
  inPath c || ['/', ':', ';', '=', '@', '[', '\\', ']', '^', '|'].contains c

/-- What has to be encoded in a query; in special schemes this includes the apostrophe. -/
def inQuery (special : Bool) (c : Char) : Bool :=
  isControl c || [' ', '"', '#', '<', '>'].contains c || (special && c == '\x27')

/-! ### Decoding -/

/-- The value of a hexadecimal digit. -/
def hexValue? (c : Char) : Option Nat :=
  if c.isDigit then some (c.toNat - '0'.toNat)
  else if 'a' ≤ c ∧ c ≤ 'f' then some (c.toNat - 'a'.toNat + 10)
  else if 'A' ≤ c ∧ c ≤ 'F' then some (c.toNat - 'A'.toNat + 10)
  else none

/-- The octets of a text. A percent sign without two digits stands for itself. -/
def decode : List Char → List Nat
  | '%' :: a :: b :: rest =>
    match hexValue? a, hexValue? b with
    | some h, some l => (16 * h + l) :: decode rest
    | _, _ => octets '%' ++ decode (a :: b :: rest)
  | c :: rest => octets c ++ decode rest
  | [] => []

end ReactiveResource.Url.Percent
