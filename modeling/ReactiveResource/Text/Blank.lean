/-!
# Blank text

The characters of the `White_Space` property, and the text that is left when they are taken off.

* `isBlankChar`: the property;
* `isBlank`: a text holds nothing else;
* `trimBlankEnd`: a text without its trailing blanks.
-/

namespace ReactiveResource.Text

/-- The code points of the `White_Space` property, as ranges. -/
def blankRanges : List (Nat × Nat) :=
  [(0x09, 0x0D), (0x20, 0x20), (0x85, 0x85), (0xA0, 0xA0), (0x1680, 0x1680), (0x2000, 0x200A),
    (0x2028, 0x2029), (0x202F, 0x202F), (0x205F, 0x205F), (0x3000, 0x3000)]

/-- Whether a character has the `White_Space` property. -/
def isBlankChar (c : Char) : Bool :=
  blankRanges.any fun (low, high) => low ≤ c.toNat && c.toNat ≤ high

/-- Whether a text holds blanks only. -/
def isBlank (s : String) : Bool := s.toList.all isBlankChar

/-- A text without its trailing blanks. -/
def trimBlankEnd (s : String) : String :=
  String.ofList (s.toList.reverse.dropWhile isBlankChar).reverse

end ReactiveResource.Text
