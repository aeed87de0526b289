import ReactiveResource.Text.Mark
import ReactiveResource.Text.Split
import ReactiveResource.Url.Domain.Direction
import ReactiveResource.Url.Domain.Joining
import ReactiveResource.Url.Domain.Mapping
import ReactiveResource.Url.Domain.Punycode

/-!
# Domain names

A domain name is a list of labels with dots between them. Its ASCII form is found in steps:
characters are replaced by those that they stand for, the text is composed, each label is read if it
is in ASCII already, and is then checked and written in ASCII.

* `isDenied`: ASCII characters that no domain name has;
* `mapped?`: a text whose characters stand for themselves;
* `Label`, `Label.ofText?`, `Label.isValid`: labels, and what may be one;
* `toAscii?`: the ASCII form of a name, if it has one.
-/

namespace ReactiveResource.Url.Domain

/-- ASCII characters that no domain name of a URL has. -/
def isDenied (c : Char) : Bool :=
  c.toNat ≤ 0x20 || c.toNat = 0x7F
    || ['%', '#', '/', ':', '<', '>', '?', '@', '[', '\\', ']', '^', '|'].contains c

/-- Whether a text holds ASCII characters only. -/
def isAscii (cs : List Char) : Bool := cs.all (·.toNat < 0x80)

/-- A text with its characters replaced by those that they stand for, in composed form. -/
def mapped? (cs : List Char) : Option (List Char) :=
  let image (c : Char) : Option (List Char) :=
    match fate c with
    | .kept => some [c]
    | .replaced image => some image
    | .refused => none
  (cs.mapM image).map fun images => Text.compose images.flatten

/-! ### Labels -/

/-- A label, and how it is written in ASCII. -/
structure Label where
  chars : List Char
  ascii : List Char
  deriving DecidableEq, Repr, Inhabited

namespace Label

/-- What a label in ASCII that stands for another one begins with. -/
def mark : List Char := ['x', 'n', '-', '-']

/-- How many characters a label has at most that is not in ASCII. -/
def maxLength : Nat := 1000

/-- How many characters of ASCII at most may stand for a label, after the mark. -/
def maxCodeLength : Nat := 2000

/-- The label of a text. A text in ASCII that stands for a label must do so for one that cannot be
written otherwise, and that is as it would be after its characters have been replaced. -/
def ofText? (cs : List Char) : Option Label :=
  if mark.isPrefixOf cs then
    let code := cs.drop mark.length
    if maxCodeLength < code.length then none
    else
      match Punycode.decode? code with
      | some chars =>
        if isAscii chars || decide (maxLength < chars.length) || mapped? chars != some chars then
          none
        else some { chars, ascii := cs }
      | none => none
  else if isAscii cs then some { chars := cs, ascii := cs }
  else if maxLength < cs.length then none
  else some { chars := cs, ascii := mark ++ Punycode.encode cs }

/-- Whether a label may be used: it does not begin with a mark, its characters are not denied, and
its joiners are in place. -/
def isValid (label : Label) : Bool :=
  !label.chars.head?.any Text.isMark && !label.chars.any isDenied && keepsJoiners [] label.chars

end Label

/-! ### Names -/

/-- The ASCII form of a name. In a name with a character that is written from right to left, every
label keeps to the rules of direction. -/
def toAscii? (cs : List Char) : Option (List Char) := do
  let name ← mapped? cs
  let labels ← (Text.splitOn '.' name).mapM Label.ofText?
  let isBidirectional := labels.any fun label => label.chars.any isRightToLeft
  if labels.all fun label =>
      label.isValid && (!isBidirectional || keepsDirection label.chars) then
    some (['.'].intercalate (labels.map (·.ascii)))
  else none

end ReactiveResource.Url.Domain
