import ReactiveResource.Url.Basic

/-!
# URLs read from text

A text is cleaned, and then taken apart from the left: the scheme, the authority, the path, the
query, the fragment. Segments of one dot are dropped, and a segment of two dots takes back the one
before it, unless that looks like a drive letter. The first segment of a file may be one.

* `Url.pushSegments`, `Url.shorten`: segments added to a path, and the last one taken back;
* `Url.pushFileSegments`: the same for files;
* `Url.ofText?`: the URL of a text;
* `Url.withTrailingSlash`: the URL of a folder;
* `Url.extend?`: a URL and a path relative to it.
-/

namespace ReactiveResource.Url

/-! ### Characters -/

/-- A text without the control characters and blanks around it. -/
def trim (s : String) : List Char :=
  let isBlank (c : Char) : Bool := c.toNat ≤ 0x20
  ((s.toList.dropWhile isBlank).reverse.dropWhile isBlank).reverse

/-- Whether a character is skipped wherever it stands: a tab or a line end. -/
def isSkipped (c : Char) : Bool := c == '\t' || c == '\n' || c == '\r'

/-- A text without the characters that are skipped. -/
def solid (cs : List Char) : List Char := cs.filter (!isSkipped ·)

/-- Whether a character separates segments. -/
def isSlash (special : Bool) (c : Char) : Bool := c == '/' || (special && c == '\\')

/-- Whether a character ends an authority. -/
def endsAuthority (special : Bool) (c : Char) : Bool := isSlash special c || c == '?' || c == '#'

/-- Whether a character ends a path. -/
def endsPath (c : Char) : Bool := c == '?' || c == '#'

/-! ### Segments -/

/-- The texts between slashes. -/
def splitSegments (special : Bool) (cs : List Char) : List (List Char) :=
  Text.split (isSlash special) cs

/-- A segment with its encoded dots read as dots. -/
def plainDots : List Char → List Char
  | '%' :: '2' :: 'e' :: rest => '.' :: plainDots rest
  | '%' :: '2' :: 'E' :: rest => '.' :: plainDots rest
  | c :: rest => c :: plainDots rest
  | [] => []

/-- Whether a segment is one dot. -/
def isDot (segment : List Char) : Bool := plainDots segment == ['.']

/-- Whether a segment is two dots. -/
def isDotDot (segment : List Char) : Bool := plainDots segment == ['.', '.']

/-- Whether a segment is a drive letter. -/
def isDrive : List Char → Bool
  | [letter, mark] => letter.isAlpha && (mark == ':' || mark == '|')
  | _ => false

/-- Whether a segment looks like a drive letter, perhaps with a backslash and more after it. -/
def resemblesDrive : List Char → Bool
  | letter :: mark :: rest => isDrive [letter, mark] && rest.head?.all (· == '\\')
  | _ => false

/-- A segment as it is written. -/
def encodeSegment (segment : List Char) : String :=
  String.ofList (Percent.encode Percent.inPath segment)

/-- A path without its last segment, unless that looks like a drive letter. -/
def shorten (path : List String) : List String :=
  match path.getLast? with
  | some last => if resemblesDrive last.toList then path else path.dropLast
  | none => path

/-- A path with one more segment, after which others follow. -/
def pushSegment (path : List String) (segment : List Char) : List String :=
  if isDotDot segment then shorten path
  else if isDot segment then path
  else path ++ [encodeSegment segment]

/-- A path with its last segment. After dots that is an empty one. -/
def endPath (path : List String) (segment : List Char) : List String :=
  if isDotDot segment || isDot segment then pushSegment path segment ++ [""]
  else path ++ [encodeSegment segment]

/-- A path with more segments. -/
def pushSegments (path : List String) : List (List Char) → List String
  | [] => path
  | [last] => endPath path last
  | segment :: rest => pushSegments (pushSegment path segment) rest

/-! ### Segments of files -/

/-- A drive letter with its colon, and the text after it, if characters that are skipped part the
two. -/
def splitDrive? (segment : List Char) : Option (List Char × List Char) :=
  match segment.dropWhile isSkipped with
  | [] => none
  | letter :: rest =>
    match rest.dropWhile isSkipped with
    | ':' :: rest =>
      if letter.isAlpha && rest.head?.any isSkipped && !(solid rest).isEmpty then
        some ([letter, ':'], solid rest)
      else none
    | _ => none

/-- The path of a file with more segments, and whether a drive letter has become the first one. A
drive letter is written with a colon. One that is parted from the text after it makes two segments,
and the second is taken as it is. -/
def pushFileSegments (path : List String) : List (List Char) → List String × Bool
  | [] => (path, false)
  | segment :: rest =>
    let plain := solid segment
    match path.isEmpty, splitDrive? segment with
    | true, some (drive, more) => pushFileSegments [String.ofList drive, encodeSegment more] rest
    | atStart, _ =>
      if atStart && isDrive plain then
        ((pushFileSegments [String.ofList (plain.take 1 ++ [':'])] rest).1, true)
      else if rest.isEmpty then (endPath path plain, false)
      else pushFileSegments (pushSegment path plain) rest

/-- The path of a file with the segments of a text. No empty segments stand in front of others. -/
def extendFile (path : List String) (segments : List (List Char)) : List String × Bool :=
  let (list, hasDrive) := pushFileSegments path segments
  match list.dropWhile (·.isEmpty) with
  | [] => ([""], hasDrive)
  | list => (list, hasDrive)

/-! ### Queries and fragments -/

/-- The query and the fragment of what follows a path. -/
def tail (special : Bool) (cs : List Char) : Option String × Option String :=
  let encoded (reserved : Char → Bool) (cs : List Char) : String :=
    String.ofList (Percent.encode reserved cs)
  let fragment (cs : List Char) : Option String :=
    match cs with
    | [] => none
    | _ :: rest => some (encoded Percent.inFragment rest)
  match cs with
  | '?' :: rest =>
    (some (encoded (Percent.inQuery special) (rest.takeWhile (· != '#'))),
      fragment (rest.dropWhile (· != '#')))
  | cs => (none, fragment cs)

/-! ### Authorities -/

/-- The scheme that a text begins with, and the text after its colon. -/
def splitScheme? (cs : List Char) : Option (String × List Char) :=
  let isPart (c : Char) : Bool := c.isAlphanum || c == '+' || c == '-' || c == '.'
  match cs with
  | [] => none
  | c :: _ =>
    match c.isAlpha, cs.dropWhile isPart with
    | true, ':' :: rest =>
      some (String.ofList ((cs.takeWhile isPart).map Char.toLower), rest)
    | _, _ => none

/-- The text before the last sign of a kind, and the text after it. -/
def splitLast? (sign : Char) : List Char → Option (List Char × List Char)
  | [] => none
  | c :: rest =>
    match splitLast? sign rest with
    | some (before, after) => some (c :: before, after)
    | none => if c = sign then some ([], rest) else none

/-- The host at the beginning of a text, and the text from its port on. Colons between brackets
belong to the host. -/
def splitHost (bracketed : Bool) : List Char → List Char × List Char
  | [] => ([], [])
  | c :: rest =>
    if c = ':' ∧ !bracketed then ([], c :: rest)
    else
      let bracketed := if c = '[' then true else if c = ']' then false else bracketed
      let (host, after) := splitHost bracketed rest
      (c :: host, after)

/-- The port of a text that begins with a colon, and what follows it; a port that is not given or is
the scheme's own is left out. Only a path may follow, which begins with a backslash if the text does
not end. -/
def readPort? (scheme : String) : List Char → Except UrlError (Option Nat × List Char)
  | ':' :: cs =>
    let digits := cs.takeWhile Char.isDigit
    let rest := cs.dropWhile Char.isDigit
    let port := Address.ofDigits 10 (digits.map fun c => c.toNat - '0'.toNat)
    if rest.head?.any (· != '\\') || decide (65535 < port) then .error .invalidPort
    else if digits.isEmpty || Scheme.defaultPort? scheme == some port then .ok (none, rest)
    else .ok (some port, rest)
  | cs => .ok (none, cs)

/-- The host of a text; special schemes need one. -/
def readHost? (special : Bool) (cs : List Char) : Except UrlError Host :=
  if special then (if cs.isEmpty then .error .emptyHost else Host.ofDomain? cs)
  else Host.ofName? cs

/-- An authority, and what follows its port. Whoever names a user or a port must name a host. So
must the sign that ends the user information if it stands alone before a path, a query or a
fragment. -/
def readAuthority? (scheme : String) (isLast : Bool) (cs : List Char) :
    Except UrlError (Authority × List Char) := do
  let special := Scheme.isSpecial scheme
  if cs = ['@'] ∧ !isLast then throw .emptyHost
  let (user, hostAndPort) := (splitLast? '@' cs).getD ([], cs)
  let (host, port) := splitHost false hostAndPort
  let host ← readHost? special host
  if host.isEmpty && !port.isEmpty then throw .emptyHost
  let (port, rest) ← readPort? scheme port
  let encoded (cs : List Char) : String := String.ofList (Percent.encode Percent.inUserInfo cs)
  let username := encoded (user.takeWhile (· != ':'))
  let password := encoded ((user.dropWhile (· != ':')).drop 1)
  if host.isEmpty && !(username.isEmpty && password.isEmpty) then throw .emptyHost
  return ({ username, password, host, port }, rest)

/-! ### Whole URLs -/

/-- The segments of a path that follows an authority. A special scheme has at least one. -/
def readSegments (special : Bool) (cs : List Char) : List String :=
  match cs with
  | [] => if special then [""] else []
  | c :: rest =>
    pushSegments [] (splitSegments special (if isSlash special c then rest else c :: rest))

/-- A URL with an authority, from the authority on. -/
def readHierarchy? (scheme : String) (cs : List Char) : Except UrlError Url := do
  let special := Scheme.isSpecial scheme
  let rest := cs.dropWhile (!endsAuthority special ·)
  let (authority, start) ←
    readAuthority? scheme rest.isEmpty (cs.takeWhile (!endsAuthority special ·))
  let (query, fragment) := tail special (rest.dropWhile (!endsPath ·))
  return {
    scheme, authority := some authority, query, fragment
    path := .segments (readSegments special (start ++ rest.takeWhile (!endsPath ·))) }

/-- The host of a file; the own machine is not named. -/
def readFileHost? (cs : List Char) : Except UrlError Host :=
  if cs.isEmpty then .ok (.name "")
  else (Host.ofDomain? cs).map fun host => if host = .name "localhost" then .name "" else host

/-- The text after a slash, if it begins with one. -/
def afterSlash? (cs : List Char) : Option (List Char) :=
  match cs.dropWhile isSkipped with
  | c :: rest => if isSlash true c then some rest else none
  | [] => none

/-- The URL of a file, from the text after the scheme on. Characters that are skipped are still
there. A file on a drive has no host. -/
def readFile? (cs : List Char) : Except UrlError Url := do
  let (query, fragment) := tail true (solid (cs.dropWhile (!endsPath ·)))
  let place := cs.takeWhile (!endsPath ·)
  let file (host : Host) (path : List Char) : Url :=
    let (segments, hasDrive) := extendFile [] (splitSegments true ((afterSlash? path).getD path))
    { scheme := "file", authority := some { host := if hasDrive then .name "" else host }
      path := .segments segments, query, fragment }
  match (afterSlash? place).bind afterSlash? with
  | none => return file (.name "") place
  | some rest =>
    let host := solid (rest.takeWhile (!isSlash true ·))
    if isDrive host then return file (.name "") rest
    let host ← readFileHost? host
    return file host (rest.dropWhile (!isSlash true ·))

/-- The URL of a text. -/
def ofText? (s : String) : Except UrlError Url := do
  let cs := trim s
  match splitScheme? (solid cs) with
  | none => throw .relativeWithoutBase
  | some ("file", _) => readFile? ((cs.dropWhile (· != ':')).drop 1)
  | some (scheme, rest) =>
    if Scheme.isSpecial scheme then readHierarchy? scheme (rest.dropWhile (isSlash true))
    else
      match rest with
      | '/' :: '/' :: more => readHierarchy? scheme more
      | _ =>
        let place := rest.takeWhile (!endsPath ·)
        let (query, fragment) := tail false (rest.dropWhile (!endsPath ·))
        let path : Path :=
          match place with
          | '/' :: more => .segments (pushSegments [] (splitSegments false more))
          | _ => .flat (String.ofList (Percent.encode Percent.isControl place))
        return { scheme, authority := none, path, query, fragment }

/-- The same URL with a path that ends in a slash. The path of a file is read once more. -/
def withTrailingSlash (u : Url) : Url :=
  match u.path with
  | .segments list =>
    let longer := list ++ [""]
    if list.getLast? = some "" then u
    else if u.scheme = "file" then
      { u with path := .segments (extendFile [] (longer.map String.toList)).1 }
    else { u with path := .segments longer }
  | .flat _ => u

/-- The URL of a path relative to another URL: the path takes the place of the last segment, and the
query and the fragment are its own. -/
def extend? (u : Url) (reference : String) : Except UrlError Url :=
  match u.path with
  | .flat _ => .error .baseIsNoBase
  | .segments list =>
    let cs := trim reference
    let path := cs.takeWhile (!endsPath ·)
    let (query, fragment) := tail u.isSpecial (solid (cs.dropWhile (!endsPath ·)))
    let segments :=
      if u.scheme = "file" then (extendFile list.dropLast (splitSegments true path)).1
      else pushSegments list.dropLast (splitSegments u.isSpecial (solid path))
    .ok { u with path := .segments segments, query, fragment }

end ReactiveResource.Url
