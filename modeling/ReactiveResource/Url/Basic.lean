import ReactiveResource.Url.Host

/-!
# URLs

A URL is a scheme, an authority (user information, host and port), a path, a query and a fragment.
The path is a list of segments, except in URLs that have neither an authority nor a slash after the
scheme: their path is flat, and nothing can be relative to them. All parts are held as they are
printed.

* `Authority`, `Path`, `Url`: a URL and its parts;
* `Url.print`, `Url.printPublic`: its text, and its text without user information;
* `Scheme.isSpecial`, `Scheme.defaultPort?`: what is known of schemes.
-/

namespace ReactiveResource

namespace Scheme

/-- Whether a scheme has a host and segments, and takes a backslash for a slash. -/
def isSpecial (scheme : String) : Bool :=
  ["http", "https", "ws", "wss", "ftp", "file"].contains scheme

/-- The port that is meant when none is given. -/
def defaultPort? : String → Option Nat
  | "http" | "ws" => some 80
  | "https" | "wss" => some 443
  | "ftp" => some 21
  | _ => none

end Scheme

/-- Who answers for a URL. A port that is the scheme's own is left out. -/
structure Authority where
  username : String := ""
  password : String := ""
  host : Host
  port : Option Nat := none
  deriving DecidableEq, Repr, Inhabited

/-- The path of a URL. -/
inductive Path where
  | segments (list : List String)
  | flat (text : String)
  deriving DecidableEq, Repr, Inhabited

/-- A URL. -/
structure Url where
  scheme : String
  authority : Option Authority
  path : Path
  query : Option String := none
  fragment : Option String := none
  deriving DecidableEq, Repr, Inhabited

namespace Authority

/-- The user information, with the sign that ends it. -/
def printUser (a : Authority) : String :=
  if a.username.isEmpty && a.password.isEmpty then ""
  else if a.password.isEmpty then a.username ++ "@"
  else a.username ++ ":" ++ a.password ++ "@"

/-- The host, and the port if there is one. -/
def printHost (a : Authority) : String :=
  match a.port with
  | none => a.host.print
  | some port => a.host.print ++ ":" ++ toString port

end Authority

/-- The text of a path: a slash before each segment. -/
def Path.print : Path → String
  | .segments list => String.join (list.map ("/" ++ ·))
  | .flat text => text

namespace Url

/-- Whether the scheme is special. -/
def isSpecial (u : Url) : Bool := Scheme.isSpecial u.scheme

/-- What follows the authority. Without an authority, a path that begins with two slashes is kept
apart from what would be read as one. -/
def printRest (u : Url) : String :=
  let path := u.path.print
  (if u.authority.isNone && path.startsWith "//" then "/." ++ path else path)
    ++ (u.query.elim "" ("?" ++ ·)) ++ (u.fragment.elim "" ("#" ++ ·))

/-- The text of a URL. -/
def print (u : Url) : String :=
  match u.authority with
  | none => u.scheme ++ ":" ++ u.printRest
  | some a => u.scheme ++ "://" ++ a.printUser ++ a.printHost ++ u.printRest

/-- The text of a URL without user information. -/
def printPublic (u : Url) : String :=
  match u.authority with
  | none => u.print
  | some a => { u with authority := some { a with username := "", password := "" } }.print

/-- The text of the host, if it is not empty. -/
def hostText? (u : Url) : Option String :=
  u.authority.bind fun a => if a.host.isEmpty then none else some a.host.print

end Url

end ReactiveResource
