import ReactiveResource.Json.Document
import ReactiveResource.Json.Printer

/-!
# Settings

What a user has chosen once and for all: a backend, a team, headers, a timeout and a format for
output. Settings are kept in a file; a file that holds no settings counts as one without choices.

* `OutputFormat`, `Settings`: the choices;
* `Settings.read?`, `Settings.ofText`: the settings that a text holds, and those that it stands for;
* `Settings.render`: the text of settings;
* `Settings.effectiveBaseUrl`, `Settings.effectiveTeam`, `Settings.timeout`: what a choice comes to;
* `Settings.withBackend`: a backend is chosen.
-/

namespace ReactiveResource

/-- How results are printed. -/
inductive OutputFormat where
  | json
  | yaml
  deriving DecidableEq, Repr, Inhabited

/-- The name of a format. -/
def OutputFormat.name : OutputFormat → String
  | .json => "json"
  | .yaml => "yaml"

/-- The format of a name. -/
def OutputFormat.ofName? : String → Option OutputFormat
  | "json" => some .json
  | "yaml" => some .yaml
  | _ => none

/-- The choices of a user. The timeout is in seconds. -/
structure Settings where
  baseUrl : Option String := none
  team : Option String := none
  siteName : Option String := none
  csrfToken : Option String := none
  timeoutSecs : Option UInt64 := none
  output : OutputFormat := .json
  deriving DecidableEq, Repr, Inhabited

namespace Settings

/-! ### Reading -/

/-- A text, or null for none. -/
def readText? : Json.Tree → Option (Option String)
  | .null => some none
  | .text (some s) => some (some s)
  | _ => none

/-- A number of seconds, or null for none. -/
def readSeconds? : Json.Tree → Option (Option UInt64)
  | .null => some none
  | .number (some v) => v.natural?.map fun n => some (UInt64.ofNat n)
  | _ => none

/-- A format: its name, or an object that holds null under its name. -/
def readFormat? : Json.Tree → Option OutputFormat
  | .text (some name) => OutputFormat.ofName? name
  | .object [(some name, .null)] true => OutputFormat.ofName? name
  | _ => none

/-- The names of the fields, in the order in which they are written. -/
def fieldNames : List String :=
  ["base_url", "team", "site_name", "csrf_token", "timeout_secs", "output"]

/-- The settings with one field read. A field of another name only has to be well-formed. -/
def setField? (s : Settings) (name : String) (t : Json.Tree) : Option Settings :=
  match name with
  | "base_url" => (readText? t).map fun v => { s with baseUrl := v }
  | "team" => (readText? t).map fun v => { s with team := v }
  | "site_name" => (readText? t).map fun v => { s with siteName := v }
  | "csrf_token" => (readText? t).map fun v => { s with csrfToken := v }
  | "timeout_secs" => (readSeconds? t).map fun v => { s with timeoutSecs := v }
  | "output" => (readFormat? t).map fun v => { s with output := v }
  | _ => if t.isWellFormed then some s else none

/-- The settings of an object's members, in any order. No field may be given twice; `seen` lists
those that have been given. -/
def ofMembers? (seen : List String) (s : Settings) :
    List (Option String × Json.Tree) → Option Settings
  | [] => some s
  | (none, _) :: _ => none
  | (some name, t) :: rest =>
    if fieldNames.contains name && seen.contains name then none
    else
      match s.setField? name t with
      | none => none
      | some s => ofMembers? (name :: seen) s rest

/-- The settings of fields without names, in the order of `fieldNames`; the last ones may be left
out. -/
def ofItems? (s : Settings) : List String → List Json.Tree → Option Settings
  | _, [] => some s
  | [], _ :: _ => none
  | name :: names, t :: ts =>
    match s.setField? name t with
    | none => none
    | some s => ofItems? s names ts

/-- The settings that a text holds: an object of fields, or an array of them. -/
def read? (text : String) : Option Settings :=
  let d := Json.Document.ofText text
  if !d.complete then none
  else
    match d.root with
    | .object members true => ofMembers? [] {} members
    | .array items true => ofItems? {} fieldNames items
    | _ => none

/-- The settings that a text stands for. -/
def ofText (text : String) : Settings := (read? text).getD {}

/-! ### Writing -/

/-- A text or null. -/
def textOrNull : Option String → Json
  | none => .null
  | some s => .str s

/-- The text of settings: an object with a field a line, in the order of `fieldNames`. -/
def render (s : Settings) : String :=
  Json.pretty (.obj
    [("base_url", textOrNull s.baseUrl), ("team", textOrNull s.team),
      ("site_name", textOrNull s.siteName), ("csrf_token", textOrNull s.csrfToken),
      ("timeout_secs",
        match s.timeoutSecs with
        | none => .null
        | some n => .int n.toNat),
      ("output", .str s.output.name)])

/-! ### Choices -/

/-- The backend when nobody has chosen one. -/
def defaultBaseUrl : String := "http://localhost:8000"

/-- The backend: the one given for this time, or else the chosen one, or else that of the
environment if it is not empty. -/
def effectiveBaseUrl (s : Settings) (given environment : Option String) : String :=
  ((given <|> s.baseUrl) <|> environment.filter (· ≠ "")).getD defaultBaseUrl

/-- The team: the one given for this time, or else the chosen one. -/
def effectiveTeam (s : Settings) (given : Option String) : Option String := given <|> s.team

/-- The timeout in seconds; zero stands for none. -/
def timeout (s : Settings) : Option UInt64 := s.timeoutSecs.filter (0 < ·)

/-- A backend is chosen, and a team if one is given. -/
def withBackend (s : Settings) (baseUrl : String) (team : Option String) : Settings :=
  { s with baseUrl := some baseUrl, team := team <|> s.team }

end Settings

end ReactiveResource
