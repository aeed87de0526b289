import ReactiveResource.CommandLine.Arguments
import ReactiveResource.CommandLine.Fetch
import ReactiveResource.CommandLine.Target
import ReactiveResource.Text.Blank
import ReactiveResource.Timestamp
import ReactiveResource.Yaml

/-!
# Runs of the program

A run takes its arguments and what it finds around itself, and comes to a result: what is printed,
what is sent, what is saved, and an exit code. It lists the catalog, or fetches one resource and
prints what the resource then holds.

* `Environment`, `Result`: what a run finds, and what it comes to;
* `OutputFormat.print`: a value as it is printed;
* `Snapshot.toJson`: what is printed of a resource;
* `run`: a run.
-/

namespace ReactiveResource

/-- A value as it is printed, without blanks at its end. -/
def OutputFormat.print (format : OutputFormat) (v : Json) : String :=
  Text.trimBlankEnd
    (match format with
      | .json => v.pretty
      | .yaml => Yaml.render v)

/-- What is printed of a resource. -/
def Snapshot.toJson (s : Snapshot) : Json :=
  .obj
    [("name", .str s.name), ("method", .str s.method), ("state", .str s.state.title),
      ("data", s.data.getD .null),
      ("error", s.error.elim .null .str),
      ("last_fetched_at", s.lastFetchedAt.elim .null fun t => .str (Timestamp.print t)),
      ("generation", .int s.generation), ("exhausted", .bool s.exhausted),
      ("stale", .bool s.stale)]

namespace CommandLine

/-- What a run finds around itself. -/
structure Environment where
  /-- The text of the settings file, if there is one. -/
  file : Option String := none
  /-- The backend that the environment names. -/
  backend : Option String := none
  network : Network := .offline
  /-- The instant, in milliseconds since the beginning of 1970. -/
  now : Nat := 0

/-- What a run comes to. -/
structure Result where
  code : Nat := 0
  stdout : String := ""
  stderr : String := ""
  requests : List Request := []
  /-- The text to be written to the settings file, if any. -/
  saved : Option String := none
  deriving Inhabited

/-! ### Texts -/

/-- The name and version of the program. -/
def versionText : String := "dashres 0.1.0\n"

/-- How the program is used. -/
def usageText : String := "Usage: dashres [OPTIONS] [RESOURCE]\n"

/-- What the program does, and its options. -/
def helpText : String :=
  "Fetch dashboard resources from the command line\n\n" ++ usageText ++ "\n"
    ++ "Arguments:\n"
    ++ "  [RESOURCE]  Catalog resource key, or a raw remote method name\n\n"
    ++ "Options:\n"
    ++ "  -b, --base-url <BASE_URL>    Dashboard backend URL\n"
    ++ "  -t, --team <TEAM>            Team to act as\n"
    ++ "      --site <SITE>            Site name header override\n"
    ++ "  -p, --params <PARAMS>        Extra params as a JSON object (merged over the catalog "
    ++ "params)\n"
    ++ "      --pages <PAGES>          Number of pages to load for paginated resources "
    ++ "[default: 1]\n"
    ++ "  -o, --output <OUTPUT>        Output format [possible values: json, yaml]\n"
    ++ "      --list                   List catalog resources and exit\n"
    ++ "      --save                   Remember base URL and team for later runs\n"
    ++ "      --log-level <LOG_LEVEL>  Log level for debugging [default: off] [possible values: "
    ++ "off, error, warn, info, debug, trace]\n"
    ++ "  -h, --help                   Print help\n"
    ++ "  -V, --version                Print version\n"

/-- What is said of an error: its text, and its cause on a line of its own. -/
def errorText (message : String) : Option String → String
  | none => "Error: " ++ message ++ "\n"
  | some cause => "Error: " ++ message ++ "\n\nCaused by:\n    " ++ cause ++ "\n"

/-- The run has failed. -/
def Result.failed (r : Result) (message : String) (cause : Option String := none) : Result :=
  { r with code := 1, stderr := errorText message cause }

/-- The run that was not started. -/
def Stop.result : Stop → Result
  | .help => { stdout := helpText }
  | .version => { stdout := versionText }
  | .misuse m =>
    { code := 2
      stderr := "error: " ++ m.message ++ "\n\n" ++ usageText
        ++ "\nFor more information, try '--help'.\n" }

/-! ### Runs -/

/-- A resource is fetched and printed. An error that it holds is the error of the run. -/
def Result.ofErrand (r : Result) (format : OutputFormat) (e : Errand) : Result :=
  let r :=
    { r with
      stdout := format.print e.resource.snapshot.toJson ++ "\n", requests := e.requests }
  match e.resource.error.filter (· ≠ "") with
  | some message => r.failed message
  | none => r

/-- The run for a resource that has a name. -/
def runTarget (env : Environment) (settings : Settings) (a : Arguments) (name : String) : Result :=
  let baseUrl := settings.effectiveBaseUrl a.baseUrl env.backend
  let team := settings.effectiveTeam a.team
  let r : Result :=
    { saved := if a.save then some (settings.withBackend baseUrl team).render else none }
  let options : HttpOptions :=
    { baseUrl, siteName := a.site <|> settings.siteName, team, csrfToken := settings.csrfToken }
  match HttpGateway.ofOptions options with
  | .error e => r.failed e.message e.cause.message
  | .ok gateway =>
    match Catalog.embedded.target? name a.params with
    | none => r.failed "--params must be a JSON object" "the text holds no JSON object"
    | some config =>
      match Resource.create name config with
      | .error e => r.failed e.message
      | .ok resource =>
        let errand : Errand :=
          { gateway, network := env.network, now := env.now, live := .ofResource resource }
        r.ofErrand (a.output.getD settings.output) (errand.run a.pageCount)

/-- The run that arguments ask for. -/
def runArguments (env : Environment) (a : Arguments) : Result :=
  let settings := (env.file.map Settings.ofText).getD {}
  if a.list then
    let keys : Json := .arr (Catalog.embedded.keys.map .str)
    { stdout := (a.output.getD settings.output).print keys ++ "\n" }
  else
    match a.resource with
    | none => ({} : Result).failed "No resource given. Use --list to see catalog resources"
    | some name => runTarget env settings a name

/-- A run. -/
def run (env : Environment) (args : List String) : Result :=
  match Arguments.ofTexts args with
  | .ok a => runArguments env a
  | .error stop => stop.result

end CommandLine

end ReactiveResource
