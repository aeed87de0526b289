import ReactiveResource.Gateway.Body
import ReactiveResource.Gateway.Status
import ReactiveResource.Json.Printer
import ReactiveResource.Log
import ReactiveResource.Url.Read

/-!
# Gateways over HTTP

A remote method is called by a request to a URL below that of the backend. The parameters are the
body, as JSON; headers name the site, the team and a token. What comes back is taken from the body
of the response, or from what went wrong on the way to it.

* `HttpOptions`, `HttpGateway`, `HttpGateway.ofOptions`: a backend, and what is sent along;
* `HttpGateway.methodUrl`: the URL of a method;
* `Request`, `Exchange`, `Network`: what is sent, what comes back, and who decides that;
* `HttpGateway.call`: a remote call.
-/

namespace ReactiveResource

/-- What is known of a backend and of those who call it. There is no timeout here: the network says
which requests run out of time. -/
structure HttpOptions where
  baseUrl : String
  siteName : Option String := none
  team : Option String := none
  csrfToken : Option String := none
  deriving DecidableEq, Repr, Inhabited

/-- A backend. Its URL is that of a folder. -/
structure HttpGateway where
  baseUrl : Url
  siteName : String
  team : Option String := none
  csrfToken : Option String := none
  deriving DecidableEq, Repr, Inhabited

/-- A text that is no URL of a backend or no name of a method, and why. -/
structure BadAddress where
  message : String
  cause : UrlError
  deriving DecidableEq, Repr, Inhabited

/-- What is sent to a server. -/
structure Request where
  url : Url
  headers : List (String × String)
  body : Json
  deriving Inhabited

/-- What the server is asked for: the path and the query. -/
def Request.target (r : Request) : String := r.url.path.print ++ r.url.query.elim "" ("?" ++ ·)

/-- What comes back: nothing, since nobody answers at all or in time, or a response, whose body may
be cut short. The response is the one that the HTTP client hands back, after any redirects that it
has followed. -/
inductive Exchange where
  | unreachable
  | timedOut
  | response (status : Nat) (body : List Nat) (complete : Bool)
  deriving DecidableEq, Repr, Inhabited

/-- What comes back for a request, given the requests before it. One request is one call of the HTTP
client, however many messages that takes. -/
abbrev Network := List Request → Request → Exchange

/-- A network in which nobody answers. -/
def Network.offline : Network := fun _ _ => .unreachable

namespace HttpGateway

/-- The gateway of options. Without a site name, that of the backend's host is used. -/
def ofOptions (o : HttpOptions) : Except BadAddress HttpGateway :=
  match Url.ofText? o.baseUrl with
  | .error cause => .error { message := "Invalid base URL: " ++ o.baseUrl, cause }
  | .ok url =>
    let baseUrl := url.withTrailingSlash
    .ok
      { baseUrl, siteName := o.siteName.getD (baseUrl.hostText?.getD ""), team := o.team
        csrfToken := o.csrfToken }

/-- The URL of a method. -/
def methodUrl (g : HttpGateway) (method : String) : Except BadAddress Url :=
  (g.baseUrl.extend? ("api/method/" ++ method)).mapError fun cause =>
    { message := "Invalid method name: " ++ method, cause }

/-- The name under which the program calls. -/
def userAgent : String := "dashres/0.1.0"

/-- The headers of every request. -/
def headers (g : HttpGateway) : List (String × String) :=
  [("accept", "application/json"), ("content-type", "application/json; charset=utf-8"),
    ("user-agent", userAgent), ("x-frappe-site-name", g.siteName)]
    ++ (g.team.map fun team => ("x-press-team", team)).toList
    ++ (g.csrfToken.map fun token => ("x-frappe-csrf-token", token)).toList

/-! ### What can go wrong before a response -/

/-- Why there is no response. -/
inductive Fault where
  | badHeader
  | badUrl
  | noAnswer
  deriving DecidableEq, Repr, Inhabited

/-- Whether a text may be the value of a header. -/
def isHeaderValue (value : String) : Bool :=
  value.toList.all fun c => c == '\t' || (0x20 ≤ c.toNat && c.toNat != 0x7F)

/-- Whether a host may stand in a request. -/
def isPlainHost (host : String) : Bool :=
  host.toList.all fun c => !(c == '"' || c == '\x60' || c == '\x7b' || c == '\x7d')

/-- Why a request to a URL with some headers cannot be sent, if so. -/
def fault? (url : Url) (headers : List (String × String)) : Option Fault :=
  match url.hostText? with
  | none => some .badUrl
  | some host =>
    if !headers.all (isHeaderValue ·.2) then some .badHeader
    else if url.scheme ≠ "http" ∧ url.scheme ≠ "https" then some .badUrl
    else if !isPlainHost host then some .badUrl
    else none

/-- Whether the user information of a URL can be sent as such, apart from the URL. -/
def hasReadableUser (url : Url) : Bool :=
  let isReadable (s : String) : Bool := Text.isUtf8 (Url.Percent.decode s.toList)
  match url.authority with
  | none => false
  | some a => isReadable a.username && (!a.username.isEmpty || isReadable a.password)

/-- The URL that a fault names. -/
def shownUrl (url : Url) : String := if hasReadableUser url then url.printPublic else url.print

/-- The text of a fault. -/
def Fault.message (url : Url) : Fault → String
  | .badHeader => "builder error"
  | .badUrl => "builder error for url (" ++ shownUrl url ++ ")"
  | .noAnswer => "error sending request for url (" ++ shownUrl url ++ ")"

/-! ### Calls -/

/-- What a call comes to: its reply, the request if one was sent, and what is reported. -/
structure Record where
  reply : Reply
  request : Option Request := none
  log : List LogEntry := []
  deriving Inhabited

/-- The reply to a request that has no response. -/
def faultReply (url : Url) (fault : Fault) : Reply :=
  .err (.ofMessage ("Failed to send request: " ++ fault.message url))

/-- The entry for a request that has no response. -/
def faultEntry (url : Url) (method : String) (fault : Fault) : LogEntry :=
  .error ("Request for " ++ method ++ " failed: " ++ fault.message url)

/-- The reply of a response, and what is reported. -/
def replyOfResponse (method : String) (status : Nat) (octets : List Nat) (complete : Bool) :
    Reply × List LogEntry :=
  if !complete then
    (.err { RemoteError.ofMessage
        "Failed to read response body: error decoding response body" with status := some status },
      [])
  else
    let body := Text.decodeLossy octets
    if Gateway.Status.isSuccess status then (Gateway.payloadOfBody method body, [])
    else
      (.err (Gateway.errorOfBody method status body),
        [.error ("API error: " ++ Gateway.Status.describe status ++ " - "
          ++ Gateway.logExcerpt body)])

/-- The parameters of a call as a body; nothing stands for no parameters. -/
def bodyOf (params : Json) : Json := if params.isNull then .obj [] else params

/-- A remote call, given the requests before it. -/
def call (g : HttpGateway) (network : Network) (earlier : List Request) (method : String)
    (params : Json) : Record :=
  match g.methodUrl method with
  | .error e => { reply := .err (.ofMessage e.message) }
  | .ok url =>
    let start : LogEntry := .debug ("POST " ++ url.print)
    match fault? url g.headers with
    | some fault =>
      { reply := faultReply url fault, log := [start, faultEntry url method fault] }
    | none =>
      let request : Request := { url, headers := g.headers, body := bodyOf params }
      match network earlier request with
      | .response status octets complete =>
        let (reply, log) := replyOfResponse method status octets complete
        { reply, request := some request, log := start :: log }
      | .timedOut =>
        { reply := faultReply url .noAnswer, request := some request
          log := [start, faultEntry url method .noAnswer] }
      | .unreachable =>
        { reply := faultReply url .noAnswer
          log := [start, faultEntry url method .noAnswer] }

/-- Remote calls made one after another. -/
def calls (g : HttpGateway) (network : Network) :
    List Request → List (String × Json) → List Record
  | _, [] => []
  | earlier, (method, params) :: rest =>
    let record := g.call network earlier method params
    record :: calls g network (earlier ++ record.request.toList) rest

end HttpGateway

end ReactiveResource
