import ReactiveResource.Json.Document
import ReactiveResource.RemoteError
import ReactiveResource.Text.Blank

/-!
# Response bodies

What the body of a response says. A successful body holds its payload under `message`, unless it is
a document response or the answer to a login, which count as a whole. A failed body may hold an
exception and messages, each of them JSON inside a JSON text.

* `payloadOfBody`: the reply of a successful response;
* `errorOfBody`: the error of a failed response;
* `unwrapMessage`: a message of the server without its wrapping;
* `logExcerpt`: what a log entry may show of a body.
-/

namespace ReactiveResource.Gateway

/-- The reply of a successful response to a call of `method`. -/
def payloadOfBody (method body : String) : Reply :=
  if Text.isBlank body then .ok .null
  else match Json.parse? body with
    | none => .err (.ofMessage "Failed to parse response JSON: the body is malformed")
    | some data =>
      if (data.member? "docs").isSome || method == "login" then .ok data
      else .ok ((data.member? "message").getD .null)

/-- A message of the server: the text under `message` if it is a JSON object, nothing if it is any
other JSON, and the message itself if it is not JSON. -/
def unwrapMessage (raw : String) : String :=
  match Json.parse? raw with
  | some v => ((v.member? "message").bind Json.text?).getD ""
  | none => raw

/-- The text of a field that is not empty. -/
def fieldText? (error : Json) (name : String) : Option String :=
  ((error.member? name).bind Json.text?).filter (· ≠ "")

/-- The first of a list of texts that is written as JSON, or else the text itself. -/
def firstException (exc : String) : String :=
  match Json.parse? exc with
  | some (.arr (.str first :: rest)) => if rest.all (·.text?.isSome) then first else exc
  | _ => exc

/-- The texts among the items of a list that is written as JSON. -/
def listedTexts (encoded : String) : List String :=
  match Json.parse? encoded with
  | some (.arr items) => items.filterMap Json.text?
  | _ => []

/-- The error of a failed response. A body that is no JSON is taken as an empty object. -/
def errorOfBody (method : String) (status : Nat) (body : String) : RemoteError :=
  let error := (Json.parse? body).getD (.obj [])
  let excType := fieldText? error "exc_type"
  let parts := [some method, excType, fieldText? error "_error_message"].filterMap id
  let headline := " ".intercalate (parts.filter (· ≠ ""))
  let exception := (fieldText? error "exc").map firstException
  let raw := ((fieldText? error "_server_messages").map listedTexts).getD []
    ++ (fieldText? error "message").toList
  let messages := (raw.map unwrapMessage).filter (· ≠ "")
  { message :=
      match exception with
      | some e => headline ++ "\n" ++ e
      | none => headline
    messages := if messages.isEmpty then [internalServerError] else messages
    excType
    exception
    status := some status }

/-- How many octets of a body a log entry may show. -/
def maxExcerpt : Nat := 200

/-- The longest prefix of whole characters that fits into a number of octets. -/
def octetPrefix : Nat → List Char → List Char
  | _, [] => []
  | room, c :: cs => if c.utf8Size ≤ room then c :: octetPrefix (room - c.utf8Size) cs else []

/-- Whether a character may be shown in a log entry: it is a space or a visible ASCII character. -/
def isLoggable (c : Char) : Bool := 0x20 ≤ c.toNat && c.toNat < 0x7F

/-- What a log entry shows of a body: at most its first octets, and of these what is ASCII and
visible. -/
def logExcerpt (body : String) : String :=
  let shown :=
    if maxExcerpt < body.utf8ByteSize then
      octetPrefix maxExcerpt body.toList
        ++ ("... [truncated, " ++ toString body.utf8ByteSize ++ " bytes total]").toList
    else body.toList
  String.ofList (shown.filter isLoggable)

end ReactiveResource.Gateway
