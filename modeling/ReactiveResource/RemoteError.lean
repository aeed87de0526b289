import ReactiveResource.Json.Value

/-!
# Failed remote calls

A failed call carries a headline, the messages meant for the user, and what the server said of its
exception. What the user sees is never empty.

* `RemoteError`, `RemoteError.ofMessage`: a failure, and one with a single message;
* `RemoteError.joined`: the messages as shown to the user;
* `RemoteError.isAuthFailure`: the server refused the caller;
* `Reply`: the outcome of a call.
-/

namespace ReactiveResource

/-- Shown when a failure carries no usable message. -/
def internalServerError : String := "Internal Server Error"

/-- A failed call. The status is that of the server's response, if there was one. -/
structure RemoteError where
  message : String
  messages : List String
  excType : Option String := none
  exception : Option String := none
  status : Option Nat := none
  deriving DecidableEq, Repr, Inhabited

namespace RemoteError

/-- A failure whose headline is its only message. -/
def ofMessage (message : String) : RemoteError := { message, messages := [message] }

/-- The messages that are not empty, a line each, or else a general message. -/
def joined (e : RemoteError) : String :=
  match e.messages.filter (· ≠ "") with
  | [] => internalServerError
  | messages => "\n".intercalate messages

/-- Whether the server refused the caller: it does not know him or does not let him. -/
def isAuthFailure (e : RemoteError) : Bool := e.status = some 401 || e.status = some 403

end RemoteError

/-- The outcome of a remote call. -/
inductive Reply where
  | ok (payload : Json)
  | err (error : RemoteError)
  deriving Inhabited

end ReactiveResource
