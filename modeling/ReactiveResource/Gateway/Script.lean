import ReactiveResource.RemoteError

/-!
# Scripted gateways

A gateway that answers from a script. A call takes the oldest reply that has been put in the queue,
or else what the responder says, or else it waits until it is resolved by its number. The tables in
which a gateway keeps its script are those of a switchboard.

* `CallStatus`, `Call`, `Script`: the calls so far, and the replies to come;
* `Script.push`, `Script.call`, `Script.resolve`, `Script.abandon`: the operations;
* `Script.answer?`: the reply to a call, if it has one.
-/

namespace ReactiveResource.Gateway

/-- Whether a call has its reply: it was answered when it was made, or it waits, or it was resolved
later. -/
inductive CallStatus where
  | answered (reply : Reply)
  | waiting
  | resolved (reply : Reply)
  deriving Inhabited

/-- The reply of a call that has one. -/
def CallStatus.reply? : CallStatus → Option Reply
  | .answered reply => some reply
  | .waiting => none
  | .resolved reply => some reply

/-- A recorded call. -/
structure Call where
  method : String
  params : Json
  status : CallStatus
  deriving Inhabited

/-- The state of a scripted gateway. -/
structure Script where
  responder : Option (String → Json → Reply) := none
  queued : List Reply := []
  calls : List Call := []

namespace Script

/-- One more reply for the calls to come. -/
def push (s : Script) (reply : Reply) : Script := { s with queued := s.queued ++ [reply] }

/-- How a call would be answered now. -/
def nextStatus (s : Script) (method : String) (params : Json) : CallStatus :=
  match s.queued, s.responder with
  | reply :: _, _ => .answered reply
  | [], some respond => .answered (respond method params)
  | [], none => .waiting

/-- A call is made. Its number is the number of calls before it. -/
def call (s : Script) (method : String) (params : Json) : Script :=
  { s with
    queued := s.queued.tail
    calls := s.calls ++ [{ method, params, status := s.nextStatus method params }] }

/-- The reply to a call. -/
def answer? (s : Script) (n : Nat) : Option Reply := s.calls[n]?.bind (·.status.reply?)

/-- A waiting call is resolved; the truth value says whether there was one of that number. -/
def resolve (s : Script) (n : Nat) (reply : Reply) : Script × Bool :=
  match s.calls[n]? with
  | some { status := .waiting, .. } =>
    ({ s with calls := s.calls.modify n fun c => { c with status := .resolved reply } }, true)
  | _ => (s, false)

/-- The reply to a call that can no longer be resolved. -/
def dropped : Reply := .err (.ofMessage "scripted reply dropped")

/-- Waiting calls can no longer be resolved. -/
def abandon (s : Script) : Script :=
  { s with
    calls := s.calls.map fun c =>
      match c.status with
      | .waiting => { c with status := .resolved dropped }
      | _ => c }

end Script

/-! ### Responders -/

/-- A responder that repeats the call. -/
def echo (method : String) (params : Json) : Reply :=
  .ok (.obj [("method", .str method), ("params", params)])

/-- A responder that answers with the parameters. -/
def repeatParams (_method : String) (params : Json) : Reply := .ok params

/-- A responder that refuses every method. -/
def refuse (method : String) (_params : Json) : Reply := .err (.ofMessage ("no " ++ method))

/-- A responder that answers every call alike. -/
def constant (value : Json) (_method : String) (_params : Json) : Reply := .ok value

/-- A responder that answers with one of the parameters and fails where it is missing. -/
def requireParam (key : String) (method : String) (params : Json) : Reply :=
  match params.member? key with
  | some v => .ok v
  | none => .err { message := method, messages := [key ++ " missing", ""] }

end ReactiveResource.Gateway
