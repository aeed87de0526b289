import ReactiveResource.Gateway.Script

/-!
# Switchboards

The tables of a scripted gateway. A call that is answered at once leaves its reply with its caller;
any other call is connected to its caller by a line. The gateway's end of a line lies in a slot,
which an index finds by the number of the call, and it is taken out of the slot when the call is
resolved. A caller that has given up has hung up its end.

* `RecordedCall`, `Line`, `Receipt`, `Switchboard`: calls, lines, what callers hold, and the tables;
* `Switchboard.push`, `call`, `resolve`, `abandon`: what the owner of the gateway does;
* `Switchboard.hangUp`: a caller gives up;
* `Switchboard.answer?`: the reply to a call, if its caller has one.
-/

namespace ReactiveResource.Gateway

/-- A call as it was made. -/
structure RecordedCall where
  method : String
  params : Json
  deriving Inhabited

/-- A line between the gateway and a caller: the caller waits, it has been sent its reply, it has
hung up, or the gateway's end has been lost. -/
inductive Line where
  | waiting
  | sent (reply : Reply)
  | hungUp
  | lost
  deriving Inhabited

/-- What a caller holds: the reply, or its end of a line. -/
inductive Receipt where
  | reply (reply : Reply)
  | line (number : Nat)
  deriving Inhabited

/-- The tables of a scripted gateway, with its lines and what its callers hold. -/
structure Switchboard where
  responder : Option (String → Json → Reply) := none
  queued : List Reply := []
  calls : List RecordedCall := []
  /-- The gateway's ends of lines that have not been used, by the numbers of the lines. -/
  slots : List (Option Nat) := []
  /-- The slot of every call that was not answered at once. -/
  slotOf : List (Option Nat) := []
  lines : List Line := []
  receipts : List Receipt := []

namespace Switchboard

/-- One more reply for the calls to come. -/
def push (s : Switchboard) (reply : Reply) : Switchboard :=
  { s with queued := s.queued ++ [reply] }

/-- The reply that a call would be given at once, if any. -/
def immediate? (s : Switchboard) (method : String) (params : Json) : Option Reply :=
  match s.queued with
  | reply :: _ => some reply
  | [] => s.responder.map fun respond => respond method params

/-- A call is made. Its number is the number of calls before it. -/
def call (s : Switchboard) (method : String) (params : Json) : Switchboard :=
  let recorded : Switchboard :=
    { s with queued := s.queued.tail, calls := s.calls ++ [{ method, params }] }
  match s.immediate? method params with
  | some reply =>
    { recorded with
      slotOf := s.slotOf ++ [none]
      receipts := s.receipts ++ [.reply reply] }
  | none =>
    { recorded with
      slots := s.slots ++ [some s.lines.length]
      slotOf := s.slotOf ++ [some s.slots.length]
      lines := s.lines ++ [.waiting]
      receipts := s.receipts ++ [.line s.lines.length] }

/-- A call is resolved by a reply on its line. The truth value says whether the gateway's end of the
line was still in its slot, and the caller still there. -/
def resolve (s : Switchboard) (n : Nat) (reply : Reply) : Switchboard × Bool :=
  match s.slotOf[n]?.join with
  | none => (s, false)
  | some slot =>
    match s.slots[slot]?.join with
    | none => (s, false)
    | some line =>
      let taken : Switchboard := { s with slots := s.slots.set slot none }
      match s.lines[line]? with
      | some .waiting => ({ taken with lines := s.lines.set line (.sent reply) }, true)
      | _ => (taken, false)

/-- The caller of a call gives up, if it still waits. -/
def hangUp (s : Switchboard) (n : Nat) : Switchboard :=
  match s.receipts[n]? with
  | some (.line line) =>
    match s.lines[line]? with
    | some .waiting => { s with lines := s.lines.set line .hungUp }
    | _ => s
  | _ => s

/-- The gateway's ends of all lines are lost. -/
def abandon (s : Switchboard) : Switchboard :=
  { s with
    slots := s.slots.map fun _ => none
    lines := s.lines.map fun
      | .waiting => .lost
      | l => l }

end Switchboard

/-- The reply that has come on a line. -/
def Line.reply? : Line → Option Reply
  | .sent reply => some reply
  | .lost => some Script.dropped
  | _ => none

/-- The reply that a caller has, given the lines. -/
def Receipt.reply? (lines : List Line) : Receipt → Option Reply
  | .reply r => some r
  | .line number => lines[number]?.bind Line.reply?

/-- The reply to a call. -/
def Switchboard.answer? (s : Switchboard) (n : Nat) : Option Reply :=
  s.receipts[n]?.bind (Receipt.reply? s.lines)

end ReactiveResource.Gateway
