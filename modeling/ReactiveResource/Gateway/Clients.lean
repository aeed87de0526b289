import ReactiveResource.Gateway.Switchboard

/-!
# Clients of a scripted gateway

Clients that wait for a scripted gateway: a caller waits for the reply to its call, a counter waits
until a number of calls has been made. Clients run in turn, in the order in which they were made or
woken. Counters keep the gateway alive; once neither they nor its owner need it, the calls that
still wait are lost.

* `ClientJob`, `Notice`, `Clients`: who runs next, what clients record, and the state;
* `Clients.call`, `Clients.await`, `Clients.resolve`, `Clients.drop`: what the owner does;
* `Clients.poll?`: the next client runs.
-/

namespace ReactiveResource.Gateway

/-- A client that may run: the caller of a call, or a counter, by number. -/
inductive ClientJob where
  | caller (n : Nat)
  | counter (n : Nat)
  deriving DecidableEq, Repr, Inhabited

/-- What a client records when it has got what it waited for. -/
inductive Notice where
  | replied (caller : Nat) (reply : Reply)
  | counted (calls : Nat)
  deriving Inhabited

/-- A counter: the number of calls that it waits for, and whether it sleeps or is done. -/
structure Counter where
  calls : Nat
  asleep : Bool := false
  done : Bool := false
  deriving DecidableEq, Repr, Inhabited

/-- A scripted gateway with its clients. The callers that sleep are listed by number. -/
structure Clients where
  board : Switchboard := {}
  owned : Bool := true
  asleep : List Nat := []
  counters : List Counter := []
  ready : List ClientJob := []
  notices : List Notice := []

namespace Clients

/-- Sleeping counters are to look again. -/
def wakeCounters (c : Clients) : Clients :=
  let woken := (c.counters.zipIdx.filter (·.1.asleep)).map fun (_, n) => ClientJob.counter n
  { c with
    counters := c.counters.map fun counter => { counter with asleep := false }
    ready := c.ready ++ woken }

/-- A call is made at once, and its caller is to wait for the reply. -/
def call (c : Clients) (method : String) (params : Json) : Clients :=
  let c := { c with board := c.board.call method params }.wakeCounters
  { c with ready := c.ready ++ [.caller (c.board.calls.length - 1)] }

/-- A counter is to wait for a number of calls. -/
def await (c : Clients) (calls : Nat) : Clients :=
  { c with
    counters := c.counters ++ [{ calls }]
    ready := c.ready ++ [.counter c.counters.length] }

/-- The caller that sleeps for a reply is to run. -/
def wakeCaller (c : Clients) (n : Nat) : Clients :=
  if c.asleep.contains n then
    { c with asleep := c.asleep.filter (· ≠ n), ready := c.ready ++ [.caller n] }
  else c

/-- A waiting call is resolved, if there is one of that number. -/
def resolve (c : Clients) (n : Nat) (reply : Reply) : Clients × Bool :=
  let (board, found) := c.board.resolve n reply
  let c := { c with board }
  (if found then c.wakeCaller n else c, found)

/-- If nobody needs the gateway any more, waiting calls are lost. -/
def collect (c : Clients) : Clients :=
  if c.owned || c.counters.any (!·.done) then c
  else c.asleep.foldl wakeCaller { c with board := c.board.abandon }

/-- The owner needs the gateway no longer. -/
def drop (c : Clients) : Clients := { c with owned := false }.collect

/-- A client runs: it records what it has got, or goes to sleep. -/
def run (c : Clients) : ClientJob → Clients
  | .caller n =>
    match c.board.answer? n with
    | some reply => { c with notices := c.notices ++ [.replied n reply] }
    | none => { c with asleep := c.asleep ++ [n] }
  | .counter n =>
    match c.counters[n]? with
    | none => c
    | some counter =>
      if counter.calls ≤ c.board.calls.length then
        { c with
          counters := c.counters.set n { counter with done := true }
          notices := c.notices ++ [Notice.counted counter.calls] }.collect
      else { c with counters := c.counters.set n { counter with asleep := true } }

/-- The client whose turn it is runs; none if all sleep or are done. -/
def poll? (c : Clients) : Option Clients :=
  match c.ready with
  | [] => none
  | job :: rest => some ({ c with ready := rest }.run job)

end Clients

end ReactiveResource.Gateway
