import ReactiveResource.Log
import ReactiveResource.Resource.Basic

/-!
# Resources with their fetches

Many fetches of one resource may be under way at once. Each is an attempt that moves through phases:
it waits for its turn, for a verdict on its parameters, for the reply to its call, for a delay. An
attempt moves only when it is given the signal that its phase waits for, and says by effects what it
wants of its surroundings.

Fetches of a paginated resource hold the page lock from their turn to their end, so that pages are
applied in the order of the calls. The lock goes to those who wait in the order in which they came.

* `Ticket`, `Phase`, `Ending`, `Attempt`, `PageLock`, `LiveResource`: the state;
* `Signal`, `Moment`, `Effect`: what an attempt is given, and what it wants;
* `LiveResource.spawn`, `LiveResource.advance`: a new attempt, and an attempt that is given a
  signal;
* `LiveResource.cancel`, `reset`, `retire`, `update`: operations from outside.
-/

namespace ReactiveResource

/-- What a fetch carries from the moment at which it takes its generation: all of it belongs to the
config of that moment. -/
structure Ticket where
  generation : Nat
  params : Params
  method : String
  args : Json
  delay : Option Duration
  deriving Inhabited

/-- How an attempt ends. -/
inductive Ending where
  /-- The resource is retired. -/
  | ignored
  /-- The precondition does not hold. -/
  | skipped
  /-- The resource was reconfigured while the attempt waited for its turn. -/
  | displaced
  /-- The generation was no longer current when its parameters had been accepted. -/
  | superseded (generation : Nat)
  /-- The generation was no longer current when the outcome came. -/
  | discarded (generation : Nat)
  /-- The outcome was applied. -/
  | applied (generation : Nat)
  deriving DecidableEq, Repr, Inhabited

/-- What an attempt waits for. -/
inductive Phase where
  | spawned
  | queued (epoch : Nat)
  | validating (ticket : Ticket)
  | calling (ticket : Ticket)
  | delaying (ticket : Ticket) (reply : Reply)
  | finished (ending : Ending)
  deriving Inhabited

/-- One fetch: parameters to use instead of those of the config, if any, and its phase. -/
structure Attempt where
  override : Option Params := none
  phase : Phase := .spawned
  deriving Inhabited

/-- The lock of a paginated resource: the attempt that holds it, and those that wait for it. -/
structure PageLock where
  holder : Option Nat := none
  waiting : List Nat := []
  deriving DecidableEq, Repr, Inhabited

/-- A resource, its fetches so far by number, and its page lock. -/
structure LiveResource where
  resource : Resource
  attempts : List Attempt := []
  pages : PageLock := {}
  deriving Inhabited

/-- What makes an attempt move: its turn to run, a verdict on its parameters, the reply to its call,
or the end of its delay. -/
inductive Signal where
  | go
  | verdict (message : Option String)
  | reply (reply : Reply)
  | elapsed
  deriving Inhabited

/-- The surroundings at the time of a signal: the instant, and the gates that are open. -/
structure Moment where
  now : Nat
  isOpen : String → Bool

/-- What a resource wants of its surroundings, or tells them. -/
inductive Effect where
  | log (entry : LogEntry)
  /-- A gate has been looked at. -/
  | checked (gate : String) (isOpen : Bool)
  /-- Parameters have been given to a validator. -/
  | validated (params : Params)
  /-- The attempt waits for a verdict on its parameters. -/
  | ask (attempt : Nat)
  /-- The attempt calls a remote method and waits for the reply. -/
  | call (attempt : Nat) (method : String) (args : Json)
  /-- The attempt waits for the end of a delay. -/
  | sleep (attempt : Nat) (delay : Duration)
  /-- The outcome of a generation has been applied, and listeners are to be run. -/
  | deliver (generation : Nat) (event : Event) (listeners : List Listener)
  /-- The attempt has been given the page lock. -/
  | wake (attempt : Nat)
  deriving Inhabited

namespace LiveResource

/-- A resource without fetches. -/
def ofResource (r : Resource) : LiveResource := { resource := r }

/-- The name in quotes, as log entries give it. -/
def label (r : LiveResource) : String := "'" ++ r.resource.name ++ "'"

/-- One more attempt, and its number. -/
def spawn (r : LiveResource) (override : Option Params) : LiveResource × Nat :=
  ({ r with attempts := r.attempts ++ [{ override }] }, r.attempts.length)

/-- The attempt is in a phase from now on. -/
def setPhase (r : LiveResource) (id : Nat) (phase : Phase) : LiveResource :=
  { r with attempts := r.attempts.modify id fun a => { a with phase } }

/-- The page lock goes to the one who has waited longest, if the attempt holds it. -/
def release (r : LiveResource) (id : Nat) : LiveResource × List Effect :=
  if r.pages.holder = some id then
    match r.pages.waiting with
    | [] => ({ r with pages := {} }, [])
    | next :: rest => ({ r with pages := { holder := some next, waiting := rest } }, [.wake next])
  else (r, [])

/-- The attempt has come to its end, after some effects. -/
def finish (r : LiveResource) (id : Nat) (ending : Ending) (effects : List Effect) :
    LiveResource × List Effect :=
  let (r, woken) := (r.setPhase id (.finished ending)).release id
  (r, effects ++ woken)

/-- The outcome of a generation has come. It is applied if the generation is current, and else
dropped. -/
def settle (r : LiveResource) (m : Moment) (id : Nat) (generation : Nat) (outcome : Outcome) :
    LiveResource × List Effect :=
  if r.resource.isCurrent generation then
    let (event, due, resource) := r.resource.settle m.now outcome
    let told : List Effect := [.deliver generation event due]
    { r with resource }.finish id (.applied generation)
      (match outcome with
        | .remote e => .log (.warn ("Fetch of " ++ r.label ++ " failed: " ++ e.message)) :: told
        | _ => told)
  else
    r.finish id (.discarded generation)
      [.log (.debug ("Discarding stale completion for " ++ r.label ++ " (generation "
        ++ toString generation ++ ", current " ++ toString r.resource.generation ++ ")"))]

/-- The attempt makes its call. -/
def place (r : LiveResource) (id : Nat) (t : Ticket) : LiveResource × List Effect :=
  ({ r with resource := r.resource.notify }.setPhase id (.calling t),
    [.log (.debug ("Fetching " ++ r.label ++ " via " ++ t.method ++ " (generation "
        ++ toString t.generation ++ ")")),
      .call id t.method t.args])

/-- A verdict on the parameters has come. A message that is not empty refuses them; a fetch that is
accepted starts to load if its generation is current. -/
def judge (r : LiveResource) (m : Moment) (id : Nat) (t : Ticket) (message : Option String) :
    LiveResource × List Effect :=
  match message.filter (· ≠ "") with
  | some message =>
    let (r', effects) := r.settle m id t.generation (.invalid message)
    (r', .log (.warn ("Validation failed for " ++ r.label ++ ": " ++ message)) :: effects)
  | none =>
    if r.resource.isCurrent t.generation then
      { r with resource := r.resource.beginLoading }.place id t
    else
      r.finish id (.superseded t.generation)
        [.log (.debug ("Validated fetch of " ++ r.label ++ " superseded"))]

/-- It is the attempt's turn to take its generation. It does so unless the resource has been
reconfigured since the attempt began to wait. -/
def take (r : LiveResource) (m : Moment) (id : Nat) (override : Option Params) (epoch : Nat) :
    LiveResource × List Effect :=
  let config := r.resource.config
  if r.resource.retired || r.resource.epoch != epoch then
    r.finish id .displaced
      [.log (.debug ("Queued fetch of " ++ r.label ++ " dropped after reconfiguration"))]
  else
    let params := override.getD config.params
    let ticket : Ticket :=
      { generation := r.resource.generation + 1, params, method := config.method
        args := config.callArgs params, delay := config.delay }
    let r := { r with resource := r.resource.takeGeneration params }
    match config.validator with
    | none => r.place id ticket
    | some (.rule check) =>
      let (r, effects) := r.judge m id ticket (check params)
      (r, .validated params :: effects)
    | some .held => (r.setPhase id (.validating ticket), [.validated params, .ask id])

/-- The attempt has passed its precondition. It has to wait for the page lock if there is one and
another attempt holds it. -/
def enter (r : LiveResource) (m : Moment) (id : Nat) (override : Option Params) :
    LiveResource × List Effect :=
  let epoch := r.resource.epoch
  if r.resource.config.paginated then
    match r.pages.holder with
    | none => { r with pages := { r.pages with holder := some id } }.take m id override epoch
    | some _ =>
      ({ r with pages := { r.pages with waiting := r.pages.waiting ++ [id] } }.setPhase id
        (.queued epoch), [])
  else r.take m id override epoch

/-- The attempt runs for the first time. -/
def start (r : LiveResource) (m : Moment) (id : Nat) (override : Option Params) :
    LiveResource × List Effect :=
  if r.resource.retired then
    r.finish id .ignored
      [.log (.debug ("Fetch of " ++ r.label ++ " ignored, resource is detached"))]
  else
    match r.resource.config.precondition with
    | none => r.enter m id override
    | some p =>
      let isOpen := m.isOpen p.gate
      let (r, effects) :=
        if isOpen then r.enter m id override
        else
          r.finish id .skipped
            [.log (.debug ("Fetch of " ++ r.label ++ " skipped, precondition not met"))]
      (r, .checked p.gate isOpen :: effects)

/-- The reply to the attempt's call has come. A delay that is not zero comes before its outcome. -/
def receive (r : LiveResource) (m : Moment) (id : Nat) (t : Ticket) (reply : Reply) :
    LiveResource × List Effect :=
  match t.delay.filter (0 < ·.nanos) with
  | some delay => (r.setPhase id (.delaying t reply), [.sleep id delay])
  | none => r.settle m id t.generation (.ofReply reply)

/-- An attempt is given a signal. A signal that it does not wait for changes nothing. -/
def advance (r : LiveResource) (m : Moment) (id : Nat) (signal : Signal) :
    LiveResource × List Effect :=
  match r.attempts[id]? with
  | none => (r, [])
  | some attempt =>
    match attempt.phase, signal with
    | .spawned, .go => r.start m id attempt.override
    | .queued epoch, .go =>
      if r.pages.holder = some id then r.take m id attempt.override epoch else (r, [])
    | .validating t, .verdict message => r.judge m id t message
    | .calling t, .reply reply => r.receive m id t reply
    | .delaying t reply, .elapsed => r.settle m id t.generation (.ofReply reply)
    | _, _ => (r, [])

/-- What is reported when the current fetch is cancelled. -/
def cancelReport (r : LiveResource) : List LogEntry :=
  if r.resource.inFlight then
    [.debug ("Cancelling fetch of " ++ r.label ++ " (generation "
      ++ toString r.resource.generation ++ ")")]
  else []

/-- The current fetch no longer counts. -/
def cancel (r : LiveResource) : LiveResource := { r with resource := r.resource.cancel }

/-- The results are cleared. -/
def reset (r : LiveResource) : LiveResource := { r with resource := r.resource.reset }

/-- The resource is of no use from now on. -/
def retire (r : LiveResource) : LiveResource := { r with resource := r.resource.retire }

/-- The config is replaced. -/
def update (r : LiveResource) (config : Config) : Except ConfigError LiveResource :=
  (r.resource.update config).map fun resource => { r with resource }

/-- Register a listener for every event of a kind. -/
def on (r : LiveResource) (kind : EventKind) (listener : Listener) : LiveResource :=
  { r with resource := r.resource.on kind listener }

/-- Register a listener for the next event of a kind. -/
def once (r : LiveResource) (kind : EventKind) (listener : Listener) : LiveResource :=
  { r with resource := r.resource.once kind listener }

end LiveResource

end ReactiveResource
