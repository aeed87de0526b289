import ReactiveResource.Config.Describe
import ReactiveResource.ConfigError
import ReactiveResource.RemoteError
import ReactiveResource.Text.Blank

/-!
# Resources

A resource binds a config to the results of its fetches. Every fetch takes a new generation, and an
outcome counts only for the current generation, if it has not been fenced off since and the resource
has not been retired.

* `Lifecycle`, `Resource`, `Snapshot`: the state, and what others see of it;
* `Resource.isCurrent`: the generations whose outcome counts;
* `Resource.takeGeneration`, `Resource.beginLoading`: a fetch takes its generation, and starts to
  load;
* `Resource.settle`: an outcome is applied;
* `Resource.cancel`, `Resource.reset`, `Resource.retire`, `Resource.update`: operations from
  outside.

Every observable change but that of `takeGeneration` raises the revision, which others may watch.
-/

namespace ReactiveResource

/-- What a resource is doing, or how its last fetch ended. -/
inductive Lifecycle where
  | idle
  | loading
  | success
  | error
  deriving DecidableEq, Repr, Inhabited

/-- The name of a state, as descriptions and snapshots give it. -/
def Lifecycle.title : Lifecycle → String
  | .idle => "Idle"
  | .loading => "Loading"
  | .success => "Success"
  | .error => "Error"

/-- A config together with the results of its fetches. Instants are milliseconds of a clock. The
counters `generation`, `fence`, `epoch` and `revision` are natural numbers, which never run out,
where a program has 64-bit words for them. -/
structure Resource where
  name : String
  config : Config
  state : Lifecycle := .idle
  /-- The state to fall back to when the current fetch is cancelled. -/
  settled : Lifecycle := .idle
  data : Option Json
  error : Option String := none
  /-- The failed call behind the error, if a call failed. -/
  remoteError : Option RemoteError := none
  lastFetchedAt : Option Nat := none
  /-- How many generations have been taken. -/
  generation : Nat := 0
  /-- The generations up to this one are cancelled. -/
  fence : Nat := 0
  /-- Raised whenever fetches that still wait for their turn are to be dropped. -/
  epoch : Nat := 0
  /-- The last page was empty. -/
  exhausted : Bool := false
  /-- The data is kept from a former config. -/
  stale : Bool := false
  /-- The parameters of the current fetch. -/
  currentParams : Option Params := none
  listeners : Listeners := {}
  retired : Bool := false
  revision : Nat := 0
  deriving Inhabited

/-- What others see of a resource at one time. -/
structure Snapshot where
  name : String
  method : String
  state : Lifecycle
  data : Option Json
  error : Option String
  lastFetchedAt : Option Nat
  generation : Nat
  exhausted : Bool
  stale : Bool
  deriving Inhabited

/-- How a fetch ends: with a payload, with a failed call, or with parameters that are refused. -/
inductive Outcome where
  | payload (value : Json)
  | remote (error : RemoteError)
  | invalid (message : String)
  deriving Inhabited

/-- The outcome of a call that has been answered. -/
def Outcome.ofReply : Reply → Outcome
  | .ok value => .payload value
  | .err e => .remote e

namespace Resource

/-- An idle resource with the default data of its config. -/
def fresh (name : String) (config : Config) : Resource :=
  { name, config, data := config.defaultData }

/-- A new resource; its config must have a method. -/
def create (name : String) (config : Config) : Except ConfigError Resource :=
  if Text.isBlank config.method then .error (.missingMethod name) else .ok (fresh name config)

/-- The method of the remote call. -/
def method (r : Resource) : String := r.config.method

/-- Whether a fetch is going on. -/
def isLoading (r : Resource) : Bool := r.state == .loading

/-- What others see. -/
def snapshot (r : Resource) : Snapshot :=
  { name := r.name, method := r.method, state := r.state, data := r.data, error := r.error
    lastFetchedAt := r.lastFetchedAt, generation := r.generation, exhausted := r.exhausted
    stale := r.stale }

/-- The text that shows a resource. -/
def describe (r : Resource) : String :=
  describeRecord "Resource"
    [("name", Text.quoted r.name), ("method", Text.quoted r.method), ("state", r.state.title),
      ("generation", toString r.generation)]

/-- Whether the outcome of a generation counts. -/
def isCurrent (r : Resource) (generation : Nat) : Bool :=
  !r.retired && generation == r.generation && decide (r.fence < generation)

/-- Whether a fetch is going on that is not cancelled. -/
def inFlight (r : Resource) : Bool := r.state == .loading && decide (r.fence < r.generation)

/-- An observable change has happened. -/
def notify (r : Resource) : Resource := { r with revision := r.revision + 1 }

/-- A fetch starts to load; the state before it is kept to fall back to. -/
def beginLoading (r : Resource) : Resource :=
  { r with
    state := .loading
    settled := if r.state == .loading then r.settled else r.state }

/-- A fetch takes the next generation. It starts to load at once unless its parameters have to be
checked first. -/
def takeGeneration (r : Resource) (params : Params) : Resource :=
  let r := { r with generation := r.generation + 1, currentParams := some params }
  if r.config.validator.isNone then r.beginLoading else r

/-- Generations taken so far no longer count, and fetches that wait for their turn are dropped. -/
def fenceInFlight (r : Resource) : Resource :=
  { r with
    fence := r.generation
    epoch := r.epoch + 1
    state := if r.state == .loading then r.settled else r.state
    currentParams := none }

/-- Back to the default data, without an error. A fetch that is going on goes on. -/
def clearResults (r : Resource) : Resource :=
  { r with
    data := r.config.defaultData
    error := none
    remoteError := none
    lastFetchedAt := none
    exhausted := false
    stale := false
    state := if r.inFlight then r.state else .idle
    settled := if r.inFlight then r.settled else .idle }

/-- The items to which a page is added: those of the data, unless it belongs to former
parameters. -/
def pagesSoFar (r : Resource) : List Json :=
  match r.data with
  | some (.arr items) => if r.stale then [] else items
  | _ => []

/-- A payload becomes the data. A page is added to the pages before it. -/
def applyPayload (r : Resource) (payload : Json) : Resource :=
  match payload with
  | .arr page =>
    if r.config.paginated then
      { r with exhausted := page.isEmpty, data := some (.arr (r.pagesSoFar ++ page)) }
    else { r with exhausted := false, data := some payload }
  | _ => { r with exhausted := false, data := some payload }

/-- The results after an outcome at an instant. -/
def withOutcome (r : Resource) (now : Nat) : Outcome → Resource
  | .payload payload =>
    { r.applyPayload payload with
      error := none, remoteError := none, stale := false, lastFetchedAt := some now
      state := .success, settled := .success, currentParams := none }
  | .remote e =>
    { r with
      error := some e.joined, remoteError := some e, lastFetchedAt := some now
      state := .error, settled := .error, currentParams := none }
  | .invalid message =>
    { r with
      error := some message, remoteError := none
      state := .error, settled := .error, currentParams := none }

/-- The event that tells of the results after an outcome. -/
def eventOf (r : Resource) : Outcome → Event
  | .payload _ => .success (r.data.getD .null)
  | .remote e => .error e.joined
  | .invalid message => .error message

/-- The listeners due for an event of a kind, those of the config first, and the resource without
those that run once. -/
def takeListeners (r : Resource) (kind : EventKind) : List Listener × Resource :=
  let ofConfig := r.config.listeners.takeFor kind
  let own := r.listeners.takeFor kind
  (ofConfig.1 ++ own.1,
    { r with config := { r.config with listeners := ofConfig.2 }, listeners := own.2 })

/-- An outcome is applied at an instant: the event, the listeners due for it, and the resource
after. -/
def settle (r : Resource) (now : Nat) (outcome : Outcome) : Event × List Listener × Resource :=
  let r := r.withOutcome now outcome
  let event := r.eventOf outcome
  let (due, r) := r.takeListeners event.kind
  (event, due, r.notify)

/-- The current fetch, if any, no longer counts. -/
def cancel (r : Resource) : Resource := r.fenceInFlight.notify

/-- Back to the initial data, without an error. -/
def reset (r : Resource) : Resource := r.clearResults.notify

/-- The resource is of no use from now on: no fetch starts, and no outcome counts. -/
def retire (r : Resource) : Resource :=
  let r := r.fenceInFlight
  { r with
    retired := true
    listeners := {}
    config := { r.config with listeners := {} } }.notify

/-- The config is replaced. Its method stays; the data is kept as a placeholder if the new config
says so. -/
def update (r : Resource) (config : Config) : Except ConfigError Resource :=
  if Text.isBlank config.method then .error (.missingMethod r.name)
  else if config.method ≠ r.method then .error (.methodChanged r.name r.method config.method)
  else
    let cleared := { r with epoch := r.epoch + 1, config }.clearResults
    if config.keepData && r.data.isSome then
      .ok { cleared with data := r.data, stale := true }.notify
    else .ok cleared.notify

/-- Register a listener for every event of a kind. -/
def on (r : Resource) (kind : EventKind) (listener : Listener) : Resource :=
  { r with listeners := r.listeners.on kind listener }

/-- Register a listener for the next event of a kind. -/
def once (r : Resource) (kind : EventKind) (listener : Listener) : Resource :=
  { r with listeners := r.listeners.once kind listener }

end Resource

end ReactiveResource
