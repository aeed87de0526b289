import ReactiveResource.Gateway.Script
import ReactiveResource.Resource.Live

/-!
# Sessions

A session runs the fetches of several resources against a scripted gateway. What can run stands in a
queue; whoever waits is put at its end when he is woken. A call that is answered at once keeps its
turn. Time stands still unless it is moved on.

Listeners and waiters belong to the session: a waiter waits until a resource is in a state, and is
woken by every observable change of it.

* `Occurrence`: what validators, listeners and waiters record;
* `Job`, `Waiter`, `Sleeper`, `Session`: the state;
* `Session.create`, `fetch`, `cancel`, `reset`, `retire`, `update`: resources, and operations on
  them;
* `Session.turn`, `Session.poll?`: one of those that can run does so;
* `Session.resolve`, `release`, `elapse`, `setGate`: what happens outside.
-/

namespace ReactiveResource

/-- What a listener sees of a resource. -/
structure Glimpse where
  state : Lifecycle
  generation : Nat
  loading : Bool
  deriving DecidableEq, Repr, Inhabited

/-- What happens in a session, in the order in which it happens. -/
inductive Occurrence where
  /-- A gate was looked at. -/
  | checked (gate : String) (isOpen : Bool)
  /-- Parameters were given to a validator. -/
  | validated (params : Params)
  /-- A listener was run. -/
  | heard (label : String) (event : Event)
  /-- A listener was run that looks at a resource, which may not be there. -/
  | observed (label : String) (event : Event) (seen : Option Glimpse)
  /-- A waiter found its resource in the state that it waits for. -/
  | reached (waiter : Nat) (state : Lifecycle) (generation : Nat)
  deriving Inhabited

/-- Somebody who can run: an attempt of a resource that is given a signal, or a waiter. -/
inductive Job where
  | attempt (handle id : Nat) (signal : Signal)
  | waiter (n : Nat)
  deriving Inhabited

/-- Somebody who waits until a resource is in a state. -/
structure Waiter where
  handle : Nat
  state : Lifecycle
  asleep : Bool := false
  deriving DecidableEq, Repr, Inhabited

/-- An attempt that waits until an instant. -/
structure Sleeper where
  due : Nat
  handle : Nat
  id : Nat
  deriving DecidableEq, Repr, Inhabited

/-- Resources with their fetches, and all that they need to run. -/
structure Session where
  /-- Without a runtime no fetch is started. -/
  hasRuntime : Bool := true
  /-- The resources, by handle. -/
  resources : List LiveResource := []
  /-- The latest resource of each name. -/
  named : Keyed Nat := []
  script : Gateway.Script := {}
  /-- The gates that have been set; the others are open. -/
  gates : Keyed Bool := []
  now : Nat := 0
  ready : List Job := []
  /-- The attempts that made the calls, by number of the call. -/
  callers : List (Nat × Nat) := []
  /-- The attempts that wait for a verdict, by slot, until they are released. -/
  slots : List (Option (Nat × Nat)) := []
  sleepers : List Sleeper := []
  waiters : List Waiter := []
  occurrences : List Occurrence := []
  log : List LogEntry := []

namespace Session

/-- Add entries to the log. -/
def report (s : Session) (entries : List LogEntry) : Session := { s with log := s.log ++ entries }

/-- Record an occurrence. -/
def record (s : Session) (o : Occurrence) : Session :=
  { s with occurrences := s.occurrences ++ [o] }

/-- Put somebody at the end of the queue. -/
def enqueue (s : Session) (job : Job) : Session := { s with ready := s.ready ++ [job] }

/-- Whether a gate is open. -/
def isOpen (s : Session) (gate : String) : Bool := (Keyed.value? s.gates gate).getD true

/-- The surroundings as they are now. -/
def moment (s : Session) : Moment := { now := s.now, isOpen := s.isOpen }

/-- The waiters of a resource that sleep are to look again. -/
def wakeWaiters (s : Session) (handle : Nat) : Session :=
  let due (w : Waiter) : Bool := w.asleep && w.handle == handle
  let woken := (s.waiters.zipIdx.filter fun (w, _) => due w).map fun (_, n) => Job.waiter n
  { s with
    waiters := s.waiters.map fun w => if due w then { w with asleep := false } else w
    ready := s.ready ++ woken }

/-- The state of a resource is replaced; an observable change wakes its waiters. -/
def store (s : Session) (handle : Nat) (r : LiveResource) : Session :=
  let before := s.resources[handle]?.map (·.resource.revision)
  let s := { s with resources := s.resources.set handle r }
  if before = some r.resource.revision then s else s.wakeWaiters handle

/-! ### Operations on resources -/

/-- A new resource, and its handle. -/
def create (s : Session) (name : String) (config : Config) : Except ConfigError (Session × Nat) :=
  (Resource.create name config).map fun r =>
    let handle := s.resources.length
    ({ s with
        resources := s.resources ++ [.ofResource r]
        named := Keyed.put s.named name handle }, handle)

/-- Start an attempt in the background, if there is a runtime. -/
def spawn (s : Session) (handle : Nat) (override : Option Params) : Session :=
  match s.resources[handle]?, s.hasRuntime with
  | some r, true =>
    let (r, id) := r.spawn override
    (s.store handle r).enqueue (.attempt handle id .go)
  | _, _ => s

/-- Start a fetch in the background; without a runtime this is reported. -/
def fetch (s : Session) (handle : Nat) : Session :=
  if s.hasRuntime then s.spawn handle none
  else
    match s.resources[handle]? with
    | some r => s.report [.warn ("No async runtime, skipping fetch of " ++ r.label)]
    | none => s

/-- The current fetch of a resource no longer counts. -/
def cancel (s : Session) (handle : Nat) : Session :=
  match s.resources[handle]? with
  | some r => (s.report r.cancelReport).store handle r.cancel
  | none => s

/-- The results of a resource are cleared. -/
def reset (s : Session) (handle : Nat) : Session :=
  match s.resources[handle]? with
  | some r => s.store handle r.reset
  | none => s

/-- A resource is of no use from now on. -/
def retire (s : Session) (handle : Nat) : Session :=
  match s.resources[handle]? with
  | some r => s.store handle r.retire
  | none => s

/-- The config of a resource is replaced; a config that fetches by itself starts a fetch. -/
def update (s : Session) (handle : Nat) (config : Config) : Except ConfigError Session :=
  match s.resources[handle]? with
  | some r =>
    (r.update config).map fun r =>
      let s := s.store handle r
      if config.auto && !r.resource.retired then s.fetch handle else s
  | none => .ok s

/-- Register a listener for the events of a kind, for all or for the next. -/
def listen (s : Session) (handle : Nat) (kind : EventKind) (once : Bool) (listener : Listener) :
    Session :=
  match s.resources[handle]? with
  | some r => s.store handle (if once then r.once kind listener else r.on kind listener)
  | none => s

/-- Somebody waits until a resource is in a state, if there is a runtime. -/
def await (s : Session) (handle : Nat) (state : Lifecycle) : Session :=
  let waiter : Waiter := { handle, state }
  if s.hasRuntime then
    { s with waiters := s.waiters ++ [waiter] }.enqueue (.waiter s.waiters.length)
  else s

/-! ### Listeners -/

/-- The resource that a listener means. -/
def handleOf? (s : Session) (emitter : Nat) : Target → Option Nat
  | .emitter => some emitter
  | .named name => Keyed.value? s.named name

/-- What a listener sees of a resource. -/
def glimpse? (s : Session) (handle : Nat) : Option Glimpse :=
  s.resources[handle]?.map fun r =>
    { state := r.resource.state, generation := r.resource.generation
      loading := r.resource.isLoading }

/-- A listener performs an operation. -/
def command (s : Session) (handle : Nat) (listener : Listener) (kind : EventKind) :
    Command → Session
  | .fetch => s.fetch handle
  | .cancel => s.cancel handle
  | .reset => s.reset handle
  | .retire => s.retire handle
  | .register => s.listen handle kind false { label := listener.label ++ "+" }

/-- The entry for a listener that has not done its work. -/
def listenerEntry (s : Session) (emitter : Nat) (kind : EventKind) (fault : String) : LogEntry :=
  let name := (s.resources[emitter]?.map (·.label)).getD ""
  .error ("Listener for " ++ kind.name ++ " on " ++ name ++ " " ++ fault)

/-- A listener is run for an event. One that fails or panics is reported. -/
def hear (emitter : Nat) (event : Event) (s : Session) (listener : Listener) : Session :=
  let kind := event.kind
  match listener.reaction with
  | .accept => s.record (.heard listener.label event)
  | .fail message =>
    (s.record (.heard listener.label event)).report
      [s.listenerEntry emitter kind ("failed: " ++ message)]
  | .panic reason =>
    (s.record (.heard listener.label event)).report
      [s.listenerEntry emitter kind ("panicked: " ++ reason.getD "unknown panic")]
  | .observe target =>
    s.record (.observed listener.label event ((s.handleOf? emitter target).bind s.glimpse?))
  | .perform command target =>
    let s := s.record (.heard listener.label event)
    match s.handleOf? emitter target with
    | some handle => s.command handle listener kind command
    | none => s

/-! ### Running -/

/-- What an attempt of a resource wants is done. -/
def perform (handle : Nat) (s : Session) : Effect → Session
  | .log entry => s.report [entry]
  | .checked gate isOpen => s.record (.checked gate isOpen)
  | .validated params => s.record (.validated params)
  | .ask id => { s with slots := s.slots ++ [some (handle, id)] }
  | .call id method args =>
    let s := { s with script := s.script.call method args, callers := s.callers ++ [(handle, id)] }
    match s.script.answer? (s.script.calls.length - 1) with
    | some reply => { s with ready := .attempt handle id (.reply reply) :: s.ready }
    | none => s
  | .sleep id delay =>
    { s with sleepers := s.sleepers ++ [{ due := s.now + delay.ceilMillis, handle, id }] }
  | .deliver _ event listeners => listeners.foldl (hear handle event) s
  | .wake id => s.enqueue (.attempt handle id .go)

/-- Somebody who can run does so. -/
def run (s : Session) : Job → Session
  | .attempt handle id signal =>
    match s.resources[handle]? with
    | none => s
    | some r =>
      let (r, effects) := r.advance s.moment id signal
      effects.foldl (perform handle) (s.store handle r)
  | .waiter n =>
    match s.waiters[n]? with
    | none => s
    | some w =>
      match s.glimpse? w.handle with
      | none => s
      | some seen =>
        if seen.state = w.state then s.record (.reached n seen.state seen.generation)
        else { s with waiters := s.waiters.set n { w with asleep := true } }

/-- The one at a place in the queue runs, if there is one. -/
def turn (s : Session) (place : Nat) : Session :=
  match s.ready[place]? with
  | some job => { s with ready := s.ready.eraseIdx place }.run job
  | none => s

/-- The one whose turn it is runs; none if nobody can. -/
def poll? (s : Session) : Option Session := if s.ready.isEmpty then none else some (s.turn 0)

/-! ### What happens outside -/

/-- A waiting call gets its reply, if there is one of that number. -/
def resolve (s : Session) (call : Nat) (reply : Reply) : Session × Bool :=
  let (script, found) := s.script.resolve call reply
  let s := { s with script }
  match found, s.callers[call]? with
  | true, some (handle, id) => (s.enqueue (.attempt handle id (.reply reply)), true)
  | found, _ => (s, found)

/-- The verdict of a slot is given, if somebody waits for it. -/
def release (s : Session) (slot : Nat) (message : Option String) : Session × Bool :=
  match s.slots[slot]? with
  | some (some (handle, id)) =>
    ({ s with slots := s.slots.set slot none }.enqueue (.attempt handle id (.verdict message)),
      true)
  | _ => (s, false)

/-- Time moves on. Those whose instant has come are woken by the order of their instants. -/
def elapse (s : Session) (ms : Nat) : Session :=
  let now := s.now + ms
  let due := (s.sleepers.filter (·.due ≤ now)).mergeSort fun a b => a.due ≤ b.due
  { s with
    now
    sleepers := s.sleepers.filter (now < ·.due)
    ready := s.ready ++ due.map fun sleeper => .attempt sleeper.handle sleeper.id .elapsed }

/-- A gate is opened or closed. -/
def setGate (s : Session) (gate : String) (isOpen : Bool) : Session :=
  { s with gates := Keyed.put s.gates gate isOpen }

/-- One more reply for the calls to come. -/
def push (s : Session) (reply : Reply) : Session := { s with script := s.script.push reply }

end Session

end ReactiveResource
