import ReactiveResource.Json.Value

/-!
# Events and listeners

When a fetch settles, a resource emits an event, and the listeners registered for its kind are run
in order of registration. A listener is described by what it does when it is run.

* `EventKind`, `Event`: what is emitted;
* `Reaction`, `Listener`: what a listener does;
* `Listeners`: the lists of a resource or of a config, with `on`, `once`, and `takeFor`, which hands
  out the listeners that are due and forgets those that run once.
-/

namespace ReactiveResource

/-- The two ways in which a fetch settles. -/
inductive EventKind where
  | success
  | error
  deriving DecidableEq, Repr, Inhabited

/-- The name of a kind, as log entries give it. -/
def EventKind.name : EventKind → String
  | .success => "Success"
  | .error => "Error"

/-- What a resource emits when a fetch settles: its data, or the message of its error. -/
inductive Event where
  | success (data : Json)
  | error (message : String)
  deriving Inhabited

/-- The kind of an event. -/
def Event.kind : Event → EventKind
  | .success _ => .success
  | .error _ => .error

/-- A resource as a listener names it: the one that emits the event, or one by name. -/
inductive Target where
  | emitter
  | named (name : String)
  deriving DecidableEq, Repr, Inhabited

/-- An operation that a listener performs on a resource. `register` adds, for the same kind of
event, a listener that does nothing. -/
inductive Command where
  | fetch
  | cancel
  | reset
  | retire
  | register
  deriving DecidableEq, Repr, Inhabited

/-- What a listener does when it is run. A panic may come with a text. -/
inductive Reaction where
  | accept
  | fail (message : String)
  | panic (reason : Option String)
  | observe (target : Target)
  | perform (command : Command) (target : Target)
  deriving DecidableEq, Repr, Inhabited

/-- A listener: the label under which its runs are recorded, and what it does. -/
structure Listener where
  label : String
  reaction : Reaction := .accept
  deriving DecidableEq, Repr, Inhabited

/-- A registered listener, and whether its first run is its last. -/
structure Subscription where
  listener : Listener
  once : Bool
  deriving DecidableEq, Repr, Inhabited

/-- The registered listeners of each kind, in order of registration. -/
structure Listeners where
  success : List Subscription := []
  error : List Subscription := []
  deriving DecidableEq, Repr, Inhabited

namespace Listeners

/-- The list of a kind. -/
def list (ls : Listeners) : EventKind → List Subscription
  | .success => ls.success
  | .error => ls.error

/-- The listeners with the list of one kind replaced. -/
def withList (ls : Listeners) (kind : EventKind) (subs : List Subscription) : Listeners :=
  match kind with
  | .success => { ls with success := subs }
  | .error => { ls with error := subs }

/-- One more registration. -/
def subscribe (ls : Listeners) (kind : EventKind) (sub : Subscription) : Listeners :=
  ls.withList kind (ls.list kind ++ [sub])

/-- Register a listener for every event of a kind. -/
def on (ls : Listeners) (kind : EventKind) (listener : Listener) : Listeners :=
  ls.subscribe kind { listener, once := false }

/-- Register a listener for the next event of a kind. -/
def once (ls : Listeners) (kind : EventKind) (listener : Listener) : Listeners :=
  ls.subscribe kind { listener, once := true }

/-- How many listeners a kind has. -/
def size (ls : Listeners) (kind : EventKind) : Nat := (ls.list kind).length

/-- Whether no kind has a listener. -/
def isEmpty (ls : Listeners) : Bool := ls.success.isEmpty && ls.error.isEmpty

/-- The listeners due for an event of a kind, and the lists without those that run once. -/
def takeFor (ls : Listeners) (kind : EventKind) : List Listener × Listeners :=
  ((ls.list kind).map (·.listener), ls.withList kind ((ls.list kind).filter (!·.once)))

@[simp] theorem list_withList_self (ls : Listeners) (kind : EventKind)
    (subs : List Subscription) : (ls.withList kind subs).list kind = subs := by
  cases kind <;> rfl

theorem list_withList_of_ne (ls : Listeners) {kind other : EventKind}
    (subs : List Subscription) (h : kind ≠ other) :
    (ls.withList kind subs).list other = ls.list other := by
  cases kind <;> cases other <;> first | rfl | exact absurd rfl h

end Listeners

end ReactiveResource
