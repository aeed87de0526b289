import ReactiveResource.Config.Basic

/-!
# Watchers

A watcher derives a config from the state of an owner, and remembers the config that it derived
last. Whenever the owner's state may have changed, all watchers are evaluated, and those whose
config has changed fire.

* `Watcher`, `WatcherFire`, `Bridge`: a watcher, a change, and the watchers of an owner;
* `Bridge.register`, `Bridge.restore`, `Bridge.clear`: operations on the watchers;
* `Bridge.evaluate`: what fires for an owner, and the watchers after it.
-/

namespace ReactiveResource

/-- A config derived from the state of an owner, by name, and the one that was derived last. Without
a config the resource is not wanted. -/
structure Watcher (α : Type) where
  name : String
  derive : α → Option Config
  last : Option Config := none

/-- A change of a derived config. -/
structure WatcherFire where
  name : String
  new : Option Config
  old : Option Config
  deriving Inhabited

/-- Whether a derived config differs from the one before. -/
def configChanged : Option Config → Option Config → Bool
  | none, none => false
  | some old, some new => !old.structurallyEq new
  | _, _ => true

/-- The watchers of an owner, in order of registration. -/
structure Bridge (α : Type) where
  watchers : List (Watcher α) := []

namespace Bridge

variable {α : Type}

/-- One more watcher; it has not derived anything yet. -/
def register (b : Bridge α) (name : String) (derive : α → Option Config) : Bridge α :=
  { watchers := b.watchers ++ [{ name, derive }] }

/-- How many watchers there are. -/
def size (b : Bridge α) : Nat := b.watchers.length

/-- Whether there are no watchers. -/
def isEmpty (b : Bridge α) : Bool := b.watchers.isEmpty

/-- The names of the watchers, in order of registration. -/
def names (b : Bridge α) : List String := b.watchers.map (·.name)

/-- What a watcher says of an owner, if its config has changed. -/
def fireOf (owner : α) (w : Watcher α) : Option WatcherFire :=
  let new := w.derive owner
  if configChanged w.last new then some { name := w.name, new, old := w.last } else none

/-- A watcher that has been evaluated: a config that has changed is remembered. -/
def refresh (owner : α) (w : Watcher α) : Watcher α :=
  let new := w.derive owner
  if configChanged w.last new then { w with last := new } else w

/-- The watchers after an evaluation, and what fires. -/
def evaluate (b : Bridge α) (owner : α) : Bridge α × List WatcherFire :=
  ({ watchers := b.watchers.map (refresh owner) }, b.watchers.filterMap (fireOf owner))

/-- The first watcher of a name, if there is one, remembers a config. -/
def restoreIn (name : String) (config : Option Config) : List (Watcher α) → List (Watcher α)
  | [] => []
  | w :: rest =>
    if w.name = name then { w with last := config } :: rest
    else w :: restoreIn name config rest

/-- The config that the first watcher of a name remembers is replaced. A watcher whose config was
refused is given back the former one, so that it fires again. -/
def restore (b : Bridge α) (name : String) (config : Option Config) : Bridge α :=
  { watchers := restoreIn name config b.watchers }

/-- No watcher is left. -/
def clear (_b : Bridge α) : Bridge α := {}

end Bridge

end ReactiveResource
