import ReactiveResource.Registry.Watcher
import ReactiveResource.Session

/-!
# Registries

A registry holds the resources of one owner, by name. Some have a fixed config; those of the others
are derived from the state of the owner, again after every change of it. A registry that is detached
has no resources, and those that it had are retired.

* `Definition`, `Registry`: a resource as it is declared, and the registry;
* `Registry.attach`, `Registry.detach`: the beginning and the end;
* `Registry.apply`: a derived config has changed;
* `Registry.mutateOwner`: the owner's state is changed;
* `Registry.firstError`, `Registry.isLoading`: what all resources together say.

Every operation takes the session that runs the resources, and returns the one after it. An
operation that is refused returns no session: nothing has happened.
-/

namespace ReactiveResource

/-- How a resource is declared: with a fixed config, or with one that is derived from the owner's
state. -/
inductive Definition (α : Type) where
  | fixed (config : Config)
  | derived (derive : α → Option Config)

/-- The resources of an owner: handles by name. -/
structure Registry (α : Type) where
  id : String
  owner : α
  resources : Keyed Nat := []
  bridge : Bridge α := {}
  attached : Bool := true

/-- The entries for watchers that fire. -/
def fireReport (fires : List WatcherFire) : List LogEntry :=
  fires.map fun f => { level := .trace, message := "Watcher '" ++ f.name ++ "' fired" }

namespace Registry

variable {α : Type}

/-- Add a resource, in place of another one of its name. -/
def define (s : Session) (r : Registry α) (name : String) (config : Config) :
    Except ConfigError (Session × Registry α) :=
  (s.create name config).map fun (s, handle) =>
    (s, { r with resources := Keyed.put r.resources name handle })

/-- Take in one definition: a fixed one becomes a resource, a derived one a watcher. -/
def declare (state : Session × Registry α) (definition : String × Definition α) :
    Except ConfigError (Session × Registry α) :=
  let (s, r) := state
  match definition with
  | (name, .fixed config) => define s r name config
  | (name, .derived derive) => .ok (s, { r with bridge := r.bridge.register name derive })

/-- The first config of a derived resource. -/
def introduce (state : Session × Registry α) (f : WatcherFire) :
    Except ConfigError (Session × Registry α) :=
  match f.new with
  | some config => define state.1 state.2 f.name config
  | none => .ok state

/-- Start a fetch of a resource that fetches by itself. -/
def autoFetch (s : Session) (handle : Nat) : Session :=
  match s.resources[handle]? with
  | some r => if r.resource.config.auto then s.fetch handle else s
  | none => s

/-- The registry of an owner with its definitions. Fetches start when all definitions have been
accepted, in the order of names. -/
def attach (s : Session) (id : String) (owner : α) (definitions : List (String × Definition α)) :
    Except ConfigError (Session × Registry α) := do
  let (s, r) ← definitions.foldlM declare (s, { id, owner })
  let (bridge, fires) := r.bridge.evaluate owner
  let (s, r) ← fires.foldlM introduce (s.report (fireReport fires), { r with bridge })
  let s := s.report
    [.debug ("Attached registry " ++ id ++ " with " ++ toString r.resources.length
      ++ " resources and " ++ toString r.bridge.size ++ " watchers")]
  return (r.resources.foldl (fun s (_, handle) => autoFetch s handle) s, r)

/-- A derived config has changed. Without a config the resource is withdrawn; its fetch no longer
counts. A first config makes a resource. Another config must have the same method; if it differs
from the former one, the current fetch no longer counts, before the resource is updated. -/
def apply (s : Session) (r : Registry α) (name : String) (new old : Option Config) :
    Except ConfigError (Session × Registry α) :=
  if !r.attached then .ok (s, r)
  else
    let handle? := Keyed.value? r.resources name
    match new, handle? with
    | none, none => .ok (s, r)
    | none, some handle =>
      let s := s.report [.debug ("Resource '" ++ name ++ "' withdrawn by its watcher")]
      .ok (s.cancel handle, r)
    | some config, none =>
      (s.create name config).map fun (s, handle) =>
        (if config.auto then s.fetch handle else s,
          { r with resources := Keyed.put r.resources name handle })
    | some config, some handle =>
      match s.resources[handle]? with
      | none => .ok (s, r)
      | some live =>
        if config.method ≠ live.resource.method then
          .error (.methodChanged name live.resource.method config.method)
        else
          let differs := old.any fun old => !old.structurallyEq config
          let s := if differs then s.cancel handle else s
          (s.update handle config).map fun s => (s, r)

/-- One watcher has fired. A config that is refused is reported, and the watcher is given back the
one that it had; the first error is kept. -/
def respond (state : Session × Registry α × Option ConfigError) (f : WatcherFire) :
    Session × Registry α × Option ConfigError :=
  let (s, r, failed) := state
  match r.apply s f.name f.new f.old with
  | .ok (s, r) => (s, r, failed)
  | .error e =>
    (s.report [.error ("Registry " ++ r.id ++ ": " ++ e.message)],
      { r with bridge := r.bridge.restore f.name f.old },
      some (failed.getD e))

/-- The owner's state is changed, and the resources that are derived from it follow. The error is
that of the first config that is refused. -/
def mutateOwner (s : Session) (r : Registry α) (change : α → α) :
    Session × Registry α × Option ConfigError :=
  let r := { r with owner := change r.owner }
  if !r.attached then (s, r, none)
  else
    let (bridge, fires) := r.bridge.evaluate r.owner
    fires.foldl respond (s.report (fireReport fires), { r with bridge }, none)

/-- All watchers are dropped, and all resources are retired. -/
def detach (s : Session) (r : Registry α) : Session × Registry α :=
  if !r.attached then (s, r)
  else
    let s := r.resources.foldl (fun s (_, handle) => s.retire handle) s
    (s.report [.debug ("Detached registry " ++ r.id)],
      { r with attached := false, bridge := r.bridge.clear, resources := [] })

/-- The resource of a name. -/
def find? (s : Session) (r : Registry α) (name : String) : Option Resource :=
  (Keyed.value? r.resources name).bind fun handle => s.resources[handle]?.map (·.resource)

/-- The resources, by ascending name. -/
def all (s : Session) (r : Registry α) : List (String × Resource) :=
  r.resources.filterMap fun (name, handle) =>
    s.resources[handle]?.map fun live => (name, live.resource)

/-- The first error that is not empty, by ascending name. -/
def firstError (s : Session) (r : Registry α) : Option String :=
  ((r.all s).filterMap (·.2.error)).find? (· ≠ "")

/-- Whether a fetch of any resource is going on. -/
def isLoading (s : Session) (r : Registry α) : Bool := (r.all s).any (·.2.isLoading)

/-- The text that shows a registry. -/
def describe (s : Session) (r : Registry α) : String :=
  describeRecord "Registry"
    [("id", r.id), ("resources", describeMap ((r.all s).map fun (n, r) => (n, r.describe))),
      ("watchers", describeList (r.bridge.names.map Text.quoted)),
      ("attached", describeBool r.attached)]

end Registry

end ReactiveResource
