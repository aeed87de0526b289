import ReactiveResource.Duration
import ReactiveResource.Listener

/-!
# Configs

A config describes one remote call: its method, its parameters, and how results are applied. A
precondition, a validator and listeners may be attached.

* `Params`, `Precondition`, `Validator`: the parts;
* `Config`, `Config.ofMethod`, `Config.shorthand`: a config and its two short forms;
* `Config.callArgs`: the arguments of the call;
* `Config.structurallyEq`: equality of everything but the attached parts.
-/

namespace ReactiveResource

/-- Named parameters of a call. -/
abbrev Params := Fields

/-- A gate, by name, that must be open for a fetch to go on. -/
structure Precondition where
  gate : String
  deriving DecidableEq, Repr, Inhabited

/-- A check of the parameters before a call: a rule that answers at once, or a check that is held
until someone answers it. A message rejects the fetch. -/
inductive Validator where
  | rule (check : Params → Option String)
  | held

/-- A rule that accepts all parameters. -/
def Validator.accept : Validator := .rule fun _ => none

/-- A rule that rejects all parameters. -/
def Validator.reject (message : String) : Validator := .rule fun _ => some message

/-- A rule that rejects parameters without a key. -/
def Validator.require (key message : String) : Validator :=
  .rule fun params => if Keyed.has params key then none else some message

/-- The description of one remote call. -/
structure Config where
  method : String := ""
  params : Params := []
  auto : Bool := false
  keepData : Bool := false
  paginated : Bool := false
  defaultData : Option Json := none
  delay : Option Duration := none
  passthrough : Fields := []
  precondition : Option Precondition := none
  validator : Option Validator := none
  listeners : Listeners := {}
  deriving Inhabited

namespace Config

/-- A config with a method and nothing else. -/
def ofMethod (method : String) : Config := { method }

/-- A method name as a config: it fetches by itself, without parameters. -/
def shorthand (method : String) : Config := { method, auto := true }

/-- The config with one parameter set. -/
def withParam (c : Config) (key : String) (value : Json) : Config :=
  { c with params := Keyed.put c.params key value }

/-- The config with one field set that goes to the remote side as it is. -/
def withPassthrough (c : Config) (key : String) (value : Json) : Config :=
  { c with passthrough := Keyed.put c.passthrough key value }

/-- The config with one more listener. -/
def withListener (c : Config) (kind : EventKind) (listener : Listener) : Config :=
  { c with listeners := c.listeners.on kind listener }

/-- The arguments of a call: the fields passed through, with the parameters set over them. -/
def callArgs (c : Config) (params : Params) : Json := .obj (Keyed.overlay c.passthrough params)

/-- Whether two optional values are both absent or the same value. -/
def sameOption (a b : Option Json) : Bool :=
  match a, b with
  | none, none => true
  | some v, some w => v == w
  | _, _ => false

/-- Whether two configs agree in everything but the attached parts. These are made anew whenever a
config is derived, so that they say nothing about a change. -/
def structurallyEq (a b : Config) : Bool :=
  a.method == b.method && Json.sameMembers a.params b.params
    && Json.sameMembers a.passthrough b.passthrough && a.auto == b.auto
    && a.keepData == b.keepData && a.paginated == b.paginated
    && sameOption a.defaultData b.defaultData && a.delay == b.delay

end Config

end ReactiveResource
