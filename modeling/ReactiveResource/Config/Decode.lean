import ReactiveResource.Config.Basic
import ReactiveResource.Json.Document

/-!
# Configs read from JSON

A config is an object. Its known fields are optional and have fixed types; all other fields are
passed through. Members are taken in the order in which the reader meets them, and the first fault
decides: a known field given twice or of the wrong type, a part of the text that is no JSON, or a
delay that is longer than any duration.

* `DecodeError`: the faults;
* `Draft`, `Draft.add`: the fields met so far, and one more member;
* `Config.ofMembers`: members in the order met;
* `Config.ofJson`, `Config.ofTree`, `Config.ofText`: a value, a part of a document, a text.
-/

namespace ReactiveResource

/-- Why no config could be read: the input is not a config, or its delay is beyond every duration,
which is not an error that a caller can handle. -/
inductive DecodeError where
  | malformed
  | delayTooLong
  deriving DecidableEq, Repr, Inhabited

/-- The known fields met so far, and the fields to pass through. -/
structure Draft where
  method : Option String := none
  params : Option Params := none
  auto : Option Bool := none
  keepData : Option Bool := none
  paginated : Option Bool := none
  defaultData : Option (Option Json) := none
  delay : Option (Option Duration) := none
  passthrough : Fields := []
  deriving Inhabited

namespace Draft

/-- A text. -/
def readText : Json → Except DecodeError String
  | .str s => .ok s
  | _ => .error .malformed

/-- A truth value. -/
def readBool : Json → Except DecodeError Bool
  | .bool b => .ok b
  | _ => .error .malformed

/-- An object. -/
def readFields : Json → Except DecodeError Fields
  | .obj members => .ok members
  | _ => .error .malformed

/-- Any value, null standing for none. -/
def readOptional : Json → Except DecodeError (Option Json)
  | .null => .ok none
  | v => .ok (some v)

/-- The delay of a number of seconds: none if it is not positive. -/
def delayOfSeconds (x : Binary64) : Except DecodeError (Option Duration) :=
  if x.negative ∨ x.bits = 0 then .ok none
  else match Duration.ofSeconds? x with
    | some d => .ok (some d)
    | none => .error .delayTooLong

/-- Seconds as a number, null standing for none. -/
def readDelay : Json → Except DecodeError (Option Duration)
  | .null => .ok none
  | .float x => delayOfSeconds x
  | .int n =>
    match Binary64.ofInt? n with
    | some x => delayOfSeconds x
    | none => .error .malformed
  | _ => .error .malformed

/-- The value of a known field, which must not have been met before. -/
def readOnce {α : Type} (seen : Option α) (read : Json → Except DecodeError α)
    (value : Option Json) : Except DecodeError (Option α) :=
  match seen, value with
  | none, some v => (read v).map some
  | _, _ => .error .malformed

/-- One more member; a member without a value is one that is no JSON. -/
def add (d : Draft) (key : String) (value : Option Json) : Except DecodeError Draft :=
  match key with
  | "method" => (readOnce d.method readText value).map fun v => { d with method := v }
  | "params" => (readOnce d.params readFields value).map fun v => { d with params := v }
  | "auto" => (readOnce d.auto readBool value).map fun v => { d with auto := v }
  | "keep_data" => (readOnce d.keepData readBool value).map fun v => { d with keepData := v }
  | "paginated" | "paged" =>
    (readOnce d.paginated readBool value).map fun v => { d with paginated := v }
  | "default" =>
    (readOnce d.defaultData readOptional value).map fun v => { d with defaultData := v }
  | "delay" => (readOnce d.delay readDelay value).map fun v => { d with delay := v }
  | key =>
    match value with
    | some v => .ok { d with passthrough := Keyed.put d.passthrough key v }
    | none => .error .malformed

/-- The members in the order met; a member without a key is one whose key is no text. -/
def addAll (d : Draft) : List (Option String × Option Json) → Except DecodeError Draft
  | [] => .ok d
  | (none, _) :: _ => .error .malformed
  | (some key, value) :: rest =>
    match d.add key value with
    | .ok d => d.addAll rest
    | .error e => .error e

/-- The config of a draft. -/
def toConfig (d : Draft) : Config :=
  { method := d.method.getD ""
    params := d.params.getD []
    auto := d.auto.getD false
    keepData := d.keepData.getD false
    paginated := d.paginated.getD false
    defaultData := d.defaultData.getD none
    delay := d.delay.getD none
    passthrough := d.passthrough }

end Draft

namespace Config

/-- The config of an object's members, in the order met. An object that is cut short holds no
config, but a fault before that point comes first. -/
def ofMembers (members : List (Option String × Option Json)) (closed : Bool) :
    Except DecodeError Config :=
  match Draft.addAll {} members with
  | .error e => .error e
  | .ok d => if closed then .ok d.toConfig else .error .malformed

/-- The config of a value: members are met in the order of their keys. -/
def ofJson : Json → Except DecodeError Config
  | .obj members => ofMembers (members.map fun (k, v) => (some k, some v)) true
  | _ => .error .malformed

/-- The config of a part of a document with at most `depth` containers inside each other: members
are met in order of appearance. -/
def ofTree (depth : Nat) : Json.Tree → Except DecodeError Config
  | .object members closed =>
    match depth with
    | 0 => .error .malformed
    | depth + 1 => ofMembers (members.map fun (k, t) => (k, t.toJson? depth)) closed
  | _ => .error .malformed

/-- The config of a text. -/
def ofText (s : String) : Except DecodeError Config :=
  let d := Json.Document.ofText s
  match ofTree Json.maxDepth d.root with
  | .error e => .error e
  | .ok c => if d.complete then .ok c else .error .malformed

end Config

end ReactiveResource
