import ReactiveResource.Json.Token

/-!
# JSON documents

A document is read into a tree that keeps what the text says: members in order of appearance,
repeated keys, and, when the text leaves the grammar, everything before that point. A reader that
works through a tree in order therefore meets faults in the order in which the text holds them.

* `Tree`: a value as written, possibly cut short;
* `Builder`, `Builder.push`, `Builder.finish`: one token at a time, with the open containers kept
  on a stack;
* `Document.ofText`: the tree of a text, and whether the text is one complete value;
* `Tree.toJson?`: the value of a tree within a bound on its depth, the last member of a key winning;
* `Tree.isWellFormed`: the grammar alone;
* `parse?`: the value of a text.
-/

namespace ReactiveResource.Json

/-- A value as written. A container is `closed` when its end was read; `missing` stands where a
value should have been. A key without a text is one that no text encodes. -/
inductive Tree where
  | null
  | bool (value : Bool)
  | number (value : Option Json)
  | text (value : Option String)
  | array (items : List Tree) (closed : Bool)
  | object (members : List (Option String × Tree)) (closed : Bool)
  | missing
  deriving Inhabited

/-- An open container with what it holds, the last part first. -/
inductive Frame where
  | array (items : List Tree)
  | object (members : List (Option String × Tree)) (key : Option String)

/-- What may stand next. -/
inductive Expectation where
  | value
  | valueOrEnd
  | key
  | keyOrEnd
  | colon
  | commaOrEnd
  | nothing
  | never
  deriving DecidableEq

/-- The open containers, the innermost first, what may stand next, and the value that is complete
when no container is open. -/
structure Builder where
  frames : List Frame := []
  expect : Expectation := .value
  root : Option Tree := none

namespace Builder

/-- The text has left the grammar. -/
def fail (b : Builder) : Builder := { b with expect := .never }

/-- A value is complete: it belongs to the innermost open container. -/
def deliver (b : Builder) (t : Tree) : Builder :=
  match b.frames with
  | [] => { b with root := some t, expect := .nothing }
  | .array items :: rest => { b with frames := .array (t :: items) :: rest, expect := .commaOrEnd }
  | .object members key :: rest =>
    { b with frames := .object ((key, t) :: members) none :: rest, expect := .commaOrEnd }

/-- A token where a value may stand. -/
def pushValue (b : Builder) : Token → Builder
  | .null => b.deliver .null
  | .bool v => b.deliver (.bool v)
  | .number v => b.deliver (.number v)
  | .text v => b.deliver (.text v)
  | .leftBracket => { b with frames := .array [] :: b.frames, expect := .valueOrEnd }
  | .leftBrace => { b with frames := .object [] none :: b.frames, expect := .keyOrEnd }
  | _ => b.fail

/-- The end of a container. -/
def close (b : Builder) : Token → Builder
  | .rightBracket =>
    match b.frames with
    | .array items :: rest => { b with frames := rest }.deliver (.array items.reverse true)
    | _ => b.fail
  | .rightBrace =>
    match b.frames with
    | .object members _ :: rest => { b with frames := rest }.deliver (.object members.reverse true)
    | _ => b.fail
  | _ => b.fail

/-- A token where a key may stand. -/
def pushKey (b : Builder) : Token → Builder
  | .text k =>
    match b.frames with
    | .object members _ :: rest => { b with frames := .object members k :: rest, expect := .colon }
    | _ => b.fail
  | _ => b.fail

/-- A comma between two parts of a container. -/
def separate (b : Builder) : Builder :=
  match b.frames with
  | .array _ :: _ => { b with expect := .value }
  | .object _ _ :: _ => { b with expect := .key }
  | [] => b.fail

/-- One more token. -/
def push (b : Builder) (t : Token) : Builder :=
  match b.expect, t with
  | .value, t => b.pushValue t
  | .valueOrEnd, .rightBracket => b.close .rightBracket
  | .valueOrEnd, t => b.pushValue t
  | .key, t => b.pushKey t
  | .keyOrEnd, .rightBrace => b.close .rightBrace
  | .keyOrEnd, t => b.pushKey t
  | .colon, .colon => { b with expect := .value }
  | .commaOrEnd, .comma => b.separate
  | .commaOrEnd, t => b.close t
  | .never, _ => b
  | _, _ => b.fail

/-- The tree of the open containers around a part that is under way. -/
def enclose : List Frame → Option Tree → Option Tree
  | [], t => t
  | .array items :: rest, t => enclose rest (some (.array (t.toList ++ items).reverse false))
  | .object members key :: rest, t =>
    let member := t.toList.map fun t => (key, t)
    enclose rest (some (.object (member ++ members).reverse false))

end Builder

/-- The tree of a text, and whether the text is exactly one value. -/
structure Document where
  root : Tree
  complete : Bool

namespace Builder

/-- The document when the text ends. -/
def finish (b : Builder) : Document :=
  match b.root with
  | some t => { root := t, complete := b.expect = .nothing }
  | none => { root := (enclose b.frames none).getD .missing, complete := false }

end Builder

/-- The document of a list of tokens. -/
def Document.ofTokens (ts : List Token) : Document := (ts.foldl Builder.push {}).finish

/-- The document of a text. -/
def Document.ofText (s : String) : Document := .ofTokens (tokens s.toList)

namespace Tree

mutual

/-- The value of a tree with at most `depth` containers inside each other. -/
def toJson? (depth : Nat) : Tree → Option Json
  | .null => some .null
  | .bool v => some (.bool v)
  | .number v => v
  | .text v => v.map .str
  | .array items closed =>
    match depth with
    | 0 => none
    | depth + 1 => if closed then (toItems? depth items).map .arr else none
  | .object members closed =>
    match depth with
    | 0 => none
    | depth + 1 =>
      if closed then (toMembers? depth members).map fun ms => .obj (Keyed.ofList ms) else none
  | .missing => none

/-- The values of items. -/
def toItems? (depth : Nat) : List Tree → Option (List Json)
  | [] => some []
  | t :: ts =>
    match toJson? depth t with
    | none => none
    | some v => (toItems? depth ts).map (v :: ·)

/-- The values of members, each with its key. -/
def toMembers? (depth : Nat) : List (Option String × Tree) → Option (List (String × Json))
  | [] => some []
  | (key, t) :: ms =>
    match key, toJson? depth t with
    | some k, some v => (toMembers? depth ms).map ((k, v) :: ·)
    | _, _ => none

end

mutual

/-- Whether a tree is complete: numbers and texts need no value for that. -/
def isWellFormed : Tree → Bool
  | .array items closed => closed && areWellFormed items
  | .object members closed => closed && membersAreWellFormed members
  | .missing => false
  | _ => true

/-- `isWellFormed`, item by item. -/
def areWellFormed : List Tree → Bool
  | [] => true
  | t :: ts => isWellFormed t && areWellFormed ts

/-- `isWellFormed`, member by member. -/
def membersAreWellFormed : List (Option String × Tree) → Bool
  | [] => true
  | (_, t) :: ms => isWellFormed t && membersAreWellFormed ms

end

end Tree

/-- How many containers may be open inside each other. -/
def maxDepth : Nat := 127

/-- The value of a text that is one value. -/
def parse? (s : String) : Option Json :=
  let d := Document.ofText s
  if d.complete then d.root.toJson? maxDepth else none

end ReactiveResource.Json
