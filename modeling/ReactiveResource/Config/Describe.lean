import ReactiveResource.Config.Basic
import ReactiveResource.Text.Quoted
import ReactiveResource.Json.Printer

/-!
# Descriptions of configs

The text that shows a config to a developer: every field by name, values with the name of their
kind, and of the attached precondition and validator only whether there is one.

* `describeRecord`, `describeMap`, `describeOption`: the shapes;
* `Json.describe`: a value;
* `Config.describe`: a config.
-/

namespace ReactiveResource

/-- The text of a truth value. -/
def describeBool : Bool → String
  | true => "true"
  | false => "false"

/-- A record: its name, and its fields with their names. -/
def describeRecord (name : String) (fields : List (String × String)) : String :=
  name ++ " \x7b " ++ ", ".intercalate (fields.map fun (k, v) => k ++ ": " ++ v) ++ " \x7d"

/-- A list. -/
def describeList (items : List String) : String := "[" ++ ", ".intercalate items ++ "]"

/-- A map from texts. -/
def describeMap (entries : List (String × String)) : String :=
  "\x7b" ++ ", ".intercalate (entries.map fun (k, v) => Text.quoted k ++ ": " ++ v) ++ "\x7d"

/-- A value that may be absent. -/
def describeOption : Option String → String
  | none => "None"
  | some s => "Some(" ++ s ++ ")"

namespace Json

mutual

/-- A value, with the name of its kind. -/
def describe : Json → String
  | .null => "Null"
  | .bool b => "Bool(" ++ describeBool b ++ ")"
  | .int n => "Number(" ++ toString n ++ ")"
  | .float x => "Number(" ++ x.toText .json ++ ")"
  | .str s => "String(" ++ Text.quoted s ++ ")"
  | .arr items => "Array " ++ describeList (describeItems items)
  | .obj members => "Object " ++ describeMap (describeMembers members)

/-- The texts of items. -/
def describeItems : List Json → List String
  | [] => []
  | v :: vs => describe v :: describeItems vs

/-- The keys of members, with the texts of their values. -/
def describeMembers : List (String × Json) → List (String × String)
  | [] => []
  | (k, v) :: ms => (k, describe v) :: describeMembers ms

end

end Json

/-- The text that shows a config. -/
def Config.describe (c : Config) : String :=
  describeRecord "ResourceConfig"
    [("method", Text.quoted c.method),
      ("params", describeMap (Json.describeMembers c.params)),
      ("auto", describeBool c.auto),
      ("keep_data", describeBool c.keepData),
      ("paginated", describeBool c.paginated),
      ("default_data", describeOption (c.defaultData.map Json.describe)),
      ("delay", describeOption (c.delay.map Duration.describe)),
      ("passthrough", describeMap (Json.describeMembers c.passthrough)),
      ("precondition", describeBool c.precondition.isSome),
      ("validator", describeBool c.validator.isSome)]

end ReactiveResource
