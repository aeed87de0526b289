import ReactiveResource.Catalog

/-!
# Targets

What a user names is a key of the catalog or else the name of a remote method. Parameters of his own
are set over those that the catalog gives.

* `ofParamsText?`: parameters that a text holds;
* `Catalog.target?`: the config that a name and the text of parameters stand for.
-/

namespace ReactiveResource

/-- The parameters that a text holds, which must be an object. -/
def ofParamsText? (text : String) : Option Params := (Json.parse? text).bind Json.fields?

namespace Catalog

/-- The config of a key, or else that of a method. -/
def findOrMethod (c : Catalog) (name : String) : Config := (c.find? name).getD (.ofMethod name)

/-- The config that a name stands for, with parameters set over its own if their text is given. It
does not fetch by itself. -/
def target? (c : Catalog) (name : String) (params : Option String) : Option Config :=
  let config := { c.findOrMethod name with auto := false }
  match params with
  | none => some config
  | some text =>
    (ofParamsText? text).map fun own => { config with params := Keyed.overlay config.params own }

end Catalog

end ReactiveResource
