/-!
# Errors in definitions

What can be wrong with the definition of a resource. Failures of a fetch are not among these: a
resource keeps them in its own state.

* `ConfigError`, `ConfigError.message`: the errors and their texts.
-/

namespace ReactiveResource

/-- An error in the definition of a resource. -/
inductive ConfigError where
  | missingMethod (name : String)
  | methodChanged (name current requested : String)
  | unknownResource (key : String)
  | catalog (detail : String)
  deriving DecidableEq, Repr, Inhabited

/-- The text of an error. -/
def ConfigError.message : ConfigError → String
  | .missingMethod name => "resource '" ++ name ++ "': method is required to define a resource"
  | .methodChanged name current requested =>
    "resource '" ++ name ++ "': method cannot change from '" ++ current ++ "' to '" ++ requested
      ++ "'"
  | .unknownResource key => "unknown catalog resource: " ++ key
  | .catalog detail => "failed to parse resource catalog: " ++ detail

end ReactiveResource
