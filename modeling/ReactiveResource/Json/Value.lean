import ReactiveResource.Keyed
import ReactiveResource.Number.Binary64

/-!
# JSON values

A number is either an integer or a double, and the two kinds are never equal. The members of an
object are kept in the order of their keys, one member a key.

* `Json`, `Fields`: values, and the members of an object;
* `==` on values: equal kinds and equal parts, doubles by value;
* `Json.member?`, `Json.text?`, `Json.natural?`: what a reader asks of a value.
-/

namespace ReactiveResource

/-- A JSON value. -/
inductive Json where
  | null
  | bool (value : Bool)
  | int (value : Int)
  | float (value : Binary64)
  | str (value : String)
  | arr (items : List Json)
  | obj (members : List (String × Json))
  deriving Inhabited

/-- The members of an object, by ascending key. -/
abbrev Fields := Keyed Json

namespace Json

mutual

/-- Whether two values have equal kinds and equal parts; doubles are compared by value. -/
def same : Json → Json → Bool
  | .null, .null => true
  | .bool a, .bool b => a == b
  | .int a, .int b => a == b
  | .float a, .float b => a == b
  | .str a, .str b => a == b
  | .arr a, .arr b => sameItems a b
  | .obj a, .obj b => sameMembers a b
  | _, _ => false

/-- `same`, item by item. -/
def sameItems : List Json → List Json → Bool
  | [], [] => true
  | a :: as, b :: bs => same a b && sameItems as bs
  | _, _ => false

/-- `same`, member by member. -/
def sameMembers : List (String × Json) → List (String × Json) → Bool
  | [], [] => true
  | (k, a) :: as, (l, b) :: bs => k == l && same a b && sameMembers as bs
  | _, _ => false

end

instance : BEq Json := ⟨same⟩

/-- The value of a key, if the value is an object that has it. -/
def member? : Json → String → Option Json
  | .obj members, key => Keyed.value? members key
  | _, _ => none

/-- The text of a text value. -/
def text? : Json → Option String
  | .str s => some s
  | _ => none

/-- The number of an integer value that a 64-bit word without sign can hold. -/
def natural? : Json → Option Nat
  | .int n => if 0 ≤ n ∧ n.toNat < UInt64.size then some n.toNat else none
  | _ => none

/-- The members of an object. -/
def fields? : Json → Option Fields
  | .obj members => some members
  | _ => none

/-- Whether a value is null. -/
def isNull : Json → Bool
  | .null => true
  | _ => false

end Json

end ReactiveResource
