import Mathlib.Data.List.Basic
import Mathlib.Data.List.Pairwise
import ReactiveResource.Config.Basic

/-!
# The fields of a config

An object of which a config is read has known fields and others. Each known field has a type, and
one of them, the delay, a bound.

* `Field`, `Field.ofName?`, `Field.Takes`: the known fields, their names and their types;
* `Json.delay?`, `Json.Overlong`: a delay, and one beyond every duration;
* `Members.given?`, `Members.others`: the value of a known field, and the members that are none;
* `Members.Sound`: members of which a config can be read, and `Members.sound_concat`, when they
  still are with one more.
-/

namespace ReactiveResource

/-! ### Known fields -/

/-- A field of a config that has a meaning of its own. -/
inductive Field where
  | method
  | params
  | auto
  | keepData
  | paginated
  | defaultData
  | delay
  deriving DecidableEq, Repr

/-- Whether a value is a number. -/
def Json.IsNumber (v : Json) : Prop := (∃ n, v = .int n) ∨ ∃ x, v = .float x

namespace Field

/-- The field of a name; `paginated` has two. -/
def ofName? : String → Option Field
  | "method" => some .method
  | "params" => some .params
  | "auto" => some .auto
  | "keep_data" => some .keepData
  | "paginated" | "paged" => some .paginated
  | "default" => some .defaultData
  | "delay" => some .delay
  | _ => none

/-- Whether a value is of the type of a field. -/
def Takes : Field → Json → Prop
  | .method, v => ∃ s, v = .str s
  | .params, v => ∃ members, v = .obj members
  | .auto, v | .keepData, v | .paginated, v => ∃ b, v = .bool b
  | .defaultData, _ => True
  | .delay, v => v = .null ∨ v.IsNumber

theorem ofName?_eq_delay {key : String} (h : ofName? key = some .delay) : key = "delay" := by
  unfold ofName? at h
  split at h <;> first | rfl | simp at h

end Field

namespace Json

/-- The truth value of a value that is one. -/
def bool? : Json → Option Bool
  | .bool b => some b
  | _ => none

/-- A number as a double. -/
def seconds? : Json → Option Binary64
  | .int n => Binary64.ofInt? n
  | .float x => some x
  | _ => none

/-- The delay of a number of seconds, none if it is not positive. -/
def delay? (v : Json) : Option Duration :=
  v.seconds?.bind fun x => if x.negative ∨ x.bits = 0 then none else Duration.ofSeconds? x

/-- The value is a number of seconds, the nearest double of which is `2 ^ 64` or more. -/
def Overlong (v : Json) : Prop :=
  ∃ x, v.seconds? = some x ∧ x.negative = false ∧ UInt64.size * Binary64.unitsPerOne ≤ x.units

/-- If the value is a number of seconds, the nearest double is below `2 ^ 64`. -/
def Brief (v : Json) : Prop :=
  v.IsNumber → ∃ x, v.seconds? = some x
    ∧ (x.negative = true ∨ x.units < UInt64.size * Binary64.unitsPerOne)

theorem not_isNumber_null : ¬Json.null.IsNumber := by
  rintro (⟨n, h⟩ | ⟨x, h⟩) <;> cases h

theorem isNumber_of_seconds {v : Json} {x : Binary64} (h : v.seconds? = some x) :
    v.IsNumber := by
  cases v <;> first | exact .inl ⟨_, rfl⟩ | exact .inr ⟨_, rfl⟩ | cases h

theorem Brief.not_overlong {v : Json} (h : v.Brief) : ¬v.Overlong := by
  rintro ⟨x, seconds, positive, long⟩
  obtain ⟨y, same, low⟩ := h (isNumber_of_seconds seconds)
  obtain rfl : x = y := Option.some.inj (seconds.symm.trans same)
  rcases low with negative | low
  · simp [positive] at negative
  · exact absurd low (Nat.not_lt.2 long)

end Json

/-! ### Members in order of appearance -/

/-- The members of an object as they are met. -/
abbrev Members := List (String × Json)

namespace Members

variable {members : Members} {key : String} {v w : Json} {f : Field}

/-- The value of a known field. -/
def given? (members : Members) (f : Field) : Option Json :=
  (members.find? fun m => Field.ofName? m.1 = some f).map (·.2)

/-- The members that are no known field. -/
def others (members : Members) : Members := members.filter fun m => Field.ofName? m.1 = none

/-- No known field is given twice, under whichever of its names. -/
def GivenOnce (members : Members) : Prop :=
  members.Pairwise fun m n => ∀ f, Field.ofName? m.1 = some f → Field.ofName? n.1 ≠ some f

/-- The known fields are of their types. -/
def Typed (members : Members) : Prop :=
  ∀ m ∈ members, ∀ f, Field.ofName? m.1 = some f → f.Takes m.2

/-- A delay is below `2 ^ 64` seconds. -/
def Brief (members : Members) : Prop := ∀ v, ("delay", v) ∈ members → v.Brief

/-- Members of which a config can be read. -/
structure Sound (members : Members) : Prop where
  once : GivenOnce members
  typed : Typed members
  brief : Brief members

/-- One more member does not spoil sound ones. -/
def Fits (members : Members) (key : String) (v : Json) : Prop :=
  ∀ f, Field.ofName? key = some f →
    given? members f = none ∧ f.Takes v ∧ (f = .delay → v.Brief)

theorem given?_append (ms ns : Members) (f : Field) :
    given? (ms ++ ns) f = (given? ms f).or (given? ns f) := by
  simp [given?, List.find?_append, Option.map_or]

theorem given?_concat (members : Members) (key : String) (v : Json) (f : Field) :
    given? (members ++ [(key, v)]) f
      = (given? members f).or (if Field.ofName? key = some f then some v else none) := by
  rw [given?_append]
  congr 1
  by_cases h : Field.ofName? key = some f <;> simp [given?, h]

theorem given?_eq_none : given? members f = none ↔ ∀ m ∈ members, Field.ofName? m.1 ≠ some f := by
  simp [given?]

theorem exists_of_given? (h : given? members f = some v) :
    ∃ key, Field.ofName? key = some f ∧ (key, v) ∈ members := by
  obtain ⟨⟨key, w⟩, found, rfl⟩ := Option.map_eq_some_iff.1 h
  exact ⟨key, by simpa using List.find?_some found, List.mem_of_find?_eq_some found⟩

theorem sound_nil : Sound [] where
  once := List.Pairwise.nil
  typed := by simp [Typed]
  brief := by simp [Brief]

theorem Sound.left {ms ns : Members} (h : Sound (ms ++ ns)) : Sound ms where
  once := (List.pairwise_append.1 h.once).1
  typed m hm := h.typed m (List.mem_append_left _ hm)
  brief v hv := h.brief v (List.mem_append_left _ hv)

theorem sound_concat :
    Sound (members ++ [(key, v)]) ↔ Sound members ∧ Fits members key v := by
  constructor
  · intro sound
    have apart := (List.pairwise_append.1 sound.once).2.2
    refine ⟨sound.left, fun f hf => ?_⟩
    refine ⟨given?_eq_none.2 fun m hm h => apart m hm _ List.mem_cons_self f h hf,
      sound.typed (key, v) (by simp) f hf, ?_⟩
    rintro rfl
    obtain rfl := Field.ofName?_eq_delay hf
    exact sound.brief v (by simp)
  · rintro ⟨sound, fits⟩
    refine ⟨List.pairwise_append.2 ⟨sound.once, List.pairwise_singleton _ _, ?_⟩, ?_, ?_⟩
    · intro m hm n hn f hf known
      obtain rfl := List.mem_singleton.1 hn
      exact given?_eq_none.1 (fits f known).1 m hm hf
    · intro m hm f hf
      rcases List.mem_append.1 hm with hm | hm
      · exact sound.typed m hm f hf
      · obtain rfl := List.mem_singleton.1 hm
        exact (fits f hf).2.1
    · intro w hw
      rcases List.mem_append.1 hw with hw | hw
      · exact sound.brief w hw
      · obtain ⟨rfl, rfl⟩ := Prod.mk.inj (List.mem_singleton.1 hw)
        exact (fits .delay rfl).2.2 rfl

end Members

end ReactiveResource
