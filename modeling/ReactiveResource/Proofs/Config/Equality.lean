import ReactiveResource.Config.Basic
import ReactiveResource.RemoteError

/-!
# Equality of values and configs

Values are compared by JSON equality, under which the two zeros are one number: they are equal if
they become one and the same when every zero in them, at whatever depth, is written without its
sign. Likewise configs agree if they become the same when everything that is attached to them is
taken off as well. What is made of equal values in the same way is then equal again; in particular,
configs that agree make the same call.

* `Json.normal`, `same_iff_normal`: what a value is compared by;
* `Json.beq_equivalence`, `Reply.Same`: values that are equal, and replies that are;
* `Keyed.normal_overlay`: members set over members;
* `Config.essence`, `structurallyEq_iff`: what a config is compared by;
* `Config.structurallyEq_equivalence`, `callArgs_congr`: configs that agree;
* `Config.Alike`: configs that may be absent.
-/

namespace ReactiveResource

/-- The number, a zero without its sign. -/
def Binary64.unsignedZero (x : Binary64) : Binary64 := if x.bits = 0 then .zero else x

theorem Binary64.beq_iff_unsignedZero {x y : Binary64} :
    (x == y) = true ↔ x.unsignedZero = y.unsignedZero := by
  obtain ⟨m, a, ha⟩ := x
  obtain ⟨n, b, hb⟩ := y
  show (a == b && (m == n || a == 0)) = true ↔ _
  unfold unsignedZero zero
  grind

/-! ### Values without signed zeros -/

namespace Json

mutual

/-- The value, every zero in it without its sign. -/
def normal : Json → Json
  | .null => .null
  | .bool b => .bool b
  | .int n => .int n
  | .float x => .float x.unsignedZero
  | .str s => .str s
  | .arr items => .arr (normalItems items)
  | .obj members => .obj (normalMembers members)

/-- `normal`, item by item. -/
def normalItems : List Json → List Json
  | [] => []
  | v :: rest => v.normal :: normalItems rest

/-- `normal`, member by member. -/
def normalMembers : List (String × Json) → List (String × Json)
  | [] => []
  | (k, v) :: rest => (k, v.normal) :: normalMembers rest

end

mutual

theorem same_iff_normal : ∀ v w : Json, same v w = true ↔ v.normal = w.normal
  | .arr a, w => by
    cases w with
    | arr b => simp [same, normal, sameItems_iff_normal a b]
    | _ => simp [same, normal]
  | .obj a, w => by
    cases w with
    | obj b => simp [same, normal, sameMembers_iff_normal a b]
    | _ => simp [same, normal]
  | .float x, w => by cases w <;> simp [same, normal, Binary64.beq_iff_unsignedZero]
  | .null, w | .bool _, w | .int _, w | .str _, w => by cases w <;> simp [same, normal]

theorem sameItems_iff_normal : ∀ v w : List Json,
    sameItems v w = true ↔ normalItems v = normalItems w
  | [], [] | [], _ :: _ | _ :: _, [] => by simp [sameItems, normalItems]
  | v :: vs, w :: ws => by
    simp [sameItems, normalItems, same_iff_normal v w, sameItems_iff_normal vs ws]

theorem sameMembers_iff_normal : ∀ v w : List (String × Json),
    sameMembers v w = true ↔ normalMembers v = normalMembers w
  | [], [] | [], _ :: _ | _ :: _, [] => by simp [sameMembers, normalMembers]
  | (k, v) :: vs, (l, w) :: ws => by
    simp [sameMembers, normalMembers, same_iff_normal v w, sameMembers_iff_normal vs ws]

end

theorem beq_iff_normal {v w : Json} : (v == w) = true ↔ v.normal = w.normal := same_iff_normal v w

theorem beq_equivalence : Equivalence fun v w : Json => (v == w) = true where
  refl _ := beq_iff_normal.2 rfl
  symm h := beq_iff_normal.2 (beq_iff_normal.1 h).symm
  trans h h' := beq_iff_normal.2 ((beq_iff_normal.1 h).trans (beq_iff_normal.1 h'))

end Json

/-- The replies are equal: equal payloads, or the same error. -/
def Reply.Same : Reply → Reply → Prop
  | .ok v, .ok w => (v == w) = true
  | .err d, .err e => d = e
  | _, _ => False

/-! ### Members set over members -/

namespace Keyed

open Json (normalMembers)

theorem normal_put (members : Fields) (key : String) (value : Json) :
    normalMembers (put members key value) = put (normalMembers members) key value.normal := by
  induction members with
  | nil => rfl
  | cons x rest ih =>
    obtain ⟨k, v⟩ := x
    simp only [put, normalMembers]
    split
    · simp only [normalMembers]
    · split
      · simp only [normalMembers]
      · simp only [normalMembers, ih]

theorem normal_overlay (base top : Fields) :
    normalMembers (overlay base top) = overlay (normalMembers base) (normalMembers top) := by
  induction top generalizing base with
  | nil => rfl
  | cons x top ih =>
    obtain ⟨k, v⟩ := x
    show normalMembers (overlay (put base k v) top)
      = overlay (put (normalMembers base) k v.normal) (normalMembers top)
    rw [ih, normal_put]

end Keyed

/-! ### Configs that agree -/

namespace Config

variable {b c d : Config}

/-- The config without signed zeros, and with nothing attached. -/
def essence (c : Config) : Config where
  method := c.method
  params := Json.normalMembers c.params
  auto := c.auto
  keepData := c.keepData
  paginated := c.paginated
  defaultData := c.defaultData.map Json.normal
  delay := c.delay
  passthrough := Json.normalMembers c.passthrough

theorem sameOption_iff_normal {v w : Option Json} :
    sameOption v w = true ↔ v.map Json.normal = w.map Json.normal := by
  cases v <;> cases w <;> simp [sameOption, Json.beq_iff_normal]

theorem structurallyEq_iff : c.structurallyEq d = true ↔ c.essence = d.essence := by
  simp only [structurallyEq, essence, Bool.and_eq_true, beq_iff_eq, Json.sameMembers_iff_normal,
    sameOption_iff_normal, Config.mk.injEq]
  grind

theorem structurallyEq_equivalence : Equivalence fun c d : Config => c.structurallyEq d = true where
  refl _ := structurallyEq_iff.2 rfl
  symm h := structurallyEq_iff.2 (structurallyEq_iff.1 h).symm
  trans h h' := structurallyEq_iff.2 ((structurallyEq_iff.1 h).trans (structurallyEq_iff.1 h'))

theorem structurallyEq_refl (c : Config) : c.structurallyEq c = true :=
  structurallyEq_equivalence.refl c

theorem method_of_structurallyEq (h : c.structurallyEq d = true) : c.method = d.method :=
  congrArg (·.method) (structurallyEq_iff.1 h)

theorem normal_callArgs (c : Config) (params : Params) :
    (c.callArgs params).normal = c.essence.callArgs (Json.normalMembers params) := by
  rw [callArgs, Json.normal, Keyed.normal_overlay]
  rfl

/-- Configs that agree make the same call of the same parameters. -/
theorem callArgs_congr_params (h : c.structurallyEq d = true) {params params' : Params}
    (same : Json.normalMembers params = Json.normalMembers params') :
    (c.callArgs params == d.callArgs params') = true := by
  rw [Json.beq_iff_normal, normal_callArgs, normal_callArgs, structurallyEq_iff.1 h, same]

/-- Configs that agree make the same call. -/
theorem callArgs_congr (h : c.structurallyEq d = true) :
    (c.callArgs c.params == d.callArgs d.params) = true :=
  callArgs_congr_params h (congrArg (·.params) (structurallyEq_iff.1 h))

/-- Both are absent, or both are there and agree. -/
def Alike : Option Config → Option Config → Prop := Option.Rel fun c d => c.structurallyEq d = true

theorem alike_iff {old new : Option Config} :
    Alike old new ↔ old.map essence = new.map essence := by
  cases old <;> cases new <;> simp [Alike, structurallyEq_iff]

theorem alike_equivalence : Equivalence Alike where
  refl _ := alike_iff.2 rfl
  symm h := alike_iff.2 (alike_iff.1 h).symm
  trans h h' := alike_iff.2 ((alike_iff.1 h).trans (alike_iff.1 h'))

end Config

end ReactiveResource
