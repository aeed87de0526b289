import ReactiveResource.Proofs.Config.Decoding
import ReactiveResource.Proofs.Keyed

/-!
# Members in order of their keys

A value keeps the members of an object by ascending key, the last one of a key winning. If no known
field is given twice, nothing is lost by that: a config can be read of the members in the one order
exactly if it can be read of them in the other, and it is the same config.

* `Config.told_ofList`, `Config.ofMembers_ofList`: members in order of appearance, and in the order
  of their keys;
* `Config.Reflects`: a config says what members say;
* `Config.Faithful`: nothing is lost or invented.
-/

namespace ReactiveResource

/-! ### Members by key -/

namespace Members

variable {members : Members} {key : String} {v : Json} {f : Field}

/-- Two members that are the same known field are one member. -/
theorem GivenOnce.eq {m n : String × Json} (once : GivenOnce members) (hm : m ∈ members)
    (hn : n ∈ members) (known : Field.ofName? m.1 = some f) (same : Field.ofName? n.1 = some f) :
    m = n := by
  have symm : Std.Symm fun m n : String × Json =>
      ∀ f, Field.ofName? m.1 = some f → Field.ofName? n.1 ≠ some f :=
    ⟨fun m n apart f hn hm => apart f hm hn⟩
  by_contra ne
  exact List.Pairwise.forall once hm hn ne f known same

theorem given?_eq_some_iff (once : GivenOnce members) :
    given? members f = some v ↔ ∃ key, Field.ofName? key = some f ∧ (key, v) ∈ members := by
  refine ⟨exists_of_given?, ?_⟩
  rintro ⟨key, known, mem⟩
  cases given : given? members f with
  | none => exact absurd known (given?_eq_none.1 given _ mem)
  | some w =>
    obtain ⟨other, also, mem'⟩ := exists_of_given? given
    cases once.eq mem mem' known also
    rfl

/-- A known field that is given once stays. -/
theorem mem_ofList_iff (once : GivenOnce members) (known : Field.ofName? key = some f) :
    (key, v) ∈ Keyed.ofList members ↔ (key, v) ∈ members := by
  refine ⟨Keyed.mem_of_mem_ofList, fun mem => ?_⟩
  have has : (Keyed.value? members.reverse key).isSome = true := by
    refine Keyed.mem_keys.1 (List.mem_map.2 ⟨(key, v), List.mem_reverse.2 mem, rfl⟩)
  obtain ⟨w, value⟩ := Option.isSome_iff_exists.1 has
  have last := Keyed.mem_ofList.2 value
  cases once.eq mem (Keyed.mem_of_mem_ofList last) known known
  exact last

theorem GivenOnce.ofList (once : GivenOnce members) : GivenOnce (Keyed.ofList members) := by
  refine (List.pairwise_map.1 (Keyed.ascending_ofList members)).imp_of_mem ?_
  intro m n hm hn lt f known same
  rw [once.eq (Keyed.mem_of_mem_ofList hm) (Keyed.mem_of_mem_ofList hn) known same] at lt
  exact String.lt_irrefl _ lt

theorem given?_ofList (once : GivenOnce members) (f : Field) :
    given? (Keyed.ofList members) f = given? members f := by
  refine Option.ext fun v => ?_
  rw [given?_eq_some_iff once, given?_eq_some_iff once.ofList]
  refine exists_congr fun key => and_congr_right fun known => ?_
  exact mem_ofList_iff once known

theorem sound_ofList_iff (once : GivenOnce members) :
    Sound (Keyed.ofList members) ↔ Sound members := by
  constructor
  · rintro ⟨-, typed, brief⟩
    refine ⟨once, ?_, fun v hv => brief v ((mem_ofList_iff once rfl).2 hv)⟩
    rintro ⟨key, v⟩ hm f known
    exact typed _ ((mem_ofList_iff once known).2 hm) f known
  · rintro ⟨-, typed, brief⟩
    exact ⟨once.ofList, fun m hm => typed m (Keyed.mem_of_mem_ofList hm),
      fun v hv => brief v (Keyed.mem_of_mem_ofList hv)⟩

/-- The value with which a name is passed through: the last one given for it, if it is the name of
no known field. -/
theorem value?_others_reverse (members : Members) (key : String) :
    Keyed.value? (others members).reverse key
      = if Field.ofName? key = none then Keyed.value? members.reverse key else none := by
  rw [others, ← List.filter_reverse]
  simpa using Keyed.value?_filter members.reverse (fun key => Field.ofName? key = none) key

theorem passed_ofList (members : Members) :
    Keyed.ofList (others (Keyed.ofList members)) = Keyed.ofList (others members) := by
  refine Keyed.eq_of_value? (Keyed.ascending_ofList _) (Keyed.ascending_ofList _) fun key => ?_
  have distinct := Keyed.nodup_keys (Keyed.ascending_ofList members)
  rw [Keyed.value?_ofList, Keyed.value?_ofList, value?_others_reverse, value?_others_reverse,
    Keyed.value?_reverse distinct, Keyed.value?_ofList]

end Members

namespace Config

open Members

/-- Members in order of appearance and in the order of their keys tell the same. -/
theorem told_ofList {members : Members} (once : GivenOnce members) :
    told (Keyed.ofList members) = told members := by
  simp only [told, Draft.told, given?_ofList once, passed_ofList]

/-- Of members with a delay that a duration holds, nothing but a config is read, or they are
refused. -/
theorem ofMembers_cases {members : Members} (brief : Brief members) :
    (∃ c, ofMembers (whole members) true = .ok c)
      ∨ ofMembers (whole members) true = .error .malformed := by
  cases read : ofMembers (whole members) true with
  | ok c => exact .inl ⟨c, rfl⟩
  | error e =>
    cases e with
    | malformed => exact .inr rfl
    | delayTooLong =>
      obtain ⟨before, v, after, split, -, -, long⟩ := ofMembers_overlong_iff.1 read
      have met : (some "delay", some v) ∈ whole members := by simp [split]
      obtain ⟨⟨key, w⟩, mem, same⟩ := List.mem_map.1 met
      cases same
      exact absurd long (brief w mem).not_overlong

/-- The order of the members does not matter. -/
theorem ofMembers_ofList {members : Members} (once : GivenOnce members) (brief : Brief members) :
    ofMembers (whole (Keyed.ofList members)) true = ofMembers (whole members) true := by
  have brief' : Brief (Keyed.ofList members) := fun v hv => brief v (Keyed.mem_of_mem_ofList hv)
  rcases ofMembers_cases brief with ⟨c, read⟩ | refused
  · obtain ⟨sound, rfl⟩ := ofMembers_whole_eq_ok_iff.1 read
    rw [read]
    exact ofMembers_whole_eq_ok_iff.2 ⟨(sound_ofList_iff once).2 sound, (told_ofList once).symm⟩
  · rw [refused]
    rcases ofMembers_cases brief' with ⟨c, read⟩ | refused'
    · have sound := (sound_ofList_iff once).1 (ofMembers_whole_eq_ok_iff.1 read).1
      rw [ofMembers_whole_eq_ok_iff.2 ⟨sound, rfl⟩] at refused
      cases refused
    · exact refused'

/-! ### What a config says -/

/-- A config says what members say: a known field has the value given for it, or else the one that
stands for its absence; everything else is passed through; nothing is attached. -/
structure Reflects (c : Config) (members : Members) : Prop where
  method : c.method = ((given? members .method).bind Json.text?).getD ""
  params : c.params = ((given? members .params).bind Json.fields?).getD []
  auto : c.auto = ((given? members .auto).bind Json.bool?).getD false
  keepData : c.keepData = ((given? members .keepData).bind Json.bool?).getD false
  paginated : c.paginated = ((given? members .paginated).bind Json.bool?).getD false
  defaultData : c.defaultData = (given? members .defaultData).bind Draft.filled
  delay : c.delay = (given? members .delay).bind Json.delay?
  ascending : (Keyed.keys c.passthrough).Pairwise (· < ·)
  passthrough : ∀ key, Keyed.value? c.passthrough key
    = if Field.ofName? key = none then Keyed.value? members.reverse key else none
  bare : c.precondition = none ∧ c.validator = none ∧ c.listeners = {}

theorem reflects_told (members : Members) : (told members).Reflects members where
  method := rfl
  params := rfl
  auto := rfl
  keepData := rfl
  paginated := rfl
  defaultData := by
    show ((given? members .defaultData).map Draft.filled).getD none = _
    cases given? members .defaultData <;> rfl
  delay := by
    show ((given? members .delay).map Json.delay?).getD none = _
    cases given? members .delay <;> rfl
  ascending := Keyed.ascending_ofList _
  passthrough key := by
    show Keyed.value? (Keyed.ofList (others members)) key = _
    rw [Keyed.value?_ofList, value?_others_reverse]
  bare := ⟨rfl, rfl, rfl⟩

/-- A parameter of a call is the one that is set, or else the one that is passed through. -/
theorem member?_callArgs (c : Config) {params : Params} (once : (Keyed.keys params).Nodup)
    (key : String) :
    (c.callArgs params).member? key
      = (Keyed.value? params key).or (Keyed.value? c.passthrough key) := by
  show Keyed.value? (Keyed.overlay c.passthrough params) key = _
  rw [Keyed.value?_overlay, Keyed.value?_reverse once]

/-- What is read of members neither loses nor invents anything. -/
structure Faithful (members : Members) (result : Except DecodeError Config) : Prop where
  reads_iff : (∃ c, result = .ok c) ↔ Typed members
  refuses : ∀ e, result = .error e → e = .malformed
  reflects : ∀ c, result = .ok c → c.Reflects members
  calls : ∀ c, result = .ok c → ∀ params : Params, (Keyed.keys params).Nodup →
    ∀ key, (c.callArgs params).member? key
      = (Keyed.value? params key).or (Keyed.value? c.passthrough key)

theorem faithful_ofMembers {members : Members} (once : GivenOnce members)
    (brief : Brief members) : Faithful members (ofMembers (whole members) true) where
  reads_iff := by
    simp only [ofMembers_whole_eq_ok_iff]
    constructor
    · rintro ⟨c, sound, -⟩
      exact sound.typed
    · exact fun typed => ⟨_, ⟨once, typed, brief⟩, rfl⟩
  refuses e error := by
    rcases ofMembers_cases brief with ⟨c, read⟩ | refused
    · rw [read] at error
      cases error
    · rw [refused] at error
      exact (Except.error.inj error).symm
  reflects c read := by
    obtain ⟨-, rfl⟩ := ofMembers_whole_eq_ok_iff.1 read
    exact reflects_told members
  calls c _ _ distinct key := c.member?_callArgs distinct key

end Config

end ReactiveResource
