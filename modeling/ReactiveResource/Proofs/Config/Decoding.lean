import ReactiveResource.Config.Decode
import ReactiveResource.Proofs.Config.Fields

/-!
# What a config says of the members it is read from

A reader takes the members of an object one by one. As long as they are sound (a known field at most
once and of its type, a delay that a duration holds) the draft is a function of the members met, and
the order of the members does not matter to it; the first member that is not sound decides the
fault.

* `Draft.readDelay_cases`: a delay is read, or too long, or none;
* `Draft.told`, `Config.told`: the draft and the config that sound members tell;
* `Draft.Met`, `Draft.met`: one more member, `Draft.MetAll`, `Draft.metAll`: all of them;
* `Config.ofMembers_eq_ok_iff`, `Config.ofMembers_overlong_iff`: when a config is read, and when the
  delay is too long.
-/

namespace ReactiveResource

/-! ### Reading one value -/

namespace Draft

theorem limit_pos : 0 < UInt64.size * Binary64.unitsPerOne := by
  unfold Binary64.unitsPerOne
  generalize 1074 = n
  exact Nat.mul_pos (by decide) (Nat.pow_pos Nat.two_pos)

theorem delayOfSeconds_of_below {x : Binary64}
    (h : x.negative = true ∨ x.units < UInt64.size * Binary64.unitsPerOne) :
    delayOfSeconds x
      = .ok (if x.negative ∨ x.bits = 0 then none else Duration.ofSeconds? x) := by
  rw [delayOfSeconds]
  split
  · rfl
  · next positive =>
    have below := h.resolve_left fun negative => positive (.inl negative)
    rw [Duration.ofSeconds?, if_pos below]

theorem delayOfSeconds_of_above {x : Binary64} (positive : x.negative = false)
    (h : UInt64.size * Binary64.unitsPerOne ≤ x.units) :
    delayOfSeconds x = .error .delayTooLong := by
  have nonzero : x.bits ≠ 0 := by
    intro zero
    have none : x.units = 0 := by
      rw [Binary64.units, Binary64.mantissa, zero, if_pos (by decide), Nat.zero_mul]
    rw [none] at h
    exact absurd limit_pos (Nat.not_lt.2 h)
  rw [delayOfSeconds, if_neg (by simp [positive, nonzero]), Duration.ofSeconds?,
    if_neg (Nat.not_lt.2 h)]

/-- The nearest double is a parameter here: with the real one, a comparison of the two sides would
compute with numbers of a thousand bits. -/
theorem readDelay_match (double : Int → Option Binary64) (v : Json) :
    (match v with
      | .null => Except.ok none
      | .float x => delayOfSeconds x
      | .int n =>
        match double n with
        | some x => delayOfSeconds x
        | none => .error .malformed
      | _ => .error .malformed)
    = if v.isNull then .ok none
      else
        match (match v with | .int n => double n | .float x => some x | _ => none) with
        | some x => delayOfSeconds x
        | none => .error .malformed := by
  cases v <;> rfl

theorem readDelay_eq (v : Json) :
    readDelay v = if v.isNull then .ok none
      else match v.seconds? with
        | some x => delayOfSeconds x
        | none => .error .malformed := by
  rw [readDelay.eq_def, Json.seconds?.eq_def]
  exact readDelay_match Binary64.ofInt? v

/-- A delay is read, or it is too long, or it is no number. -/
theorem readDelay_cases (v : Json) :
    (Field.delay.Takes v ∧ v.Brief ∧ readDelay v = .ok v.delay?)
      ∨ (v.Overlong ∧ readDelay v = .error .delayTooLong)
      ∨ (¬(Field.delay.Takes v ∧ v.Brief) ∧ ¬v.Overlong ∧ readDelay v = .error .malformed) := by
  rw [readDelay_eq]
  by_cases null : v = .null
  · subst null
    exact .inl ⟨.inl rfl, fun number => absurd number Json.not_isNumber_null, rfl⟩
  have filled : v.isNull = false := by
    cases v <;> first | exact absurd rfl null | rfl
  rw [filled, if_neg Bool.false_ne_true, Json.delay?]
  cases seconds : v.seconds? with
  | none =>
    refine .inr (.inr ⟨?_, ?_, rfl⟩)
    · rintro ⟨takes, brief⟩
      obtain ⟨x, found, -⟩ := brief (takes.resolve_left null)
      rw [seconds] at found
      cases found
    · rintro ⟨x, found, -⟩
      rw [seconds] at found
      cases found
  | some x =>
    have number : v.IsNumber := Json.isNumber_of_seconds seconds
    by_cases low : x.negative = true ∨ x.units < UInt64.size * Binary64.unitsPerOne
    · exact .inl ⟨.inr number, fun _ => ⟨x, seconds, low⟩, delayOfSeconds_of_below low⟩
    · obtain ⟨positive, long⟩ := not_or.1 low
      rw [Bool.not_eq_true] at positive
      exact .inr (.inl ⟨⟨x, seconds, positive, Nat.not_lt.1 long⟩,
        delayOfSeconds_of_above positive (Nat.not_lt.1 long)⟩)

end Draft

/-! ### One more member -/

namespace Draft

open Members

variable {members : Members} {key : String}

/-- A known field is met. -/
def meet (d : Draft) : Field → Option Json → Except DecodeError Draft
  | .method, v => (readOnce d.method readText v).map fun v => { d with method := v }
  | .params, v => (readOnce d.params readFields v).map fun v => { d with params := v }
  | .auto, v => (readOnce d.auto readBool v).map fun v => { d with auto := v }
  | .keepData, v => (readOnce d.keepData readBool v).map fun v => { d with keepData := v }
  | .paginated, v => (readOnce d.paginated readBool v).map fun v => { d with paginated := v }
  | .defaultData, v =>
    (readOnce d.defaultData readOptional v).map fun v => { d with defaultData := v }
  | .delay, v => (readOnce d.delay readDelay v).map fun v => { d with delay := v }

theorem add_known {f : Field} (h : Field.ofName? key = some f) (d : Draft) (v : Option Json) :
    d.add key v = d.meet f v := by
  unfold Field.ofName? at h
  split at h <;> first | (cases h; rfl) | cases h

theorem add_other (h : Field.ofName? key = none) (d : Draft) (v : Option Json) :
    d.add key v
      = match v with
        | some v => .ok { d with passthrough := Keyed.put d.passthrough key v }
        | none => .error .malformed := by
  unfold Field.ofName? at h
  split at h <;> cases h
  unfold add
  split <;> first | contradiction | rfl

/-- Null stands for none. -/
def filled (v : Json) : Option Json := if v.isNull then none else some v

/-- The draft of sound members. -/
def told (members : Members) : Draft where
  method := (given? members .method).bind Json.text?
  params := (given? members .params).bind Json.fields?
  auto := (given? members .auto).bind Json.bool?
  keepData := (given? members .keepData).bind Json.bool?
  paginated := (given? members .paginated).bind Json.bool?
  defaultData := (given? members .defaultData).map filled
  delay := (given? members .delay).map Json.delay?
  passthrough := Keyed.ofList (others members)

theorem told_concat_other (h : Field.ofName? key = none) (v : Json) :
    told (members ++ [(key, v)])
      = { told members with passthrough := Keyed.put (told members).passthrough key v } := by
  simp [told, given?_concat, h, others, Keyed.ofList, Keyed.overlay]

/-- What becomes of the draft of sound members when one more member is met. -/
inductive Met (members : Members) (key : String) :
    Option Json → Except DecodeError Draft → Prop
  | fits {w : Json} (fits : Fits members key w) :
    Met members key (some w) (.ok (told (members ++ [(key, w)])))
  | overlong {w : Json} (delay : key = "delay") (first : given? members .delay = none)
    (long : w.Overlong) : Met members key (some w) (.error .delayTooLong)
  | malformed {v : Option Json} (unfit : ∀ w, v = some w → ¬Fits members key w)
    (short : ∀ w, v = some w → key = "delay" → given? members .delay = none → ¬w.Overlong) :
    Met members key v (.error .malformed)

theorem readOnce_none {α : Type} (seen : Option α) (read : Json → Except DecodeError α) :
    readOnce seen read none = .error .malformed := by
  cases seen <;> rfl

/-- A known field that has been met is not met again. -/
theorem meet_again {f : Field} (sound : Sound members) (given : given? members f ≠ none)
    (v : Option Json) : (told members).meet f v = .error .malformed := by
  obtain ⟨w, given⟩ := Option.ne_none_iff_exists'.1 given
  obtain ⟨key, known, mem⟩ := exists_of_given? given
  have takes : f.Takes w := sound.typed _ mem f known
  cases f with
  | defaultData | delay => simp [meet, told, given, readOnce, Except.map]
  | method | params | auto | keepData | paginated =>
    obtain ⟨x, rfl⟩ := takes
    simp [meet, told, given, readOnce, Except.map, Json.text?, Json.fields?, Json.bool?]

section Fresh

variable {f : Field} {w : Json}

theorem fits_of_known (known : Field.ofName? key = some f) (first : given? members f = none)
    (takes : f.Takes w) (brief : f = .delay → w.Brief) : Fits members key w := by
  intro g hg
  obtain rfl : f = g := Option.some.inj (known.symm.trans hg)
  exact ⟨first, takes, brief⟩

/-- A field, other than the delay, that is read by taking the part of one kind of values. -/
theorem met_of_read {α : Type} {read : Json → Except DecodeError α} {get : Json → Option α}
    {set : Option α → Draft} (known : Field.ofName? key = some f) (first : given? members f = none)
    (other : f ≠ .delay)
    (reads : ∀ v, read v = (get v).elim (.error .malformed) .ok)
    (takes : ∀ v, f.Takes v ↔ (get v).isSome = true)
    (sets : told (members ++ [(key, w)]) = set (get w)) :
    Met members key (some w) ((readOnce none read (some w)).map set) := by
  rw [readOnce, reads]
  cases got : get w with
  | some a =>
    have fits := fits_of_known known first ((takes w).2 (by simp [got])) fun h => absurd h other
    have result : set (some a) = told (members ++ [(key, w)]) := by rw [sets, got]
    show Met members key (some w) (.ok (set (some a)))
    exact result ▸ .fits fits
  | none =>
    refine .malformed ?_ ?_
    · rintro _ ⟨⟩ fits
      have some := (takes w).1 (fits f known).2.1
      simp [got] at some
    · rintro _ ⟨⟩ rfl
      exact absurd (Option.some.inj known).symm other

theorem readText_eq (v : Json) : readText v = v.text?.elim (.error .malformed) .ok := by
  cases v <;> rfl

theorem readBool_eq (v : Json) : readBool v = v.bool?.elim (.error .malformed) .ok := by
  cases v <;> rfl

theorem readFields_eq (v : Json) : readFields v = v.fields?.elim (.error .malformed) .ok := by
  cases v <;> rfl

theorem exists_bool_iff (v : Json) : (∃ b, v = .bool b) ↔ v.bool?.isSome = true := by
  cases v <;> simp [Json.bool?]

/-- A known field that has not been met is read. -/
theorem meet_fresh (known : Field.ofName? key = some f) (first : given? members f = none)
    (w : Json) : Met members key (some w) ((told members).meet f (some w)) := by
  have concat : ∀ g, given? (members ++ [(key, w)]) g
      = if f = g then some w else given? members g := by
    intro g
    rw [given?_concat, known]
    by_cases h : f = g
    · subst h
      simp [first]
    · simp [h]
  have same : others (members ++ [(key, w)]) = others members := by simp [others, known]
  cases f with
  | method =>
    have takes (v : Json) : Field.method.Takes v ↔ v.text?.isSome = true := by
      cases v <;> simp [Field.Takes, Json.text?]
    rw [meet, show (told members).method = none by simp [told, first]]
    exact met_of_read known first (by decide) readText_eq takes (by simp [told, concat, same])
  | params =>
    have takes (v : Json) : Field.params.Takes v ↔ v.fields?.isSome = true := by
      cases v <;> simp [Field.Takes, Json.fields?]
    rw [meet, show (told members).params = none by simp [told, first]]
    exact met_of_read known first (by decide) readFields_eq takes (by simp [told, concat, same])
  | auto =>
    rw [meet, show (told members).auto = none by simp [told, first]]
    exact met_of_read known first (by decide) readBool_eq exists_bool_iff
      (by simp [told, concat, same])
  | keepData =>
    rw [meet, show (told members).keepData = none by simp [told, first]]
    exact met_of_read known first (by decide) readBool_eq exists_bool_iff
      (by simp [told, concat, same])
  | paginated =>
    rw [meet, show (told members).paginated = none by simp [told, first]]
    exact met_of_read known first (by decide) readBool_eq exists_bool_iff
      (by simp [told, concat, same])
  | defaultData =>
    have reads : readOptional w = .ok (filled w) := by cases w <;> rfl
    have result : (told members).meet .defaultData (some w)
        = .ok (told (members ++ [(key, w)])) := by
      simp [meet, told, first, concat, same, readOnce, reads, Except.map]
    rw [result]
    exact .fits (fits_of_known known first trivial nofun)
  | delay =>
    have unmet : (told members).delay = none := by simp [told, first]
    rw [meet, unmet, readOnce]
    rcases readDelay_cases w with ⟨takes, brief, read⟩ | ⟨long, read⟩ | ⟨unfit, short, read⟩
    · have result : { told members with delay := some w.delay? }
          = told (members ++ [(key, w)]) := by
        simp [told, concat, same]
      rw [read]
      show Met members key (some w) (.ok { told members with delay := some w.delay? })
      exact result ▸ .fits (fits_of_known known first takes fun _ => brief)
    · rw [read]
      exact .overlong (Field.ofName?_eq_delay known) first long
    · rw [read]
      refine .malformed ?_ ?_
      · rintro _ ⟨⟩ fits
        exact unfit ⟨(fits .delay known).2.1, (fits .delay known).2.2 rfl⟩
      · rintro _ ⟨⟩ - -
        exact short

end Fresh

/-- One more member is met. -/
theorem met (sound : Sound members) (key : String) (v : Option Json) :
    Met members key v ((told members).add key v) := by
  cases known : Field.ofName? key with
  | none =>
    rw [add_other known]
    cases v with
    | none => exact .malformed nofun nofun
    | some w =>
      have fits : Fits members key w := fun f hf => by simp [known] at hf
      show Met members key (some w)
        (.ok { told members with passthrough := Keyed.put (told members).passthrough key w })
      exact told_concat_other known w ▸ .fits fits
  | some f =>
    rw [add_known known]
    by_cases first : given? members f = none
    · cases v with
      | some w => exact meet_fresh known first w
      | none =>
        have unread : (told members).meet f none = .error .malformed := by
          cases f <;> simp [meet, readOnce_none, Except.map]
        rw [unread]
        exact .malformed nofun nofun
    · rw [meet_again sound first]
      refine .malformed (fun w _ fits => first (fits f known).1) ?_
      rintro w - rfl unmet
      exact absurd unmet (Option.some.inj known ▸ first)

theorem Met.eq_ok {w : Json} {result : Except DecodeError Draft}
    (h : Met members key (some w) result) (fits : Fits members key w) :
    result = .ok (told (members ++ [(key, w)])) := by
  cases h with
  | fits => rfl
  | overlong delay first long =>
    subst delay
    exact absurd long ((fits .delay rfl).2.2 rfl).not_overlong
  | malformed unfit short => exact absurd fits (unfit w rfl)

end Draft

/-! ### All members -/

namespace Members

/-- Members as a reader meets them, each with a key and a value. -/
def whole (members : Members) : List (Option String × Option Json) :=
  members.map fun m => (some m.1, some m.2)

/-- A reader of these members comes upon a delay that is too long before any other fault. -/
def Overruns (ms : List (Option String × Option Json)) : Prop :=
  ∃ before v after, ms = whole before ++ (some "delay", some v) :: after
    ∧ Sound before ∧ given? before .delay = none ∧ v.Overlong

theorem whole_injective : Function.Injective whole :=
  List.map_injective_iff.2 fun m n h => by
    obtain ⟨key, v⟩ := m
    obtain ⟨other, w⟩ := n
    simpa using h

end Members

namespace Draft

open Members

/-- Sound members are read into what they tell. -/
theorem addAll_told {before : Members} (rest : Members) (sound : Sound (before ++ rest))
    (tail : List (Option String × Option Json)) :
    (told before).addAll (whole rest ++ tail) = (told (before ++ rest)).addAll tail := by
  induction rest generalizing before with
  | nil => simp [whole]
  | cons m rest ih =>
    obtain ⟨key, w⟩ := m
    have split : before ++ (key, w) :: rest = (before ++ [(key, w)]) ++ rest := by simp
    rw [split] at sound ⊢
    obtain ⟨first, fits⟩ := sound_concat.1 sound.left
    show (told before).addAll ((some key, some w) :: (whole rest ++ tail)) = _
    rw [addAll, (met first key (some w)).eq_ok fits]
    exact ih sound

/-- What becomes of a draft when a list of members is met. -/
inductive MetAll (before : Members) :
    List (Option String × Option Json) → Except DecodeError Draft → Prop
  | sound (rest : Members) (sound : Sound (before ++ rest)) :
    MetAll before (whole rest) (.ok (told (before ++ rest)))
  | overlong (rest : Members) {w : Json} (after : List (Option String × Option Json))
    (sound : Sound (before ++ rest)) (first : given? (before ++ rest) .delay = none)
    (long : w.Overlong) :
    MetAll before (whole rest ++ (some "delay", some w) :: after) (.error .delayTooLong)
  | malformed (ms : List (Option String × Option Json)) : MetAll before ms (.error .malformed)

theorem MetAll.cons {before : Members} {key : String} {w : Json}
    {ms : List (Option String × Option Json)} {result : Except DecodeError Draft}
    (h : MetAll (before ++ [(key, w)]) ms result) :
    MetAll before ((some key, some w) :: ms) result := by
  have split (rest : Members) : before ++ [(key, w)] ++ rest = before ++ (key, w) :: rest := by simp
  cases h with
  | sound rest sound =>
    rw [split] at sound ⊢
    exact .sound ((key, w) :: rest) sound
  | overlong rest after sound first long =>
    rw [split] at sound first
    exact .overlong ((key, w) :: rest) after sound first long
  | malformed => exact .malformed _

theorem metAll {before : Members} (sound : Sound before)
    (ms : List (Option String × Option Json)) : MetAll before ms ((told before).addAll ms) := by
  induction ms generalizing before with
  | nil =>
    have none : MetAll before (whole []) (.ok (told (before ++ []))) :=
      .sound [] (by simpa using sound)
    rwa [List.append_nil] at none
  | cons m rest ih =>
    obtain ⟨key, v⟩ := m
    cases key with
    | none => exact .malformed _
    | some key =>
      rw [addAll]
      have step := met sound key v
      revert step
      generalize (told before).add key v = result
      rintro (fits | ⟨delay, first, long⟩ | ⟨-, -⟩)
      · exact (ih (sound_concat.2 ⟨sound, fits⟩)).cons
      · subst delay
        exact .overlong [] rest (by simpa using sound) (by simpa using first) long
      · exact .malformed _

end Draft

namespace Config

open Members

/-- The config that members tell. -/
def told (members : Members) : Config := (Draft.told members).toConfig

theorem ofMembers_eq (ms : List (Option String × Option Json)) (closed : Bool) :
    ofMembers ms closed
      = match (Draft.told []).addAll ms with
        | .error e => .error e
        | .ok d => if closed then .ok d.toConfig else .error .malformed := rfl

/-- A config is read of sound members, and of no others. -/
theorem ofMembers_eq_ok_iff {ms : List (Option String × Option Json)} {c : Config} :
    ofMembers ms true = .ok c
      ↔ ∃ members, ms = whole members ∧ Sound members ∧ c = told members := by
  rw [ofMembers_eq]
  constructor
  · intro ok
    have read := Draft.metAll sound_nil ms
    generalize (Draft.told []).addAll ms = result at read ok
    cases read with
    | sound rest sound => exact ⟨rest, rfl, sound, (Except.ok.inj ok).symm⟩
    | overlong => cases ok
    | malformed => cases ok
  · rintro ⟨members, rfl, sound, rfl⟩
    have start : Sound ([] ++ members) := sound
    have all := Draft.addAll_told members start []
    rw [List.append_nil, List.nil_append] at all
    rw [all]
    rfl

theorem ofMembers_whole_eq_ok_iff {members : Members} {c : Config} :
    ofMembers (whole members) true = .ok c ↔ Sound members ∧ c = told members := by
  rw [ofMembers_eq_ok_iff]
  constructor
  · rintro ⟨others, same, sound, rfl⟩
    obtain rfl := whole_injective same
    exact ⟨sound, rfl⟩
  · exact fun h => ⟨members, rfl, h⟩

/-- The delay is too long exactly if a reader comes upon it before any other fault. -/
theorem ofMembers_overlong_iff {ms : List (Option String × Option Json)} {closed : Bool} :
    ofMembers ms closed = .error .delayTooLong ↔ Overruns ms := by
  rw [ofMembers_eq]
  constructor
  · intro error
    have read := Draft.metAll sound_nil ms
    generalize (Draft.told []).addAll ms = result at read error
    cases read with
    | sound => cases closed <;> cases error
    | overlong rest after sound first long => exact ⟨rest, _, after, rfl, sound, first, long⟩
    | malformed => cases error
  · rintro ⟨before, v, after, rfl, sound, first, long⟩
    have step := Draft.met sound "delay" (some v)
    have start : Sound ([] ++ before) := sound
    rw [Draft.addAll_told before start, List.nil_append, Draft.addAll]
    generalize (Draft.told before).add "delay" (some v) = result at step
    cases step with
    | fits fits => exact absurd long ((fits .delay rfl).2.2 rfl).not_overlong
    | overlong => rfl
    | malformed unfit short => exact absurd long (short v rfl rfl first)

end Config

end ReactiveResource
