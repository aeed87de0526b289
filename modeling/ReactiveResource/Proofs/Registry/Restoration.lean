import ReactiveResource.Proofs.Config.Equality
import ReactiveResource.Proofs.Registry.Incidents
import ReactiveResource.Proofs.Registry.Staleness

/-!
# Watchers whose configs have been refused

A watcher remembers a config as soon as it has derived it. If the config is refused, the former one
is restored, so that the watcher fires again as long as it derives the same. This is done by name:
the first watcher of the name is the one that is given the config back, although several may have
the name.

* `Bridge.restoreIn_eq`: the place at which a config is restored;
* `World.stage`, `World.Refused`: the watchers are dealt with one after another, and one is refused;
* `World.stage_succ`, `watcher_stage`: what one of them does to the others;
* `Registry.Continues`, `Housed.refused_later`: what has been refused is refused again;
* `reportsAgain_iff`: when all that are refused are reported again, and when they are not.
-/

namespace ReactiveResource

open Keyed (value?)

/-! ### Configs that have changed -/

theorem configChanged_iff {old new : Option Config} :
    configChanged old new = true ↔ ¬ Config.Alike old new := by
  cases old <;> cases new <;> simp [configChanged, Config.Alike]

theorem configChanged_eq_false_iff {old new : Option Config} :
    configChanged old new = false ↔ Config.Alike old new := by
  rw [← Bool.not_eq_true, configChanged_iff, not_not]

instance : DecidableRel Config.Alike := fun _ _ => decidable_of_iff _ configChanged_eq_false_iff

theorem configChanged_self (c : Option Config) : configChanged c c = false :=
  configChanged_eq_false_iff.2 (Config.alike_equivalence.refl c)

/-- What differs from a config differs from all that agree with it. -/
theorem configChanged_of_same {old new new' : Option Config}
    (changed : configChanged old new = true) (same : configChanged new new' = false) :
    configChanged old new' = true := by
  rw [configChanged_iff] at changed ⊢
  intro agree
  have back := Config.alike_equivalence.symm (configChanged_eq_false_iff.1 same)
  exact changed (Config.alike_equivalence.trans agree back)

theorem method_of_unchanged {c : Config} {new : Option Config}
    (same : configChanged (some c) new = false) : ∃ c', new = some c' ∧ c'.method = c.method := by
  cases new with
  | none => cases same
  | some c' =>
    simp only [configChanged, Bool.not_eq_false'] at same
    exact ⟨c', rfl, (Config.method_of_structurallyEq same).symm⟩

namespace Bridge

variable {α : Type} {owner : α} {x : Watcher α} {f : WatcherFire}

theorem fireOf_eq_some : fireOf owner x = some f ↔
    configChanged x.last (x.derive owner) = true ∧
      f = { name := x.name, new := x.derive owner, old := x.last } := by
  unfold fireOf
  simp only
  split
  · next changed => simp [changed, eq_comm]
  · next still => simp [still]

/-- A watcher that has fired, with its former config restored, is as it was before. -/
theorem restore_refresh (fires : fireOf owner x = some f) :
    { refresh owner x with last := f.old } = x := by
  obtain ⟨changed, rfl⟩ := fireOf_eq_some.1 fires
  simp [refresh, changed]

/-- A watcher that has fired remembers another config. -/
theorem refresh_ne (fires : fireOf owner x = some f) : refresh owner x ≠ x := by
  intro same
  obtain ⟨changed, -⟩ := fireOf_eq_some.1 fires
  have last : (refresh owner x).last = x.derive owner := by simp [refresh, changed]
  rw [← last, same, configChanged_self] at changed
  cases changed

/-- A config is restored at the first place of the name. -/
theorem restoreIn_eq (name : String) (config : Option Config) (ws : List (Watcher α)) :
    restoreIn name config ws
      = ws.modify ((ws.map (·.name)).idxOf name) fun w => { w with last := config } := by
  induction ws with
  | nil => rfl
  | cons w rest ih =>
    rw [restoreIn, List.map_cons]
    by_cases here : w.name = name
    · subst here
      rw [if_pos rfl, List.idxOf_cons_self]
      rfl
    · rw [if_neg here, ih, List.idxOf_cons_ne _ here]
      rfl

theorem watchers_restore (b : Bridge α) (name : String) (config : Option Config) :
    (b.restore name config).watchers
      = b.watchers.modify (b.names.idxOf name) fun w => { w with last := config } :=
  restoreIn_eq name config b.watchers

end Bridge

namespace Registry

variable {α : Type} {s s' s'' : Session} {r r' r'' : Registry α} {name : String}
  {new old : Option Config}

/-! ### What is refused once is refused again -/

/-- The session has gone on, and names have kept their resources. -/
structure Continues (s : Session) (r : Registry α) (s' : Session) (r' : Registry α) : Prop where
  evolves : s.Evolves (fun _ => True) s'
  handle : ∀ {name handle}, value? r.resources name = some handle →
    value? r'.resources name = some handle

theorem Continues.refl (s : Session) (r : Registry α) : Continues s r s r :=
  ⟨.refl _ s, fun given => given⟩

theorem Continues.trans (h : Continues s r s' r') (h' : Continues s' r' s'' r'') :
    Continues s r s'' r'' :=
  ⟨h.evolves.trans h'.evolves, fun given => h'.handle (h.handle given)⟩

theorem continues_respond (s : Session) (r : Registry α) (failed : Option ConfigError)
    (f : WatcherFire) :
    Continues s r (respond (s, r, failed) f).1 (respond (s, r, failed) f).2.1 where
  evolves := (Session.spans_beside.respond (s, r, failed) f).evolves.mono fun _ _ => trivial
  handle given := handle_respond given failed f

/-- A config that is refused for a name is refused again, and so is any with its method, as long as
the registry is attached. -/
theorem Housed.refused_later (h : Housed s r) (h' : Housed s' r') (continues : Continues s r s' r')
    {c c' : Config} {e : ConfigError} (method : c'.method = c.method)
    (refused : refusal? name (live? s r name) c = some e) :
    ∃ e', refusal? name (live? s' r' name) c' = some e' := by
  cases given : value? r.resources name with
  | some handle =>
    obtain ⟨live, there⟩ := h.present given
    obtain ⟨live', there'⟩ := h'.present (continues.handle given)
    have kept := continues.evolves.method h.orderly there there'
    rw [live?_of_given given, there, refusal?] at refused
    rw [live?_of_given (continues.handle given), there', refusal?, method, kept]
    exact ⟨e, refused⟩
  | none =>
    rw [live?_of_vacant given, refusal?] at refused
    split at refused <;> cases refused
    next blank =>
      cases given' : value? r'.resources name with
      | none =>
        rw [live?_of_vacant given', refusal?, method, if_pos blank]
        exact ⟨_, rfl⟩
      | some handle =>
        -- the name has been given a resource since, which has a method
        obtain ⟨live', there'⟩ := h'.present given'
        have differs : c'.method ≠ live'.resource.method := by
          intro same
          rw [method] at same
          cases (h'.named given' there').symm.trans (same ▸ blank)
        rw [live?_of_given given', there', refusal?, if_neg differs]
        exact ⟨_, rfl⟩

theorem Housed.exists_error (h : Housed s r) {c : Config} {e : ConfigError}
    (refused : refusal? name (live? s r name) c = some e) :
    ∃ e', r.apply s name (some c) old = .error e' := by
  cases applied : r.apply s name (some c) old with
  | error e' => exact ⟨e', rfl⟩
  | ok x =>
    obtain ⟨s', r'⟩ := x
    cases refused.symm.trans (h.refusal?_of_ok applied)

/-! ### What an answer does to the watchers -/

theorem respond_of_ok {failed : Option ConfigError} {f : WatcherFire}
    (applied : r.apply s f.name f.new f.old = .ok (s', r')) :
    (respond (s, r, failed) f).2.1.bridge = r.bridge := by
  rw [respond]
  simp only [applied]
  rw [registry_apply applied]

theorem respond_of_error {failed : Option ConfigError} {f : WatcherFire} {e : ConfigError}
    (refused : r.apply s f.name f.new f.old = .error e) :
    (respond (s, r, failed) f).2.1.bridge = r.bridge.restore f.name f.old ∧
      (respond (s, r, failed) f).2.2.isSome := by
  rw [respond]
  simp [refused]

theorem isSome_respond {failed : Option ConfigError} (h : failed.isSome) (f : WatcherFire) :
    (respond (s, r, failed) f).2.2.isSome := by
  rw [respond]
  split
  · exact h
  · rfl

end Registry

namespace World

variable {α : Type} {w : World α} {definitions : List (String × Definition α)} {change : α → α}
  {place other first last : Nat} {f : WatcherFire} {e : ConfigError}

/-! ### The watchers are dealt with one after another -/

/-- The watcher at a place, in order of registration. -/
def watcher? (w : World α) (place : Nat) : Option (Watcher α) := w.registry.bridge.watchers[place]?

/-- The watcher at a place, if it fires when the owner's state is changed. -/
def fireAt? (w : World α) (change : α → α) (place : Nat) : Option WatcherFire :=
  (w.watcher? place).bind (Bridge.fireOf (change w.registry.owner))

/-- While the owner's state is changed, when the watchers before a place have been dealt with. -/
def stage (w : World α) (change : α → α) (place : Nat) :
    Session × Registry α × Option ConfigError :=
  w.midway change ((w.registry.bridge.watchers.take place).filterMap
    (Bridge.fireOf (change w.registry.owner)))

/-- When the owner's state is changed, the watcher at a place fires, and its config is refused. -/
structure Refused (w : World α) (change : α → α) (place : Nat) (f : WatcherFire)
    (e : ConfigError) : Prop where
  fires : w.fireAt? change place = some f
  refused : (w.stage change place).2.1.apply (w.stage change place).1 f.name f.new f.old = .error e

theorem stage_zero (w : World α) (change : α → α) :
    w.stage change 0 = (w.session.report (fireReport (w.fires change)),
      w.registry.evaluated (change w.registry.owner), none) := rfl

theorem stage_succ (w : World α) (change : α → α) (place : Nat) :
    w.stage change (place + 1) = match w.fireAt? change place with
      | some f => Registry.respond (w.stage change place) f
      | none => w.stage change place := by
  rw [stage, stage, List.take_add_one, List.filterMap_append, midway, List.foldl_append, fireAt?,
    watcher?]
  cases w.registry.bridge.watchers[place]? with
  | none => rfl
  | some x =>
    rw [Option.toList_some, Option.bind_some]
    cases fires : Bridge.fireOf (change w.registry.owner) x with
    | none => rw [List.filterMap_cons_none fires]; rfl
    | some f => rw [List.filterMap_cons_some fires]; rfl

theorem mutateOwner_eq_stage (attached : w.registry.attached = true) (change : α → α) :
    w.registry.mutateOwner w.session change
      = w.stage change w.registry.bridge.watchers.length := by
  rw [Registry.mutateOwner_of_attached attached, stage, List.take_length]
  rfl

theorem Refused.stage_succ (h : w.Refused change place f e) :
    w.stage change (place + 1) = Registry.respond (w.stage change place) f := by
  rw [World.stage_succ, h.fires]

theorem names_stage (w : World α) (change : α → α) (place : Nat) :
    (w.stage change place).2.1.bridge.names = w.registry.bridge.names := by
  have declared : (w.stage change place).2.1.bridge.declared = w.registry.bridge.declared :=
    (Registry.declared_responds _ _).trans (w.registry.bridge.declared_evaluate _)
  rw [← Bridge.names_declared, declared, Bridge.names_declared]

/-- A watcher is left as it is by those that are accepted, and by those that are refused under a
name that another watcher has had before. -/
theorem watcher_stage_succ (elsewhere : ∀ f e, w.Refused change place f e →
      w.registry.bridge.names.idxOf f.name ≠ other) :
    (w.stage change (place + 1)).2.1.bridge.watchers[other]?
      = (w.stage change place).2.1.bridge.watchers[other]? := by
  cases fires : w.fireAt? change place with
  | none => rw [stage_succ, fires]
  | some f =>
    rw [stage_succ, fires]
    simp only
    cases applied : (w.stage change place).2.1.apply (w.stage change place).1
        f.name f.new f.old with
    | ok x =>
      obtain ⟨s, r⟩ := x
      rw [Registry.respond_of_ok applied]
    | error e =>
      have beyond := elsewhere f e ⟨fires, applied⟩
      rw [← names_stage w change place] at beyond
      rw [(Registry.respond_of_error applied).1, Bridge.watchers_restore]
      exact List.getElem?_modify_ne _ _ beyond

theorem watcher_stage (le : first ≤ last) (elsewhere : ∀ k f e, first ≤ k → k < last →
      w.Refused change k f e → w.registry.bridge.names.idxOf f.name ≠ other) :
    (w.stage change last).2.1.bridge.watchers[other]?
      = (w.stage change first).2.1.bridge.watchers[other]? := by
  induction le with
  | refl => rfl
  | @step k le ih =>
    rw [watcher_stage_succ fun f e => elsewhere k f e le (Nat.lt_succ_self k)]
    exact ih fun j f e hj hlt => elsewhere j f e hj (Nat.lt_succ_of_lt hlt)

/-- The first watcher of a name that is refused is given its config back. -/
theorem Refused.watcher_stage (h : w.Refused change place f e)
    (place_eq : w.registry.bridge.names.idxOf f.name = other) :
    (w.stage change (place + 1)).2.1.bridge.watchers[other]?
      = (w.stage change place).2.1.bridge.watchers[other]?.map
        fun x => { x with last := f.old } := by
  rw [← names_stage w change place] at place_eq
  rw [h.stage_succ, (Registry.respond_of_error h.refused).1, Bridge.watchers_restore]
  subst place_eq
  exact List.getElem?_modify_eq _ _ _

theorem watcher_stage_zero (w : World α) (change : α → α) (place : Nat) :
    (w.stage change 0).2.1.bridge.watchers[place]?
      = (w.watcher? place).map (Bridge.refresh (change w.registry.owner)) := by
  rw [stage_zero]
  exact List.getElem?_map

theorem failed_stage (le : first ≤ last) (failed : (w.stage change first).2.2.isSome) :
    (w.stage change last).2.2.isSome := by
  induction le with
  | refl => exact failed
  | @step k le ih =>
    rw [stage_succ]
    split
    · exact Registry.isSome_respond ih _
    · exact ih

theorem continues_stage (le : first ≤ last) :
    Registry.Continues (w.stage change first).1 (w.stage change first).2.1
      (w.stage change last).1 (w.stage change last).2.1 := by
  induction le with
  | refl => exact .refl _ _
  | @step k le ih =>
    rw [stage_succ]
    split
    · exact ih.trans (Registry.continues_respond _ _ _ _)
    · exact ih

theorem continues_begin (w : World α) (change : α → α) (place : Nat) :
    Registry.Continues w.session w.registry (w.stage change place).1
      (w.stage change place).2.1 := by
  have begun : Registry.Continues w.session w.registry (w.stage change 0).1
      (w.stage change 0).2.1 :=
    ⟨(Session.beside_report _ _).evolves.mono fun _ _ => trivial, fun given => given⟩
  exact begun.trans (continues_stage (Nat.zero_le place))

theorem housed_stage (housed : Registry.Housed w.session w.registry) (change : α → α)
    (place : Nat) :
    Registry.Housed (w.stage change place).1 (w.stage change place).2.1 :=
  (housed.evaluated (fireReport (w.fires change)) (change w.registry.owner)).responds none _

/-! ### What happens until the next change -/

/-- What leaves all watchers as they are: the owner's state is not changed, and the registry is not
detached. -/
def Quiet : Incident α → Prop
  | .deed (.step _) | .fire _ _ _ => True
  | .deed (.mutate _) | .deed .detach => False

/-- Until the next change the registry stays attached, and all watchers stay as they are. -/
structure Rests (w w' : World α) : Prop where
  continues : Registry.Continues w.session w.registry w'.session w'.registry
  housed : Registry.Housed w'.session w'.registry
  bridge : w'.registry.bridge = w.registry.bridge

theorem Rests.trans {w' w'' : World α} (h : w.Rests w') (h' : w'.Rests w'') : w.Rests w'' :=
  ⟨h.continues.trans h'.continues, h'.housed, h'.bridge.trans h.bridge⟩

theorem rests_undergo (housed : Registry.Housed w.session w.registry) {i : Incident α}
    (quiet : Quiet i) : w.Rests (w.undergo i) where
  continues :=
    ⟨w.evolves_undergo i, fun given => handle_undergo given (by rintro rfl; exact quiet)⟩
  housed := (housed_undergo housed i).resolve_left (by rintro rfl; exact quiet)
  bridge := by
    cases i with
    | deed d =>
      cases d with
      | step => rfl
      | mutate | detach => exact quiet.elim
    | fire name new old =>
      show (w.fire name new old).registry.bridge = _
      rcases w.fire_cases name new old with same | ⟨s, r, applied, fired⟩
      · rw [same]
      · rw [fired]
        rw [Registry.registry_apply applied]

theorem rests_through (housed : Registry.Housed w.session w.registry)
    {meanwhile : List (Incident α)} (quiet : ∀ i ∈ meanwhile, Quiet i) :
    w.Rests (w.through meanwhile) := by
  induction meanwhile generalizing w with
  | nil => exact ⟨.refl _ _, housed, rfl⟩
  | cons i rest ih =>
    rw [List.forall_mem_cons] at quiet
    have first := rests_undergo housed quiet.1
    exact first.trans (ih first.housed quiet.2)

/-! ### Refusals are reported again -/

/-- When the owner's state is changed, every watcher that is refused remembers afterwards what it
remembered before, and every other one what it derives. Whoever has been refused and derives the
same at the next change fires as before and is refused again, which is reported. -/
structure ReportsAgain (w : World α) (change : α → α) : Prop where
  restored : ∀ place f e, w.Refused change place f e →
    (w.act (.mutate change)).watcher? place = w.watcher? place
  evaluated : ∀ place, (∀ f e, ¬ w.Refused change place f e) →
    (w.act (.mutate change)).watcher? place
      = (w.watcher? place).map (Bridge.refresh (change w.registry.owner))
  again : ∀ place f e, w.Refused change place f e → ∀ meanwhile, (∀ i ∈ meanwhile, Quiet i) →
    ∀ later, later = (w.act (.mutate change)).through meanwhile → ∀ next,
      configChanged f.new
        ((w.watcher? place).bind fun x => x.derive (next later.registry.owner)) = false →
      ∃ new e', later.Refused next place { f with new } e' ∧
        (later.registry.mutateOwner later.session next).2.2.isSome

theorem act_mutate_eq_stage (attached : w.registry.attached = true) (change : α → α) :
    (w.act (.mutate change)).session = (w.stage change w.registry.bridge.watchers.length).1 ∧
      (w.act (.mutate change)).registry
        = (w.stage change w.registry.bridge.watchers.length).2.1 := by
  rw [act, mutateOwner_eq_stage attached]
  exact ⟨rfl, rfl⟩

theorem Refused.exists_watcher (h : w.Refused change place f e) :
    ∃ x, w.watcher? place = some x ∧ Bridge.fireOf (change w.registry.owner) x = some f :=
  Option.bind_eq_some_iff.1 h.fires

theorem Refused.lt_length (h : w.Refused change place f e) :
    place < w.registry.bridge.watchers.length := by
  obtain ⟨x, there, -⟩ := h.exists_watcher
  exact (List.getElem?_eq_some_iff.1 there).1

theorem Refused.name (h : w.Refused change place f e) :
    w.registry.bridge.names[place]? = some f.name := by
  obtain ⟨x, there, fires⟩ := h.exists_watcher
  have there : w.registry.bridge.watchers[place]? = some x := there
  rw [Bridge.names, List.getElem?_map, there, (Bridge.name_of_fireOf fires).1]
  rfl

/-- A refusal is reported. -/
theorem Refused.isSome_failed (h : w.Refused change place f e)
    (attached : w.registry.attached = true) :
    (w.registry.mutateOwner w.session change).2.2.isSome := by
  rw [mutateOwner_eq_stage attached]
  refine failed_stage (Nat.succ_le_of_lt h.lt_length) ?_
  rw [h.stage_succ]
  exact (Registry.respond_of_error h.refused).2

/-- Why it is refused. -/
theorem Refused.exists_refusal (h : w.Refused change place f e)
    (housed : Registry.Housed w.session w.registry) :
    ∃ c, f.new = some c ∧ Registry.refusal? f.name
      (Registry.live? (w.stage change place).1 (w.stage change place).2.1 f.name) c = some e :=
  Option.bind_eq_some_iff.1 ((housed_stage housed change place).refusal?_of_error h.refused)

section Housed

variable (housed : Registry.Housed w.session w.registry)
include housed

/-- A watcher whose name no other has had before is given its config back. -/
theorem Refused.restored (h : w.Refused change place f e)
    (first : ∀ k f e, w.Refused change k f e → w.registry.bridge.names.idxOf f.name = k) :
    (w.act (.mutate change)).watcher? place = w.watcher? place := by
  obtain ⟨x, there, fires⟩ := h.exists_watcher
  have before : (w.stage change place).2.1.bridge.watchers[place]?
      = (w.stage change 0).2.1.bridge.watchers[place]? :=
    World.watcher_stage (Nat.zero_le place) fun k f e _ lt refused same =>
      (Nat.ne_of_lt lt) ((first k f e refused).symm.trans same)
  have after : (w.stage change w.registry.bridge.watchers.length).2.1.bridge.watchers[place]?
      = (w.stage change (place + 1)).2.1.bridge.watchers[place]? :=
    World.watcher_stage (Nat.succ_le_of_lt h.lt_length) fun k f e le _ refused same =>
      (Nat.ne_of_gt (Nat.lt_of_succ_le le)) ((first k f e refused).symm.trans same)
  rw [watcher?, (act_mutate_eq_stage housed.attached change).2, after,
    h.watcher_stage (first place f e h), before, watcher_stage_zero, there]
  exact congrArg some (Bridge.restore_refresh fires)

/-- A watcher that is not refused remembers what it has derived, if no other is restored in its
place. -/
theorem watcher_mutate (elsewhere : ∀ k f e, w.Refused change k f e →
      w.registry.bridge.names.idxOf f.name ≠ place) :
    (w.act (.mutate change)).watcher? place
      = (w.watcher? place).map (Bridge.refresh (change w.registry.owner)) := by
  rw [watcher?, (act_mutate_eq_stage housed.attached change).2,
    World.watcher_stage (Nat.zero_le _) fun k f e _ _ => elsewhere k f e, watcher_stage_zero]

/-- A watcher that is refused under the name of another before it keeps the config. -/
theorem Refused.kept (h : w.Refused change place f e)
    (later : w.registry.bridge.names.idxOf f.name ≠ place) :
    (w.act (.mutate change)).watcher? place ≠ w.watcher? place := by
  obtain ⟨x, there, fires⟩ := h.exists_watcher
  rw [watcher_mutate housed, there]
  · exact fun same => Bridge.refresh_ne fires (Option.some.inj same)
  · -- whatever is restored there would have the same name
    intro k g e' refused same
    obtain ⟨bound, own⟩ := List.getElem?_eq_some_iff.1 h.name
    subst same
    rw [List.getElem_idxOf bound] at own
    exact later (own ▸ rfl)

theorem rests_mutate (change : α → α) {meanwhile : List (Incident α)}
    (quiet : ∀ i ∈ meanwhile, Quiet i) :
    (w.act (.mutate change)).Rests ((w.act (.mutate change)).through meanwhile) := by
  refine rests_through ?_ quiet
  obtain ⟨session, registry⟩ := act_mutate_eq_stage housed.attached change
  rw [session, registry]
  exact housed_stage housed change _

/-- A watcher that is refused and given its config back is refused again as long as it derives the
same. -/
theorem Refused.again (h : w.Refused change place f e)
    (restored : (w.act (.mutate change)).watcher? place = w.watcher? place) {later : World α}
    (rests : (w.act (.mutate change)).Rests later) {next : α → α}
    (same : configChanged f.new
      ((w.watcher? place).bind fun x => x.derive (next later.registry.owner)) = false) :
    ∃ new e', later.Refused next place { f with new } e' := by
  obtain ⟨x, there, fires⟩ := h.exists_watcher
  obtain ⟨c, derived, reason⟩ := h.exists_refusal housed
  have there' : later.watcher? place = some x := by
    rw [watcher?, rests.bridge]
    exact restored.trans there
  rw [there, Option.bind_some] at same
  -- it fires as before
  obtain ⟨changed, rfl⟩ := Bridge.fireOf_eq_some.1 fires
  have fires' : later.fireAt? next place = some
      { name := x.name, new := x.derive (next later.registry.owner), old := x.last } := by
    rw [fireAt?, there', Option.bind_some]
    exact Bridge.fireOf_eq_some.2 ⟨configChanged_of_same changed same, rfl⟩
  -- and it is refused again, as the name still has the method that it had
  rw [derived] at same
  obtain ⟨c', derived', method⟩ := method_of_unchanged same
  have continues : Registry.Continues (w.stage change place).1 (w.stage change place).2.1
      (later.stage next place).1 (later.stage next place).2.1 := by
    obtain ⟨session, registry⟩ := act_mutate_eq_stage housed.attached change
    have rest : Registry.Continues (w.stage change place).1 (w.stage change place).2.1 _ _ :=
      continues_stage (Nat.le_of_lt h.lt_length)
    rw [← session, ← registry] at rest
    exact rest.trans (rests.continues.trans (later.continues_begin next place))
  have housed' := housed_stage rests.housed next place
  obtain ⟨e', reason'⟩ :=
    (housed_stage housed change place).refused_later housed' continues method reason
  obtain ⟨e'', refused⟩ : ∃ e'', (later.stage next place).2.1.apply (later.stage next place).1
      x.name (some c') x.last = .error e'' := housed'.exists_error reason'
  rw [← derived'] at refused
  exact ⟨_, e'', fires', refused⟩

end Housed

/-- Without watchers nothing is refused. -/
theorem not_refused_of_empty (empty : w.registry.Empty) : ¬ w.Refused change place f e := by
  intro h
  have bound := h.lt_length
  rw [empty.watchers] at bound
  exact Nat.not_lt_zero _ bound

/-- **Refusals are reported again** exactly if every watcher that is refused is the first of its
name. This is so in particular if no two watchers have the same name. -/
theorem reportsAgain_iff (h : w.Attainable definitions) (change : α → α) :
    (w.ReportsAgain change ↔
      ∀ place f e, w.Refused change place f e → w.registry.bridge.names.idxOf f.name = place) ∧
    (w.registry.bridge.names.Nodup → w.ReportsAgain change) := by
  have reports (first : ∀ place f e, w.Refused change place f e →
      w.registry.bridge.names.idxOf f.name = place) : w.ReportsAgain change := by
    rcases h.housed with housed | empty
    · have restored {place : Nat} {f : WatcherFire} {e : ConfigError}
          (refused : w.Refused change place f e) := refused.restored housed first
      refine ⟨fun _ _ _ => restored, fun place accepted => ?_, ?_⟩
      · refine watcher_mutate housed fun k f e refused same => ?_
        exact accepted f e (same ▸ (first k f e refused).symm ▸ refused)
      · rintro place f e refused meanwhile quiet later rfl next same
        have rests := rests_mutate housed change quiet
        obtain ⟨new, e', again⟩ := refused.again housed (restored refused) rests same
        exact ⟨new, e', again, again.isSome_failed rests.housed.attached⟩
    · refine ⟨fun _ _ _ refused => absurd refused (not_refused_of_empty empty), fun _ _ => ?_,
        fun _ _ _ refused => absurd refused (not_refused_of_empty empty)⟩
      have after := empty_undergo empty (.deed (.mutate change))
      rw [watcher?, watcher?, empty.watchers]
      exact congrArg (·[_]?) after.watchers
  refine ⟨⟨fun again place f e refused => ?_, reports⟩, fun distinct => reports ?_⟩
  · have housed := h.housed.resolve_right fun empty => not_refused_of_empty empty refused
    by_contra later
    exact refused.kept housed later (again.restored place f e refused)
  · intro place f e refused
    obtain ⟨bound, own⟩ := List.getElem?_eq_some_iff.1 refused.name
    rw [← own, distinct.idxOf_getElem]

/-! ### Tickets that are listed or counted -/

/-- Tickets are counted when the owner says so, otherwise they are listed. -/
def countable : List (String × Definition Bool) :=
  [("tickets", .derived fun counts =>
    if counts then some { method := "count" } else some { method := "list" })]

/-- The same with two derivations: one lists the tickets, and one counts them when the owner says
so. -/
def doubled : List (String × Definition Bool) :=
  [("tickets", .derived fun _ => some { method := "list" }),
    ("tickets", .derived fun counts => if counts then some { method := "count" } else none)]

/-- The tickets are listed. -/
def listed (definitions : List (String × Definition Bool)) : World Bool :=
  match Registry.attach {} "desk" false definitions with
  | .ok (session, registry) => { session, registry }
  | .error _ => { session := {}, registry := { id := "desk", owner := false } }

/-- The only watcher of the name is refused, and is refused again at the next change. -/
theorem count_reported_again :
    let counted := (listed countable).act (.mutate fun _ => true)
    let list : Config := { method := "list" }
    let count : Config := { method := "count" }
    (listed countable).Attainable countable ∧
      (listed countable).Refused (fun _ => true) 0
        { name := "tickets", new := some count, old := some list }
        (.methodChanged "tickets" "list" "count") ∧
      (counted.registry.mutateOwner counted.session id).2.2.isSome := by
  intro counted list count
  have attached : Registry.attach {} "desk" false countable
      = .ok ((listed countable).session, (listed countable).registry) := rfl
  have attainable : (listed countable).Attainable countable :=
    .attach ⟨rfl, rfl, rfl, rfl⟩ attached
  have refused : (listed countable).Refused (fun _ => true) 0
      { name := "tickets", new := some count, old := some list }
      (.methodChanged "tickets" "list" "count") := ⟨rfl, rfl⟩
  have reports := (reportsAgain_iff attainable fun _ => true).2 (by decide)
  obtain ⟨_, _, _, failed⟩ := reports.again 0 _ _ refused [] (List.forall_mem_nil _) counted rfl id
    (by decide +kernel)
  exact ⟨attainable, refused, failed⟩

/-- The second watcher of a name is refused, and taken as applied at the next change. -/
theorem count_taken_as_applied :
    let counted := (listed doubled).act (.mutate fun _ => true)
    let count : Config := { method := "count" }
    (listed doubled).Attainable doubled ∧
      (listed doubled).Refused (fun _ => true) 1
        { name := "tickets", new := some count, old := none }
        (.methodChanged "tickets" "list" "count") ∧
      (counted.registry.mutateOwner counted.session id).2.2 = none ∧
      ¬ (listed doubled).ReportsAgain fun _ => true := by
  intro counted count
  have attached : Registry.attach {} "desk" false doubled
      = .ok ((listed doubled).session, (listed doubled).registry) := rfl
  have refused : (listed doubled).Refused (fun _ => true) 1
      { name := "tickets", new := some count, old := none }
      (.methodChanged "tickets" "list" "count") := ⟨rfl, rfl⟩
  have applied : (counted.registry.mutateOwner counted.session id).2.2 = none := rfl
  refine ⟨.attach ⟨rfl, rfl, rfl, rfl⟩ attached, refused, applied, fun reports => ?_⟩
  obtain ⟨_, _, _, failed⟩ := reports.again 1 _ _ refused [] (List.forall_mem_nil _) counted rfl id
    (by decide +kernel)
  rw [applied] at failed
  cases failed

end World

end ReactiveResource
