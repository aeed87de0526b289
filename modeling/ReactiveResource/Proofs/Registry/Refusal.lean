import ReactiveResource.Proofs.Registry.Incidents
import ReactiveResource.Proofs.Registry.Staleness
import ReactiveResource.Proofs.Session.Methods

/-!
# Configs that are refused

An operation that is refused returns no state, so nothing has changed then by its type. What is left
to say is that it can be carried out in place: one statement after another, each on what those
before it have left, and without a way back. Then whatever has been done before a failure stays
done. When a derived config has changed, the current fetch of its resource is cancelled before the
update, which may be refused. That it never is after a cancellation rests on the check before it,
and on all resources having a method.

* `Atomic`: carried out in place, an operation does all or nothing;
* `Resource.updateInPlace`, `Session.updateInPlace`, `World.applyInPlace`: the statements;
* `Resource.atomic_update`, `Session.atomic_update`, `World.atomic_apply`: they do all or nothing;
* `World.config_errors_atomic`: which configs are refused, and what has changed then.
-/

namespace ReactiveResource

open Keyed (value?)

/-- Carried out in place, an operation does to a state what it does as a whole; if it fails, nothing
has changed. -/
def Atomic {σ : Type} (inPlace : EStateM ConfigError σ Unit) (whole : σ → Except ConfigError σ)
    (s : σ) : Prop :=
  match whole s with
  | .ok s' => inPlace.run s = .ok () s'
  | .error e => inPlace.run s = .error e s

namespace Atomic

variable {σ : Type} {inPlace : EStateM ConfigError σ Unit} {whole : σ → Except ConfigError σ}
  {s s' : σ} {e : ConfigError}

theorem of_ok (accepted : whole s = .ok s') (done : inPlace.run s = .ok () s') :
    Atomic inPlace whole s := by
  rw [Atomic, accepted]
  exact done

theorem of_error (refused : whole s = .error e) (kept : inPlace.run s = .error e s) :
    Atomic inPlace whole s := by
  rw [Atomic, refused]
  exact kept

theorem run_of_ok (atomic : Atomic inPlace whole s) (accepted : whole s = .ok s') :
    inPlace.run s = .ok () s' := by
  rwa [Atomic, accepted] at atomic

theorem run_of_error (atomic : Atomic inPlace whole s) (refused : whole s = .error e) :
    inPlace.run s = .error e s := by
  rwa [Atomic, refused] at atomic

end Atomic

namespace Resource

variable {r : Resource} {config : Config}

/-- An update is refused exactly if the config has no method, or another one. -/
theorem exists_update_error_iff :
    (∃ e, r.update config = .error e) ↔
      Text.isBlank config.method = true ∨ config.method ≠ r.method := by
  have accepted : (∃ r', r.update config = .ok r') ↔ _ := exists_update_ok_iff
  constructor
  · rintro ⟨e, refused⟩
    by_contra none
    obtain ⟨blank, method⟩ := not_or.1 none
    obtain ⟨r', updated⟩ := accepted.2 ⟨by simpa using blank, not_not.1 method⟩
    cases refused.symm.trans updated
  · intro wrong
    cases updated : r.update config with
    | error e => exact ⟨e, rfl⟩
    | ok r' =>
      obtain ⟨named, method⟩ := accepted.1 ⟨r', updated⟩
      rcases wrong with blank | differs
      · cases named.symm.trans blank
      · exact absurd method differs

/-- The config is replaced, statement by statement. -/
def updateInPlace (config : Config) : EStateM ConfigError Resource Unit := do
  let r ← get
  if Text.isBlank config.method then throw (.missingMethod r.name)
  if config.method ≠ r.method then throw (.methodChanged r.name r.method config.method)
  let previous := r.data
  modify fun r => { r with data := none }
  modify fun r => { r with epoch := r.epoch + 1 }
  modify fun r => { r with config }
  modify clearResults
  if config.keepData && previous.isSome then
    modify fun r => { r with data := previous, stale := true }
  modify notify

theorem atomic_update (r : Resource) (config : Config) :
    Atomic (updateInPlace config) (·.update config) r := by
  by_cases blank : Text.isBlank config.method = true
  · exact .of_error (if_pos blank) (by simp [updateInPlace, blank])
  · by_cases method : r.method = config.method
    · have checked : ¬ config.method ≠ r.method := not_not_intro method.symm
      by_cases kept : (config.keepData && r.data.isSome) = true
      · refine .of_ok ((if_neg blank).trans ((if_neg checked).trans (if_pos kept))) ?_
        simp only [Bool.and_eq_true] at kept
        simp [updateInPlace, blank, method, kept]
        rfl
      · refine .of_ok ((if_neg blank).trans ((if_neg checked).trans (if_neg kept))) ?_
        simp only [Bool.and_eq_true] at kept
        simp [updateInPlace, blank, method, kept]
        rfl
    · refine .of_error ((if_neg blank).trans (if_pos (Ne.symm method))) ?_
      simp [updateInPlace, blank, Ne.symm method]

end Resource

namespace Session

variable {s : Session} {handle : Nat} {r : LiveResource} {config : Config}

/-- A resource that has not changed is not stored. -/
theorem store_self (there : s.resources[handle]? = some r) : s.store handle r = s := by
  have same : s.resources.set handle r = s.resources := by
    obtain ⟨bound, rfl⟩ := List.getElem?_eq_some_iff.1 there
    exact List.set_getElem_self bound
  rw [store, there, same]
  exact if_pos rfl

/-- An operation on one resource; what it has made of the resource stays, also if it fails. -/
def onResource (handle : Nat) (op : EStateM ConfigError Resource Unit) :
    EStateM ConfigError Session Unit := fun s =>
  match s.resources[handle]? with
  | none => .ok () s
  | some r =>
    match op.run r.resource with
    | .ok _ resource => .ok () (s.store handle { r with resource })
    | .error e resource => .error e (s.store handle { r with resource })

theorem run_onResource_of_ok {op : EStateM ConfigError Resource Unit} {resource : Resource}
    (there : s.resources[handle]? = some r) (done : op.run r.resource = .ok () resource) :
    (onResource handle op).run s = .ok () (s.store handle { r with resource }) := by
  rw [EStateM.run, onResource, there]
  simp only [done]

theorem run_onResource_of_error {op : EStateM ConfigError Resource Unit} {e : ConfigError}
    (there : s.resources[handle]? = some r) (kept : op.run r.resource = .error e r.resource) :
    (onResource handle op).run s = .error e s := by
  rw [EStateM.run, onResource, there]
  simp only [kept]
  rw [store_self there]

theorem run_onResource_of_none {op : EStateM ConfigError Resource Unit}
    (none : s.resources[handle]? = none) : (onResource handle op).run s = .ok () s := by
  rw [EStateM.run, onResource, none]

/-- The config of a resource is replaced in place; a config that fetches by itself starts a
fetch. -/
def updateInPlace (handle : Nat) (config : Config) : EStateM ConfigError Session Unit := do
  onResource handle (Resource.updateInPlace config)
  let s ← get
  if config.auto && s.resources[handle]?.any (!·.resource.retired) then
    modify (·.fetch handle)

theorem atomic_update (s : Session) (handle : Nat) (config : Config) :
    Atomic (updateInPlace handle config) (·.update handle config) s := by
  cases there : s.resources[handle]? with
  | none =>
    have accepted : s.update handle config = .ok s := by simp [update, there]
    exact .of_ok accepted (by simp [updateInPlace, run_onResource_of_none there, there])
  | some r =>
    have atomic := Resource.atomic_update r.resource config
    cases updated : r.resource.update config with
    | error e =>
      have kept := run_onResource_of_error there (atomic.run_of_error updated)
      refine .of_error (e := e) ?_ (by simp [updateInPlace, kept])
      simp [update, there, LiveResource.update, updated, Except.map]
    | ok resource =>
      have left := run_onResource_of_ok there (atomic.run_of_ok updated)
      have there' := resources_store_self s handle { r with resource } there
      refine .of_ok
        (by simp only [update, there, LiveResource.update, updated, Except.map]; rfl) ?_
      simp only [updateInPlace, EStateM.run_bind, left, EStateM.run_get, there', Option.any_some]
      by_cases fetches : (config.auto && !resource.retired) = true
      · simp only [if_pos fetches, EStateM.run_modify]
      · simp only [if_neg fetches, EStateM.run_pure]

theorem exists_update_error_iff (there : s.resources[handle]? = some r) :
    (∃ e, s.update handle config = .error e) ↔
      Text.isBlank config.method = true ∨ config.method ≠ r.resource.method := by
  rw [← Resource.exists_update_error_iff]
  cases updated : r.resource.update config <;>
    simp [update, there, LiveResource.update, updated, Except.map]

/-- A new resource, made in place. -/
def createInPlace (name : String) (config : Config) : EStateM ConfigError Session Nat := do
  if Text.isBlank config.method then throw (.missingMethod name)
  let handle := (← get).resources.length
  modify fun s => { s with
    resources := s.resources ++ [.fresh name config]
    named := Keyed.put s.named name handle }
  return handle

theorem run_createInPlace (s : Session) (name : String) (config : Config) :
    (createInPlace name config).run s =
      match s.create name config with
      | .ok (created, handle) => .ok handle created
      | .error e => .error e s := by
  cases blank : Text.isBlank config.method with
  | true => simp [createInPlace, create, Resource.create, blank, Except.map]
  | false =>
    simp [createInPlace, create, Resource.create, blank, Except.map]
    rfl

end Session

namespace World

variable {α β : Type} {w : World α} {definitions : List (String × Definition α)} {name : String}
  {new old : Option Config}

/-- An operation on the session of a world. -/
def onSession (op : EStateM ConfigError Session β) : EStateM ConfigError (World α) β := fun w =>
  match op.run w.session with
  | .ok x session => .ok x { w with session }
  | .error e session => .error e { w with session }

/-- A registry is told that the config of a name has changed. -/
def apply (name : String) (new old : Option Config) (w : World α) :
    Except ConfigError (World α) :=
  (w.registry.apply w.session name new old).map fun (session, registry) => { session, registry }

/-- A registry is told that the config of a name has changed, statement by statement. -/
def applyInPlace (name : String) (new old : Option Config) :
    EStateM ConfigError (World α) Unit := do
  let r := (← get).registry
  if r.attached then
    match new, value? r.resources name with
    | none, none => return
    | none, some handle =>
      onSession (modify (·.report [.debug ("Resource '" ++ name ++ "' withdrawn by its watcher")]))
      onSession (modify (·.cancel handle))
    | some config, none =>
      let handle ← onSession (Session.createInPlace name config)
      if config.auto then onSession (modify (·.fetch handle))
      modify fun w =>
        { w with registry.resources := Keyed.put w.registry.resources name handle }
    | some config, some handle =>
      match (← get).session.resources[handle]? with
      | none => return
      | some live =>
        if config.method ≠ live.resource.method then
          throw (.methodChanged name live.resource.method config.method)
        if old.any fun old => !old.structurallyEq config then
          onSession (modify (·.cancel handle))
        onSession (Session.updateInPlace handle config)

@[simp] theorem run_onSession_modify (w : World α) (f : Session → Session) :
    (onSession (modify f)).run w = .ok () { w with session := f w.session } := rfl

theorem run_onSession_of_ok {op : EStateM ConfigError Session β} {x : β} {s : Session}
    (done : op.run w.session = .ok x s) : (onSession op).run w = .ok x { w with session := s } := by
  rw [EStateM.run, onSession, done]

theorem run_onSession_of_error {op : EStateM ConfigError Session β} {e : ConfigError}
    (kept : op.run w.session = .error e w.session) : (onSession op).run w = .error e w := by
  rw [EStateM.run, onSession, kept]

/-- **A derived config takes effect as a whole or not at all**, when every name has a resource of
its own with a method. -/
theorem atomic_apply (housed : Registry.Housed w.session w.registry) (name : String)
    (new old : Option Config) : Atomic (applyInPlace name new old) (apply name new old) w := by
  have attached := housed.attached
  cases applied : w.registry.apply w.session name new old with
  | error e =>
    -- it is refused before anything is done, for the method alone
    obtain ⟨config, rfl, reason⟩ := Option.bind_eq_some_iff.1 (housed.refusal?_of_error applied)
    refine .of_error (e := e) (by rw [apply, applied]; rfl) ?_
    cases hv : value? w.registry.resources name with
    | none =>
      rw [Registry.live?_of_vacant hv, Registry.refusal?] at reason
      split at reason <;> cases reason
      next blank =>
        have refused : (Session.createInPlace name config).run w.session
            = .error (.missingMethod name) w.session := by simp [Session.createInPlace, blank]
        simp [applyInPlace, attached, hv, run_onSession_of_error refused]
    | some handle =>
      obtain ⟨live, there⟩ := housed.present hv
      rw [Registry.live?_of_given hv, there, Registry.refusal?] at reason
      split at reason <;> cases reason
      next differs => simp [applyInPlace, attached, hv, there, differs]
  | ok x =>
    obtain ⟨s, r⟩ := x
    have accepted : apply name new old w = .ok { session := s, registry := r } := by
      rw [apply, applied]
      rfl
    refine .of_ok accepted ?_
    cases Registry.apply_ok applied with
    | idle moot =>
      rcases moot attached with ⟨rfl, vacant⟩ | ⟨handle, given, gone⟩
      · simp [applyInPlace, attached, vacant]
      · obtain ⟨live, there⟩ := housed.present given
        cases gone.symm.trans there
    | withdraw _ _ given =>
      simp only [Registry.apply, attached, given, Bool.not_true, Bool.false_eq_true, if_false]
        at applied
      rw [← (Prod.mk.inj (Except.ok.inj applied)).1]
      simp [applyInPlace, attached, given]
    | @make config _ created handle _ vacant made =>
      have begun : (Session.createInPlace name config).run w.session = .ok handle created := by
        rw [Session.run_createInPlace, made]
      by_cases fetches : config.auto = true
      · simp [applyInPlace, attached, vacant, run_onSession_of_ok begun, fetches]
      · simp [applyInPlace, attached, vacant, run_onSession_of_ok begun, fetches]
    | @replace config _ handle live updated _ given there method taken =>
      by_cases differs : old.any (fun old => !old.structurallyEq config) = true
      · rw [if_pos differs] at taken
        have done := run_onSession_of_ok
          (w := { w with session := w.session.cancel handle })
          ((Session.atomic_update (w.session.cancel handle) handle config).run_of_ok taken)
        simp [applyInPlace, attached, given, there, method, differs, done]
      · rw [if_neg differs] at taken
        have done := run_onSession_of_ok
          ((Session.atomic_update w.session handle config).run_of_ok taken)
        simp [applyInPlace, attached, given, there, method, differs, done]

/-- A registry that is attached refuses a config that has another method than the resource of the
name, and one without a method if there is no such resource. -/
theorem exists_apply_error_iff (housed : Registry.Housed w.session w.registry) :
    (∃ e, apply name new old w = .error e) ↔ ∃ config, new = some config ∧
      ((∃ live, w.live? name = some live ∧ config.method ≠ live.resource.method) ∨
        w.live? name = none ∧ Text.isBlank config.method = true) := by
  have reasons (config : Config) :
      (∃ e, Registry.refusal? name (w.live? name) config = some e) ↔
        (∃ live, w.live? name = some live ∧ config.method ≠ live.resource.method) ∨
          w.live? name = none ∧ Text.isBlank config.method = true := by
    cases w.live? name <;> simp [Registry.refusal?]
  constructor
  · rintro ⟨e, refused⟩
    cases applied : w.registry.apply w.session name new old with
    | ok x =>
      rw [apply, applied] at refused
      cases refused
    | error e =>
      obtain ⟨config, same, reason⟩ := Option.bind_eq_some_iff.1 (housed.refusal?_of_error applied)
      exact ⟨config, same, (reasons config).1 ⟨e, reason⟩⟩
  · rintro ⟨config, rfl, reason⟩
    obtain ⟨e, reason⟩ := (reasons config).2 reason
    cases applied : w.registry.apply w.session name (some config) old with
    | error e => exact ⟨e, by rw [apply, applied]; rfl⟩
    | ok x =>
      obtain ⟨s, r⟩ := x
      cases reason.symm.trans (housed.refusal?_of_ok applied)

/-! ### Methods -/

theorem Attainable.hasMethods (h : w.Attainable definitions) : w.session.HasMethods := by
  induction h with
  | @attach s _ _ _ _ vacant attached =>
    refine (Session.spans_founds.attach attached).hasMethods vacant.attended.orderly ?_
    intro i r there
    rw [vacant.resources] at there
    cases there
  | @undergo w before i ih =>
    have founds : w.session.Founds (w.undergo i).session := by
      rcases w.step_or_spans Session.spans_founds i with ⟨step, rfl⟩ | founds
      · exact Session.founds_step w.session step
      · exact founds
    exact founds.hasMethods before.born.orderly ih

theorem Attainable.signed (h : w.Attainable definitions) : w.session.Signed := by
  induction h with
  | attach vacant attached =>
    exact vacant.signed.beside vacant.attended.orderly (Session.spans_beside.attach attached)
  | @undergo w before i ih =>
    rcases w.step_or_beside i with ⟨step, rfl⟩ | beside
    · exact ih.step before.born step
    · exact ih.beside before.born.orderly beside

/-- A resource has a method, which is that of the config that it was created with. It keeps the
method whatever happens, and its calls are made with it. -/
structure KeepsMethod (w : World α) (handle : Nat) (live : LiveResource) : Prop where
  named : Text.isBlank live.resource.method = false
  created : ∃ name config actions, live = (LiveResource.fresh name config).after actions ∧
    live.resource.method = config.method
  kept : ∀ incidents later, (w.through incidents).session.resources[handle]? = some later →
    later.resource.method = live.resource.method
  calls : ∀ id n call, w.session.Made handle id n call → call.method = live.resource.method

theorem Attainable.keepsMethod (h : w.Attainable definitions) {handle : Nat} {live : LiveResource}
    (there : w.session.resources[handle]? = some live) : w.KeepsMethod handle live where
  named := h.hasMethods handle live there
  created := by
    obtain ⟨name, config, actions, rfl⟩ := h.born handle live there
    have orderly := LiveResource.orderly_fresh name config
    exact ⟨name, config, actions, rfl, orderly.method_after actions⟩
  kept incidents _ later := (w.evolves_through incidents).method h.born.orderly there later
  calls id n call made := by
    obtain ⟨r, there', method⟩ := h.signed.own made
    cases there.symm.trans there'
    exact method

/-- **Errors in configs change nothing, and methods never change.** Every resource has a method,
which it keeps and calls. An update is refused exactly if its config has no method or another one. A
registry that is attached refuses exactly the configs with another method than the resource that
they are for, and those without a method if there is no resource. Carried out in place, both do all
or nothing. -/
theorem config_errors_atomic (h : w.Attainable definitions) :
    (∀ handle live, w.session.resources[handle]? = some live → w.KeepsMethod handle live) ∧
    (∀ (s : Session) handle live config, s.resources[handle]? = some live →
      ((∃ e, s.update handle config = .error e) ↔
        Text.isBlank config.method = true ∨ config.method ≠ live.resource.method) ∧
      Atomic (Session.updateInPlace handle config) (·.update handle config) s) ∧
    (w.registry.attached = true → ∀ name new old,
      ((∃ e, apply name new old w = .error e) ↔ ∃ config, new = some config ∧
        ((∃ live, w.live? name = some live ∧ config.method ≠ live.resource.method) ∨
          w.live? name = none ∧ Text.isBlank config.method = true)) ∧
      Atomic (applyInPlace name new old) (apply name new old) w) := by
  refine ⟨fun handle live => h.keepsMethod, fun s handle live config there => ?_,
    fun attached name new old => ?_⟩
  · exact ⟨Session.exists_update_error_iff there, Session.atomic_update s handle config⟩
  · have housed : Registry.Housed w.session w.registry := by
      refine h.housed.resolve_right fun empty => ?_
      cases attached.symm.trans empty.detached
    exact ⟨exists_apply_error_iff housed, atomic_apply housed name new old⟩

/-- While the tickets are being fetched with one method, a config with another one is refused, and
the fetch goes on. -/
theorem other_method_refused :
    let other : Config := { method := "count", params := [("team", .str "b")] }
    let old : Config := { method := "list", params := [("team", .str "a")] }
    ticketsUnderWay.Attainable tickets ∧ ticketsUnderWay.registry.attached = true ∧
      (∃ call, ticketsUnderWay.session.Made 0 0 0 call ∧ call.method = "list") ∧
      (applyInPlace "tickets" (some other) (some old)).run ticketsUnderWay
        = .error (.methodChanged "tickets" "list" "count") ticketsUnderWay := by
  intro other old
  have attainable : ticketsUnderWay.Attainable tickets :=
    (reachable_ticketsOf.after _).attainable
  have errors := config_errors_atomic attainable
  refine ⟨attainable, rfl, ⟨_, ⟨rfl, rfl⟩, (errors.1 0 _ rfl).calls 0 0 _ ⟨rfl, rfl⟩⟩, ?_⟩
  refine (errors.2.2 rfl "tickets" (some other) (some old)).2.run_of_error ?_
  rfl

end World

end ReactiveResource
