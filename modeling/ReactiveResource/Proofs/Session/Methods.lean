import ReactiveResource.Proofs.Resource.Warrant
import ReactiveResource.Proofs.Session.Course
import ReactiveResource.Proofs.Session.Hearing
import ReactiveResource.Proofs.Session.Routine

/-!
# The methods of resources and of their calls

A resource is created with a config that has a method, and keeps this method whatever happens to it.
Every call that a gateway has on record was made with the method of the resource for which it was
made.

* `Session.Founds`, `spans_founds`, `founds_step`: new resources have a method;
* `Session.HasMethods`, `Founds.hasMethods`: all resources have one;
* `Session.Signed`, `Signed.step`: the calls on record have the methods of their resources.
-/

namespace ReactiveResource

/-- Every call of a resource has the method with which the resource was created. -/
theorem LiveResource.method_of_call {name : String} {config : Config} {run : List Action}
    {a : Action} {id : Nat} {method : String} {args : Json}
    (called : .call id method args ∈ (((fresh name config).after run).act a).2) :
    method = config.method := by
  have orderly := orderly_fresh name config
  obtain ⟨c, t, warrant⟩ := (traced_after name config run).warrant (orderly.after run) called
  obtain ⟨before, b, later, -, draws, -⟩ := warrant.drawn
  calc method = c.method := warrant.method
    _ = ((fresh name config).after before).resource.method :=
        (Config.method_of_bare draws.config).symm
    _ = config.method := orderly.method_after before

namespace Session

variable {s s' s'' : Session} {handle : Nat}

/-! ### New resources -/

/-- Every resource has undergone a run of actions, and those that are new have a method. -/
structure Founds (s s' : Session) : Prop where
  evolves : s.Evolves (fun _ => True) s'
  named : ∀ {h : Nat} {r : LiveResource}, s'.resources[h]? = some r → s.resources[h]? = none →
    Text.isBlank r.resource.method = false

/-- An operation that makes no resource. -/
theorem Founds.of_unfolds {heard : List Hearing} {actions : Nat → List Action}
    (h : s.Unfolds heard actions s') : s.Founds s' := by
  have absent {i : Nat} {r : LiveResource} (there : s'.resources[i]? = some r)
      (new : s.resources[i]? = none) : False := by
    rw [h.resources, new] at there
    cases there
  refine ⟨⟨fun {i r} there => ?_, fun there new => (absent there new).elim⟩,
    fun there new => (absent there new).elim⟩
  exact ⟨actions i, fun _ _ => trivial, by rw [h.resources, there]; rfl⟩

theorem Founds.trans (h : s.Founds s') (h' : s'.Founds s'') : s.Founds s'' where
  evolves := h.evolves.trans h'.evolves
  named {i r} there new := by
    cases middle : s'.resources[i]? with
    | none => exact h'.named there middle
    | some x =>
      -- it was new before, and has kept its method since
      obtain ⟨name, config, actions, -, rfl⟩ := h.evolves.new middle new
      obtain ⟨later, -, same⟩ := h'.evolves.old middle
      cases there.symm.trans same
      rw [((LiveResource.orderly_fresh name config).after actions).method_after later]
      exact h.named middle new

theorem Founds.create {name : String} {config : Config} {s' : Session}
    (made : s.create name config = .ok (s', handle)) : s.Founds s' where
  evolves := (beside_create made).evolves.mono fun _ _ => trivial
  named {i r} there new := by
    obtain ⟨named, -, rfl⟩ := create_ok made
    change (s.resources ++ [_])[i]? = some r at there
    rw [List.getElem?_append_right (List.getElem?_eq_none_iff.1 new)] at there
    cases List.mem_singleton.1 (List.mem_of_getElem? there)
    exact named

/-- **New resources have a method**, across all operations. -/
theorem spans_founds : Spans Founds where
  refl s := .of_unfolds (.refl s)
  trans := .trans
  report s entries := .of_unfolds (unfolds_report s entries)
  record s o := .of_unfolds (unfolds_record s o)
  fetch s handle _ := .of_unfolds (unfolds_fetch s handle)
  cancel s handle _ := .of_unfolds (unfolds_cancel s handle)
  reset s handle _ := .of_unfolds (unfolds_reset s handle)
  retire s handle _ := .of_unfolds (unfolds_retire s handle)
  listen s handle kind once listener _ := .of_unfolds (unfolds_listen s handle kind once listener)
  create := .create
  spawn s handle override := .of_unfolds (unfolds_spawn s handle override)
  update {s handle config s'} updated := by
    have unfolds := unfolds_update s handle config
    rw [updated] at unfolds
    exact .of_unfolds unfolds

theorem founds_step (s : Session) (step : Step) : s.Founds (s.step step) := by
  by_cases made : ∃ name config, step = .create name config
  · obtain ⟨name, config, rfl⟩ := made
    exact spans_founds.step s not_false
  · exact .of_unfolds (unfolds_step s fun name config same => made ⟨name, config, same⟩)

/-- Every resource has a method. -/
def HasMethods (s : Session) : Prop :=
  ∀ (h : Nat) (r : LiveResource), s.resources[h]? = some r → Text.isBlank r.resource.method = false

theorem Founds.hasMethods (h : s.Founds s') (orderly : s.Orderly) (methods : s.HasMethods) :
    s'.HasMethods := by
  intro i r' there
  cases before : s.resources[i]? with
  | none => exact h.named there before
  | some r =>
    rw [h.evolves.method orderly before there]
    exact methods i r before

/-! ### Calls -/

/-- Every call on record has the method of the resource whose attempt has made it. -/
structure Signed (s : Session) : Prop where
  lengths : s.callers.length = s.script.calls.length
  own : ∀ {h id n : Nat} {c : Gateway.Call}, s.Made h id n c →
    ∃ r, s.resources[h]? = some r ∧ c.method = r.resource.method

theorem Vacant.signed (vacant : s.Vacant) : s.Signed where
  lengths := by rw [vacant.callers, vacant.calls]; rfl
  own made := by
    have caller := made.1
    rw [vacant.callers] at caller
    cases caller

/-- Resources keep their methods, and the calls on record are those that were there before. -/
theorem Signed.evolves {P : Action → Prop} (signed : s.Signed) (orderly : s.Orderly)
    (evolves : s.Evolves P s') (lengths : s'.callers.length = s'.script.calls.length)
    (made : ∀ {h id n c}, s'.Made h id n c → ∃ c', s.Made h id n c' ∧ c.method = c'.method) :
    s'.Signed where
  lengths := lengths
  own called := by
    obtain ⟨c', before, same⟩ := made called
    obtain ⟨r, there, method⟩ := signed.own before
    obtain ⟨actions, -, there'⟩ := evolves.old there
    exact ⟨_, there', same.trans (method.trans (evolves.method orderly there there').symm)⟩

theorem Signed.unrecorded {P : Action → Prop} (signed : s.Signed) (orderly : s.Orderly)
    (evolves : s.Evolves P s') (callers : s'.callers = s.callers)
    (calls : s'.script.calls = s.script.calls) : s'.Signed :=
  signed.evolves orderly evolves (by rw [callers, calls, signed.lengths])
    fun {_ _ _ c} made => ⟨c, ⟨callers ▸ made.1, calls ▸ made.2⟩, rfl⟩

theorem Signed.still (signed : s.Signed) (orderly : s.Orderly)
    (resources : s'.resources = s.resources) (callers : s'.callers = s.callers)
    (calls : s'.script.calls = s.script.calls) : s'.Signed :=
  signed.unrecorded orderly (.of_resources (P := fun _ => True) resources) callers calls

theorem Signed.beside (signed : s.Signed) (orderly : s.Orderly) (beside : s.Beside s') :
    s'.Signed := signed.unrecorded orderly beside.evolves beside.callers beside.calls

/-- One more call is recorded. -/
theorem Signed.called (signed : s.Signed) {id : Nat} {c : Gateway.Call} {r : LiveResource}
    (called : s.Called handle id c s') (there : s.resources[handle]? = some r)
    (method : c.method = r.resource.method) : s'.Signed where
  lengths := by simp [called.callers, called.calls, signed.lengths]
  own {h i n d} made := by
    obtain ⟨caller, call⟩ := made
    rw [called.callers] at caller
    rw [called.calls] at call
    rw [called.resources]
    by_cases old : n < s.callers.length
    · rw [List.getElem?_append_left old] at caller
      rw [List.getElem?_append_left (signed.lengths ▸ old)] at call
      exact signed.own ⟨caller, call⟩
    · rw [List.getElem?_append_right (by omega)] at caller
      rw [List.getElem?_append_right (by rw [← signed.lengths]; omega)] at call
      cases List.mem_singleton.1 (List.mem_of_getElem? caller)
      cases List.mem_singleton.1 (List.mem_of_getElem? call)
      exact ⟨r, there, method⟩

/-- What an attempt wants is done, and its calls have the method of its resource. -/
theorem Signed.perform (signed : s.Signed) (orderly : s.Orderly) {r : LiveResource}
    (there : s.resources[handle]? = some r) {e : Effect}
    (method : ∀ id method args, e = .call id method args → method = r.resource.method) :
    (perform handle s e).Signed := by
  cases e with
  | call id m args =>
    obtain ⟨c, same, -, called⟩ := called_perform s handle id m args
    exact signed.called called there (same.trans (method id m args rfl))
  | ask | sleep => exact signed.still orderly rfl rfl rfl
  | _ => exact signed.beside orderly (beside_perform handle s not_false)

theorem Signed.performAll (signed : s.Signed) (orderly : s.Orderly) {m : String}
    (there : ∃ r, s.resources[handle]? = some r ∧ r.resource.method = m) {effects : List Effect}
    (method : ∀ id method args, .call id method args ∈ effects → method = m) :
    (effects.foldl (Session.perform handle) s).Signed := by
  induction effects generalizing s with
  | nil => exact signed
  | cons e rest ih =>
    obtain ⟨r, hr, rfl⟩ := there
    have evolves := evolves_perform handle s e
    obtain ⟨actions, -, hr'⟩ := evolves.old hr
    refine ih (signed.perform orderly hr fun id _ args same => ?_) (evolves.orderly orderly)
      ⟨_, hr', evolves.method orderly hr hr'⟩
      fun id method' args mem => method id method' args (List.mem_cons_of_mem e mem)
    exact method id _ args (same ▸ List.mem_cons_self)

theorem Signed.turn (signed : s.Signed) (born : s.Born) (place : Nat) : (s.turn place).Signed := by
  have orderly := born.orderly
  cases turns s place with
  | nobody left => rwa [left]
  | waiter _ left =>
    rw [left]
    exact signed.still orderly rfl rfl rfl
  | stray _ _ left =>
    rw [left]
    exact signed.still orderly rfl rfl rfl
  | @attempt h id signal r _ there left =>
    rw [left]
    have taken : s.Evolves (fun _ => True) { s with ready := s.ready.eraseIdx place } :=
      .of_resources rfl
    have stored := Evolves.store (P := fun _ => True)
      (s := { s with ready := s.ready.eraseIdx place }) (a := .advance s.moment id signal)
      there trivial
    have moved := taken.trans stored
    have there' := resources_store_self { s with ready := s.ready.eraseIdx place } h
      (r.act (.advance s.moment id signal)).1 there
    refine Signed.performAll (m := r.resource.method)
      (signed.unrecorded orderly moved (callers_store _ _ _)
        (congrArg Gateway.Script.calls (script_store _ _ _))) (moved.orderly orderly)
      ⟨_, there', moved.method orderly there there'⟩ fun i method args called => ?_
    obtain ⟨name, config, run, rfl⟩ := born h r there
    rw [(LiveResource.orderly_fresh name config).method_after run]
    have same : method = config.method :=
      LiveResource.method_of_call (a := .advance s.moment id signal) called
    exact same

theorem Signed.resolve (signed : s.Signed) (orderly : s.Orderly) (n : Nat) (reply : Reply) :
    (s.resolve n reply).1.Signed := by
  rcases resolve_cases signed.lengths n reply with same | ⟨h, id, c, resolved⟩
  · rwa [same]
  · refine signed.evolves orderly (.of_resources (P := fun _ => True) resolved.resources) ?_ ?_
    · rw [resolved.callers, resolved.calls, List.length_modify, signed.lengths]
    · intro i j k d made
      obtain ⟨caller, call⟩ := made
      rw [resolved.callers] at caller
      rw [resolved.calls, List.getElem?_modify] at call
      simp only [Option.map_eq_map, Option.map_eq_some_iff] at call
      obtain ⟨d', before, same⟩ := call
      refine ⟨d', ⟨caller, before⟩, ?_⟩
      rw [← same]
      split <;> rfl

/-- **The calls on record have the methods of their resources**, after every step. -/
theorem Signed.step (signed : s.Signed) (born : s.Born) (step : Step) : (s.step step).Signed := by
  have orderly := born.orderly
  by_cases passive : step.Passive
  · cases step with
    | turn place => exact signed.turn born place
    | resolve call reply => exact signed.resolve orderly call reply
    | release slot message =>
      have still := still_release s slot message
      refine signed.still orderly still.resources still.callers ?_
      show (s.release slot message).1.script.calls = _
      rw [release]
      split <;> rfl
    | await handle state => exact signed.beside orderly (beside_await s handle state)
    | elapse | setGate | push => exact signed.still orderly rfl rfl rfl
    | _ => exact passive.elim
  · exact signed.beside orderly (spans_beside.step s passive)

end Session

end ReactiveResource
