import ReactiveResource.Proofs.Loop
import ReactiveResource.Proofs.Session.Attended
import ReactiveResource.Registry.Basic

/-!
# Runs of a registry

A registry and the session that it uses change together: the owner's state is changed, and in
between anything may happen in the session. To the resources, all that a registry does comes from
outside.

* `World`, `Deed`, `World.after`: a registry with its session, what happens to them, and what comes
  of it;
* `World.Reachable`: the worlds that begin with an attached registry;
* `Registry.Applies`, `apply_ok`: what becomes of a name when another config is derived for it;
* `Spans.mutateOwner` and others: what holds across the operations on a session holds across those
  of a registry.
-/

namespace ReactiveResource

namespace Registry

variable {α : Type} {s s' : Session} {r r' : Registry α}

theorem define_ok {name : String} {config : Config} (h : define s r name config = .ok (s', r')) :
    ∃ handle, s.create name config = .ok (s', handle) ∧
      r' = { r with resources := Keyed.put r.resources name handle } := by
  rw [define] at h
  cases hc : s.create name config with
  | error e => rw [hc] at h; cases h
  | ok x =>
    rw [hc] at h
    cases h
    exact ⟨x.2, rfl, rfl⟩

/-- What becomes of a name when another config is derived for it. -/
inductive Applies (s : Session) (r : Registry α) (name : String) :
    Option Config → Option Config → Session → Registry α → Prop
  /-- There is nothing to withdraw, or no resource behind the name. -/
  | idle {new old : Option Config}
      (moot : r.attached = true → (new = none ∧ Keyed.value? r.resources name = none) ∨
        ∃ handle, Keyed.value? r.resources name = some handle ∧ s.resources[handle]? = none) :
      Applies s r name new old s r
  /-- The resource is kept without a config. -/
  | withdraw {old : Option Config} {handle : Nat} (entries : List LogEntry)
      (attached : r.attached = true) (given : Keyed.value? r.resources name = some handle) :
      Applies s r name none old ((s.report entries).cancel handle) r
  /-- A first config makes the resource. -/
  | make {config : Config} {old : Option Config} {created : Session} {handle : Nat}
      (attached : r.attached = true) (vacant : Keyed.value? r.resources name = none)
      (made : s.create name config = .ok (created, handle)) :
      Applies s r name (some config) old
        (if config.auto then created.fetch handle else created)
        { r with resources := Keyed.put r.resources name handle }
  /-- A config takes the place of the one that the watcher remembers. -/
  | replace {config : Config} {old : Option Config} {handle : Nat} {live : LiveResource}
      {updated : Session} (attached : r.attached = true)
      (given : Keyed.value? r.resources name = some handle)
      (there : s.resources[handle]? = some live) (method : config.method = live.resource.method)
      (taken : (if old.any fun old => !old.structurallyEq config then s.cancel handle
        else s).update handle config = .ok updated) :
      Applies s r name (some config) old updated r

theorem apply_ok {name : String} {new old : Option Config}
    (h : r.apply s name new old = .ok (s', r')) : Applies s r name new old s' r' := by
  rw [apply] at h
  by_cases ha : r.attached = true
  · rw [if_neg (by simp [ha])] at h
    cases new with
    | none =>
      cases hv : Keyed.value? r.resources name with
      | none =>
        rw [hv] at h
        cases h
        exact .idle fun _ => .inl ⟨rfl, hv⟩
      | some handle =>
        rw [hv] at h
        cases h
        exact .withdraw _ ha hv
    | some config =>
      cases hv : Keyed.value? r.resources name with
      | none =>
        rw [hv] at h
        simp only at h
        cases hc : s.create name config with
        | error e => rw [hc] at h; cases h
        | ok x =>
          rw [hc] at h
          cases h
          exact .make ha hv hc
      | some handle =>
        rw [hv] at h
        simp only at h
        cases hr : s.resources[handle]? with
        | none =>
          rw [hr] at h
          cases h
          exact .idle fun _ => .inr ⟨handle, hv, hr⟩
        | some live =>
          rw [hr] at h
          simp only at h
          by_cases hm : config.method = live.resource.method
          · rw [if_neg (by simp [hm])] at h
            cases hu : Session.update _ handle config with
            | error e => rw [hu] at h; cases h
            | ok updated =>
              rw [hu] at h
              cases h
              exact .replace ha hv hr hm hu
          · rw [if_pos hm] at h
            cases h
  · rw [if_pos (by simp [ha])] at h
    cases h
    exact .idle fun attached => absurd attached ha

/-- Of a registry only the resources change. -/
theorem registry_apply {name : String} {new old : Option Config}
    (h : r.apply s name new old = .ok (s', r')) : r' = { r with resources := r'.resources } := by
  cases apply_ok h <;> rfl

/-- A config with the method of the resource is accepted. -/
theorem exists_apply_ok {name : String} {config : Config} {old : Option Config} {handle : Nat}
    {live : LiveResource} (hv : Keyed.value? r.resources name = some handle)
    (hr : s.resources[handle]? = some live) (named : Text.isBlank config.method = false)
    (method : config.method = live.resource.method) :
    ∃ s' r', r.apply s name (some config) old = .ok (s', r') := by
  have updated (b : Bool) :
      ∃ s', (if b then s.cancel handle else s).update handle config = .ok s' := by
    cases b with
    | true => exact Session.exists_update_ok (Session.resources_cancel hr) named method
    | false => exact Session.exists_update_ok hr named method
  obtain ⟨s', hu⟩ := updated (old.any fun old => !old.structurallyEq config)
  rw [apply]
  cases r.attached with
  | false => exact ⟨_, _, rfl⟩
  | true =>
    simp only [Bool.not_true, Bool.false_eq_true, if_false, hv, hr, if_neg (not_not_intro method),
      hu]
    exact ⟨_, _, rfl⟩

/-- A first config with a method is accepted. -/
theorem exists_apply_ok_of_vacant {name : String} {config : Config} {old : Option Config}
    (hv : Keyed.value? r.resources name = none) (named : Text.isBlank config.method = false) :
    ∃ s' r', r.apply s name (some config) old = .ok (s', r') := by
  obtain ⟨created, hc⟩ := Session.create_of_method s name named
  rw [apply]
  cases r.attached with
  | false => exact ⟨_, _, rfl⟩
  | true =>
    simp only [Bool.not_true, Bool.false_eq_true, if_false, hv, hc]
    exact ⟨_, _, rfl⟩

/-- A registry that is attached stays so while its watchers fire. -/
theorem attached_respond (state : Session × Registry α × Option ConfigError) (f : WatcherFire) :
    (respond state f).2.1.attached = state.2.1.attached := by
  obtain ⟨s, r, failed⟩ := state
  obtain ⟨name, new, old⟩ := f
  rw [respond]
  simp only
  split
  · next applied => rw [registry_apply applied]
  · rfl

theorem attached_responds (state : Session × Registry α × Option ConfigError)
    (fires : List WatcherFire) :
    (fires.foldl respond state).2.1.attached = state.2.1.attached := by
  induction fires generalizing state with
  | nil => rfl
  | cons f rest ih => exact (ih _).trans (attached_respond state f)

/-- What an attached registry has gone through. -/
theorem attach_ok {id : String} {owner : α} {definitions : List (String × Definition α)}
    (h : attach s id owner definitions = .ok (s', r')) :
    ∃ declared introduced entries, definitions.foldlM declare (s, { id, owner }) = .ok declared ∧
      (declared.2.bridge.evaluate owner).2.foldlM introduce
          (declared.1.report (fireReport (declared.2.bridge.evaluate owner).2),
            { declared.2 with bridge := (declared.2.bridge.evaluate owner).1 })
        = .ok introduced ∧
      r' = introduced.2 ∧ s' = introduced.2.resources.foldl (fun s x => autoFetch s x.2)
        (introduced.1.report entries) := by
  rw [attach] at h
  cases hd : definitions.foldlM declare (s, ({ id, owner } : Registry α)) with
  | error e => rw [hd] at h; cases h
  | ok declared =>
    rw [hd] at h
    obtain ⟨s₁, r₁⟩ := declared
    simp only [bind, Except.bind] at h
    cases hi : (r₁.bridge.evaluate owner).2.foldlM introduce
        (s₁.report (fireReport (r₁.bridge.evaluate owner).2),
          { r₁ with bridge := (r₁.bridge.evaluate owner).1 }) with
    | error e => rw [hi] at h; cases h
    | ok introduced =>
      rw [hi] at h
      cases h
      exact ⟨(s₁, r₁), introduced, _, rfl, hi, rfl, rfl⟩

end Registry

/-! ### What a registry does to its session -/

namespace Session.Spans

variable {R : Session → Session → Prop} {α : Type} {s s' : Session} {r r' : Registry α}

theorem define (spans : Spans R) {name : String} {config : Config}
    (h : Registry.define s r name config = .ok (s', r')) : R s s' := by
  obtain ⟨handle, made, -⟩ := Registry.define_ok h
  exact spans.create made

/-- Another config is derived for a name. -/
theorem apply (spans : Spans R) {name : String} {new old : Option Config}
    (h : r.apply s name new old = .ok (s', r')) : R s s' := by
  cases Registry.apply_ok h with
  | idle => exact spans.refl s
  | withdraw entries => exact spans.trans (spans.report s entries) (spans.cancel _ trivial)
  | make _ _ made =>
    have made := spans.create made
    split
    · exact spans.trans made (spans.fetch _ trivial)
    · exact made
  | replace _ _ _ _ taken =>
    split at taken
    · exact spans.trans (spans.cancel s trivial) (spans.update taken)
    · exact spans.update taken

theorem respond (spans : Spans R) (state : Session × Registry α × Option ConfigError)
    (f : WatcherFire) : R state.1 (Registry.respond state f).1 := by
  obtain ⟨s, r, failed⟩ := state
  rw [Registry.respond]
  simp only
  split
  · next applied => exact spans.apply applied
  · exact spans.report s _

theorem responds (spans : Spans R) (state : Session × Registry α × Option ConfigError)
    (fires : List WatcherFire) : R state.1 (fires.foldl Registry.respond state).1 := by
  induction fires generalizing state with
  | nil => exact spans.refl _
  | cons f rest ih => exact spans.trans (spans.respond state f) (ih _)

theorem mutateOwner (spans : Spans R) (s : Session) (r : Registry α) (change : α → α) :
    R s (r.mutateOwner s change).1 := by
  rw [Registry.mutateOwner]
  simp only
  split
  · exact spans.refl s
  · exact spans.trans (spans.report s _) (spans.responds (_, _, _) _)

theorem detach (spans : Spans R) (s : Session) (r : Registry α) : R s (r.detach s).1 := by
  rw [Registry.detach]
  split
  · exact spans.refl s
  · exact spans.trans (spans.foldl (fun s _ => spans.retire s trivial) s r.resources)
      (spans.report _ _)

theorem autoFetch (spans : Spans R) (s : Session) (handle : Nat) :
    R s (Registry.autoFetch s handle) := by
  rw [Registry.autoFetch]
  split
  · split
    · exact spans.fetch s trivial
    · exact spans.refl s
  · exact spans.refl s

theorem declare (spans : Spans R) {state state' : Session × Registry α}
    {definition : String × Definition α} (h : Registry.declare state definition = .ok state') :
    R state.1 state'.1 := by
  obtain ⟨s, r⟩ := state
  obtain ⟨name, fixed | derived⟩ := definition
  · exact spans.define h
  · cases h
    exact spans.refl s

theorem introduce (spans : Spans R) {state state' : Session × Registry α} {f : WatcherFire}
    (h : Registry.introduce state f = .ok state') : R state.1 state'.1 := by
  rw [Registry.introduce] at h
  split at h
  · exact spans.define h
  · cases h
    exact spans.refl _

theorem attach (spans : Spans R) {id : String} {owner : α}
    {definitions : List (String × Definition α)}
    (h : Registry.attach s id owner definitions = .ok (s', r')) : R s s' := by
  obtain ⟨declared, introduced, entries, hd, hi, -, rfl⟩ := Registry.attach_ok h
  have first : R s declared.1 := foldlM_ok (P := fun state => R s state.1)
    (fun _ _ _ _ before h => spans.trans before (spans.declare h)) (spans.refl s) hd
  have second : R s introduced.1 := foldlM_ok (P := fun state => R s state.1)
    (fun _ _ _ _ before h => spans.trans before (spans.introduce h))
    (spans.trans first (spans.report _ _)) hi
  exact spans.trans (spans.trans second (spans.report _ _))
    (spans.foldl (fun s (x : String × Nat) => spans.autoFetch s x.2) _ _)

end Session.Spans

/-! ### Worlds -/

/-- A registry and the session that it uses. -/
structure World (α : Type) where
  session : Session
  registry : Registry α

/-- What happens to a registry and its session: a step of the session, a change of the owner's
state, or the end of the registry. -/
inductive Deed (α : Type) where
  | step (step : Session.Step)
  | mutate (change : α → α)
  | detach

namespace World

variable {α : Type}

/-- The world after a deed. -/
def act (w : World α) : Deed α → World α
  | .step step => { w with session := w.session.step step }
  | .mutate change =>
    { session := (w.registry.mutateOwner w.session change).1
      registry := (w.registry.mutateOwner w.session change).2.1 }
  | .detach =>
    { session := (w.registry.detach w.session).1
      registry := (w.registry.detach w.session).2 }

/-- The world after some deeds. -/
def after (w : World α) (deeds : List (Deed α)) : World α := deeds.foldl act w

/-- The worlds that a registry with some definitions may come to, if nothing has happened in the
session before. -/
inductive Reachable (definitions : List (String × Definition α)) : World α → Prop
  | attach {s s' : Session} {id : String} {owner : α} {r : Registry α} (vacant : s.Vacant)
      (attached : Registry.attach s id owner definitions = .ok (s', r)) :
      Reachable definitions { session := s', registry := r }
  | act {w : World α} (reachable : Reachable definitions w) (d : Deed α) :
      Reachable definitions (w.act d)

theorem Reachable.after {definitions : List (String × Definition α)} {w : World α}
    (h : w.Reachable definitions) (deeds : List (Deed α)) :
    (w.after deeds).Reachable definitions := by
  induction deeds generalizing w with
  | nil => exact h
  | cons d rest ih => exact ih (h.act d)

/-- In every deed, every resource undergoes a run of actions. -/
theorem evolves_act (w : World α) (d : Deed α) :
    w.session.Evolves (fun _ => True) (w.act d).session := by
  cases d with
  | step step => exact Session.evolves_step w.session step
  | mutate change =>
    exact (Session.spans_beside.mutateOwner w.session w.registry change).evolves.mono
      fun _ _ => trivial
  | detach =>
    exact (Session.spans_beside.detach w.session w.registry).evolves.mono fun _ _ => trivial

theorem evolves_after (w : World α) (deeds : List (Deed α)) :
    w.session.Evolves (fun _ => True) (w.after deeds).session := by
  induction deeds generalizing w with
  | nil => exact .refl _ _
  | cons d rest ih => exact (evolves_act w d).trans (ih (w.act d))

/-- Nobody is forgotten. -/
theorem Reachable.attended {definitions : List (String × Definition α)} {w : World α}
    (h : w.Reachable definitions) : w.session.Attended := by
  induction h with
  | attach vacant attached => exact vacant.attended.beside (Session.spans_beside.attach attached)
  | @act w _ d ih =>
    cases d with
    | step step => exact ih.step step
    | mutate change =>
      exact ih.beside (Session.spans_beside.mutateOwner w.session w.registry change)
    | detach => exact ih.beside (Session.spans_beside.detach w.session w.registry)

end World

end ReactiveResource
