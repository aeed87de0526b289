import ReactiveResource.Proofs.Resource.Revision
import ReactiveResource.Proofs.Session.Course

/-!
# Nobody sleeps through a change of the state

Whoever waits until a resource is in a state looks at it once, and then sleeps until the revision of
the resource tells of a change. A change of the state is always told, so that no one sleeps while
his resource is in the state that he waits for.

* `Session.Asks`, `announces_step_iff`: the steps in which a change of a resource is not announced;
* `Session.Wakeful`, `spans_wakeful`: those who may have missed a change have been woken, as they
  are by every operation;
* `Session.Vigilant`, `Vigilant.step`: nobody sleeps while his resource is in the state that he
  waits for.
-/

namespace ReactiveResource

namespace Session

variable {s s' s'' : Session} {handle : Nat} {r r' : LiveResource}

/-! ### Changes that are not announced -/

/-- In the step an attempt of the resource takes its generation and asks for a verdict. -/
def Asks (s : Session) (step : Step) (handle : Nat) : Prop :=
  ∃ place id signal r, step = .turn place ∧ s.ready[place]? = some (.attempt handle id signal) ∧
    s.resources[handle]? = some r ∧ r.Asks (.advance s.moment id signal)

/-- When an attempt asks for a verdict, only the generation and the parameters change. -/
theorem raised_of_asks (orderly : s.Orderly) (there : s.resources[handle]? = some r) {step : Step}
    (asks : s.Asks step handle) :
    ∃ params r', (s.step step).resources[handle]? = some r' ∧
      r'.resource = r.resource.raised params := by
  obtain ⟨place, id, signal, x, rfl, job, hx, k, asked⟩ := asks
  cases there.symm.trans hx
  rcases (orderly.move there s.moment id signal).announces with ⟨-, none⟩ | ⟨effects, raised⟩
  · exact absurd (mem_deeds.2 ⟨asked, rfl⟩) (none k)
  · exact ⟨_, _, resources_turn_of_quiet job there (by rw [effects]; rfl), raised⟩

/-- **What a step announces.** The revision of a resource tells of all that a step changes exactly
if no attempt of the resource asks for a verdict in it. -/
theorem announces_step_iff (orderly : s.Orderly) {step : Step}
    (there : s.resources[handle]? = some r) (there' : (s.step step).resources[handle]? = some r') :
    r.resource.Announces r'.resource ↔ ¬ s.Asks step handle := by
  constructor
  · intro announces asks
    obtain ⟨params, x, hx, raised⟩ := raised_of_asks orderly there asks
    cases there'.symm.trans hx
    rw [raised] at announces
    exact r.resource.not_announces_raised params announces
  · intro silent
    cases affects s step there with
    | outside external left =>
      cases there'.symm.trans left
      exact LiveResource.announces_after_external external
    | @moves place id signal actions turn job external left =>
      cases there'.symm.trans left
      refine Resource.Announces.trans ?_ (LiveResource.announces_after_external external)
      refine ((orderly handle r there).announces_act_iff (.advance s.moment id signal)).2 ?_
      exact fun asks => silent ⟨place, id, signal, r, turn, job, there, asks⟩

/-! ### Who sleeps on -/

/-- Whoever sleeps afterwards has slept before, and the revision of his resource is the same. -/
structure Wakeful (s s' : Session) : Prop where
  evolves : s.Evolves (fun _ => True) s'
  asleep : ∀ {n : Nat} {wt}, s'.waiters[n]? = some wt → wt.asleep = true →
    s.waiters[n]? = some wt
  unchanged : ∀ {n : Nat} {wt r r'}, s'.waiters[n]? = some wt → wt.asleep = true →
    s.resources[wt.handle]? = some r → s'.resources[wt.handle]? = some r' →
    r'.resource.revision = r.resource.revision

theorem Wakeful.of_eq (resources : s'.resources = s.resources) (waiters : s'.waiters = s.waiters) :
    s.Wakeful s' where
  evolves := .of_resources resources
  asleep hn _ := waiters ▸ hn
  unchanged _ _ hr hr' := by
    rw [resources, hr] at hr'
    cases hr'
    rfl

theorem Wakeful.refl (s : Session) : s.Wakeful s := .of_eq rfl rfl

theorem Wakeful.trans (h : s.Wakeful s') (h' : s'.Wakeful s'') : s.Wakeful s'' where
  evolves := h.evolves.trans h'.evolves
  asleep hn sleeps := h.asleep (h'.asleep hn sleeps) sleeps
  unchanged hn sleeps hr hr'' := by
    obtain ⟨actions, -, hr'⟩ := h.evolves.old hr
    exact (h'.unchanged hn sleeps hr' hr'').trans
      (h.unchanged (h'.asleep hn sleeps) sleeps hr hr')

/-- A resource undergoes an action. Its waiters are woken if the revision has changed. -/
theorem wakeful_store (hr : s.resources[handle]? = some r) (a : Action) :
    s.Wakeful (s.store handle (r.act a).1) := by
  have evolves : s.Evolves (fun _ => True) (s.store handle (r.act a).1) := .store hr trivial
  have elsewhere {h : Nat} {x x' : LiveResource} (hne : h ≠ handle) (hx : s.resources[h]? = some x)
      (hx' : (s.store handle (r.act a).1).resources[h]? = some x') :
      x'.resource.revision = x.resource.revision := by
    rw [resources_store_of_ne s handle _ hne, hx] at hx'
    cases hx'
    rfl
  by_cases same : (r.act a).1.resource.revision = r.resource.revision
  · have waiters : (s.store handle (r.act a).1).waiters = s.waiters := by
      simp [store, hr, same]
    refine ⟨evolves, fun hn _ => waiters ▸ hn, fun {n wt x x'} _ _ hx hx' => ?_⟩
    by_cases hw : wt.handle = handle
    · rw [hw] at hx hx'
      cases hr.symm.trans hx
      cases hx'.symm.trans (resources_store_self s handle _ hr)
      exact same
    · exact elsewhere hw hx hx'
  · have waiters : (s.store handle (r.act a).1).waiters = s.waiters.map fun w =>
        if w.asleep && w.handle == handle then { w with asleep := false } else w := by
      simp only [store, hr, Option.map_some, Option.some.injEq]
      rw [if_neg fun h => same h.symm]
      rfl
    -- whoever sleeps on waits for another resource
    have others {n : Nat} {wt : Waiter} (hn : (s.store handle (r.act a).1).waiters[n]? = some wt)
        (sleeps : wt.asleep = true) : s.waiters[n]? = some wt ∧ wt.handle ≠ handle := by
      rw [waiters, List.getElem?_map, Option.map_eq_some_iff] at hn
      obtain ⟨w, hw, rfl⟩ := hn
      split at sleeps
      · cases sleeps
      · next h =>
        rw [if_neg h]
        exact ⟨hw, fun he => h (by simp [sleeps, he])⟩
    exact ⟨evolves, fun hn sleeps => (others hn sleeps).1,
      fun hn sleeps hx hx' => elsewhere (others hn sleeps).2 hx hx'⟩

/-! ### Operations -/

section Operations

variable (s) (handle : Nat)

theorem wakeful_spawn (override : Option Params) : s.Wakeful (s.spawn handle override) := by
  rw [spawn]
  split
  · next r hr _ =>
    have stored : s.Wakeful (s.store handle (r.act (.spawn override)).1) := wakeful_store hr _
    exact stored.trans (.of_eq rfl rfl)
  · exact .refl s

theorem wakeful_fetch : s.Wakeful (s.fetch handle) := by
  rw [fetch]
  split
  · exact wakeful_spawn s handle none
  · split <;> exact .of_eq rfl rfl

theorem wakeful_cancel : s.Wakeful (s.cancel handle) := by
  rw [cancel]
  split
  · next r hr =>
    have reported : s.Wakeful (s.report r.cancelReport) := .of_eq rfl rfl
    exact reported.trans (wakeful_store (s := s.report r.cancelReport) hr .cancel)
  · exact .refl s

theorem wakeful_reset : s.Wakeful (s.reset handle) := by
  rw [reset]
  split
  · next r hr => exact wakeful_store hr .reset
  · exact .refl s

theorem wakeful_retire : s.Wakeful (s.retire handle) := by
  rw [retire]
  split
  · next r hr => exact wakeful_store hr .retire
  · exact .refl s

theorem wakeful_listen (kind : EventKind) (once : Bool) (listener : Listener) :
    s.Wakeful (s.listen handle kind once listener) := by
  rw [listen]
  split
  · next r hr => exact wakeful_store hr (.listen kind once listener)
  · exact .refl s

end Operations

theorem wakeful_update {config : Config} (h : s.update handle config = .ok s') : s.Wakeful s' := by
  cases hr : s.resources[handle]? with
  | none =>
    rw [update, hr] at h
    cases h
    exact .refl s
  | some r =>
    obtain ⟨resource, -, rfl⟩ := update_ok hr h
    have stored := wakeful_store hr (.update config)
    split
    · exact stored.trans (wakeful_fetch _ handle)
    · exact stored

theorem wakeful_create {name : String} {config : Config}
    (h : s.create name config = .ok (s', handle)) : s.Wakeful s' := by
  have evolves := (beside_create h).evolves.mono (Q := fun _ => True) fun _ _ => trivial
  obtain ⟨-, -, rfl⟩ := create_ok h
  refine ⟨evolves, fun hn _ => hn, fun {n wt x x'} _ _ hx hx' => ?_⟩
  cases hx'.symm.trans (getElem?_append_of_some hx [LiveResource.fresh name config])
  rfl

theorem covers_wakeful : Covers Wakeful fun _ => True where
  refl := .refl
  trans := .trans
  report _ _ := .of_eq rfl rfl
  record _ _ := .of_eq rfl rfl
  fetch s _ _ := wakeful_fetch s _
  cancel s _ _ := wakeful_cancel s _
  reset s _ _ := wakeful_reset s _
  retire s _ _ := wakeful_retire s _
  listen s _ kind once listener _ := wakeful_listen s _ kind once listener

/-- Those who may have missed a change are woken. -/
theorem spans_wakeful : Spans Wakeful where
  toCovers := covers_wakeful
  create := wakeful_create
  spawn := wakeful_spawn
  update := wakeful_update

theorem wakeful_perform (handle : Nat) (s : Session) (e : Effect) :
    s.Wakeful (perform handle s e) := by
  cases e with
  | deliver g event listeners => exact covers_wakeful.hearAll handle event s listeners
  | call id method args =>
    unfold perform
    simp only
    split <;> exact .of_eq rfl rfl
  | _ => exact .of_eq rfl rfl

/-! ### Nobody sleeps in vain -/

/-- Whoever sleeps waits for a state in which his resource is not. -/
def Vigilant (s : Session) : Prop :=
  ∀ (n : Nat) (wt : Waiter), s.waiters[n]? = some wt → wt.asleep = true →
    ∃ r, s.resources[wt.handle]? = some r ∧ r.resource.state ≠ wt.state

/-- What has not been told by the revision is no change of the state. -/
theorem Vigilant.wakeful (vigilant : s.Vigilant) (orderly : s.Orderly) (wakeful : s.Wakeful s') :
    s'.Vigilant := by
  intro n wt hn sleeps
  obtain ⟨r, hr, other⟩ := vigilant n wt (wakeful.asleep hn sleeps) sleeps
  obtain ⟨actions, -, hr'⟩ := wakeful.evolves.old hr
  refine ⟨_, hr', ?_⟩
  have same := wakeful.unchanged hn sleeps hr hr'
  by_cases state : (r.after actions).resource.state = r.resource.state
  · exact state ▸ other
  · have raised := ((orderly _ r hr).state_after actions).2 state
    omega

/-- A waiter looks at its resource, and goes to sleep if that is in another state. -/
theorem Vigilant.look (vigilant : s.Vigilant) {place n : Nat}
    (job : s.ready[place]? = some (.waiter n)) : (s.turn place).Vigilant := by
  rw [turn, job]
  simp only [run]
  split
  · exact vigilant
  · next w hw =>
    split
    · exact vigilant
    · next seen glimpsed =>
      split
      · exact vigilant
      · next other =>
        intro k wt hk sleeps
        rw [List.getElem?_set] at hk
        split at hk
        · split at hk
          · cases hk
            obtain ⟨r, hr, rfl⟩ := Option.map_eq_some_iff.1 glimpsed
            exact ⟨r, hr, other⟩
          · cases hk
        · exact vigilant k wt hk sleeps

theorem Vigilant.turn (vigilant : s.Vigilant) (orderly : s.Orderly) (place : Nat) :
    (s.turn place).Vigilant := by
  have taken : s.Wakeful { s with ready := s.ready.eraseIdx place } := .of_eq rfl rfl
  cases turns s place with
  | nobody left =>
    rw [left]
    exact vigilant
  | waiter job => exact vigilant.look job
  | stray _ _ left =>
    rw [left]
    exact vigilant.wakeful orderly taken
  | @attempt h id signal r job there left =>
    rw [left]
    have stored := wakeful_store (s := { s with ready := s.ready.eraseIdx place }) there
      (.advance s.moment id signal)
    exact vigilant.wakeful orderly
      ((taken.trans stored).trans (covers_wakeful.foldl (wakeful_perform h) _ _))

/-- Somebody begins to wait. -/
theorem Vigilant.await (vigilant : s.Vigilant) (handle : Nat) (state : Lifecycle) :
    (s.await handle state).Vigilant := by
  rw [Session.await]
  split
  · intro n wt hn sleeps
    change (s.waiters ++ [_])[n]? = some wt at hn
    rw [List.getElem?_append] at hn
    split at hn
    · exact vigilant n wt hn sleeps
    · cases List.mem_singleton.1 (List.mem_of_getElem? hn)
      cases sleeps
  · exact vigilant

/-- **Nobody sleeps while his resource is in the state he waits for**, after every step. -/
theorem Vigilant.step (vigilant : s.Vigilant) (orderly : s.Orderly) (step : Step) :
    (s.step step).Vigilant := by
  by_cases passive : step.Passive
  · cases step with
    | turn place => exact vigilant.turn orderly place
    | resolve call reply =>
      refine vigilant.wakeful orderly ?_
      simp only [Session.step, resolve]
      split <;> exact .of_eq rfl rfl
    | release slot message =>
      refine vigilant.wakeful orderly ?_
      simp only [Session.step, release]
      split <;> exact .of_eq rfl rfl
    | elapse | setGate | push => exact vigilant.wakeful orderly (.of_eq rfl rfl)
    | await handle state => exact vigilant.await handle state
    | _ => exact passive.elim
  · exact vigilant.wakeful orderly (spans_wakeful.step s passive)

end Session

end ReactiveResource
