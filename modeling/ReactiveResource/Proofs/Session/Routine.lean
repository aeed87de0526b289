import ReactiveResource.Proofs.Resource.Newest
import ReactiveResource.Proofs.Session.Run

/-!
# What keeps a config

The config of a resource is replaced by an update and by nothing else. In all other steps of a
session, those included in which listeners operate on resources, every resource keeps its config but
for the listeners in it. The method stays even through updates.

* `Action.Routine`: no config is replaced;
* `LiveResource.Orderly.config_after`, `LiveResource.Orderly.method_after`: what runs leave alone;
* `Session.evolves_routine`: the steps in which no config is replaced;
* `Session.Evolves.config`, `Session.Evolves.method`: what stays as it is in them, and in all.
-/

namespace ReactiveResource

/-- The action replaces no config. -/
def Action.Routine : Action → Prop
  | .update _ => False
  | _ => True

namespace LiveResource

variable {r : LiveResource}

theorem Orderly.config_act (orderly : r.Orderly) {a : Action} (routine : a.Routine) :
    (r.act a).1.resource.config.bare = r.resource.config.bare := by
  rcases act_cases r a orderly.fence_le with ha | ⟨m, id, signal, -, move⟩
  · cases a with
    | advance m id signal => exact ha.elim
    | update config => exact routine.elim
    | listen kind once listener => cases once <;> rfl
    | _ => rfl
  · exact move.config

/-- **Only updates replace a config.** -/
theorem Orderly.config_after (orderly : r.Orderly) {actions : List Action}
    (routine : ∀ a ∈ actions, a.Routine) :
    (r.after actions).resource.config.bare = r.resource.config.bare := by
  induction actions generalizing r with
  | nil => rfl
  | cons a rest ih =>
    rw [List.forall_mem_cons] at routine
    exact (ih (orderly.act a) routine.2).trans (orderly.config_act routine.1)

theorem Orderly.method_act (orderly : r.Orderly) (a : Action) :
    (r.act a).1.resource.method = r.resource.method := by
  by_cases routine : a.Routine
  · exact Config.method_of_bare (orderly.config_act routine)
  · cases a with
    | update config =>
      simp only [LiveResource.act, LiveResource.update]
      cases h : r.resource.update config with
      | error e => rfl
      | ok resource =>
        obtain ⟨-, method, same, -⟩ := Resource.update_ok h
        exact (congrArg Config.method same).trans method
    | _ => exact absurd trivial routine

/-- A resource has its method for life. -/
theorem Orderly.method_after (orderly : r.Orderly) (actions : List Action) :
    (r.after actions).resource.method = r.resource.method := by
  induction actions generalizing r with
  | nil => rfl
  | cons a rest ih => exact (ih (orderly.act a)).trans (orderly.method_act a)

end LiveResource

namespace Session

variable {s s' : Session}

/-! ### Operations -/

section Operations

variable (s) (handle : Nat)

theorem routine_spawn (override : Option Params) :
    s.Evolves Action.Routine (s.spawn handle override) := by
  rw [spawn]
  split
  · next r hr _ =>
    have stored : s.Evolves Action.Routine (s.store handle (r.act (.spawn override)).1) :=
      .store hr trivial
    exact stored.trans (.of_resources rfl)
  · exact .refl _ s

theorem routine_fetch : s.Evolves Action.Routine (s.fetch handle) := by
  rw [fetch]
  split
  · exact routine_spawn s handle none
  · split <;> exact .of_resources rfl

theorem routine_cancel : s.Evolves Action.Routine (s.cancel handle) := by
  rw [cancel]
  split
  · next r hr =>
    have reported : s.Evolves Action.Routine (s.report r.cancelReport) := .of_resources rfl
    have there : (s.report r.cancelReport).resources[handle]? = some r := hr
    exact reported.trans (.store there (show Action.cancel.Routine from trivial))
  · exact .refl _ s

theorem routine_reset : s.Evolves Action.Routine (s.reset handle) := by
  rw [reset]
  split
  · next r hr => exact .store hr (show Action.reset.Routine from trivial)
  · exact .refl _ s

theorem routine_retire : s.Evolves Action.Routine (s.retire handle) := by
  rw [retire]
  split
  · next r hr => exact .store hr (show Action.retire.Routine from trivial)
  · exact .refl _ s

theorem routine_listen (kind : EventKind) (once : Bool) (listener : Listener) :
    s.Evolves Action.Routine (s.listen handle kind once listener) := by
  rw [listen]
  split
  · next r hr => exact .store hr (show (Action.listen kind once listener).Routine from trivial)
  · exact .refl _ s

end Operations

theorem covers_routine : Covers (Evolves Action.Routine) fun _ => True where
  refl := .refl _
  trans := .trans
  report _ _ := .of_resources rfl
  record _ _ := .of_resources rfl
  fetch s _ _ := routine_fetch s _
  cancel s _ _ := routine_cancel s _
  reset s _ _ := routine_reset s _
  retire s _ _ := routine_retire s _
  listen s _ kind once listener _ := routine_listen s _ kind once listener

/-! ### Steps -/

theorem routine_perform (handle : Nat) (s : Session) (e : Effect) :
    s.Evolves Action.Routine (perform handle s e) := by
  cases e with
  | deliver g event listeners => exact covers_routine.hearAll handle event s listeners
  | call id method args =>
    unfold perform
    simp only
    split <;> exact .of_resources rfl
  | _ => exact .of_resources rfl

theorem routine_performAll (handle : Nat) (s : Session) (effects : List Effect) :
    s.Evolves Action.Routine (effects.foldl (perform handle) s) :=
  covers_routine.foldl (routine_perform handle) s effects

theorem routine_turn (s : Session) (place : Nat) : s.Evolves Action.Routine (s.turn place) :=
  evolves_turn (fun _ _ _ => trivial) routine_performAll s place

/-- The step is no update. -/
def Step.Routine : Step → Prop
  | .update .. => False
  | _ => True

/-- **No step but an update replaces a config**, whatever listeners do in it. -/
theorem evolves_routine (s : Session) {step : Step} (routine : step.Routine) :
    s.Evolves Action.Routine (s.step step) := by
  cases step with
  | turn place => exact routine_turn s place
  | resolve | release | elapse | setGate | push | await =>
    exact .of_resources (still_of_passive (by exact trivial) (by simp)).resources
  | create name config =>
    simp only [Session.step]
    cases h : s.create name config with
    | error e => exact .refl _ s
    | ok x =>
      obtain ⟨-, -, created⟩ := create_ok h
      exact .append (congrArg Session.resources created) rfl
  | fetch handle => exact routine_fetch s handle
  | spawn handle override => exact routine_spawn s handle override
  | cancel handle => exact routine_cancel s handle
  | reset handle => exact routine_reset s handle
  | retire handle => exact routine_retire s handle
  | update => exact routine.elim
  | listen handle kind once listener => exact routine_listen s handle kind once listener

/-! ### What stays -/

section Stays

variable {P : Action → Prop} {handle : Nat} {r r' : LiveResource}

theorem Evolves.config (h : s.Evolves Action.Routine s') (orderly : s.Orderly)
    (hr : s.resources[handle]? = some r) (hr' : s'.resources[handle]? = some r') :
    r'.resource.config.bare = r.resource.config.bare := by
  obtain ⟨actions, routine, same⟩ := h.old hr
  cases hr'.symm.trans same
  exact (orderly handle r hr).config_after routine

theorem Evolves.method (h : s.Evolves P s') (orderly : s.Orderly)
    (hr : s.resources[handle]? = some r) (hr' : s'.resources[handle]? = some r') :
    r'.resource.method = r.resource.method := by
  obtain ⟨actions, -, same⟩ := h.old hr
  cases hr'.symm.trans same
  exact (orderly handle r hr).method_after actions

end Stays

end Session

end ReactiveResource
