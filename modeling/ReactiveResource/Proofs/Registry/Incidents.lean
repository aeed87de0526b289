import ReactiveResource.Proofs.Registry.Consistency
import ReactiveResource.Proofs.Session.Course

/-!
# All that may happen to a registry

Besides what is done to the owner and to the session, anybody may tell a registry that the config of
a name has changed, with whatever configs he likes. Nothing that the session and the registry are
relied on for is lost by that.

* `World.fire`, `Incident`, `World.through`: what may happen, and what comes of it;
* `World.Attainable`: the worlds to which a registry may come;
* `Attainable.attended`, `born`, `roused`, `housed`: what holds in all of them;
* `handle_undergo`: a name keeps its resource as long as the registry is attached.
-/

namespace ReactiveResource

open Keyed (value?)

/-- What happens to a registry and its session: a deed, or somebody tells the registry that the
config of a name has changed. -/
inductive Incident (α : Type) where
  | deed (d : Deed α)
  | fire (name : String) (new old : Option Config)

namespace World

variable {α : Type} {w : World α} {definitions : List (String × Definition α)}

/-- The world after a registry has been told that the config of a name has changed. A config that is
refused changes nothing. -/
def fire (w : World α) (name : String) (new old : Option Config) : World α :=
  match w.registry.apply w.session name new old with
  | .ok (session, registry) => { session, registry }
  | .error _ => w

/-- The world after an incident. -/
def undergo (w : World α) : Incident α → World α
  | .deed d => w.act d
  | .fire name new old => w.fire name new old

/-- The world after some incidents. -/
def through (w : World α) (incidents : List (Incident α)) : World α := incidents.foldl undergo w

@[simp] theorem through_nil (w : World α) : w.through [] = w := rfl

@[simp] theorem through_cons (w : World α) (i : Incident α) (rest : List (Incident α)) :
    w.through (i :: rest) = (w.undergo i).through rest := rfl

theorem through_append (w : World α) (first second : List (Incident α)) :
    w.through (first ++ second) = (w.through first).through second := List.foldl_append

theorem through_deeds (w : World α) (deeds : List (Deed α)) :
    w.through (deeds.map .deed) = w.after deeds := by
  rw [through, List.foldl_map]
  rfl

/-- The worlds to which a registry with some definitions may come, if nothing has happened in the
session before. -/
inductive Attainable (definitions : List (String × Definition α)) : World α → Prop
  | attach {s s' : Session} {id : String} {owner : α} {r : Registry α} (vacant : s.Vacant)
      (attached : Registry.attach s id owner definitions = .ok (s', r)) :
      Attainable definitions { session := s', registry := r }
  | undergo {w : World α} (attainable : Attainable definitions w) (i : Incident α) :
      Attainable definitions (w.undergo i)

theorem Attainable.through (h : w.Attainable definitions) (incidents : List (Incident α)) :
    (w.through incidents).Attainable definitions := by
  induction incidents generalizing w with
  | nil => exact h
  | cons i rest ih => exact ih (h.undergo i)

theorem Reachable.attainable (h : w.Reachable definitions) : w.Attainable definitions := by
  induction h with
  | attach vacant attached => exact .attach vacant attached
  | act _ d ih => exact ih.undergo (.deed d)

/-! ### What an incident does to the session -/

theorem fire_cases (w : World α) (name : String) (new old : Option Config) :
    w.fire name new old = w ∨
      ∃ s r, w.registry.apply w.session name new old = .ok (s, r) ∧
        w.fire name new old = { session := s, registry := r } := by
  unfold fire
  split
  · next s r applied => exact .inr ⟨s, r, applied, rfl⟩
  · exact .inl rfl

/-- An incident is a step of the session, or what holds across all operations holds across it. -/
theorem step_or_spans {R : Session → Session → Prop} (spans : Session.Spans R) (w : World α)
    (i : Incident α) : (∃ step, i = .deed (.step step)) ∨ R w.session (w.undergo i).session := by
  cases i with
  | deed d =>
    cases d with
    | step step => exact .inl ⟨step, rfl⟩
    | mutate change => exact .inr (spans.mutateOwner w.session w.registry change)
    | detach => exact .inr (spans.detach w.session w.registry)
  | fire name new old =>
    refine .inr ?_
    show R w.session (w.fire name new old).session
    rcases w.fire_cases name new old with same | ⟨s, r, applied, fired⟩
    · rw [same]
      exact spans.refl _
    · rw [fired]
      exact spans.apply applied

/-- An incident is a step of the session, or lets no attempt move. -/
theorem step_or_beside (w : World α) (i : Incident α) :
    (∃ step, i = .deed (.step step)) ∨ w.session.Beside (w.undergo i).session :=
  w.step_or_spans Session.spans_beside i

theorem evolves_undergo (w : World α) (i : Incident α) :
    w.session.Evolves (fun _ => True) (w.undergo i).session := by
  rcases w.step_or_beside i with ⟨step, rfl⟩ | beside
  · exact Session.evolves_step w.session step
  · exact beside.evolves.mono fun _ _ => trivial

theorem evolves_through (w : World α) (incidents : List (Incident α)) :
    w.session.Evolves (fun _ => True) (w.through incidents).session := by
  induction incidents generalizing w with
  | nil => exact .refl _ _
  | cons i rest ih => exact (w.evolves_undergo i).trans (ih _)

/-! ### What holds in all worlds -/

theorem Attainable.attended (h : w.Attainable definitions) : w.session.Attended := by
  induction h with
  | attach vacant attached => exact vacant.attended.beside (Session.spans_beside.attach attached)
  | @undergo w _ i ih =>
    rcases w.step_or_beside i with ⟨step, rfl⟩ | beside
    · exact ih.step step
    · exact ih.beside beside

theorem Attainable.born (h : w.Attainable definitions) : w.session.Born := by
  induction h with
  | attach vacant attached => exact (Session.spans_beside.attach attached).evolves.born vacant.born
  | @undergo w _ i ih => exact (w.evolves_undergo i).born ih

theorem Attainable.roused (h : w.Attainable definitions) : w.session.Roused := by
  induction h with
  | attach vacant attached => exact vacant.roused.beside (Session.spans_beside.attach attached)
  | @undergo w before i ih =>
    rcases w.step_or_beside i with ⟨step, rfl⟩ | beside
    · exact ih.step before.born step
    · exact ih.beside beside

end World

/-! ### Names and their resources -/

namespace Registry

variable {α : Type} {s s' : Session} {r r' : Registry α}
  {definitions : List (String × Definition α)}

/-- Every name of a registry that has just been attached has a resource of its own. -/
theorem housed_attach (orderly : s.Orderly) {id : String} {owner : α}
    (attached : attach s id owner definitions = .ok (s', r')) : Housed s' r' := by
  obtain ⟨declared, introduced, entries, hd, hi, rfl, rfl⟩ := attach_ok attached
  have defined {state state' : Session × Registry α} {name : String} {config : Config}
      (housed : Housed state.1 state.2) (h : define state.1 state.2 name config = .ok state') :
      Housed state'.1 state'.2 := by
    obtain ⟨s', r'⟩ := state'
    obtain ⟨handle, made, rfl⟩ := define_ok h
    exact housed.define made
  have first : Housed declared.1 declared.2 := by
    refine foldlM_ok (P := fun state : Session × Registry α => Housed state.1 state.2)
      (fun state x state' _ housed h => ?_) (enrolled_start orderly id owner).housed hd
    obtain ⟨name, config | derive⟩ := x
    · exact defined housed h
    · cases h
      exact housed.evolves (.refl (fun _ => True) _) rfl rfl
  have second : Housed introduced.1 introduced.2 := by
    have evaluated : Housed
        (declared.1.report (fireReport (declared.2.bridge.evaluate owner).2))
        { declared.2 with bridge := (declared.2.bridge.evaluate owner).1 } :=
      first.evolves (Session.beside_report _ _).evolves rfl rfl
    refine foldlM_ok (P := fun state : Session × Registry α => Housed state.1 state.2)
      (fun state f state' _ housed h => ?_) evaluated hi
    rw [introduce] at h
    split at h
    · exact defined housed h
    · cases h
      exact housed
  have fetched := Session.spans_beside.foldl
    (fun s (x : String × Nat) => Session.spans_beside.autoFetch s x.2)
    (introduced.1.report entries) introduced.2.resources
  exact second.evolves ((Session.beside_report _ entries).trans fetched).evolves rfl rfl

/-- A registry that has been detached holds nothing. -/
structure Empty (r : Registry α) : Prop where
  detached : r.attached = false
  resources : r.resources = []
  watchers : r.bridge.watchers = []

theorem apply_of_detached (detached : r.attached = false) (name : String)
    (new old : Option Config) : r.apply s name new old = .ok (s, r) := by
  rw [apply, detached]
  rfl

theorem mutateOwner_of_detached (detached : r.attached = false) (change : α → α) :
    r.mutateOwner s change = (s, { r with owner := change r.owner }, none) := by
  rw [mutateOwner]
  simp [detached]

theorem detach_of_detached (detached : r.attached = false) : r.detach s = (s, r) := by
  rw [detach, detached]
  rfl

theorem empty_detach (attached : r.attached = true) : (r.detach s).2.Empty := by
  rw [detach, attached]
  exact ⟨rfl, rfl, rfl⟩

end Registry

namespace World

variable {α : Type} {w : World α} {definitions : List (String × Definition α)}

/-- A registry that holds nothing never does again. -/
theorem empty_undergo (empty : w.registry.Empty) (i : Incident α) :
    (w.undergo i).registry.Empty := by
  cases i with
  | deed d =>
    cases d with
    | step step => exact empty
    | mutate change =>
      show (w.registry.mutateOwner w.session change).2.1.Empty
      rw [Registry.mutateOwner_of_detached empty.detached]
      exact ⟨empty.detached, empty.resources, empty.watchers⟩
    | detach =>
      show (w.registry.detach w.session).2.Empty
      rw [Registry.detach_of_detached empty.detached]
      exact empty
  | fire name new old =>
    show (w.fire name new old).registry.Empty
    rw [fire, Registry.apply_of_detached empty.detached]
    exact empty

theorem empty_through (empty : w.registry.Empty) (incidents : List (Incident α)) :
    (w.through incidents).registry.Empty := by
  induction incidents generalizing w with
  | nil => exact empty
  | cons i rest ih => exact ih (empty_undergo empty i)

/-- An incident leaves the names their resources, or it is the end of the registry. -/
theorem housed_undergo (housed : Registry.Housed w.session w.registry) (i : Incident α) :
    i = .deed .detach ∨ Registry.Housed (w.undergo i).session (w.undergo i).registry := by
  cases i with
  | deed d =>
    cases d with
    | step step => exact .inr (housed.evolves (Session.evolves_step w.session step) rfl rfl)
    | mutate change => exact .inr (housed.mutate change)
    | detach => exact .inl rfl
  | fire name new old =>
    refine .inr ?_
    show Registry.Housed (w.fire name new old).session (w.fire name new old).registry
    rcases w.fire_cases name new old with same | ⟨s, r, applied, fired⟩
    · rw [same]
      exact housed
    · rw [fired]
      exact housed.apply applied

/-- **Every name has a resource of its own**, or the registry has come to its end. -/
theorem Attainable.housed (h : w.Attainable definitions) :
    Registry.Housed w.session w.registry ∨ w.registry.Empty := by
  induction h with
  | attach vacant attached => exact .inl (Registry.housed_attach vacant.attended.orderly attached)
  | @undergo w _ i ih =>
    rcases ih with housed | empty
    · rcases housed_undergo housed i with rfl | housed'
      · exact .inr (Registry.empty_detach housed.attached)
      · exact .inl housed'
    · exact .inr (empty_undergo empty i)

theorem Attainable.housed_of_given (h : w.Attainable definitions) {name : String} {handle : Nat}
    (given : value? w.registry.resources name = some handle) :
    Registry.Housed w.session w.registry := by
  refine h.housed.resolve_right fun empty => ?_
  rw [empty.resources] at given
  cases given

/-- A name keeps its resource as long as the registry is attached. -/
theorem handle_undergo {name : String} {handle : Nat} {i : Incident α}
    (given : value? w.registry.resources name = some handle) (kept : i ≠ .deed .detach) :
    value? (w.undergo i).registry.resources name = some handle := by
  cases i with
  | deed d =>
    cases d with
    | step step => exact given
    | mutate change =>
      cases attached : w.registry.attached with
      | true => exact Registry.handle_mutate attached given change
      | false =>
        show value? (w.registry.mutateOwner w.session change).2.1.resources name = some handle
        rw [Registry.mutateOwner_of_detached attached]
        exact given
    | detach => exact absurd rfl kept
  | fire other new old =>
    show value? (w.fire other new old).registry.resources name = some handle
    rcases w.fire_cases other new old with same | ⟨s, r, applied, fired⟩
    · rw [same]
      exact given
    · rw [fired]
      exact Registry.handle_apply given applied

end World

end ReactiveResource
