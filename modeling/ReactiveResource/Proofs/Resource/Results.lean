import Mathlib.Data.List.Induction
import ReactiveResource.Proofs.Resource.Generations

/-!
# The state and the results

A resource that is not loading says by its state how its last fetch ended: its error or the instant
of its last success is there, or neither is. A fetch that is cancelled falls back to the state
before it, and this is the right one unless the results have been cleared in the meantime.

* `Resource.Describes`, `Resource.Honest`: a state agrees with the results, and both the state of a
  resource and the one it may fall back to do so;
* `Resource.resting`, `Resource.standing`: the two states that are compared, with a lemma for each
  operation;
* `LiveResource.Forgets`: results are cleared that the fetch under way falls back to;
* `lifecycle_agrees_iff`: along which runs the state agrees with the results;
* `cancel_after_reset`: a run in which it does not.
-/

namespace ReactiveResource

namespace Resource

/-- The state says what the results are. -/
structure Describes (r : Resource) (state : Lifecycle) : Prop where
  error : state = .error ↔ r.error.isSome = true
  success : state = .success ↔ r.error = none ∧ r.lastFetchedAt.isSome = true
  idle : state = .idle ↔ r.error = none ∧ r.lastFetchedAt = none

/-- The state agrees with the results unless a fetch is going on, and so does the state to which a
cancellation falls back. -/
structure Honest (r : Resource) : Prop where
  settled : r.state ≠ .loading → r.Describes r.state
  fallback : r.Describes r.cancel.state

/-- The state that the results call for. -/
def standing (r : Resource) : Lifecycle :=
  if r.error.isSome then .error else if r.lastFetchedAt.isSome then .success else .idle

/-- The state without the fetch that is going on, if one is. -/
def resting (r : Resource) : Lifecycle := if r.state = .loading then r.settled else r.state

theorem state_fenceInFlight (r : Resource) : r.fenceInFlight.state = r.resting := by
  by_cases hl : r.state = .loading <;> simp [resting, fenceInFlight, hl]

theorem describes_iff {r : Resource} {state : Lifecycle} :
    r.Describes state ↔ state = r.standing := by
  unfold standing
  constructor
  · rintro ⟨error, success, idle⟩
    cases he : r.error with
    | some e => exact error.2 (by simp [he])
    | none =>
      cases hf : r.lastFetchedAt with
      | some now => exact success.2 (by simp [he, hf])
      | none => exact idle.2 ⟨he, hf⟩
  · rintro rfl
    cases he : r.error <;> cases hf : r.lastFetchedAt <;> constructor <;> simp [he, hf]

theorem standing_ne_loading (r : Resource) : r.standing ≠ .loading := by
  unfold standing
  split
  · simp
  · split <;> simp

theorem honest_iff {r : Resource} : r.Honest ↔ r.resting = r.standing := by
  have cancelled : r.cancel.state = r.resting := r.state_fenceInFlight
  constructor
  · exact fun h => cancelled ▸ describes_iff.1 h.fallback
  · intro h
    refine ⟨fun idle => describes_iff.2 ?_, describes_iff.2 (cancelled.trans h)⟩
    rwa [resting, if_neg idle] at h

/-! ### Operations -/

section Operations

variable {r r' : Resource}

/-- Nothing has changed that the two states depend on. -/
theorem Honest.of_eq (h : r.Honest) (state : r'.state = r.state) (settled : r'.settled = r.settled)
    (error : r'.error = r.error) (fetched : r'.lastFetchedAt = r.lastFetchedAt) : r'.Honest := by
  rw [honest_iff] at h ⊢
  unfold resting standing at h ⊢
  rw [state, settled, error, fetched, h]

theorem Honest.beginLoading (h : r.Honest) : r.beginLoading.Honest := by
  rw [honest_iff] at h ⊢
  -- the state before the fetch is kept
  have kept : r.beginLoading.resting = r.resting := by
    by_cases hl : r.state = .loading <;> simp [resting, Resource.beginLoading, hl]
  exact kept.trans h

/-- The results after an outcome are what the state says, whatever they were before. -/
theorem honest_settle (r : Resource) (now : Nat) (outcome : Outcome) :
    (r.settle now outcome).2.2.Honest := by
  rw [honest_iff]
  cases outcome <;> rfl

theorem Honest.fenceInFlight (h : r.Honest) : r.fenceInFlight.Honest := by
  rw [honest_iff] at h ⊢
  have state : r.fenceInFlight.state = r.standing := r.state_fenceInFlight.trans h
  have idle : r.fenceInFlight.state ≠ .loading := state ▸ r.standing_ne_loading
  rw [resting, if_neg idle]
  exact state

/-- While the results are cleared, a fetch that is going on keeps the state it falls back to. -/
theorem resting_clearResults (r : Resource) :
    r.clearResults.resting = if r.inFlight then r.settled else .idle := by
  cases hf : r.inFlight with
  | false => simp [resting, clearResults, hf]
  | true =>
    have loading : r.state = .loading := by
      simp only [inFlight, Bool.and_eq_true, beq_iff_eq] at hf
      exact hf.1
    simp [resting, clearResults, hf, loading]

/-- An update clears the results. -/
theorem cleared_of_update {config : Config} (h : r.update config = .ok r') :
    r'.resting = r.clearResults.resting ∧ r'.standing = .idle := by
  rw [update] at h
  split at h
  · cases h
  · split at h
    · cases h
    · split at h <;> cases h <;> exact ⟨rfl, rfl⟩

end Operations

end Resource

namespace LiveResource

/-! ### Runs -/

/-- The action clears the results. -/
def Clears (r : LiveResource) : Action → Prop
  | .reset => True
  | .update config => ∃ resource, r.resource.update config = .ok resource
  | _ => False

/-- The action clears results while a fetch is going on that falls back to the state which they call
for. -/
structure Forgets (r : LiveResource) (a : Action) : Prop where
  clears : r.Clears a
  inFlight : r.resource.inFlight = true
  held : r.resource.settled ≠ .idle

section Run

variable {r r' : LiveResource} {a : Action}

/-- What is left when the results have been cleared. -/
theorem Clears.act (h : r.Clears a) :
    (r.act a).1.resource.resting = r.resource.clearResults.resting ∧
      (r.act a).1.resource.standing = .idle := by
  cases a with
  | reset => exact ⟨rfl, rfl⟩
  | update config =>
    obtain ⟨resource, hu⟩ := h
    simp only [LiveResource.act, update, hu]
    exact Resource.cleared_of_update hu
  | _ => exact h.elim

/-- The state falls back to the results that have been forgotten. -/
theorem Forgets.not_honest (h : r.Forgets a) : ¬ (r.act a).1.resource.Honest := by
  obtain ⟨resting, standing⟩ := h.clears.act
  rw [Resource.honest_iff, resting, standing, Resource.resting_clearResults, if_pos h.inFlight]
  exact h.held

/-- No move of an attempt parts the state from the results. -/
theorem Move.honest {m : Moment} {id : Nat} {signal : Signal} {effects : List Effect}
    (h : r.Move m id signal r' effects) (honest : r.resource.Honest) : r'.resource.Honest := by
  have raised : (r.resource.raised (r.paramsFor id)).Honest := honest.of_eq rfl rfl rfl rfl
  cases h with
  | still | leave | queue | rest | discard => exact honest
  | ask => exact raised
  | call => exact raised.beginLoading.of_eq rfl rfl rfl rfl
  | accept => exact honest.beginLoading.of_eq rfl rfl rfl rfl
  | @refuse _ message _ _ _ _ _ settles =>
    have settled := Resource.honest_settle (r.resource.raised (r.paramsFor id)) m.now
      (.invalid message)
    rwa [settles] at settled
  | @apply _ _ outcome _ _ _ _ _ settles =>
    have settled := Resource.honest_settle r.resource m.now outcome
    rwa [settles] at settled

/-- What one action preserves. -/
theorem Honest.act (honest : r.resource.Honest) (orderly : r.Orderly) (kept : ¬ r.Forgets a) :
    (r.act a).1.resource.Honest := by
  have cleared (h : r.Clears a) : (r.act a).1.resource.Honest := by
    obtain ⟨resting, standing⟩ := h.act
    rw [Resource.honest_iff, resting, standing, Resource.resting_clearResults]
    split
    · next inFlight => exact Classical.not_not.1 fun held => kept ⟨h, inFlight, held⟩
    · rfl
  rcases act_cases r a orderly.fence_le with ha | ⟨m, id, signal, -, move⟩
  · cases a with
    | advance m id signal => exact ha.elim
    | spawn override => exact honest
    | cancel => exact honest.fenceInFlight.of_eq rfl rfl rfl rfl
    | retire => exact honest.fenceInFlight.of_eq rfl rfl rfl rfl
    | reset => exact cleared trivial
    | update config =>
      cases hu : r.resource.update config with
      | ok resource => exact cleared ⟨resource, hu⟩
      | error e =>
        simp only [LiveResource.act, update, hu]
        exact honest
    | listen kind once listener => cases once <;> exact honest.of_eq rfl rfl rfl rfl
  · exact move.honest honest

/-- **The state agrees with the results**, and so does the state to which a cancellation falls back,
all along a run, exactly if no results are cleared in it that a fetch under way falls back to. -/
theorem lifecycle_agrees_iff (name : String) (config : Config) (actions : List Action) :
    (∀ before, before <+: actions → ((fresh name config).after before).resource.Honest) ↔
      ∀ before a, before ++ [a] <+: actions → ¬ ((fresh name config).after before).Forgets a := by
  constructor
  · intro honest before a part forgets
    have after := honest (before ++ [a]) part
    rw [after_concat] at after
    exact forgets.not_honest after
  · intro kept before
    induction before using List.reverseRecOn with
    | nil => exact fun _ => Resource.honest_iff.2 rfl
    | append_singleton before a ih =>
      intro part
      rw [after_concat]
      exact Honest.act (ih ((List.prefix_append before [a]).trans part))
        ((orderly_fresh name config).after before) (kept before a part)

/-- The first tickets have come, and are reset while others are being fetched. When that fetch is
cancelled, the resource claims a success of which nothing is left. -/
theorem cancel_after_reset :
    let m : Moment := { now := 0, isOpen := fun _ => true }
    let r := (fresh "tickets" { method := "list" }).after
      [.spawn none, .advance m 0 .go, .advance m 0 (.reply (.ok (.str "some tickets"))),
        .spawn none, .advance m 1 .go, .reset, .cancel]
    r.resource.state = .success ∧ r.resource.data = none ∧ r.resource.error = none ∧
      r.resource.lastFetchedAt = none ∧ ¬ r.resource.Honest := by
  intro m r
  have state : r.resource.state = .success := rfl
  have fetched : r.resource.lastFetchedAt = none := rfl
  refine ⟨state, rfl, rfl, fetched, fun honest => ?_⟩
  obtain ⟨-, there⟩ := (honest.settled (by simp [state])).success.1 state
  rw [fetched] at there
  cases there

end Run

end LiveResource

end ReactiveResource
