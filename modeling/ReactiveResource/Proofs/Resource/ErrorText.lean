import ReactiveResource.Gateway.Body
import ReactiveResource.Proofs.Resource.Generations

/-!
# The text of an error

What the user is told of an error is never empty: a failed call is told by its messages, or by a
general one if none of them says anything, and parameters are refused with a message or not at all.
No operation parts the text from the failed call that it tells of.

* `RemoteError.joined_ne_empty`, `Gateway.errorOfBody_messages`: what is told of a failed call;
* `Resource.Legible`: the error of a resource is a text, and that of the failed call if there is
  one;
* `Legible.act`, `legible_after`: every action keeps this, and so does every run.
-/

namespace ReactiveResource

/-! ### Failed calls -/

theorem intercalate_ne_empty {separator first : String} (h : first ≠ "") (rest : List String) :
    separator.intercalate (first :: rest) ≠ "" := by
  cases rest with
  | nil => rwa [String.intercalate_singleton]
  | cons second rest =>
    rw [String.intercalate_cons_cons, String.append_assoc]
    exact fun empty => h (String.append_eq_empty_iff.1 empty).1

/-- **A failed call is told by a text**, whatever its messages are. -/
theorem RemoteError.joined_ne_empty (e : RemoteError) : e.joined ≠ "" := by
  rw [joined]
  cases kept : e.messages.filter (· ≠ "") with
  | nil => simp [internalServerError]
  | cons first rest =>
    have mem : first ∈ e.messages.filter (· ≠ "") := kept ▸ List.mem_cons_self
    exact intercalate_ne_empty (by simpa using (List.mem_filter.1 mem).2) rest

/-- **A failed response has a message**, and none of its messages is empty, whatever its body is. -/
theorem Gateway.errorOfBody_messages (method : String) (status : Nat) (body : String) :
    (errorOfBody method status body).messages ≠ [] ∧
      ∀ message ∈ (errorOfBody method status body).messages, message ≠ "" := by
  simp only [errorOfBody]
  generalize List.map unwrapMessage _ = raw
  cases kept : raw.filter (· ≠ "") with
  | nil => simp [internalServerError]
  | cons first rest =>
    refine ⟨List.cons_ne_nil first rest, fun message mem => ?_⟩
    have mem : message ∈ raw.filter (· ≠ "") := kept ▸ mem
    simpa using (List.mem_filter.1 mem).2

namespace Resource

/-! ### The error of a resource -/

/-- The error is a text that is not empty, and the one of the failed call if a call has failed. -/
structure Legible (r : Resource) : Prop where
  nonempty : r.error ≠ some ""
  joined : ∀ e, r.remoteError = some e → r.error = some e.joined

variable {r r' : Resource}

/-- Neither the error nor the failed call has changed. -/
theorem Legible.of_eq (h : r.Legible) (error : r'.error = r.error)
    (remoteError : r'.remoteError = r.remoteError) : r'.Legible where
  nonempty := error ▸ h.nonempty
  joined e failed := error.trans (h.joined e (remoteError ▸ failed))

theorem legible_of_none (error : r.error = none) (remoteError : r.remoteError = none) :
    r.Legible where
  nonempty := by simp [error]
  joined e failed := nomatch remoteError.symm.trans failed

/-- The results after an outcome are legible, whatever they were before. -/
theorem legible_settle (r : Resource) (now : Nat) {outcome : Outcome}
    (told : ∀ message, outcome = .invalid message → message ≠ "") :
    (r.settle now outcome).2.2.Legible := by
  cases outcome with
  | payload => exact legible_of_none rfl rfl
  | remote e => exact ⟨fun empty => e.joined_ne_empty (Option.some.inj empty), fun _ failed =>
      congrArg (fun e : RemoteError => some e.joined) (Option.some.inj failed)⟩
  | invalid message => exact ⟨fun empty => told message rfl (Option.some.inj empty), nofun⟩

/-- An update clears the error. -/
theorem legible_update {config : Config} (h : r.update config = .ok r') : r'.Legible := by
  rw [update] at h
  split at h
  · cases h
  · split at h
    · cases h
    · split at h <;> cases h <;> exact legible_of_none rfl rfl

end Resource

namespace LiveResource

variable {r r' : LiveResource}

/-- Parameters are not refused without a message. -/
theorem Comes.told {id : Nat} {signal : Signal} {t : Ticket} {outcome : Outcome}
    (comes : r.Comes id signal t outcome) (message : String)
    (refused : outcome = .invalid message) : message ≠ "" := by
  cases comes with
  | @replied _ reply => cases reply <;> cases refused
  | @rested _ reply => cases reply <;> cases refused
  | refused _ refusal =>
    cases refused
    exact refusal

theorem Move.legible {m : Moment} {id : Nat} {signal : Signal} {effects : List Effect}
    (h : r.Move m id signal r' effects) (legible : r.resource.Legible) : r'.resource.Legible := by
  cases h with
  | still | leave | queue | rest | discard => exact legible
  | ask | call | accept => exact legible.of_eq rfl rfl
  | @refuse _ message _ _ _ _ refuses settles =>
    obtain ⟨-, -, -, refusal⟩ := refuses
    have told : ∀ text, Outcome.invalid message = .invalid text → text ≠ "" :=
      fun _ same => Outcome.invalid.inj same ▸ refusal
    have settled := (r.resource.raised (r.paramsFor id)).legible_settle m.now told
    rwa [settles] at settled
  | @apply _ _ outcome _ _ _ comes _ settles =>
    have settled := r.resource.legible_settle m.now comes.told
    rwa [settles] at settled

/-- What one action preserves. -/
theorem Legible.act (legible : r.resource.Legible) (orderly : r.Orderly) (a : Action) :
    (r.act a).1.resource.Legible := by
  rcases act_cases r a orderly.fence_le with ha | ⟨m, id, signal, -, move⟩
  · cases a with
    | advance => exact ha.elim
    | reset => exact Resource.legible_of_none rfl rfl
    | update config =>
      cases accepted : r.resource.update config with
      | error =>
        simp only [LiveResource.act, update, accepted]
        exact legible
      | ok =>
        simp only [LiveResource.act, update, accepted]
        exact Resource.legible_update accepted
    | listen kind once => cases once <;> exact legible.of_eq rfl rfl
    | _ => exact legible.of_eq rfl rfl
  · exact move.legible legible

/-- **The error of a resource is never empty**, and it tells of the failed call, after every run. -/
theorem legible_after (name : String) (config : Config) (actions : List Action) :
    ((fresh name config).after actions).resource.Legible := by
  have kept : ((fresh name config).after actions).Orderly ∧
      ((fresh name config).after actions).resource.Legible :=
    after_induction (motive := fun r => r.Orderly ∧ r.resource.Legible)
      ⟨orderly_fresh name config, Resource.legible_of_none rfl rfl⟩
      (fun _ a h => ⟨h.1.act a, Legible.act h.2 h.1 a⟩) actions
  exact kept.2

end LiveResource

end ReactiveResource
