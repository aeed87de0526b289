import ReactiveResource.Proofs.Resource.Fencing
import ReactiveResource.Proofs.Resource.Loading

/-!
# The end of a resource

A resource that is retired stays so. Attempts that are on their way then may still move, but they
take no generation, call nobody and bring no outcome: each of them comes to its end and leaves the
resource as it is.

* `Move.of_retired`: what an attempt of a retired resource can do;
* `LiveResource.Over`: a resource is retired, and no generation of it counts;
* `over_of_retired`, `Over.after`: this is so after every run in which it has been retired, and for
  ever after.
-/

namespace ReactiveResource

namespace LiveResource

variable {r r' : LiveResource}

theorem isCurrent_of_retired (retired : r.resource.retired = true) (g : Nat) :
    r.resource.isCurrent g = false := by simp [Resource.isCurrent, retired]

/-- **An attempt of a retired resource** leaves it as it is, calls nobody and brings no outcome. -/
theorem Move.of_retired {m : Moment} {id : Nat} {signal : Signal} {effects : List Effect}
    (h : r.Move m id signal r' effects) (retired : r.resource.retired = true) :
    r'.resource = r.resource ∧ effects.filterMap Effect.caller? = [] ∧
      effects.filterMap Effect.delivered? = [] := by
  have dead {r₁ : LiveResource} (turn : r.Turn m id r₁) : False := by
    rw [turn.alive] at retired
    cases retired
  have stale {g : Nat} (current : r.resource.isCurrent g = true) : False := by
    rw [isCurrent_of_retired retired] at current
    cases current
  cases h with
  | still | rest => exact ⟨rfl, rfl, rfl⟩
  | leave | discard =>
    exact ⟨rfl, filterMap_caller?_wakes _ _, filterMap_delivered?_wakes _⟩
  | queue _ admits =>
    rw [admits.alive] at retired
    cases retired
  | refuse turn | ask turn | call turn => exact (dead turn).elim
  | accept _ _ current => exact (stale current).elim
  | apply _ current => exact (stale current).elim

/-- The resource is retired, and no generation of it counts. -/
structure Over (r : LiveResource) : Prop where
  orderly : r.Orderly
  retired : r.resource.retired = true
  fenced : r.resource.fence = r.resource.generation

/-- Whoever retires a resource withdraws all its generations. -/
theorem over_of_retired (name : String) (config : Config) (actions : List Action)
    (retired : ((fresh name config).after actions).resource.retired = true) :
    ((fresh name config).after actions).Over := by
  have kept : ((fresh name config).after actions).Orderly ∧
      (((fresh name config).after actions).resource.retired = true →
        ((fresh name config).after actions).Over) := by
    refine after_induction (motive := fun r => r.Orderly ∧ (r.resource.retired = true → r.Over))
      ⟨orderly_fresh name config, nofun⟩ (fun r a h => ?_) actions
    obtain ⟨orderly, spent⟩ := h
    refine ⟨orderly.act a, fun retired => ⟨orderly.act a, retired, ?_⟩⟩
    rcases act_cases r a orderly.fence_le with ha | ⟨m, id, signal, -, move⟩
    · rw [generation_external ha]
      rcases fence_external (r := r) ha with ⟨-, fenced⟩ | ⟨-, fence, same⟩
      · exact fenced
      · exact fence.trans (spent (same.symm.trans retired)).fenced
    · have before := move.keeps.2.symm.trans retired
      rw [(move.of_retired before).1]
      exact (spent before).fenced
  exact kept.2 retired

section Over

theorem Over.act (spent : r.Over) (a : Action) :
    (r.act a).1.Over ∧ (r.act a).1.resource.generation = r.resource.generation := by
  have orderly := spent.orderly.act a
  have retired := spent.orderly.retired_act a spent.retired
  rcases act_cases r a spent.orderly.fence_le with ha | ⟨m, id, signal, -, move⟩
  · have generation := generation_external (r := r) ha
    refine ⟨⟨orderly, retired, ?_⟩, generation⟩
    rw [generation]
    rcases fence_external (r := r) ha with ⟨-, fenced⟩ | ⟨-, fence, -⟩
    · exact fenced
    · exact fence.trans spent.fenced
  · have same := (move.of_retired spent.retired).1
    exact ⟨⟨orderly, retired, by rw [same, spent.fenced]⟩, by rw [same]⟩

/-- **Retired for good**, and no generation is taken any more. -/
theorem Over.after (spent : r.Over) (actions : List Action) :
    (r.after actions).Over ∧ (r.after actions).resource.generation = r.resource.generation := by
  induction actions generalizing r with
  | nil => exact ⟨spent, rfl⟩
  | cons a rest ih =>
    obtain ⟨spent', same⟩ := spent.act a
    obtain ⟨later, same'⟩ := ih spent'
    exact ⟨later, same'.trans same⟩

/-- No outcome is applied to a resource that is over. -/
theorem Over.of_applied (spent : r.Over) (actions : List Action) {id g : Nat}
    (applied : (r.after actions).Applied id g) : r.Applied id g := by
  obtain ⟨later, generation⟩ := spent.after actions
  rcases spent.orderly.of_applied actions applied with before | new | ⟨-, current⟩
  · exact before
  · have taken := later.orderly.bounded applied.generationOf?
    omega
  · rw [isCurrent_of_retired spent.retired] at current
    cases current

/-- A resource that is over is not loading. -/
theorem Over.not_loading (spent : r.Over) (coherent : r.Coherent) :
    r.resource.state ≠ .loading := by
  intro loading
  have unfenced := coherent.unfenced loading
  rw [spent.fenced] at unfenced
  exact Nat.lt_irrefl _ unfenced

/-- An attempt of a resource that is over tells nobody anything. -/
theorem Over.silent (spent : r.Over) (m : Moment) (id : Nat) (signal : Signal) :
    (r.advance m id signal).2.filterMap Effect.caller? = [] ∧
      ∀ g event due, .deliver g event due ∉ (r.advance m id signal).2 := by
  have move : r.Move m id signal _ _ := advance_move spent.orderly.fence_le signal
  obtain ⟨-, calls, delivers⟩ := move.of_retired spent.retired
  rw [filterMap_deeds (fun e he => by cases e <;> first | rfl | cases he)] at calls delivers
  refine ⟨calls, fun g event due mem => ?_⟩
  have told := List.mem_filterMap.2 ⟨_, mem, (rfl : Effect.delivered? (.deliver g event due) = _)⟩
  rw [delivers] at told
  cases told

end Over

end LiveResource

end ReactiveResource
