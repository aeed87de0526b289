import ReactiveResource.Proofs.Resource.Generations

/-!
# Fetches that nothing holds up

Without a precondition and a validator a fetch goes on to its call as soon as it is given its turn.
It then makes the call of the config, unless it has parameters of its own.

* `Config.Unheld`, `LiveResource.Unheld`: nothing holds fetches up, and none has parameters of its
  own;
* `Unheld.move`, `Unheld.spawn`, `Unheld.cancel`, `Unheld.update`: this stays so.
-/

namespace ReactiveResource

/-- Fetches are held up by neither a precondition nor a validator. -/
structure Config.Unheld (c : Config) : Prop where
  precondition : c.precondition = none
  validator : c.validator = none

theorem Config.Unheld.of_bare {c d : Config} (h : c.Unheld) (bare : d.bare = c.bare) :
    d.Unheld where
  precondition := (Config.precondition_of_bare bare).trans h.precondition
  validator := (Config.validator_of_bare bare).trans h.validator

theorem Config.Unheld.not_refuses {c : Config} (h : c.Unheld) (params : Params)
    (message : String) : ¬ c.Refuses params message := by
  rintro ⟨check, validator, -⟩
  rw [h.validator] at validator
  cases validator

theorem Config.Unheld.not_held {c : Config} (h : c.Unheld) : c.validator ≠ some .held := by
  rw [h.validator]
  simp

namespace LiveResource

/-- Every fetch makes the call of the config when it is given its turn. -/
structure Unheld (r : LiveResource) : Prop where
  alive : r.resource.retired = false
  config : r.resource.config.Unheld
  ordinary : ∀ id, r.override? id = none
  unchecked : ∀ id t, r.phase? id ≠ some (.validating t)

variable {r r' : LiveResource} {m : Moment} {id : Nat} {signal : Signal} {effects : List Effect}

theorem Unheld.paramsFor (unheld : r.Unheld) (id : Nat) :
    r.paramsFor id = r.resource.config.params := by
  rw [LiveResource.paramsFor, unheld.ordinary id]
  rfl

/-- No move changes the config but for its listeners. -/
theorem Move.config (h : r.Move m id signal r' effects) :
    r'.resource.config.bare = r.resource.config.bare := by
  cases h with
  | refuse _ _ settles | apply _ _ settles =>
    exact (Resource.Settled.of_settle settles).agrees.config
  | _ => rfl

theorem Unheld.move (unheld : r.Unheld) (h : r.Move m id signal r' effects) : r'.Unheld := by
  have alive := h.keeps.2.trans unheld.alive
  have config := unheld.config.of_bare h.config
  -- the attempts, after one of them has gone on to a phase that is not a check
  have moved {q p : Phase} (phase : r.phase? id = some q)
      (attempts : r'.attempts = (r.setPhase id p).attempts) (free : ∀ t, p ≠ .validating t) :
      r'.Unheld := by
    refine ⟨alive, config, fun j => ?_, fun j t => ?_⟩
    · rw [override?, attempts]
      exact (override?_setPhase r id p j).trans (unheld.ordinary j)
    · rw [phase?_of_setPhase attempts phase]
      split
      · exact fun e => free t (Option.some.inj e)
      · exact unheld.unchecked j t
  cases h with
  | still => exact unheld
  | leave phase => exact moved phase rfl (by simp)
  | queue phase => exact moved phase rfl (by simp)
  | refuse _ refuses => exact absurd refuses (unheld.config.not_refuses _ _)
  | ask _ held => exact absurd held unheld.config.not_held
  | call turn =>
    rcases turn.phase with phase | phase <;>
      exact moved phase (turn.setPhase_attempts _ _) (by simp)
  | accept phase => exact absurd phase (unheld.unchecked _ _)
  | rest phase => exact moved phase rfl (by simp)
  | apply comes =>
    obtain ⟨q, phase, -⟩ := comes.phase
    exact moved phase rfl (by simp)
  | discard comes =>
    obtain ⟨q, phase, -⟩ := comes.phase
    exact moved phase rfl (by simp)

theorem Unheld.of_fresh {name : String} {config : Config} (unheld : config.Unheld) :
    (fresh name config).Unheld :=
  ⟨rfl, unheld, fun _ => rfl, nofun⟩

theorem Unheld.cancel (unheld : r.Unheld) : r.cancel.Unheld :=
  ⟨unheld.alive, unheld.config, unheld.ordinary, unheld.unchecked⟩

theorem Unheld.spawn (unheld : r.Unheld) : (r.spawn none).1.Unheld := by
  refine ⟨unheld.alive, unheld.config, fun id => ?_, fun id t => ?_⟩
  · have ordinary := unheld.ordinary id
    simp only [override?, LiveResource.spawn] at ordinary ⊢
    rw [List.getElem?_append]
    split
    · exact ordinary
    · cases hi : ([{ override := none }] : List Attempt)[id - r.attempts.length]? with
      | none => rfl
      | some a => rw [List.mem_singleton.1 (List.mem_of_getElem? hi)]; rfl
  · rw [phase?_spawn]
    split
    · simp
    · exact unheld.unchecked id t

theorem update_ok {config : Config} (h : r.update config = .ok r') :
    ∃ resource, r.resource.update config = .ok resource ∧ r' = { r with resource } := by
  rw [update] at h
  cases hu : r.resource.update config with
  | error e => rw [hu] at h; cases h
  | ok resource =>
    rw [hu] at h
    cases h
    exact ⟨resource, rfl, rfl⟩

theorem Unheld.update (unheld : r.Unheld) {config : Config} (new : config.Unheld)
    (h : r.update config = .ok r') : r'.Unheld ∧ r'.resource.config = config := by
  obtain ⟨resource, hu, rfl⟩ := update_ok h
  obtain ⟨-, -, same, -, -, -, retired, -⟩ := Resource.update_ok hu
  exact ⟨⟨retired.trans unheld.alive, same ▸ new, unheld.ordinary, unheld.unchecked⟩, same⟩

end LiveResource

end ReactiveResource
