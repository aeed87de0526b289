import ReactiveResource.Resource.Basic

/-!
# What operations change, and what they leave alone

The results of a resource change often, its counters seldom. `Resource.Agrees` says that two
resources agree in all but their results and their listeners; most operations keep to that.

* `Config.bare`: a config without its listeners;
* `Resource.Agrees`, with a lemma for each operation that keeps to it;
* `Resource.Settled`, `Settled.of_settle`: what an outcome changes;
* `Resource.update_ok`: what an update changes.
-/

namespace ReactiveResource

/-- The config without its listeners. -/
def Config.bare (c : Config) : Config := { c with listeners := {} }

section Bare

variable {c d : Config}

theorem Config.method_of_bare (h : c.bare = d.bare) : c.method = d.method := by
  show c.bare.method = d.bare.method
  rw [h]

theorem Config.params_of_bare (h : c.bare = d.bare) : c.params = d.params := by
  show c.bare.params = d.bare.params
  rw [h]

theorem Config.passthrough_of_bare (h : c.bare = d.bare) : c.passthrough = d.passthrough := by
  show c.bare.passthrough = d.bare.passthrough
  rw [h]

/-- Configs that agree but for their listeners make the same call. -/
theorem Config.callArgs_of_bare (h : c.bare = d.bare) :
    c.callArgs c.params = d.callArgs d.params := by
  show c.bare.callArgs c.bare.params = d.bare.callArgs d.bare.params
  rw [h]

theorem Config.paginated_of_bare (h : c.bare = d.bare) : c.paginated = d.paginated := by
  show c.bare.paginated = d.bare.paginated
  rw [h]

theorem Config.validator_of_bare (h : c.bare = d.bare) : c.validator = d.validator := by
  show c.bare.validator = d.bare.validator
  rw [h]

theorem Config.precondition_of_bare (h : c.bare = d.bare) :
    c.precondition = d.precondition := by
  show c.bare.precondition = d.bare.precondition
  rw [h]

end Bare

namespace Outcome

/-- The state in which an outcome leaves a resource. -/
def lifecycle : Outcome → Lifecycle
  | .payload _ => .success
  | .remote _ | .invalid _ => .error

/-- The kind of the event that tells of an outcome. -/
def kind : Outcome → EventKind
  | .payload _ => .success
  | .remote _ | .invalid _ => .error

/-- The text of the error that an outcome leaves. -/
def message? : Outcome → Option String
  | .payload _ => none
  | .remote e => some e.joined
  | .invalid message => some message

/-- The failed call that an outcome leaves. -/
def failure? : Outcome → Option RemoteError
  | .remote e => some e
  | .payload _ | .invalid _ => none

end Outcome

namespace Resource

/-- Two resources agree in all but their results and listeners. -/
structure Agrees (r r' : Resource) : Prop where
  name : r'.name = r.name
  config : r'.config.bare = r.config.bare
  generation : r'.generation = r.generation
  fence : r'.fence = r.fence
  epoch : r'.epoch = r.epoch
  retired : r'.retired = r.retired

namespace Agrees

variable {r r' r'' : Resource}

theorem trans (h : r.Agrees r') (h' : r'.Agrees r'') : r.Agrees r'' :=
  ⟨h'.name.trans h.name, h'.config.trans h.config, h'.generation.trans h.generation,
    h'.fence.trans h.fence, h'.epoch.trans h.epoch, h'.retired.trans h.retired⟩

end Agrees

variable (r : Resource)

theorem notify_agrees : r.Agrees r.notify := ⟨rfl, rfl, rfl, rfl, rfl, rfl⟩

theorem applyPayload_agrees (payload : Json) : r.Agrees (r.applyPayload payload) := by
  cases payload with
  | arr page => rw [applyPayload]; split <;> exact ⟨rfl, rfl, rfl, rfl, rfl, rfl⟩
  | _ => exact ⟨rfl, rfl, rfl, rfl, rfl, rfl⟩

theorem withOutcome_agrees (now : Nat) (outcome : Outcome) :
    r.Agrees (r.withOutcome now outcome) := by
  cases outcome with
  | payload payload =>
    have h := r.applyPayload_agrees payload
    exact ⟨h.name, h.config, h.generation, h.fence, h.epoch, h.retired⟩
  | _ => exact ⟨rfl, rfl, rfl, rfl, rfl, rfl⟩

/-- An outcome by itself leaves the listeners alone. -/
theorem listeners_withOutcome (now : Nat) (outcome : Outcome) :
    (r.withOutcome now outcome).config = r.config ∧
      (r.withOutcome now outcome).listeners = r.listeners := by
  cases outcome with
  | payload payload =>
    cases payload with
    | arr page =>
      by_cases paginated : r.config.paginated = true <;>
        simp [withOutcome, applyPayload, paginated]
    | _ => exact ⟨rfl, rfl⟩
  | _ => exact ⟨rfl, rfl⟩

theorem takeListeners_agrees (kind : EventKind) : r.Agrees (r.takeListeners kind).2 :=
  ⟨rfl, rfl, rfl, rfl, rfl, rfl⟩

theorem settle_agrees (now : Nat) (outcome : Outcome) : r.Agrees (r.settle now outcome).2.2 :=
  ((r.withOutcome_agrees now outcome).trans (takeListeners_agrees _ _)).trans (notify_agrees _)

theorem on_agrees (kind : EventKind) (listener : Listener) : r.Agrees (r.on kind listener) :=
  ⟨rfl, rfl, rfl, rfl, rfl, rfl⟩

theorem once_agrees (kind : EventKind) (listener : Listener) : r.Agrees (r.once kind listener) :=
  ⟨rfl, rfl, rfl, rfl, rfl, rfl⟩

variable {r} {r' : Resource} {config : Config}

/-- The revision tells that an outcome has been applied. -/
theorem revision_settle (r : Resource) (now : Nat) (outcome : Outcome) :
    (r.settle now outcome).2.2.revision = r.revision + 1 := by
  have payload (v : Json) : (r.applyPayload v).revision = r.revision := by
    cases v with
    | arr page => rw [applyPayload]; split <;> rfl
    | _ => rfl
  cases outcome with
  | payload v => exact congrArg (· + 1) (payload v)
  | _ => rfl

/-- What an outcome changes. The state says how the fetch has ended, and no parameters are current
any more. A payload is shown and clears the error; a failed call and a refusal leave their error,
and what is shown stays. All but a refusal leave the instant at which they came. Of the listeners
that were due, those that run once are gone. The name, the counters but for the revision, and the
config but for its listeners stay. -/
structure Settled (r : Resource) (now : Nat) (outcome : Outcome) (r' : Resource) : Prop where
  agrees : r.Agrees r'
  revision : r'.revision = r.revision + 1
  ended : r'.state = outcome.lifecycle ∧ r'.settled = outcome.lifecycle
  params : r'.currentParams = none
  error : r'.error = outcome.message? ∧ r'.remoteError = outcome.failure?
  page : ∀ items, outcome = .payload (.arr items) → r.config.paginated = true →
    r'.data = some (.arr (r.pagesSoFar ++ items)) ∧ r'.exhausted = items.isEmpty ∧ r'.stale = false
  value : ∀ v, outcome = .payload v → (r.config.paginated = true → ∀ items, v ≠ .arr items) →
    r'.data = some v ∧ r'.exhausted = false ∧ r'.stale = false
  kept : (∀ v, outcome ≠ .payload v) →
    r'.data = r.data ∧ r'.exhausted = r.exhausted ∧ r'.stale = r.stale
  fetched : (∀ message, outcome ≠ .invalid message) → r'.lastFetchedAt = some now
  refused : ∀ message, outcome = .invalid message → r'.lastFetchedAt = r.lastFetchedAt
  listeners : r'.listeners = (r.listeners.takeFor outcome.kind).2 ∧
    r'.config.listeners = (r.config.listeners.takeFor outcome.kind).2

theorem Settled.of_settle {now : Nat} {outcome : Outcome} {event : Event} {due : List Listener}
    (settles : r.settle now outcome = (event, due, r')) : r.Settled now outcome r' := by
  have agrees := r.settle_agrees now outcome
  have revision := r.revision_settle now outcome
  obtain ⟨config, own⟩ := r.listeners_withOutcome now outcome
  have kind : ((r.withOutcome now outcome).eventOf outcome).kind = outcome.kind := by
    cases outcome <;> rfl
  rw [settles] at agrees revision
  cases settles
  refine { agrees, revision, ended := ?ended, params := ?params, error := ?error, page := ?page
           value := ?value, kept := ?kept, fetched := ?fetched, refused := ?refused
           listeners := ?listeners }
  case ended => cases outcome <;> exact ⟨rfl, rfl⟩
  case params => cases outcome <;> rfl
  case error => cases outcome <;> exact ⟨rfl, rfl⟩
  case page =>
    rintro items rfl paginated
    have applied : r.applyPayload (.arr items)
        = { r with exhausted := items.isEmpty, data := some (.arr (r.pagesSoFar ++ items)) } :=
      if_pos paginated
    exact ⟨congrArg Resource.data applied, congrArg Resource.exhausted applied, rfl⟩
  case value =>
    rintro v rfl whole
    have applied : r.applyPayload v = { r with exhausted := false, data := some v } := by
      cases v with
      | arr items => exact if_neg fun paginated => whole paginated items rfl
      | _ => rfl
    exact ⟨congrArg Resource.data applied, congrArg Resource.exhausted applied, rfl⟩
  case kept =>
    intro other
    cases outcome with
    | payload v => exact absurd rfl (other v)
    | _ => exact ⟨rfl, rfl, rfl⟩
  case fetched =>
    intro other
    cases outcome with
    | invalid message => exact absurd rfl (other message)
    | _ => rfl
  case refused =>
    rintro message rfl
    rfl
  case listeners =>
    rw [← kind, ← config, ← own]
    exact ⟨rfl, rfl⟩

/-- An update that is accepted replaces the config and raises the epoch, and leaves the other
counters alone. -/
theorem update_ok (h : r.update config = .ok r') :
    Text.isBlank config.method = false ∧ config.method = r.method ∧ r'.config = config ∧
      r'.epoch = r.epoch + 1 ∧ r'.generation = r.generation ∧ r'.fence = r.fence ∧
      r'.retired = r.retired ∧ r'.name = r.name := by
  rw [update] at h
  cases hb : Text.isBlank config.method with
  | true => simp [hb] at h
  | false =>
    by_cases hm : config.method = r.method
    · rw [if_neg (by simp [hb]), if_neg (by simp [hm])] at h
      by_cases hk : (config.keepData && r.data.isSome) = true
      · rw [if_pos hk, Except.ok.injEq] at h
        subst h
        exact ⟨rfl, hm, rfl, rfl, rfl, rfl, rfl, rfl⟩
      · rw [if_neg hk, Except.ok.injEq] at h
        subst h
        exact ⟨rfl, hm, rfl, rfl, rfl, rfl, rfl, rfl⟩
    · simp [hb, hm] at h

/-- An update leaves the resource's own listeners alone. -/
theorem listeners_update (h : r.update config = .ok r') : r'.listeners = r.listeners := by
  rw [update] at h
  split at h
  · cases h
  · split at h
    · cases h
    · split at h <;> cases h <;> rfl

/-- An update is accepted exactly if the config keeps the method, which must not be blank. -/
theorem exists_update_ok_iff :
    (∃ r', r.update config = .ok r') ↔
      Text.isBlank config.method = false ∧ config.method = r.method := by
  constructor
  · rintro ⟨r', h⟩
    exact ⟨(update_ok h).1, (update_ok h).2.1⟩
  · rintro ⟨hb, hm⟩
    rw [update]
    rw [if_neg (by simp [hb]), if_neg (by simp [hm])]
    by_cases hk : (config.keepData && r.data.isSome) = true
    · exact ⟨_, if_pos hk⟩
    · exact ⟨_, if_neg hk⟩

end Resource

end ReactiveResource
