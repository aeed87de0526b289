import ReactiveResource.Proofs.Resource.Unheld

/-!
# The newest fetch

Of all fetches of a resource the one with the newest generation has the last word. Where nothing
holds fetches up, `LiveResource.Newest` says how far it has come: it has not started yet, or it
carries the call of the present config, or the resource shows the reply to that call. No move of any
attempt changes this.

* `Config.Unguarded`, `LiveResource.Plain`: fetches make the call of the config when they start;
* `Resource.Shows`: the results are those of a reply;
* `LiveResource.Newest`, `Newest.move`: the invariant, and that moves keep it;
* `Plain.cancel`, `Plain.update`, `newest_spawn`: operations from outside.
-/

namespace ReactiveResource

/-- Fetches neither wait for pages nor are held up by a precondition or a validator. -/
structure Config.Unguarded (c : Config) : Prop where
  single : c.paginated = false
  precondition : c.precondition = none
  validator : c.validator = none

theorem Config.Unguarded.unheld {c : Config} (h : c.Unguarded) : c.Unheld :=
  ⟨h.precondition, h.validator⟩

theorem Config.Unguarded.of_bare {c d : Config} (h : c.Unguarded) (bare : d.bare = c.bare) :
    d.Unguarded where
  single := (Config.paginated_of_bare bare).trans h.single
  precondition := (h.unheld.of_bare bare).precondition
  validator := (h.unheld.of_bare bare).validator

/-- The results are those of a reply. -/
def Resource.Shows (r : Resource) : Reply → Prop
  | .ok payload => r.state = .success ∧ r.data = some payload ∧ r.error = none
  | .err e => r.state = .error ∧ r.error = some e.joined ∧ r.remoteError = some e

theorem Resource.shows_settle {r : Resource} (single : r.config.paginated = false) (now : Nat)
    (reply : Reply) : (r.settle now (.ofReply reply)).2.2.Shows reply := by
  cases reply with
  | err e => exact ⟨rfl, rfl, rfl⟩
  | ok payload =>
    have whole : r.config.paginated = true → ∀ items, payload ≠ .arr items := by simp [single]
    exact ⟨rfl, ((Settled.of_settle rfl).value payload rfl whole).1, rfl⟩

namespace LiveResource

/-- Every fetch makes the call of the config when it starts. -/
structure Plain (r : LiveResource) : Prop where
  alive : r.resource.retired = false
  unguarded : r.resource.config.Unguarded
  ordinary : ∀ id, r.override? id = none
  unchecked : ∀ id t, r.phase? id ≠ some (.validating t)

/-- How far the newest fetch has come. What it means that an attempt has asked something and has
been given a reply is left to the surroundings. -/
inductive Newest (asked : Nat → String → Json → Reply → Prop) (r : LiveResource) : Prop
  /-- It has not started yet. -/
  | pending {id : Nat} (phase : r.phase? id = some .spawned)
  /-- It has made the call of the config, and its outcome counts. -/
  | underway {id : Nat} {p : Phase} {t : Ticket} (phase : r.phase? id = some p)
      (ticket : p.ticket? = some t) (current : r.resource.isCurrent t.generation = true)
      (method : t.method = r.resource.config.method)
      (args : t.args = r.resource.config.callArgs r.resource.config.params)
  /-- The resource shows the reply to the call of the config. -/
  | done {id : Nat} {reply : Reply} (applied : r.Applied id r.resource.generation)
      (answered : asked id r.resource.config.method
        (r.resource.config.callArgs r.resource.config.params) reply)
      (shown : r.resource.Shows reply)

section Newest

variable {r r' : LiveResource} {asked asked' : Nat → String → Json → Reply → Prop}
  {m : Moment} {id : Nat} {signal : Signal} {effects : List Effect}

theorem Newest.mono (h : r.Newest asked)
    (more : ∀ id method args reply, asked id method args reply → asked' id method args reply) :
    r.Newest asked' := by
  cases h with
  | pending phase => exact .pending phase
  | underway phase ticket current method args => exact .underway phase ticket current method args
  | done applied answered shown => exact .done applied (more _ _ _ _ answered) shown

/-! ### Moves -/

theorem Plain.unheld (plain : r.Plain) : r.Unheld :=
  ⟨plain.alive, plain.unguarded.unheld, plain.ordinary, plain.unchecked⟩

theorem Unheld.plain (unheld : r.Unheld) (unguarded : r.resource.config.Unguarded) : r.Plain :=
  ⟨unheld.alive, unguarded, unheld.ordinary, unheld.unchecked⟩

theorem Plain.move (plain : r.Plain) (h : r.Move m id signal r' effects) : r'.Plain :=
  (plain.unheld.move h).plain (plain.unguarded.of_bare h.config)

/-- An attempt that is not the newest leaves the results alone. -/
theorem Newest.aside (newest : r.Newest asked) {q p : Phase} (phase : r.phase? id = some q)
    (resource : r'.resource = r.resource) (attempts : r'.attempts = (r.setPhase id p).attempts)
    (started : q ≠ .spawned) (unfinished : ∀ g, q ≠ .finished (.applied g))
    (stale : ∀ t, q.ticket? = some t → r.resource.isCurrent t.generation = false) :
    r'.Newest asked := by
  have other {j : Nat} {p' : Phase} (phase' : r.phase? j = some p') (hne : p' ≠ q) :
      r'.phase? j = some p' := by
    have hj : j ≠ id := by
      rintro rfl
      exact hne (Option.some.inj (phase'.symm.trans phase))
    rw [phase?_of_setPhase attempts phase, if_neg hj, phase']
  cases newest with
  | pending phase' => exact .pending (other phase' started.symm)
  | @underway j p' t phase' ticket current method args =>
    rw [← resource] at method args
    refine .underway (other phase' ?_) ticket (resource ▸ current) method args
    rintro rfl
    rw [stale t ticket] at current
    cases current
  | @done j reply applied answered shown =>
    rw [← resource] at answered shown
    refine .done ?_ answered shown
    rw [resource]
    exact other applied (unfinished _).symm

/-- A delay begins, be it that of the newest fetch. -/
theorem Newest.rest (newest : r.Newest asked) {t : Ticket} (phase : r.phase? id = some (.calling t))
    (reply : Reply) : (r.setPhase id (.delaying t reply)).Newest asked := by
  have other {j : Nat} {p : Phase} (phase' : r.phase? j = some p) (hne : p ≠ .calling t) :
      (r.setPhase id (.delaying t reply)).phase? j = some p := by
    rw [phase?_setPhase_of_ne, phase']
    rintro rfl
    exact hne (Option.some.inj (phase'.symm.trans phase))
  cases newest with
  | pending phase' => exact .pending (other phase' (by simp))
  | @underway j p t' phase' ticket current method args =>
    by_cases hj : j = id
    · subst hj
      cases phase.symm.trans phase'
      cases ticket
      exact .underway (phase?_setPhase_self phase _) rfl current method args
    · exact .underway ((phase?_setPhase_of_ne r hj _).trans phase') ticket current method args
  | done applied answered shown => exact .done (other applied (by simp)) answered shown

/-- A reply is applied: it is that of the newest fetch, unless this has yet to start. -/
theorem Newest.apply (newest : r.Newest asked) (single : r.resource.config.paginated = false)
    (orderly : r.Orderly) {t : Ticket} {reply : Reply}
    (comes : r.Comes id signal t (.ofReply reply))
    (current : r.resource.isCurrent t.generation = true) (answered : asked id t.method t.args reply)
    (now : Nat) :
    ({ r with resource := (r.resource.settle now (.ofReply reply)).2.2 }.ended id
      (.applied t.generation)).Newest asked := by
  obtain ⟨q, phase, ticket⟩ := comes.phase
  have taken := comes.underway.generationOf?
  have newestOf := (Resource.isCurrent_iff.1 current).2.1
  have agrees := r.resource.settle_agrees now (.ofReply reply)
  have shown := Resource.shows_settle (r := r.resource) single now reply
  cases newest with
  | @pending j phase' =>
    -- the reply of a former fetch, shown until the newest one begins
    have hj : j ≠ id := by
      rintro rfl
      cases phase.symm.trans phase'
      cases ticket
    exact .pending ((phase?_setPhase_of_ne r hj _).trans phase')
  | @underway j p t' phase' ticket' current' method args =>
    -- both have the current generation, so that they are one attempt
    have taken' : r.generationOf? j = some t'.generation :=
      Underway.generationOf? ⟨p, t', phase', ticket', rfl⟩
    rw [(Resource.isCurrent_iff.1 current').2.1, ← newestOf] at taken'
    obtain rfl := orderly.distinct taken taken'
    cases phase.symm.trans phase'
    rw [ticket, Option.some.injEq] at ticket'
    subst ticket'
    rw [method, args, ← Config.method_of_bare agrees.config,
      ← Config.callArgs_of_bare agrees.config] at answered
    refine .done ?_ answered shown
    rw [resource_ended, agrees.generation, ← newestOf]
    exact phase?_setPhase_self (r := r) phase _
  | @done j _ applied _ _ =>
    -- the generation belongs to an attempt that has come to its end
    have taken' := applied.generationOf?
    rw [← newestOf] at taken'
    obtain rfl := orderly.distinct taken taken'
    exact absurd comes.underway (applied.not_underway _)

/-- **The newest fetch.** Whatever an attempt does, the newest one has not started, or carries the
call of the config, or has its reply shown. -/
theorem Newest.move (newest : r.Newest asked) (plain : r.Plain) (orderly : r.Orderly)
    (h : r.Move m id signal r' effects)
    (replied : ∀ t outcome, r.Comes id signal t outcome →
      ∃ reply, outcome = .ofReply reply ∧ asked id t.method t.args reply) : r'.Newest asked := by
  cases h with
  | still => exact newest
  | leave phase leaves =>
    cases leaves with
    | ignored retired =>
      rw [plain.alive] at retired
      cases retired
    | skipped _ precondition =>
      rw [plain.unguarded.precondition] at precondition
      cases precondition
    | displaced => exact newest.aside phase rfl rfl (by simp) (by simp) (by simp [Phase.ticket?])
    | superseded => exact absurd phase (plain.unchecked _ _)
  | queue _ _ paginated =>
    rw [plain.unguarded.single] at paginated
    cases paginated
  | refuse _ refuses => exact absurd refuses (plain.unheld.config.not_refuses _ _)
  | ask _ held => exact absurd held plain.unheld.config.not_held
  | call turn =>
    -- it is the newest from now on
    have started : ∃ q, r.phase? id = some q := by
      rcases turn.phase with phase | phase <;> exact ⟨_, phase⟩
    obtain ⟨q, phase⟩ := started
    refine .underway (p := .calling (r.ticketFor id)) (t := r.ticketFor id)
      (?_ : LiveResource.phase? _ id = _) rfl
      (Resource.isCurrent_raised plain.alive orderly.fence_le (r.paramsFor id)) rfl ?_
    · rw [phase?_of_setPhase (turn.setPhase_attempts _ _) phase, if_pos rfl]
    · show r.resource.config.callArgs (r.paramsFor id) = _
      rw [plain.unheld.paramsFor]
      rfl
  | accept phase => exact absurd phase (plain.unchecked _ _)
  | rest phase => exact newest.rest phase _
  | @apply _ t outcome _ _ _ comes current settles =>
    obtain ⟨reply, rfl, answered⟩ := replied t outcome comes
    have applied := newest.apply plain.unguarded.single orderly comes current answered m.now
    rw [settles] at applied
    exact applied
  | @discard _ t _ comes stale =>
    obtain ⟨q, phase, ticket⟩ := comes.phase
    refine newest.aside phase rfl rfl ?_ ?_ fun t' ticket' => ?_
    · rintro rfl; cases ticket
    · rintro g rfl; cases ticket
    · rw [ticket, Option.some.injEq] at ticket'
      exact ticket' ▸ stale

/-! ### Operations from outside -/

theorem Plain.of_fresh {name : String} {config : Config} (unguarded : config.Unguarded) :
    (fresh name config).Plain :=
  (Unheld.of_fresh unguarded.unheld).plain unguarded

theorem Plain.cancel (plain : r.Plain) : r.cancel.Plain :=
  plain.unheld.cancel.plain plain.unguarded

theorem Plain.update (plain : r.Plain) {config : Config} (unguarded : config.Unguarded)
    (h : r.update config = .ok r') : r'.Plain ∧ r'.resource.config = config := by
  obtain ⟨unheld, same⟩ := plain.unheld.update unguarded.unheld h
  exact ⟨unheld.plain (same ▸ unguarded), same⟩

/-- A fetch that has just been started is the newest. -/
theorem newest_spawn (r : LiveResource) (override : Option Params) :
    (r.spawn override).1.Newest asked := by
  have phase : (r.spawn override).1.phase? r.attempts.length = some .spawned := by
    rw [phase?_spawn, if_pos rfl]
  exact .pending phase

theorem Plain.spawn (plain : r.Plain) : (r.spawn none).1.Plain :=
  plain.unheld.spawn.plain plain.unguarded

end Newest

end LiveResource

end ReactiveResource
