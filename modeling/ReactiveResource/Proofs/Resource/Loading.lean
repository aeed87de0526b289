import Mathlib.Logic.ExistsUnique
import ReactiveResource.Proofs.Resource.Generations

/-!
# Loading

At most one attempt leads at any time: the one under way with the last generation, if that is not
fenced off. A resource that is loading is waiting for it, and has its parameters. The attempt may
lead before the resource is loading, as long as its parameters are being checked, and it may lead
while the resource is still loading for an attempt that it has overtaken.

* `LiveResource.Leads`: the attempt under way with the last generation;
* `LiveResource.Displays`: what the resource says of it, as every action leaves it (`Displays.act`);
* `LiveResource.Coherent`, `coherent_after`: the state, the counters and the parameters agree with
  the attempts, after every run.
-/

namespace ReactiveResource

/-- The call has been made, and its outcome has yet to be settled. -/
def Phase.Called : Phase → Prop
  | .calling _ | .delaying .. => True
  | _ => False

namespace LiveResource

/-- The attempt, with what it carries, is under way with the last generation, which is not fenced
off. -/
structure Leads (r : LiveResource) (id : Nat) (t : Ticket) : Prop where
  carries : ∃ p, r.phase? id = some p ∧ p.ticket? = some t
  last : t.generation = r.resource.generation
  unfenced : r.resource.fence < r.resource.generation

/-- The state, the counters and the parameters of a resource agree with its attempts. -/
structure Coherent (r : LiveResource) : Prop where
  fence_le : r.resource.fence ≤ r.resource.generation
  /-- While the resource is loading, there is exactly one attempt for which it may wait. -/
  unfenced : r.resource.state = .loading → r.resource.fence < r.resource.generation
  awaited : r.resource.state = .loading → ∃! id, r.Underway id r.resource.generation
  inFlight : r.resource.inFlight = true ↔ r.resource.state = .loading
  /-- While the attempt that leads waits for a reply or for the end of a delay, the resource is
  loading. -/
  called : ∀ {id p t}, r.Leads id t → r.phase? id = some p → p.Called →
    r.resource.state = .loading
  /-- The parameters of the current fetch are those of the attempt that leads. -/
  params : ∀ ps, r.resource.currentParams = some ps ↔ ∃ id t, r.Leads id t ∧ t.params = ps
  settled_ne : r.resource.settled ≠ .loading
  settled_eq : r.resource.state ≠ .loading → r.resource.settled = r.resource.state

/-- What a resource says of the attempt that leads, or that none does. -/
inductive Displays (r : LiveResource) : Prop
  | rest (nobody : ∀ id t, ¬ r.Leads id t) (params : r.resource.currentParams = none)
      (idle : r.resource.state ≠ .loading) (settled : r.resource.settled = r.resource.state)
  | lead {id : Nat} {p : Phase} {t : Ticket} (phase : r.phase? id = some p)
      (ticket : p.ticket? = some t) (current : r.resource.isCurrent t.generation = true)
      (params : r.resource.currentParams = some t.params)
      (called : p.Called → r.resource.state = .loading)
      (settled_ne : r.resource.settled ≠ .loading)
      (settled_eq : r.resource.state ≠ .loading → r.resource.settled = r.resource.state)

variable {r r' : LiveResource}

theorem Leads.underway {id : Nat} {t : Ticket} (h : r.Leads id t) :
    r.Underway id r.resource.generation := by
  obtain ⟨p, phase, ticket⟩ := h.carries
  exact ⟨p, t, phase, ticket, h.last⟩

/-- An attempt leads that is under way with a current generation. -/
theorem leads_of_isCurrent {id : Nat} {p : Phase} {t : Ticket} (phase : r.phase? id = some p)
    (ticket : p.ticket? = some t) (current : r.resource.isCurrent t.generation = true) :
    r.Leads id t := by
  obtain ⟨-, last, unfenced⟩ := Resource.isCurrent_iff.1 current
  exact ⟨⟨p, phase, ticket⟩, last, last ▸ unfenced⟩

theorem Orderly.leads_unique (orderly : r.Orderly) {i j : Nat} {t t' : Ticket}
    (hi : r.Leads i t) (hj : r.Leads j t') : i = j ∧ t = t' := by
  obtain rfl := orderly.distinct hi.underway.generationOf? hj.underway.generationOf?
  obtain ⟨p, phase, ticket⟩ := hi.carries
  obtain ⟨p', phase', ticket'⟩ := hj.carries
  rw [phase, Option.some.injEq] at phase'
  subst phase'
  exact ⟨rfl, Option.some.inj (ticket.symm.trans ticket')⟩

/-- Once the outcome of the last generation has been applied, no attempt leads. -/
theorem Orderly.not_leads (orderly : r.Orderly) {id : Nat}
    (applied : r.Applied id r.resource.generation) (j : Nat) (t : Ticket) : ¬ r.Leads j t := by
  intro leads
  obtain rfl := orderly.distinct applied.generationOf? leads.underway.generationOf?
  exact applied.not_underway _ leads.underway

/-- All the rest follows, since no two attempts lead. -/
theorem Orderly.coherent (orderly : r.Orderly) (displays : r.Displays) : r.Coherent := by
  have fence_le := orderly.fence_le
  cases displays with
  | rest nobody params idle settled =>
    exact {
      fence_le
      unfenced := fun loading => absurd loading idle
      awaited := fun loading => absurd loading idle
      inFlight := by simp [Resource.inFlight, idle]
      called := fun leads => absurd leads (nobody _ _)
      params := fun ps => by simp [params, nobody]
      settled_ne := settled ▸ idle
      settled_eq := fun _ => settled }
  | @lead id p t phase ticket current params called settled_ne settled_eq =>
    have leads : r.Leads id t := leads_of_isCurrent phase ticket current
    exact {
      fence_le
      unfenced := fun _ => leads.unfenced
      awaited := fun _ => ⟨id, leads.underway, fun j other =>
        orderly.distinct other.generationOf? leads.underway.generationOf?⟩
      inFlight := by simp [Resource.inFlight, leads.unfenced]
      called := fun other phase' => by
        obtain ⟨rfl, -⟩ := orderly.leads_unique leads other
        rw [phase, Option.some.injEq] at phase'
        exact phase' ▸ called
      params := fun ps => by
        rw [params, Option.some.injEq]
        constructor
        · exact fun same => ⟨id, t, leads, same⟩
        · rintro ⟨j, t', other, rfl⟩
          rw [(orderly.leads_unique leads other).2]
      settled_ne
      settled_eq }

/-! ### Actions from outside -/

section External

variable {a : Action}

theorem Leads.of_external (ha : a.External) (kept : ¬ a.Withdraws) {id : Nat} {t : Ticket}
    (h : (r.act a).1.Leads id t) : r.Leads id t := by
  obtain ⟨⟨p, phase, ticket⟩, last, unfenced⟩ := h
  have generation := generation_external (r := r) ha
  obtain ⟨-, fence, -⟩ := (fence_external (r := r) ha).resolve_left fun h => kept h.1
  refine ⟨⟨p, ?_, ticket⟩, last.trans generation, by omega⟩
  rcases phase?_external ha id with same | ⟨-, new⟩
  · exact same.symm.trans phase
  · rw [new, Option.some.injEq] at phase
    subst phase
    cases ticket

/-- Clearing the results makes a resource idle unless a fetch is going on. -/
theorem shown_clearResults (x : Resource) :
    x.clearResults.currentParams = x.currentParams ∧
      (x.clearResults.state = x.state ∧ x.clearResults.settled = x.settled ∨
        x.inFlight = false ∧ x.clearResults.state = .idle ∧ x.clearResults.settled = .idle) := by
  cases hf : x.inFlight <;> simp [Resource.clearResults, hf]

/-- An action from outside that withdraws nothing leaves the parameters alone, and the state while a
fetch is going on. -/
theorem shown_external (ha : a.External) (kept : ¬ a.Withdraws) :
    (r.act a).1.resource.currentParams = r.resource.currentParams ∧
      ((r.act a).1.resource.state = r.resource.state ∧
          (r.act a).1.resource.settled = r.resource.settled ∨
        r.resource.inFlight = false ∧ (r.act a).1.resource.state = .idle ∧
          (r.act a).1.resource.settled = .idle) := by
  cases a with
  | advance m id signal => exact ha.elim
  | cancel | retire => exact absurd trivial kept
  | spawn override => exact ⟨rfl, .inl ⟨rfl, rfl⟩⟩
  | listen kind once listener => cases once <;> exact ⟨rfl, .inl ⟨rfl, rfl⟩⟩
  | reset => exact shown_clearResults r.resource
  | update config =>
    have cleared := shown_clearResults { r.resource with epoch := r.resource.epoch + 1, config }
    simp only [act, update, Resource.update]
    split
    · exact ⟨rfl, .inl ⟨rfl, rfl⟩⟩
    · split
      · exact ⟨rfl, .inl ⟨rfl, rfl⟩⟩
      · split <;> exact cleared

theorem Displays.external (h : r.Displays) (ha : a.External) (kept : ¬ a.Withdraws) :
    (r.act a).1.Displays := by
  obtain ⟨sameParams, states⟩ := shown_external (r := r) ha kept
  cases h with
  | rest nobody params idle settled =>
    have nobody' id t (leads : (r.act a).1.Leads id t) : False :=
      nobody id t (leads.of_external ha kept)
    rcases states with ⟨state, fallback⟩ | ⟨-, state, fallback⟩
    · exact .rest nobody' (sameParams.trans params) (state ▸ idle)
        (fallback.trans (settled.trans state.symm))
    · exact .rest nobody' (sameParams.trans params) (by simp [state]) (fallback.trans state.symm)
  | @lead id p t phase ticket current params called settled_ne settled_eq =>
    have current' : (r.act a).1.resource.isCurrent t.generation = true := by
      obtain ⟨-, fence, retired⟩ := (fence_external (r := r) ha).resolve_left fun h => kept h.1
      rw [← current]
      simp only [Resource.isCurrent, generation_external ha, fence, retired]
    have phase' := phase?_act_external ha phase
    rcases states with ⟨state, fallback⟩ | ⟨still, state, fallback⟩
    · refine .lead phase' ticket current' (sameParams.trans params) ?_ ?_ ?_
      · exact fun h => state.trans (called h)
      · exact fallback ▸ settled_ne
      · exact fun h => fallback.trans ((settled_eq (state ▸ h)).trans state.symm)
    · -- with a current generation, a resource that is loading has a fetch going on
      have idle : r.resource.state ≠ .loading := by
        obtain ⟨-, last, unfenced⟩ := Resource.isCurrent_iff.1 current
        intro loading
        simp [Resource.inFlight, loading, ← last, unfenced] at still
      refine .lead phase' ticket current' (sameParams.trans params) ?_ ?_ ?_
      · exact fun h => absurd (called h) idle
      · simp [fallback]
      · exact fun _ => fallback.trans state.symm

/-- After a cancellation no attempt leads, and the resource is in the state to which it falls
back. -/
theorem Displays.withdraws (h : r.Displays) (withdraws : a.Withdraws) : (r.act a).1.Displays := by
  have fallback : r.resource.fenceInFlight.state ≠ .loading ∧
      r.resource.fenceInFlight.settled = r.resource.fenceInFlight.state := by
    have known : r.resource.settled ≠ .loading ∧
        (r.resource.state ≠ .loading → r.resource.settled = r.resource.state) := by
      cases h with
      | rest _ _ idle settled => exact ⟨settled ▸ idle, fun _ => settled⟩
      | lead _ _ _ _ _ settled_ne settled_eq => exact ⟨settled_ne, settled_eq⟩
    by_cases loading : r.resource.state = .loading
    · simpa [Resource.fenceInFlight, loading] using known.1
    · simpa [Resource.fenceInFlight, loading] using known.2 loading
  cases a with
  | cancel | retire =>
    exact .rest (fun _ _ leads => Nat.lt_irrefl _ leads.unfenced) rfl fallback.1 fallback.2
  | _ => exact withdraws.elim

end External

/-! ### Moves of an attempt -/

section Moves

variable {m : Moment} {id : Nat} {signal : Signal} {effects : List Effect}

/-- An attempt that does not lead has changed its phase, and leads no more than before. -/
theorem Displays.aside {q p : Phase} (h : r.Displays) (phase : r.phase? id = some q)
    (attempts : r'.attempts = (r.setPhase id p).attempts) (resource : r'.resource = r.resource)
    (onward : p.ticket? = none ∨ p.ticket? = q.ticket?)
    (behind : ∀ t, q.ticket? = some t → r.resource.isCurrent t.generation = false) :
    r'.Displays := by
  have others {j : Nat} (hj : j ≠ id) : r'.phase? j = r.phase? j := by
    rw [phase?_of_setPhase attempts phase, if_neg hj]
  cases h with
  | rest nobody params idle settled =>
    refine .rest (fun j t leads => ?_) (resource ▸ params) (resource ▸ idle) (resource ▸ settled)
    obtain ⟨⟨p', phase', ticket⟩, last, unfenced⟩ := leads
    rw [resource] at last unfenced
    by_cases hj : j = id
    · rw [hj, phase?_of_setPhase attempts phase, if_pos rfl, Option.some.injEq] at phase'
      subst phase'
      rcases onward with done | same
      · rw [done] at ticket
        cases ticket
      · exact nobody id t ⟨⟨q, phase, same.symm.trans ticket⟩, last, unfenced⟩
    · exact nobody j t ⟨⟨p', others hj ▸ phase', ticket⟩, last, unfenced⟩
  | @lead j p' t phase' ticket current params called settled_ne settled_eq =>
    have hj : j ≠ id := by
      rintro rfl
      rw [phase, Option.some.injEq] at phase'
      rw [behind t (phase' ▸ ticket)] at current
      cases current
    rw [← others hj] at phase'
    rw [← resource] at current params called settled_ne settled_eq
    exact .lead phase' ticket current params called settled_ne settled_eq

/-- The outcome of the last generation has been applied. -/
theorem Displays.of_settle (orderly : r'.Orderly) (applied : r'.Applied id r'.resource.generation)
    {x : Resource} {now : Nat} {outcome : Outcome} {event : Event} {due : List Listener}
    (settles : x.settle now outcome = (event, due, r'.resource)) : r'.Displays := by
  have shown : (x.settle now outcome).2.2.currentParams = none ∧
      (x.settle now outcome).2.2.state ≠ .loading ∧
      (x.settle now outcome).2.2.settled = (x.settle now outcome).2.2.state := by
    cases outcome <;> exact ⟨rfl, nofun, rfl⟩
  rw [settles] at shown
  exact .rest (orderly.not_leads applied) shown.1 shown.2.1 shown.2.2

theorem Coherent.settled_beginLoading (h : r.Coherent) :
    r.resource.beginLoading.settled ≠ .loading := by
  by_cases loading : r.resource.state = .loading
  · simpa [Resource.beginLoading, loading] using h.settled_ne
  · simp [Resource.beginLoading, loading]

theorem Move.displays (h : r.Move m id signal r' effects) (orderly : r.Orderly)
    (displays : r.Displays) : r'.Displays := by
  have orderly' := h.orderly orderly
  have coherent := orderly.coherent displays
  -- an attempt whose turn it is leads from now on
  have taken {r₁ : LiveResource} (turn : r.Turn m id r₁) (x : Resource) (p : Phase) :
      ({ r₁ with resource := x }.setPhase id p).phase? id = some p := by
    rw [phase?_congr (turn.setPhase_attempts x p)]
    rcases turn.phase with phase | phase <;> exact phase?_setPhase_self phase p
  cases h with
  | still => exact displays
  | queue phase => exact displays.aside phase rfl rfl (.inl rfl) nofun
  | leave phase leaves =>
    refine displays.aside phase rfl rfl (.inl rfl) fun t ticket => ?_
    cases leaves with
    | superseded _ stale => cases ticket; exact stale
    | _ => cases ticket
  | discard comes stale =>
    obtain ⟨q, phase, ticket⟩ := comes.phase
    refine displays.aside phase rfl rfl (.inl rfl) fun t' ticket' => ?_
    rw [ticket, Option.some.injEq] at ticket'
    exact ticket' ▸ stale
  | @rest t reply _ phase _ =>
    cases current : r.resource.isCurrent t.generation with
    | false =>
      refine displays.aside phase rfl rfl (.inr rfl) fun t' ticket => ?_
      cases ticket
      exact current
    | true =>
      have leads := leads_of_isCurrent phase rfl current
      exact .lead (phase?_setPhase_self phase (.delaying t reply)) rfl current
        ((coherent.params _).2 ⟨id, t, leads, rfl⟩)
        (fun _ => coherent.called leads phase trivial) coherent.settled_ne coherent.settled_eq
  | ask turn _ =>
    exact .lead (taken turn _ _) rfl
      (Resource.isCurrent_raised turn.alive orderly.fence_le (r.paramsFor id)) rfl nofun
      coherent.settled_ne coherent.settled_eq
  | call turn _ =>
    exact .lead (taken turn _ _) rfl
      (Resource.isCurrent_raised turn.alive orderly.fence_le (r.paramsFor id)) rfl (fun _ => rfl)
      coherent.settled_beginLoading (fun idle => absurd rfl idle)
  | @accept t _ phase _ current =>
    have leads := leads_of_isCurrent phase rfl current
    exact .lead (phase?_setPhase_self (r := r) phase _) rfl current
      ((coherent.params _).2 ⟨id, t, leads, rfl⟩) (fun _ => rfl)
      coherent.settled_beginLoading (fun idle => absurd rfl idle)
  | refuse turn _ settles =>
    have agrees := (Resource.Settled.of_settle settles).agrees
    refine Displays.of_settle orderly' (?_ : Applied _ id _) settles
    rw [Applied, resource_ended, agrees.generation]
    exact taken turn r.resource (.finished (.applied (r.resource.generation + 1)))
  | apply comes current settles =>
    have agrees := (Resource.Settled.of_settle settles).agrees
    obtain ⟨q, phase, -⟩ := comes.phase
    refine Displays.of_settle orderly' (?_ : Applied _ id _) settles
    rw [Applied, resource_ended, agrees.generation, ← (Resource.isCurrent_iff.1 current).2.1]
    exact phase?_setPhase_self (r := r) phase _

end Moves

/-! ### Runs -/

theorem displays_fresh (name : String) (config : Config) : (fresh name config).Displays :=
  .rest (fun _ _ leads => Nat.lt_irrefl 0 leads.unfenced) rfl nofun rfl

/-- What one action preserves. -/
theorem Displays.act (displays : r.Displays) (orderly : r.Orderly) (a : Action) :
    (r.act a).1.Displays := by
  rcases act_cases r a orderly.fence_le with ha | ⟨m, id, signal, -, move⟩
  · by_cases withdraws : a.Withdraws
    · exact displays.withdraws withdraws
    · exact displays.external ha withdraws
  · exact move.displays orderly displays

/-- **A resource is loading only while a fetch is under way whose outcome counts**, and while such a
fetch waits for its reply the resource is loading; its parameters are those of that fetch; and the
state to fall back to is the state itself as long as the resource is not loading. -/
theorem coherent_after (name : String) (config : Config) (actions : List Action) :
    ((fresh name config).after actions).Coherent := by
  have kept : ((fresh name config).after actions).Orderly ∧
      ((fresh name config).after actions).Displays :=
    after_induction (motive := fun r => r.Orderly ∧ r.Displays)
      ⟨orderly_fresh name config, displays_fresh name config⟩
      (fun _ a h => ⟨h.1.act a, h.2.act h.1 a⟩) actions
  exact kept.1.coherent kept.2

end LiveResource

end ReactiveResource
