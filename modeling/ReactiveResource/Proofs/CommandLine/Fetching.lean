import ReactiveResource.CommandLine.Fetch
import ReactiveResource.Proofs.Resource.Unheld

/-!
# Fetches from beginning to end

Nothing holds up the fetches of an errand: there is neither a precondition nor a validator, and when
a fetch begins the ones before it have ended. So every fetch makes its call, and what the call comes
to is applied, after a delay or at once.

* `Errand.Rested`: nothing holds up the next fetch;
* `Errand.Fetched`: what a fetch leaves, and what it has sent;
* `Rested.fetch`: every fetch of an errand at rest is such a fetch, and leaves it at rest.
-/

namespace ReactiveResource

namespace LiveResource

variable {r : LiveResource} {id : Nat} {t : Ticket}

/-- The call of a current attempt is answered, and a delay, if there is one, is over: the reply has
been applied. -/
theorem advance_reply_elapsed (phase : r.phase? id = some (.calling t))
    (current : r.resource.isCurrent t.generation = true) (m : Moment) (reply : Reply) :
    ((r.advance m id (.reply reply)).1.advance m id .elapsed).1.resource
        = (r.resource.settle m.now (.ofReply reply)).2.2
      ∧ ((r.advance m id (.reply reply)).1.advance m id .elapsed).1.pages = r.pages.leave id := by
  cases delay : t.delay.filter (0 < ·.nanos) with
  | none =>
    have comes : r.Comes id (.reply reply) t (.ofReply reply) := .replied phase delay
    have applied := (advance_of_comes (m := m) comes).1
    rw [(settle_of_current r m id current _).1] at applied
    have ended : (r.advance m id (.reply reply)).1.phase? id
        = some (.finished (.applied t.generation)) := by
      rw [applied, phase?_ended]
      exact phase?_setPhase_self (r := { r with resource := _ }) phase _
    rw [advance_of_finished ended, applied]
    exact ⟨rfl, rfl⟩
  | some d =>
    obtain ⟨⟨override, p⟩, attempt, rfl⟩ := Option.map_eq_some_iff.1 phase
    have waits : (r.advance m id (.reply reply)).1 = r.setPhase id (.delaying t reply) := by
      simp [advance, attempt, receive, delay]
    rw [waits]
    have rested : (r.setPhase id (.delaying t reply)).Comes id .elapsed t (.ofReply reply) :=
      .rested (phase?_setPhase_self phase _)
    have still : (r.setPhase id (.delaying t reply)).resource.isCurrent t.generation = true :=
      current
    rw [(advance_of_comes (m := m) rested).1, (settle_of_current _ m id still _).1]
    exact ⟨rfl, rfl⟩

/-- A fetch that nothing holds up makes the call of the config as soon as it is given its turn. -/
theorem advance_go_calls (phase : r.phase? id = some .spawned)
    (alive : r.resource.retired = false) (config : r.resource.config.Unheld)
    (free : r.pages = {}) (fence : r.resource.fence ≤ r.resource.generation) (m : Moment) :
    (r.advance m id .go).1.resource
        = (r.resource.raised (r.paramsFor id)).beginLoading.notify
      ∧ (r.advance m id .go).1.pages.leave id = {}
      ∧ (r.advance m id .go).1.phase? id = some (.calling (r.ticketFor id))
      ∧ deeds (r.advance m id .go).2
        = [.call id (r.ticketFor id).method (r.ticketFor id).args] := by
  have admits : r.Admits m := ⟨alive, by simp [config.precondition]⟩
  obtain ⟨r₁, turn⟩ : ∃ r₁, r.Turn m id r₁ := by
    cases paginated : r.resource.config.paginated with
    | false => exact ⟨r, .free phase admits paginated⟩
    | true => exact ⟨_, .first phase admits paginated (by rw [free])⟩
  have move : r.Move m id .go (r.advance m id .go).1 (deeds (r.advance m id .go).2) :=
    advance_move fence .go
  generalize (r.advance m id .go).1 = r', deeds (r.advance m id .go).2 = effects at move ⊢
  refine turn.of_move (motive := fun r' effects => r'.resource = _ ∧ r'.pages.leave id = {}
    ∧ r'.phase? id = some _ ∧ effects = [.call id _ _]) move ?_ ?_ ?_
  · intro _ _ _ _ _ _ refuses
    exact absurd refuses (config.not_refuses _ _)
  · intro _ _ held
    exact absurd held config.not_held
  · intro r₂ turn _
    refine ⟨rfl, ?_, ?_, rfl⟩
    · cases turn with
      | first => simp [setPhase, PageLock.leave, free]
      | _ => simp [setPhase, PageLock.leave, free]
    · rw [phase?_of_setPhase (turn.setPhase_attempts _ _) phase, if_pos rfl]

end LiveResource

namespace CommandLine

open LiveResource

theorem callOf?_deeds (effects : List Effect) : callOf? (deeds effects) = callOf? effects := by
  rw [callOf?, callOf?, ← List.head?_filterMap, ← List.head?_filterMap,
    filterMap_deeds fun e he => ?_]
  cases e <;> first | rfl | cases he

namespace Errand

/-- Nothing holds up the next fetch: the resource is in use, its config has no precondition and no
validator, and no fetch before is still going on. -/
structure Rested (e : Errand) : Prop where
  alive : e.resource.retired = false
  config : e.resource.config.Unheld
  free : e.live.pages = {}
  fence : e.resource.fence ≤ e.resource.generation

/-- What comes of the call that a fetch with these parameters makes. -/
def recordOf (e : Errand) (params : Params) : HttpGateway.Record :=
  e.gateway.call e.network e.requests e.resource.method (e.resource.config.callArgs params)

/-- A fetch with these parameters has been made: its call has been answered, and the reply has been
applied. -/
structure Fetched (e : Errand) (params : Params) (e' : Errand) : Prop where
  gateway : e'.gateway = e.gateway
  network : e'.network = e.network
  now : e'.now = e.now
  requests : e'.requests = e.requests ++ (e.recordOf params).request.toList
  resource : e'.resource = ((e.resource.raised params).beginLoading.notify.settle e.now
    (.ofReply (e.recordOf params).reply)).2.2
  free : e'.live.pages = {}

variable {e e' : Errand} {params : Params}

/-- The call that an attempt makes is answered. -/
theorem fetch_of_call {override : Option Params} {method : String} {args : Json}
    (call : callOf? (({ e with live := (e.live.spawn override).1 } : Errand).signal
      (e.live.spawn override).2 .go).2 = some (method, args)) :
    e.fetch override = (({ e with live := (e.live.spawn override).1 } : Errand).signal
      (e.live.spawn override).2 .go).1.answer (e.live.spawn override).2 method args := by
  simp only [Errand.fetch, call]

/-- **Every fetch makes its call, and what the call comes to is applied.** -/
theorem Rested.fetch (rested : e.Rested) (override : Option Params) :
    e.Fetched (override.getD e.resource.config.params) (e.fetch override) := by
  -- the attempt is started
  let id := e.live.attempts.length
  let live := (e.live.spawn override).1
  have phase : live.phase? id = some .spawned := by rw [phase?_spawn, if_pos rfl]
  have params : live.paramsFor id = override.getD e.resource.config.params := by
    simp [paramsFor, override?, live, id, LiveResource.spawn, resource]
  -- it makes its call
  obtain ⟨raised, left, calling, effects⟩ :=
    advance_go_calls phase rested.alive rested.config rested.free rested.fence e.moment
  have call : callOf? (live.advance e.moment id .go).2
      = some (e.resource.method, e.resource.config.callArgs (live.paramsFor id)) := by
    rw [← callOf?_deeds, effects]
    rfl
  have current : (live.advance e.moment id .go).1.resource.isCurrent
      (live.ticketFor id).generation = true := by
    rw [raised]
    exact Resource.isCurrent_raised rested.alive rested.fence (live.paramsFor id)
  -- the call is answered
  have fetched : e.fetch override = (({ e with live }.signal id .go).1).answer id e.resource.method
      (e.resource.config.callArgs (live.paramsFor id)) := by
    exact fetch_of_call call
  obtain ⟨settled, free⟩ := advance_reply_elapsed calling current e.moment
    (e.recordOf (live.paramsFor id)).reply
  rw [raised] at settled
  rw [left] at free
  rw [fetched, ← params]
  exact ⟨rfl, rfl, rfl, rfl, settled, free⟩

theorem Fetched.agrees (fetched : e.Fetched params e') :
    (e.resource.raised params).Agrees e'.resource := by
  have begun : (e.resource.raised params).Agrees (e.resource.raised params).beginLoading.notify :=
    ⟨rfl, rfl, rfl, rfl, rfl, rfl⟩
  rw [fetched.resource]
  exact begun.trans (Resource.settle_agrees _ e.now _)

/-- A fetch leaves the config as it is, but for its listeners. -/
theorem Fetched.bare (fetched : e.Fetched params e') :
    e'.resource.config.bare = e.resource.config.bare := fetched.agrees.config

theorem Fetched.rested (fetched : e.Fetched params e') (rested : e.Rested) : e'.Rested where
  alive := fetched.agrees.retired.trans rested.alive
  config := rested.config.of_bare fetched.bare
  free := fetched.free
  fence := by
    rw [fetched.agrees.fence, fetched.agrees.generation]
    exact Nat.le_succ_of_le rested.fence

/-- There may be another page unless the call has failed or has brought an empty page. -/
theorem Fetched.wantsMore_iff (fetched : e.Fetched params e')
    (paginated : e.resource.config.paginated = true) :
    e'.wantsMore = true
      ↔ ∃ payload, (e.recordOf params).reply = .ok payload ∧ payload ≠ .arr [] := by
  have paged : (e.resource.raised params).beginLoading.notify.config.paginated = true := paginated
  rw [wantsMore, fetched.resource]
  generalize (e.resource.raised params).beginLoading.notify = r at paged
  cases (e.recordOf params).reply with
  | err error => simp [Outcome.ofReply, Resource.settle, Resource.withOutcome,
      Resource.takeListeners, Resource.notify]
  | ok payload =>
    cases payload with
    | arr page =>
      cases page <;> simp [Outcome.ofReply, Resource.settle, Resource.withOutcome, paged,
        Resource.applyPayload, Resource.takeListeners, Resource.notify]
    | _ => simp [Outcome.ofReply, Resource.settle, Resource.withOutcome,
        Resource.applyPayload, Resource.takeListeners, Resource.notify]

end Errand

end CommandLine

end ReactiveResource
