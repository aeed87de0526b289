import Mathlib.Data.List.Induction
import ReactiveResource.Proofs.Resource.Audience
import ReactiveResource.Proofs.Resource.Loading
import ReactiveResource.Proofs.Resource.Passage

/-!
# Fetches that overtake one another

When several fetches have made their calls, the replies may come in any order, and delays may
reorder the outcomes once more. Only the reply to the last call counts: it is applied to what the
resource was before the first of these fetches, and until then the resource loads and keeps its data
and its error.

* `Action.Begins`, `Action.Answers`: fetches are started, and then replies arrive and delays expire;
* `Resource.Awaits`: fetches have begun since, and none has been settled;
* `LiveResource.Begun`: what the fetches that are started leave (`begun_after`);
* `LiveResource.Waits`, `LiveResource.Decided`: the last fetch waits (`Waits.after_call`), and its
  reply is applied, after which nothing changes (`Decided.after`);
* `latest_fetch_wins`: the order of the replies and of the delays does not matter.
-/

namespace ReactiveResource

/-! ### Runs in two parts -/

namespace Action

/-- A fetch is started, or an attempt is given its turn. -/
def Begins : Action → Prop
  | .spawn _ | .advance _ _ .go => True
  | _ => False

/-- A reply arrives, as it is assigned to the attempts, or a delay expires, or the check of
parameters ends: no fetch begins, and nothing is done from outside. -/
def Answers (reply : Nat → Reply) : Action → Prop
  | .advance _ id (.reply x) => x = reply id
  | .advance _ _ .elapsed | .advance _ _ (.verdict _) => True
  | _ => False

/-- In the run the reply to the call of an attempt arrives, and its delay, if there is one,
expires after it. -/
def Completes (id : Nat) (delay : Option Duration) (actions : List Action) : Prop :=
  ∃ earlier m x later, actions = earlier ++ .advance m id (.reply x) :: later ∧
    (delay.filter (0 < ·.nanos) = none ∨ ∃ m', .advance m' id .elapsed ∈ later)

theorem completes_cons {id : Nat} {delay : Option Duration} {a : Action} {rest : List Action} :
    Completes id delay (a :: rest) ↔
      (∃ m x, a = .advance m id (.reply x) ∧
        (delay.filter (0 < ·.nanos) = none ∨ ∃ m', .advance m' id .elapsed ∈ rest)) ∨
      Completes id delay rest := by
  constructor
  · rintro ⟨earlier, m, x, later, split, expires⟩
    cases earlier with
    | nil =>
      cases split
      exact .inl ⟨m, x, rfl, expires⟩
    | cons b earlier =>
      obtain ⟨rfl, rfl⟩ := List.cons.inj split
      exact .inr ⟨earlier, m, x, later, rfl, expires⟩
  · rintro (⟨m, x, rfl, expires⟩ | ⟨earlier, m, x, later, rfl, expires⟩)
    · exact ⟨[], m, x, rest, rfl, expires⟩
    · exact ⟨a :: earlier, m, x, later, rfl, expires⟩

theorem Completes.expires {id : Nat} {delay : Option Duration} {actions : List Action}
    (h : Completes id delay actions) {d : Duration}
    (delayed : delay.filter (0 < ·.nanos) = some d) :
    ∃ m, Action.advance m id .elapsed ∈ actions := by
  obtain ⟨earlier, m, x, later, rfl, prompt | ⟨m', mem⟩⟩ := h
  · cases prompt.symm.trans delayed
  · exact ⟨m', List.mem_append_right _ (List.mem_cons_of_mem _ mem)⟩

end Action

/-! ### What a resource shows -/

/-- What a resource shows of its fetches, but for the instant of the last one. -/
structure Results where
  state : Lifecycle
  data : Option Json
  error : Option String
  remoteError : Option RemoteError
  exhausted : Bool
  stale : Bool

namespace Resource

/-- What the resource shows. -/
def results (r : Resource) : Results :=
  { state := r.state, data := r.data, error := r.error, remoteError := r.remoteError
    exhausted := r.exhausted, stale := r.stale }

/-- Fetches have begun since the resource was as it is given first, and none has been settled. -/
def Awaits (r₀ r : Resource) : Prop :=
  ∃ generation params settled revision,
    r = { r₀ with generation, currentParams := params, state := .loading, settled, revision }

variable {r₀ r : Resource}

/-- What the resource shows while it waits. -/
theorem Awaits.shows (h : r₀.Awaits r) : r.results = { r₀.results with state := .loading } := by
  obtain ⟨_, _, _, _, rfl⟩ := h
  rfl

/-- One more fetch begins to load. -/
theorem Awaits.raise (h : r = r₀ ∨ r₀.Awaits r) (params : Params) :
    r₀.Awaits (r.raised params).beginLoading.notify := by
  rcases h with rfl | ⟨_, _, _, _, rfl⟩ <;> exact ⟨_, _, _, _, rfl⟩

/-- An outcome tells and leads to the same, at whatever instant, as if it had come before the
fetches began. -/
theorem Awaits.settle (h : r₀.Awaits r) (now now₀ : Nat) (outcome : Outcome) :
    (r.settle now outcome).1 = (r₀.settle now₀ outcome).1 ∧
      (r.settle now outcome).2.1 = (r₀.settle now₀ outcome).2.1 ∧
      (r.settle now outcome).2.2.results = (r₀.settle now₀ outcome).2.2.results := by
  obtain ⟨_, _, _, _, rfl⟩ := h
  cases outcome with
  | payload payload =>
    cases payload with
    | arr page =>
      by_cases paginated : r₀.config.paginated = true <;>
        simp [Resource.settle, withOutcome, applyPayload, paginated, eventOf, takeListeners, notify,
          results, pagesSoFar]
    | _ => exact ⟨rfl, rfl, rfl⟩
  | _ => exact ⟨rfl, rfl, rfl⟩

end Resource

namespace LiveResource

variable {r r' : LiveResource} {m : Moment} {id : Nat} {signal : Signal} {effects : List Effect}

/-! ### Fetches begin -/

/-- The last fetch waits, with what it carries, for its reply or for the end of its delay. -/
structure Waits (r₀ : Resource) (last : Nat) (p : Phase) (t : Ticket) (r : LiveResource) :
    Prop where
  awaits : r₀.Awaits r.resource
  current : r.resource.isCurrent t.generation = true
  phase : r.phase? last = some p
  ticket : p.ticket? = some t

/-- What is left by fetches that have been started since the resource was as it is given first, and
have made their calls in this order: the last one waits for its reply. -/
inductive Begun (r₀ : Resource) (r : LiveResource) : List Nat → Prop
  | nothing (same : r.resource = r₀) : Begun r₀ r []
  | called {fetches : List Nat} {last : Nat} {t : Ticket} (waits : r.Waits r₀ last (.calling t) t)
      (count : r.resource.generation = r₀.generation + fetches.length + 1)
      (delay : t.delay = r₀.config.delay) : Begun r₀ r (fetches ++ [last])

/-- The fetches have left the resource as it was, but for those that it awaits. -/
theorem Begun.leaves {r₀ : Resource} {fetches : List Nat} (h : r.Begun r₀ fetches) :
    (r.resource = r₀ ∨ r₀.Awaits r.resource) ∧
      r.resource.generation = r₀.generation + fetches.length ∧ r.resource.config = r₀.config := by
  cases h with
  | nothing same => exact ⟨.inl same, by rw [same]; rfl, by rw [same]⟩
  | called waits count =>
    refine ⟨.inr waits.awaits, by rw [count, List.length_append]; rfl, ?_⟩
    obtain ⟨_, _, _, _, same⟩ := waits.awaits
    rw [same]

/-- An attempt that moves aside, and makes no call, leaves it so. -/
theorem Begun.aside {r₀ : Resource} {fetches : List Nat} (begun : r.Begun r₀ fetches)
    (h : r.Move m id signal r' effects) {p : Phase} (phase : r.phase? id = some p)
    (uncalled : ∀ t, p ≠ .calling t) (resource : r'.resource = r.resource) :
    r'.Begun r₀ fetches := by
  cases begun with
  | nothing same => exact .nothing (resource.trans same)
  | @called _ last t waits count delay =>
    have other : last ≠ id := by
      rintro rfl
      exact uncalled t (Option.some.inj (phase.symm.trans waits.phase))
    refine .called ⟨resource ▸ waits.awaits, resource ▸ waits.current, ?_, rfl⟩ (resource ▸ count)
      delay
    exact (h.phase?_of_ne other).trans waits.phase

/-- An attempt that makes its call is the last one. -/
theorem Begun.call {r₀ : Resource} {fetches : List Nat} (begun : r.Begun r₀ fetches)
    (orderly : r.Orderly) {r₁ : LiveResource} (turn : r.Turn m id r₁) :
    ({ r₁ with resource := (r.resource.raised (r.paramsFor id)).beginLoading.notify }.setPhase id
      (.calling (r.ticketFor id))).Begun r₀ (fetches ++ [id]) := by
  obtain ⟨before, count, config⟩ := begun.leaves
  refine .called (t := r.ticketFor id) ⟨.raise before (r.paramsFor id), ?_, ?_, rfl⟩ ?_ ?_
  · exact Resource.isCurrent_raised turn.alive orderly.fence_le (r.paramsFor id)
  · rcases turn.phase with phase | phase <;>
      rw [phase?_of_setPhase (turn.setPhase_attempts _ _) phase, if_pos rfl]
  · exact congrArg (· + 1) count
  · rw [← config]
    rfl

/-- **What one action makes of fetches that begin**: it leaves them as they are, or one more attempt
makes its call, and no outcome is applied. -/
theorem Begun.act {r₀ : Resource} {fetches : List Nat} (begun : r.Begun r₀ fetches)
    (orderly : r.Orderly) (free : r₀.config.validator = none) {a : Action} (begins : a.Begins) :
    (r.act a).1.Begun r₀ (fetches ++ r.calls a) ∧ r.deliveries a = [] := by
  cases a with
  | spawn override =>
    refine ⟨?_, rfl⟩
    rw [show r.calls (.spawn override) = [] from rfl, List.append_nil]
    cases begun with
    | nothing same => exact .nothing same
    | called waits count delay =>
      have phase := phase?_act_external (a := .spawn override) trivial waits.phase
      exact .called ⟨waits.awaits, waits.current, phase, rfl⟩ count delay
  | advance m id signal =>
    cases signal with
    | go =>
      have move : r.Move m id .go (r.act (.advance m id .go)).1
          (deeds (r.act (.advance m id .go)).2) := advance_move orderly.fence_le .go
      have validator : r.resource.config.validator = none := by rw [begun.leaves.2.2, free]
      rw [calls_eq, deliveries_eq]
      generalize (r.act (.advance m id .go)).1 = r', deeds _ = effects at move ⊢
      cases move with
      | still => exact ⟨by simpa using begun, rfl⟩
      | leave phase leaves =>
        have aside := begun.aside (.leave phase leaves) phase (by cases leaves <;> simp) rfl
        rw [filterMap_caller?_wakes, List.append_nil]
        exact ⟨aside, filterMap_delivery?_wakes _ _⟩
      | queue phase admits paginated busy =>
        have aside := begun.aside (.queue phase admits paginated busy) phase (by simp) rfl
        exact ⟨by simpa using aside, rfl⟩
      | refuse _ refuses =>
        obtain ⟨check, rule, -⟩ := refuses
        cases validator.symm.trans rule
      | ask _ held => cases validator.symm.trans held
      | call turn => exact ⟨begun.call orderly turn, rfl⟩
      | apply comes => exact absurd comes (not_comes_go _ _ _ _)
      | discard comes => exact absurd comes (not_comes_go _ _ _ _)
    | _ => exact begins.elim
  | _ => exact begins.elim

/-- **What a run makes of them.** -/
theorem Orderly.begun_after (orderly : r.Orderly) (free : r.resource.config.validator = none)
    {actions : List Action} (begins : ∀ a ∈ actions, a.Begins) :
    (r.after actions).Begun r.resource (along calls r actions) ∧
      along deliveries r actions = [] := by
  induction actions using List.reverseRecOn with
  | nil => exact ⟨.nothing rfl, rfl⟩
  | append_singleton actions a ih =>
    rw [List.forall_mem_append] at begins
    obtain ⟨begun, quiet⟩ := ih begins.1
    obtain ⟨begun', quiet'⟩ :=
      begun.act (orderly.after actions) free (begins.2 a (List.mem_singleton_self a))
    rw [after_concat, along_append, along_append, quiet, along, along, along, along,
      List.append_nil, List.append_nil]
    exact ⟨begun', quiet'⟩

/-! ### Replies arrive -/

/-- No other attempt has the last generation, so that nothing comes of what the others are told. -/
theorem Orderly.others_dropped (orderly : r.Orderly) {last : Nat}
    (newest : r.generationOf? last = some r.resource.generation)
    (h : r.Move m id signal r' effects) (signalled : signal ≠ .go) (other : id ≠ last) :
    r'.resource = r.resource ∧ effects.filterMap Effect.delivery? = [] := by
  have stale {p : Phase} {t : Ticket} (phase : r.phase? id = some p) (ticket : p.ticket? = some t)
      (current : r.resource.isCurrent t.generation = true) : False := by
    have own : r.generationOf? id = some t.generation :=
      Underway.generationOf? ⟨p, t, phase, ticket, rfl⟩
    rw [(Resource.isCurrent_iff.1 current).2.1] at own
    exact other (orderly.distinct own newest)
  cases h with
  | still => exact ⟨rfl, rfl⟩
  | leave => exact ⟨rfl, filterMap_delivery?_wakes _ _⟩
  | accept phase _ current => exact (stale phase rfl current).elim
  | rest => exact ⟨rfl, rfl⟩
  | apply comes current =>
    obtain ⟨q, phase, ticket⟩ := comes.phase
    exact (stale phase ticket current).elim
  | discard => exact ⟨rfl, filterMap_delivery?_wakes _ _⟩
  | _ => exact absurd rfl signalled

/-- The reply to the last fetch has been applied, as if it alone had been made. -/
structure Decided (r₀ : Resource) (reply : Reply) (last g : Nat) (r : LiveResource) : Prop where
  applied : r.Applied last g
  generation : r.resource.generation = g
  results : ∀ now, r.resource.results = (r₀.settle now (.ofReply reply)).2.2.results

/-- What is handed out when the reply alone is applied. -/
def Tells (r₀ : Resource) (reply : Reply) (told : List Delivery) : Prop :=
  ∀ now, told = [⟨(r₀.settle now (.ofReply reply)).1, (r₀.settle now (.ofReply reply)).2.1⟩]

section Answers

variable {r₀ : Resource} {reply : Nat → Reply} {last g : Nat} {p : Phase} {t : Ticket} {a : Action}

theorem Waits.newest (h : r.Waits r₀ last p t) :
    r.generationOf? last = some r.resource.generation := by
  rw [← (Resource.isCurrent_iff.1 h.current).2.1]
  exact Underway.generationOf? ⟨p, t, h.phase, h.ticket, rfl⟩

/-- What the others are told, and what the last fetch does not wait for, leaves it waiting. -/
theorem Waits.aside (h : r.Waits r₀ last p t) (orderly : r.Orderly) (answers : a.Answers reply)
    (still : ∀ m signal, a = .advance m last signal → ¬ r.Awaits last signal) :
    (r.act a).1.Waits r₀ last p t ∧ r.deliveries a = [] := by
  cases a with
  | advance m id signal =>
    by_cases own : id = last
    · subst own
      have same : r.act (.advance m id signal) = (r, []) :=
        advance_of_not_awaits (still m signal rfl) m
      rw [deliveries, same]
      exact ⟨h, rfl⟩
    · have move : r.Move m id signal (r.act (.advance m id signal)).1
          (deeds (r.act (.advance m id signal)).2) := advance_move orderly.fence_le signal
      obtain ⟨resource, quiet⟩ := orderly.others_dropped h.newest move
        (by rintro rfl; exact answers) own
      rw [deliveries_eq]
      refine ⟨⟨resource ▸ h.awaits, resource ▸ h.current, ?_, h.ticket⟩, quiet⟩
      rw [move.phase?_of_ne (Ne.symm own), h.phase]
  | _ => exact answers.elim

/-- The reply to its call has come, and its delay begins. -/
theorem Waits.rest (h : r.Waits r₀ last (.calling t) t) {x : Reply} {delay : Duration}
    (delayed : t.delay.filter (0 < ·.nanos) = some delay) (m : Moment) :
    (r.act (.advance m last (.reply x))).1.Waits r₀ last (.delaying t x) t ∧
      r.deliveries (.advance m last (.reply x)) = [] := by
  obtain ⟨⟨override, q⟩, attempt, same⟩ := Option.map_eq_some_iff.1 h.phase
  have rests : r.act (.advance m last (.reply x))
      = (r.setPhase last (.delaying t x), [.sleep last delay]) := by
    simp only at same
    simp only [act, advance, attempt, same, receive, delayed]
  rw [deliveries, rests]
  exact ⟨⟨h.awaits, h.current, phase?_setPhase_self h.phase _, rfl⟩, rfl⟩

/-- Its outcome has come, and is applied. -/
theorem Waits.decide (h : r.Waits r₀ last p t) {x : Reply}
    (comes : r.Comes last signal t (.ofReply x)) (m : Moment) :
    (r.act (.advance m last signal)).1.Decided r₀ x last t.generation ∧
      Tells r₀ x (r.deliveries (.advance m last signal)) := by
  obtain ⟨left, told⟩ := advance_of_comes (m := m) comes
  obtain ⟨left', told'⟩ := settle_of_current r m last h.current (.ofReply x)
  have applied : (r.act (.advance m last signal)).1
      = { r with resource := (r.resource.settle m.now (.ofReply x)).2.2 }.ended last
        (.applied t.generation) := left.trans left'
  refine ⟨⟨?_, ?_, fun now => ?_⟩, fun now => ?_⟩
  · rw [applied]
    exact phase?_setPhase_self (r := { r with resource := _ }) h.phase _
  · rw [applied, resource_ended, (r.resource.settle_agrees _ _).generation]
    exact (Resource.isCurrent_iff.1 h.current).2.1.symm
  · rw [applied]
    exact (h.awaits.settle m.now now _).2.2
  · obtain ⟨event, due, -⟩ := h.awaits.settle m.now now (.ofReply x)
    have handed : deeds (r.act (.advance m last signal)).2 = _ := told.trans told'
    rw [deliveries_eq, handed, List.filterMap_cons, filterMap_delivery?_wakes, ← event, ← due]
    rfl

/-- What is told later changes nothing of what has been decided. -/
theorem Decided.act {x : Reply} (h : r.Decided r₀ x last g) (orderly : r.Orderly)
    (answers : a.Answers reply) : (r.act a).1.Decided r₀ x last g ∧ r.deliveries a = [] := by
  have newest : r.generationOf? last = some r.resource.generation := by
    rw [h.generation]
    exact h.applied.generationOf?
  cases a with
  | advance m id signal =>
    by_cases own : id = last
    · subst own
      have same : r.act (.advance m id signal) = (r, []) :=
        advance_of_not_awaits (by simp [LiveResource.Awaits, show r.phase? id = _ from h.applied]) m
      rw [deliveries, same]
      exact ⟨h, rfl⟩
    · have move : r.Move m id signal (r.act (.advance m id signal)).1
          (deeds (r.act (.advance m id signal)).2) := advance_move orderly.fence_le signal
      obtain ⟨resource, quiet⟩ := orderly.others_dropped newest move
        (by rintro rfl; exact answers) own
      rw [deliveries_eq]
      refine ⟨⟨?_, resource ▸ h.generation, resource ▸ h.results⟩, quiet⟩
      exact (move.phase?_of_ne (Ne.symm own)).trans h.applied
  | _ => exact answers.elim

/-! ### Along the replies -/

theorem Decided.after {x : Reply} (h : r.Decided r₀ x last g) (orderly : r.Orderly)
    {actions : List Action} (answers : ∀ a ∈ actions, a.Answers reply) :
    (r.after actions).Decided r₀ x last g ∧ along deliveries r actions = [] := by
  induction actions generalizing r with
  | nil => exact ⟨h, rfl⟩
  | cons a rest ih =>
    rw [List.forall_mem_cons] at answers
    obtain ⟨decided, quiet⟩ := h.act orderly answers.1
    obtain ⟨decided', quiet'⟩ := ih decided (orderly.act a) answers.2
    exact ⟨decided', by rw [along, quiet, quiet']; rfl⟩

/-- A fetch whose reply has come is decided when its delay expires, and waits until then. -/
theorem Waits.after_delay {x : Reply} (h : r.Waits r₀ last (.delaying t x) t)
    (orderly : r.Orderly) {actions : List Action} (answers : ∀ a ∈ actions, a.Answers reply) :
    ((∃ m, .advance m last .elapsed ∈ actions) →
      (r.after actions).Decided r₀ x last t.generation ∧
        Tells r₀ x (along deliveries r actions)) ∧
    ((¬ ∃ m, .advance m last .elapsed ∈ actions) →
      (r.after actions).Waits r₀ last (.delaying t x) t ∧ along deliveries r actions = []) := by
  induction actions generalizing r with
  | nil => exact ⟨by simp, fun _ => ⟨h, rfl⟩⟩
  | cons a rest ih =>
    rw [List.forall_mem_cons] at answers
    by_cases expires : ∃ m, a = .advance m last .elapsed
    · obtain ⟨m, rfl⟩ := expires
      obtain ⟨decided, told⟩ := h.decide (.rested h.phase) m
      obtain ⟨decided', quiet⟩ := decided.after (orderly.act _) answers.2
      refine ⟨fun _ => ⟨decided', ?_⟩, fun none => absurd ⟨m, List.mem_cons_self⟩ none⟩
      rw [along, quiet, List.append_nil]
      exact told
    · obtain ⟨waits, quiet⟩ := h.aside orderly answers.1 (by
        rintro m signal rfl
        have other : signal ≠ .elapsed := fun same => expires ⟨m, by rw [same]⟩
        cases signal <;> simp_all [LiveResource.Awaits, h.phase])
      have later : (∃ m, .advance m last .elapsed ∈ a :: rest) ↔
          ∃ m, .advance m last .elapsed ∈ rest := by
        simp only [List.mem_cons]
        exact exists_congr fun m => or_iff_right fun same => expires ⟨m, same.symm⟩
      rw [later, along, quiet, List.nil_append]
      exact ih waits (orderly.act a) answers.2

/-- A fetch that has made its call is decided when its reply has come and its delay has expired, and
waits until then. -/
theorem Waits.after_call (h : r.Waits r₀ last (.calling t) t) (orderly : r.Orderly)
    {actions : List Action} (answers : ∀ a ∈ actions, a.Answers reply) :
    (Action.Completes last t.delay actions →
      (r.after actions).Decided r₀ (reply last) last t.generation ∧
        Tells r₀ (reply last) (along deliveries r actions)) ∧
    (¬ Action.Completes last t.delay actions →
      (∃ p, (r.after actions).Waits r₀ last p t) ∧ along deliveries r actions = []) := by
  induction actions generalizing r with
  | nil => exact ⟨by simp [Action.Completes], fun _ => ⟨⟨_, h⟩, rfl⟩⟩
  | cons a rest ih =>
    rw [List.forall_mem_cons] at answers
    rw [Action.completes_cons]
    by_cases replied : ∃ m x, a = .advance m last (.reply x)
    · obtain ⟨m, x, rfl⟩ := replied
      obtain rfl : x = reply last := answers.1
      cases delayed : t.delay.filter (0 < ·.nanos) with
      | none =>
        obtain ⟨decided, told⟩ := h.decide (.replied h.phase delayed) m
        obtain ⟨decided', quiet⟩ := decided.after (orderly.act _) answers.2
        refine ⟨fun _ => ⟨decided', ?_⟩, fun not => ?_⟩
        · rw [along, quiet, List.append_nil]
          exact told
        · exact absurd (.inl ⟨m, reply last, rfl, .inl rfl⟩) not
      | some delay =>
        obtain ⟨waits, quiet⟩ := h.rest (x := reply last) delayed m
        obtain ⟨expires, lasts⟩ := waits.after_delay (orderly.act _) answers.2
        have completes : (∃ m' x, Action.advance m last (.reply (reply last))
              = .advance m' last (.reply x) ∧
              (some delay = none ∨ ∃ m', .advance m' last .elapsed ∈ rest)) ∨
            Action.Completes last t.delay rest ↔ ∃ m', .advance m' last .elapsed ∈ rest := by
          refine ⟨?_, fun expires => .inl ⟨m, _, rfl, .inr expires⟩⟩
          rintro (⟨_, _, _, prompt | expires⟩ | completes)
          · cases prompt
          · exact expires
          · exact completes.expires delayed
        rw [completes, along, quiet, List.nil_append]
        exact ⟨expires, fun not => ⟨⟨_, (lasts not).1⟩, (lasts not).2⟩⟩
    · obtain ⟨waits, quiet⟩ := h.aside orderly answers.1 (by
        rintro m signal rfl
        have other : ∀ x, signal ≠ .reply x := fun x same => replied ⟨m, x, by rw [same]⟩
        cases signal <;> simp_all [LiveResource.Awaits, h.phase])
      have other : ¬ ∃ m x, a = .advance m last (.reply x) ∧
          (t.delay.filter (0 < ·.nanos) = none ∨ ∃ m', .advance m' last .elapsed ∈ rest) := by
        rintro ⟨m, x, same, -⟩
        exact replied ⟨m, x, same⟩
      rw [along, quiet, List.nil_append, or_iff_right other]
      exact ih waits (orderly.act a) answers.2

end Answers

/-! ### The order does not matter -/

/-- **The last fetch wins, in any order.** Several fetches have made their calls, of a resource
without a validator, in whatever state a run has left it. The replies to the calls come in any
order, with any delays, and nothing else is done. From the first call until the reply to the last
one is applied, the resource loads and shows what it showed before, and no listener is run. Then it
shows what that reply alone makes of the state before the first fetch, and tells its listeners that
and nothing else. So any two orders lead to the same. -/
theorem latest_fetch_wins (name : String) (config : Config) (earlier begun : List Action)
    (fetches : List Nat) (last : Nat) (reply : Nat → Reply)
    (unchecked : ((fresh name config).after earlier).resource.config.validator = none)
    (begins : ∀ a ∈ begun, a.Begins)
    (called : along calls ((fresh name config).after earlier) begun = fetches ++ [last]) :
    let start := (fresh name config).after earlier
    let delay := start.resource.config.delay
    (∀ between, between <+: begun →
      (start.after between).resource = start.resource ∧ along calls start between = [] ∨
        (start.after between).resource.results
          = { start.resource.results with state := .loading }) ∧
    (∀ answers, (∀ a ∈ answers, a.Answers reply) → ¬ Action.Completes last delay answers →
      (start.after (begun ++ answers)).resource.results
          = { start.resource.results with state := .loading } ∧
        along deliveries start (begun ++ answers) = []) ∧
    (∀ answers, (∀ a ∈ answers, a.Answers reply) → Action.Completes last delay answers →
      (∀ now, (start.after (begun ++ answers)).resource.results
        = (start.resource.settle now (.ofReply (reply last))).2.2.results) ∧
      (start.after (begun ++ answers)).resource.generation
        = start.resource.generation + (fetches ++ [last]).length ∧
      Tells start.resource (reply last) (along deliveries start (begun ++ answers))) ∧
    ∀ first second, (∀ a ∈ first, a.Answers reply) → (∀ a ∈ second, a.Answers reply) →
      Action.Completes last delay first → Action.Completes last delay second →
      (start.after (begun ++ first)).resource.results
          = (start.after (begun ++ second)).resource.results ∧
        (start.after (begun ++ first)).resource.generation
          = (start.after (begun ++ second)).resource.generation ∧
        along deliveries start (begun ++ first) = along deliveries start (begun ++ second) := by
  intro start delay
  have orderly : start.Orderly := (orderly_fresh name config).after earlier
  have orderly' := orderly.after begun
  obtain ⟨left, quiet⟩ := orderly.begun_after unchecked begins
  -- the last fetch waits for its reply, with the last generation
  obtain ⟨t, waits, count, same⟩ : ∃ t,
      (start.after begun).Waits start.resource last (.calling t) t ∧
      t.generation = start.resource.generation + (fetches ++ [last]).length ∧ t.delay = delay := by
    generalize hids : along calls start begun = ids at called left
    cases left with
    | nothing => simp at called
    | called waits count delay =>
      obtain ⟨rfl, same⟩ := List.append_inj' called rfl
      obtain rfl := List.singleton_inj.1 same
      refine ⟨_, waits, ?_, delay⟩
      rw [(Resource.isCurrent_iff.1 waits.current).2.1, count, List.length_append]
      rfl
  have pending (answers : List Action) (assigned : ∀ a ∈ answers, a.Answers reply) :=
    waits.after_call orderly' assigned
  simp only [same] at pending
  have complete (answers : List Action) (assigned : ∀ a ∈ answers, a.Answers reply)
      (completes : Action.Completes last delay answers) :
      (∀ now, (start.after (begun ++ answers)).resource.results
        = (start.resource.settle now (.ofReply (reply last))).2.2.results) ∧
      (start.after (begun ++ answers)).resource.generation
        = start.resource.generation + (fetches ++ [last]).length ∧
      Tells start.resource (reply last) (along deliveries start (begun ++ answers)) := by
    obtain ⟨decided, told⟩ := (pending answers assigned).1 completes
    rw [after_append, along_append, quiet, List.nil_append, ← count]
    exact ⟨decided.results, decided.generation, told⟩
  refine ⟨fun between shorter => ?_, fun answers assigned waiting => ?_, complete,
    fun first second assigned assigned' completes completes' => ?_⟩
  · obtain ⟨begun', -⟩ := orderly.begun_after unchecked
      (fun a mem => begins a (shorter.subset mem))
    generalize along calls start between = ids at begun'
    cases begun' with
    | nothing same => exact .inl ⟨same, rfl⟩
    | called waits => exact .inr waits.awaits.shows
  · obtain ⟨⟨p, waits'⟩, quiet'⟩ := (pending answers assigned).2 waiting
    rw [after_append, along_append, quiet, quiet']
    exact ⟨waits'.awaits.shows, rfl⟩
  · obtain ⟨results, generation, told⟩ := complete first assigned completes
    obtain ⟨results', generation', told'⟩ := complete second assigned' completes'
    exact ⟨(results 0).trans (results' 0).symm, generation.trans generation'.symm,
      (told 0).trans (told' 0).symm⟩

/-- A call is under way when two more fetches make theirs. Whether the second of these fails before
or after the first one has succeeded, its failure is shown. -/
theorem failure_shown_in_two_orders :
    let m : Moment := { now := 0, isOpen := fun _ => true }
    let config : Config := { method := "list", delay := some (.ofMillis 5) }
    let earlier : List Action := [.spawn none, .advance m 0 .go]
    let begun : List Action := [.spawn none, .spawn none, .advance m 1 .go, .advance m 2 .go]
    let reply : Nat → Reply := fun id => if id = 2 then .err (.ofMessage "down") else .ok (.int id)
    let first : List Action :=
      [.advance m 1 (.reply (reply 1)), .advance m 2 (.reply (reply 2)), .advance m 1 .elapsed,
        .advance m 2 .elapsed]
    let second : List Action :=
      [.advance m 2 (.reply (reply 2)), .advance m 2 .elapsed, .advance m 1 (.reply (reply 1)),
        .advance m 0 (.reply (reply 0)), .advance m 1 .elapsed]
    let start := (fresh "tickets" config).after earlier
    start.resource.config.validator = none ∧ (∀ a ∈ begun, a.Begins) ∧
      along calls start begun = [1] ++ [2] ∧
      (∀ a ∈ first, a.Answers reply) ∧ (∀ a ∈ second, a.Answers reply) ∧
      (start.after (begun ++ first)).resource.state = .error ∧
      (start.after (begun ++ first)).resource.results
        = (start.after (begun ++ second)).resource.results := by
  intro m config earlier begun reply first second start
  have begins : ∀ a ∈ begun, a.Begins := by simp [begun, Action.Begins]
  have called : along calls start begun = [1] ++ [2] := by decide +kernel
  have answers : ∀ a ∈ first, a.Answers reply := by simp [first, Action.Answers]
  have answers' : ∀ a ∈ second, a.Answers reply := by simp [second, Action.Answers]
  have completes : Action.Completes 2 start.resource.config.delay first :=
    ⟨[_], m, reply 2, _, rfl, .inr ⟨m, .tail _ (.head _)⟩⟩
  have completes' : Action.Completes 2 start.resource.config.delay second :=
    ⟨[], m, reply 2, _, rfl, .inr ⟨m, .head _⟩⟩
  obtain ⟨-, -, -, same⟩ :=
    latest_fetch_wins "tickets" config earlier begun [1] 2 reply rfl begins called
  have failed : (start.after (begun ++ first)).resource.state = .error := by decide +kernel
  exact ⟨rfl, begins, called, answers, answers', failed,
    (same first second answers answers' completes completes').1⟩

end LiveResource

end ReactiveResource
