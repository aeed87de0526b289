import ReactiveResource.Proofs.Resource.Run

/-!
# Moves of an attempt

All that an attempt can do when it is given a signal. `LiveResource.Move` lists the moves, each with
its conditions, the resource after it, and the effects that matter to others; `advance_move` says
that there are no more. What later modules say of attempts is read off this list.

* `PageLock.leave`, `PageLock.heir?`: the page lock when an attempt comes to its end;
* `LiveResource.ended`: an attempt has come to its end;
* `LiveResource.Turn`: it is an attempt's turn to take its generation;
* `LiveResource.Comes`: the outcome of an attempt that has taken its generation;
* `LiveResource.Move`, `advance_move`: the moves.
-/

namespace ReactiveResource

/-! ### Effects that matter -/

/-- The effect is only recorded. -/
def Effect.isNote : Effect → Bool
  | .log _ | .checked .. | .validated _ => true
  | _ => false

/-- The attempt that makes a call, if the effect tells of one. -/
def Effect.caller? : Effect → Option Nat
  | .call id _ _ => some id
  | _ => none

/-- The generation whose outcome has been applied, if the effect tells of one. -/
def Effect.delivered? : Effect → Option Nat
  | .deliver g _ _ => some g
  | _ => none

/-- The effect asks for something that an attempt waits for. -/
def Effect.IsRequest : Effect → Prop
  | .ask _ | .call .. | .sleep .. => True
  | _ => False

theorem Effect.not_isRequest_of_isNote {e : Effect} (h : e.isNote = true) : ¬ e.IsRequest := by
  cases e <;> first | exact not_false | cases h

/-- The effects that are more than notes. -/
def deeds (effects : List Effect) : List Effect := effects.filter (!·.isNote)

theorem mem_deeds {effects : List Effect} {e : Effect} :
    e ∈ deeds effects ↔ e ∈ effects ∧ e.isNote = false := by simp [deeds]

@[simp] theorem deeds_nil : deeds [] = [] := rfl

theorem deeds_cons (e : Effect) (effects : List Effect) :
    deeds (e :: effects) = if e.isNote then deeds effects else e :: deeds effects := by
  cases h : e.isNote <;> simp [deeds, h]

/-- What is read off effects that are not notes is read off the others. -/
theorem filterMap_deeds {β : Type} {f : Effect → Option β} (h : ∀ e, e.isNote = true → f e = none)
    (effects : List Effect) : (deeds effects).filterMap f = effects.filterMap f := by
  induction effects with
  | nil => rfl
  | cons e rest ih =>
    rw [deeds_cons]
    cases he : e.isNote with
    | true => simpa [List.filterMap_cons, h e he] using ih
    | false => simp [List.filterMap_cons, ih]

/-! ### The end of an attempt -/

namespace PageLock

/-- The lock after an attempt has come to its end. -/
def leave (p : PageLock) (id : Nat) : PageLock :=
  if p.holder = some id then { holder := p.waiting.head?, waiting := p.waiting.tail } else p

/-- Who is given the lock when an attempt comes to its end. -/
def heir? (p : PageLock) (id : Nat) : Option Nat :=
  if p.holder = some id then p.waiting.head? else none

end PageLock

/-- The one who is given the lock is woken. -/
def wakes (p : PageLock) (id : Nat) : List Effect := (p.heir? id).toList.map .wake

theorem deeds_wakes (p : PageLock) (id : Nat) : deeds (wakes p id) = wakes p id := by
  cases h : p.heir? id <;> simp [wakes, h, deeds, Effect.isNote]

/-- Who is woken by an effect is not told anything else by it. -/
theorem filterMap_map_wake {β : Type} {f : Effect → Option β} (quiet : ∀ id, f (.wake id) = none)
    (ids : List Nat) : (ids.map Effect.wake).filterMap f = [] := by
  rw [List.filterMap_map]
  exact List.filterMap_eq_nil_iff.2 fun id _ => quiet id

theorem filterMap_caller?_wakes (p : PageLock) (id : Nat) :
    (wakes p id).filterMap Effect.caller? = [] := filterMap_map_wake (fun _ => rfl) _

namespace LiveResource

/-- The attempt has come to its end, and has left the page lock. -/
def ended (r : LiveResource) (id : Nat) (ending : Ending) : LiveResource :=
  { r.setPhase id (.finished ending) with pages := r.pages.leave id }

theorem finish_eq (r : LiveResource) (id : Nat) (ending : Ending) (effects : List Effect) :
    r.finish id ending effects = (r.ended id ending, effects ++ wakes r.pages id) := by
  by_cases h : r.pages.holder = some id
  · cases hw : r.pages.waiting <;>
      simp [finish, release, setPhase, ended, PageLock.leave, wakes, PageLock.heir?, h, hw]
  · simp [finish, release, setPhase, ended, PageLock.leave, wakes, PageLock.heir?, h]

@[simp] theorem resource_ended (r : LiveResource) (id : Nat) (ending : Ending) :
    (r.ended id ending).resource = r.resource := rfl

@[simp] theorem pages_ended (r : LiveResource) (id : Nat) (ending : Ending) :
    (r.ended id ending).pages = r.pages.leave id := rfl

@[simp] theorem phase?_ended (r : LiveResource) (id : Nat) (ending : Ending) (j : Nat) :
    (r.ended id ending).phase? j = (r.setPhase id (.finished ending)).phase? j := rfl

/-! ### The beginning of an attempt -/

/-- The resource lets new attempts pass: it is not retired, and its precondition holds. -/
structure Admits (r : LiveResource) (m : Moment) : Prop where
  alive : r.resource.retired = false
  isOpen : ∀ p, r.resource.config.precondition = some p → m.isOpen p.gate = true

/-- It is an attempt's turn to take its generation. In the last resource given, it holds the page
lock if there is one. -/
inductive Turn (r : LiveResource) (m : Moment) (id : Nat) : LiveResource → Prop
  | free (phase : r.phase? id = some .spawned) (admits : r.Admits m)
      (single : r.resource.config.paginated = false) : Turn r m id r
  | first (phase : r.phase? id = some .spawned) (admits : r.Admits m)
      (paginated : r.resource.config.paginated = true) (vacant : r.pages.holder = none) :
      Turn r m id { r with pages := { r.pages with holder := some id } }
  | next (phase : r.phase? id = some (.queued r.resource.epoch))
      (holder : r.pages.holder = some id) (alive : r.resource.retired = false) : Turn r m id r

theorem Turn.resource {r r₁ : LiveResource} {m : Moment} {id : Nat} (h : r.Turn m id r₁) :
    r₁.resource = r.resource := by cases h <;> rfl

theorem Turn.attempts {r r₁ : LiveResource} {m : Moment} {id : Nat} (h : r.Turn m id r₁) :
    r₁.attempts = r.attempts := by cases h <;> rfl

theorem Turn.alive {r r₁ : LiveResource} {m : Moment} {id : Nat} (h : r.Turn m id r₁) :
    r.resource.retired = false := by
  cases h with
  | free _ admits _ => exact admits.alive
  | first _ admits _ _ => exact admits.alive
  | next _ _ alive => exact alive

theorem Turn.setPhase_attempts {r r₁ : LiveResource} {m : Moment} {id : Nat} (h : r.Turn m id r₁)
    (resource : Resource) (p : Phase) :
    ({ r₁ with resource }.setPhase id p).attempts = (r.setPhase id p).attempts := by
  simp only [setPhase, h.attempts]

/-- The attempt has not taken a generation before its turn. -/
theorem Turn.phase {r r₁ : LiveResource} {m : Moment} {id : Nat} (h : r.Turn m id r₁) :
    r.phase? id = some .spawned ∨ r.phase? id = some (.queued r.resource.epoch) := by
  cases h with
  | free phase => exact .inl phase
  | first phase => exact .inl phase
  | next phase => exact .inr phase

/-- The parameters that an attempt uses if it is its turn now. -/
def paramsFor (r : LiveResource) (id : Nat) : Params :=
  (r.override? id).getD r.resource.config.params

/-- What an attempt carries if it is its turn now. -/
def ticketFor (r : LiveResource) (id : Nat) : Ticket :=
  { generation := r.resource.generation + 1
    params := r.paramsFor id
    method := r.resource.config.method
    args := r.resource.config.callArgs (r.paramsFor id)
    delay := r.resource.config.delay }

end LiveResource

/-- One more generation has been taken, by a fetch with these parameters. -/
def Resource.raised (r : Resource) (params : Params) : Resource :=
  { r with generation := r.generation + 1, currentParams := some params }

/-- A fetch with these parameters may go on at once. -/
def Config.Accepts (c : Config) (params : Params) : Prop :=
  match c.validator with
  | none => True
  | some (.rule check) => (check params).filter (· ≠ "") = none
  | some .held => False

/-- The parameters are refused at once, with a message. -/
def Config.Refuses (c : Config) (params : Params) (message : String) : Prop :=
  ∃ check, c.validator = some (.rule check) ∧ check params = some message ∧ message ≠ ""

theorem Resource.takeGeneration_of_validator {r : Resource} {v : Validator}
    (h : r.config.validator = some v) (params : Params) :
    r.takeGeneration params = r.raised params := by
  simp [takeGeneration, raised, h]

theorem Resource.takeGeneration_of_none {r : Resource} (h : r.config.validator = none)
    (params : Params) : r.takeGeneration params = (r.raised params).beginLoading := by
  simp [takeGeneration, raised, h]

theorem Resource.isCurrent_iff {r : Resource} {g : Nat} :
    r.isCurrent g = true ↔ r.retired = false ∧ g = r.generation ∧ r.fence < g := by
  simp [isCurrent, and_assoc]

theorem Resource.isCurrent_raised {r : Resource} (alive : r.retired = false)
    (fence : r.fence ≤ r.generation) (params : Params) :
    (r.raised params).isCurrent (r.generation + 1) = true :=
  isCurrent_iff.2 ⟨alive, rfl, Nat.lt_succ_of_le fence⟩

namespace LiveResource

/-! ### Outcomes and endings -/

/-- Given a signal, an attempt that has taken its generation comes to an outcome. -/
inductive Comes (r : LiveResource) (id : Nat) : Signal → Ticket → Outcome → Prop
  | replied {t : Ticket} {reply : Reply} (phase : r.phase? id = some (.calling t))
      (prompt : t.delay.filter (0 < ·.nanos) = none) : Comes r id (.reply reply) t (.ofReply reply)
  | rested {t : Ticket} {reply : Reply} (phase : r.phase? id = some (.delaying t reply)) :
      Comes r id .elapsed t (.ofReply reply)
  | refused {t : Ticket} {message : String} (phase : r.phase? id = some (.validating t))
      (refusal : message ≠ "") : Comes r id (.verdict (some message)) t (.invalid message)

theorem not_comes_go (r : LiveResource) (id : Nat) (t : Ticket) (outcome : Outcome) :
    ¬ r.Comes id .go t outcome := nofun

/-- Given a signal in a phase, an attempt comes to an end without an outcome. -/
inductive Leaves (r : LiveResource) (m : Moment) (id : Nat) : Phase → Signal → Ending → Prop
  | ignored (retired : r.resource.retired = true) : Leaves r m id .spawned .go .ignored
  | skipped {p : Precondition} (alive : r.resource.retired = false)
      (precondition : r.resource.config.precondition = some p) (closed : m.isOpen p.gate = false) :
      Leaves r m id .spawned .go .skipped
  | displaced {epoch : Nat} (holder : r.pages.holder = some id)
      (changed : r.resource.retired = true ∨ r.resource.epoch ≠ epoch) :
      Leaves r m id (.queued epoch) .go .displaced
  | superseded {t : Ticket} {message : Option String}
      (accepted : message.filter (· ≠ "") = none)
      (stale : r.resource.isCurrent t.generation = false) :
      Leaves r m id (.validating t) (.verdict message) (.superseded t.generation)

/-- The attempt waits for the signal. -/
def Awaits (r : LiveResource) (id : Nat) (signal : Signal) : Prop :=
  match r.phase? id, signal with
  | some .spawned, .go => True
  | some (.queued _), .go => r.pages.holder = some id
  | some (.validating _), .verdict _ => True
  | some (.calling _), .reply _ => True
  | some (.delaying ..), .elapsed => True
  | _, _ => False

/-- What an attempt does when it is given a signal: the resource after the move, and the effects
that are more than notes. -/
inductive Move (r : LiveResource) (m : Moment) (id : Nat) :
    Signal → LiveResource → List Effect → Prop
  /-- It does not wait for this signal. -/
  | still {signal : Signal} (idle : ¬ r.Awaits id signal) : Move r m id signal r []
  /-- It comes to an end without an outcome. -/
  | leave {signal : Signal} {p : Phase} {ending : Ending} (phase : r.phase? id = some p)
      (leaves : r.Leaves m id p signal ending) :
      Move r m id signal (r.ended id ending) (wakes r.pages id)
  /-- It waits for the page lock. -/
  | queue {holder : Nat} (phase : r.phase? id = some .spawned) (admits : r.Admits m)
      (paginated : r.resource.config.paginated = true) (busy : r.pages.holder = some holder) :
      Move r m id .go
        ({ r with pages := { r.pages with waiting := r.pages.waiting ++ [id] } }.setPhase id
          (.queued r.resource.epoch)) []
  /-- It takes its generation, and its parameters are refused at once. -/
  | refuse {r₁ : LiveResource} {message : String} {event : Event} {due : List Listener}
      {settled : Resource} (turn : r.Turn m id r₁)
      (refuses : r.resource.config.Refuses (r.paramsFor id) message)
      (settles : (r.resource.raised (r.paramsFor id)).settle m.now (.invalid message)
        = (event, due, settled)) :
      Move r m id .go
        ({ r₁ with resource := settled }.ended id (.applied (r.resource.generation + 1)))
        (.deliver (r.resource.generation + 1) event due :: wakes r₁.pages id)
  /-- It takes its generation, and waits for a verdict on its parameters. -/
  | ask {r₁ : LiveResource} (turn : r.Turn m id r₁)
      (held : r.resource.config.validator = some .held) :
      Move r m id .go
        ({ r₁ with resource := r.resource.raised (r.paramsFor id) }.setPhase id
          (.validating (r.ticketFor id))) [.ask id]
  /-- It takes its generation and makes its call. -/
  | call {r₁ : LiveResource} (turn : r.Turn m id r₁)
      (accepts : r.resource.config.Accepts (r.paramsFor id)) :
      Move r m id .go
        ({ r₁ with
            resource := (r.resource.raised (r.paramsFor id)).beginLoading.notify }.setPhase id
          (.calling (r.ticketFor id)))
        [.call id (r.ticketFor id).method (r.ticketFor id).args]
  /-- Its parameters are accepted, and it makes its call. -/
  | accept {t : Ticket} {message : Option String} (phase : r.phase? id = some (.validating t))
      (accepted : message.filter (· ≠ "") = none)
      (current : r.resource.isCurrent t.generation = true) :
      Move r m id (.verdict message)
        ({ r with resource := r.resource.beginLoading.notify }.setPhase id (.calling t))
        [.call id t.method t.args]
  /-- The reply to its call has come, and a delay begins. -/
  | rest {t : Ticket} {reply : Reply} {delay : Duration}
      (phase : r.phase? id = some (.calling t))
      (delayed : t.delay.filter (0 < ·.nanos) = some delay) :
      Move r m id (.reply reply) (r.setPhase id (.delaying t reply)) [.sleep id delay]
  /-- Its outcome is applied. -/
  | apply {signal : Signal} {t : Ticket} {outcome : Outcome} {event : Event} {due : List Listener}
      {settled : Resource} (comes : r.Comes id signal t outcome)
      (current : r.resource.isCurrent t.generation = true)
      (settles : r.resource.settle m.now outcome = (event, due, settled)) :
      Move r m id signal ({ r with resource := settled }.ended id (.applied t.generation))
        (.deliver t.generation event due :: wakes r.pages id)
  /-- Its outcome is dropped. -/
  | discard {signal : Signal} {t : Ticket} {outcome : Outcome}
      (comes : r.Comes id signal t outcome)
      (stale : r.resource.isCurrent t.generation = false) :
      Move r m id signal (r.ended id (.discarded t.generation)) (wakes r.pages id)

/-! ### There are no other moves -/

section Cases

variable {r r₁ : LiveResource} {m : Moment} {id : Nat}

/-- What an attempt has done, with its effects. -/
def Moves (r : LiveResource) (m : Moment) (id : Nat) (signal : Signal)
    (result : LiveResource × List Effect) : Prop :=
  r.Move m id signal result.1 (deeds result.2)

theorem Moves.note {signal : Signal} {r' : LiveResource} {effects : List Effect} {e : Effect}
    (h : r.Moves m id signal (r', effects)) (he : e.isNote = true) :
    r.Moves m id signal (r', e :: effects) := by
  rw [Moves, deeds_cons, if_pos he]
  exact h

theorem settle_of_current (r : LiveResource) (m : Moment) (id : Nat) {g : Nat}
    (h : r.resource.isCurrent g = true) (outcome : Outcome) :
    (r.settle m id g outcome).1
        = { r with resource := (r.resource.settle m.now outcome).2.2 }.ended id (.applied g) ∧
      deeds (r.settle m id g outcome).2
        = .deliver g (r.resource.settle m.now outcome).1 (r.resource.settle m.now outcome).2.1
          :: wakes r.pages id := by
  rw [settle, if_pos h]
  cases outcome <;> simp [finish_eq, deeds_cons, Effect.isNote, deeds_wakes]

theorem settle_of_stale (r : LiveResource) (m : Moment) (id : Nat) {g : Nat}
    (h : r.resource.isCurrent g = false) (outcome : Outcome) :
    (r.settle m id g outcome).1 = r.ended id (.discarded g) ∧
      deeds (r.settle m id g outcome).2 = wakes r.pages id := by
  rw [settle, if_neg (by simp [h])]
  simp [finish_eq, deeds_cons, Effect.isNote, deeds_wakes]

theorem settle_moves {signal : Signal} {t : Ticket} {outcome : Outcome}
    (comes : r.Comes id signal t outcome) :
    r.Moves m id signal (r.settle m id t.generation outcome) := by
  unfold Moves
  cases hc : r.resource.isCurrent t.generation with
  | true =>
    obtain ⟨left, told⟩ := settle_of_current r m id hc outcome
    rw [left, told]
    exact .apply comes hc rfl
  | false =>
    obtain ⟨left, told⟩ := settle_of_stale r m id hc outcome
    rw [left, told]
    exact .discard comes hc

theorem finish_moves {signal : Signal} {p : Phase} {ending : Ending} {e : Effect}
    (phase : r.phase? id = some p) (leaves : r.Leaves m id p signal ending)
    (he : e.isNote = true) : r.Moves m id signal (r.finish id ending [e]) := by
  rw [finish_eq]
  refine Moves.note ?_ he
  change r.Move m id signal (r.ended id ending) (deeds (wakes r.pages id))
  rw [deeds_wakes]
  exact .leave phase leaves

theorem deeds_place (r : LiveResource) (id : Nat) (t : Ticket) :
    deeds (r.place id t).2 = [.call id t.method t.args] := by
  simp [place, deeds_cons, Effect.isNote]

theorem judge_moves {t : Ticket} (phase : r.phase? id = some (.validating t))
    (message : Option String) :
    r.Moves m id (.verdict message) (r.judge m id t message) := by
  rw [judge]
  cases hm : message.filter (· ≠ "") with
  | some refusal =>
    obtain ⟨rfl, hne⟩ := Option.filter_eq_some_iff.1 hm
    exact (settle_moves (.refused phase (by simpa using hne))).note rfl
  | none =>
    cases hc : r.resource.isCurrent t.generation with
    | true =>
      simp only [if_true, Moves, deeds_place]
      exact .accept phase hm hc
    | false =>
      simp only [Bool.false_eq_true, if_false]
      exact finish_moves phase (.superseded hm hc) rfl

/-- An attempt whose turn it is takes its generation. -/
theorem take_moves (turn : r.Turn m id r₁) (fence : r.resource.fence ≤ r.resource.generation) :
    r.Moves m id .go (r₁.take m id (r.override? id) r.resource.epoch) := by
  have hr := turn.resource
  have current := Resource.isCurrent_raised turn.alive fence (r.paramsFor id)
  have params : (r.override? id).getD r.resource.config.params = r.paramsFor id := rfl
  have ticket : ({ generation := r.resource.generation + 1, params := r.paramsFor id
                   method := r.resource.config.method
                   args := r.resource.config.callArgs (r.paramsFor id)
                   delay := r.resource.config.delay } : Ticket) = r.ticketFor id := rfl
  rw [take]
  simp only [hr, turn.alive, bne_self_eq_false, Bool.or_self, Bool.false_eq_true, if_false, params,
    ticket]
  match hv : r.resource.config.validator with
  | none =>
    have called := Move.call turn (show r.resource.config.Accepts _ by simp [Config.Accepts, hv])
    rw [Resource.takeGeneration_of_none hv]
    simp only [Moves, deeds_place]
    exact called
  | some .held =>
    rw [Resource.takeGeneration_of_validator hv]
    exact .ask turn hv
  | some (.rule check) =>
    rw [Resource.takeGeneration_of_validator hv]
    refine Moves.note ?_ rfl
    simp only [judge]
    cases hm : (check (r.paramsFor id)).filter (· ≠ "") with
    | some refusal =>
      obtain ⟨hs, hne⟩ := Option.filter_eq_some_iff.1 hm
      obtain ⟨left, told⟩ := settle_of_current
        { r₁ with resource := r.resource.raised (r.paramsFor id) } m id current (.invalid refusal)
      have refused := Move.refuse turn ⟨check, hv, hs, by simpa using hne⟩ rfl
      refine Moves.note ?_ rfl
      change r.Move m id .go (settle _ m id (r.resource.generation + 1) _).1
        (deeds (settle _ m id (r.resource.generation + 1) _).2)
      rw [left, told]
      exact refused
    | none =>
      have called := Move.call turn
        (show r.resource.config.Accepts _ by simpa only [Config.Accepts, hv] using hm)
      have hc : (r.resource.raised (r.paramsFor id)).isCurrent (r.ticketFor id).generation = true :=
        current
      simp only [hc, if_true, Moves, deeds_place]
      exact called
/-- An attempt that has passed its precondition takes its generation, or waits for the page
lock. -/
theorem enter_moves (phase : r.phase? id = some .spawned) (admits : r.Admits m)
    (fence : r.resource.fence ≤ r.resource.generation) :
    r.Moves m id .go (r.enter m id (r.override? id)) := by
  rw [enter]
  cases hpag : r.resource.config.paginated with
  | false =>
    simp only [Bool.false_eq_true, if_false]
    exact take_moves (.free phase admits hpag) fence
  | true =>
    simp only [if_true]
    split
    · next vacant => exact take_moves (.first phase admits hpag vacant) fence
    · next holder busy => exact .queue phase admits hpag busy

theorem start_moves (phase : r.phase? id = some .spawned)
    (fence : r.resource.fence ≤ r.resource.generation) :
    r.Moves m id .go (r.start m id (r.override? id)) := by
  rw [start]
  cases hr : r.resource.retired with
  | true =>
    simp only [if_true]
    exact finish_moves phase (.ignored hr) rfl
  | false =>
    simp only [Bool.false_eq_true, if_false]
    cases hp : r.resource.config.precondition with
    | none => exact enter_moves phase ⟨hr, by simp [hp]⟩ fence
    | some p =>
      refine Moves.note ?_ rfl
      cases ho : m.isOpen p.gate with
      | true =>
        simp only [if_true]
        exact enter_moves phase ⟨hr, by simp [hp, ho]⟩ fence
      | false =>
        simp only [Bool.false_eq_true, if_false]
        exact finish_moves phase (.skipped hr hp ho) rfl

theorem receive_moves {t : Ticket} (phase : r.phase? id = some (.calling t)) (reply : Reply) :
    r.Moves m id (.reply reply) (r.receive m id t reply) := by
  rw [receive]
  cases hd : t.delay.filter (0 < ·.nanos) with
  | some delay => exact .rest phase hd
  | none => exact settle_moves (.replied phase hd)

/-- The attempt whose turn has come while it waited takes its generation, or is dropped. -/
theorem resume_moves {epoch : Nat} (phase : r.phase? id = some (.queued epoch))
    (holder : r.pages.holder = some id) (fence : r.resource.fence ≤ r.resource.generation) :
    r.Moves m id .go (r.take m id (r.override? id) epoch) := by
  by_cases h : r.resource.retired = false ∧ r.resource.epoch = epoch
  · obtain ⟨alive, rfl⟩ := h
    exact take_moves (.next phase holder alive) fence
  · have changed : r.resource.retired = true ∨ r.resource.epoch ≠ epoch := by
      cases hr : r.resource.retired <;> simp_all
    rw [take]
    simp only [show (r.resource.retired || r.resource.epoch != epoch) = true by simpa using changed,
      if_true]
    exact finish_moves phase (.displaced holder changed) rfl

/-- **An attempt that is given a signal makes one of the moves.** -/
theorem advance_move (fence : r.resource.fence ≤ r.resource.generation) (signal : Signal) :
    r.Move m id signal (r.advance m id signal).1 (deeds (r.advance m id signal).2) := by
  rw [advance]
  cases ha : r.attempts[id]? with
  | none => exact .still (by simp [Awaits, phase?, ha])
  | some attempt =>
    obtain ⟨override, p⟩ := attempt
    have phase : r.phase? id = some p := by simp [phase?, ha]
    have params : override = r.override? id := by simp [override?, ha]
    subst params
    simp only
    split
    · exact start_moves phase fence
    · split
      · next holder => exact resume_moves phase holder fence
      · next other => exact .still (by simpa [Awaits, phase] using other)
    · exact judge_moves phase _
    · exact receive_moves phase _
    · exact settle_moves (.rested phase)
    · refine .still ?_
      unfold Awaits
      rw [phase]
      split <;> simp_all

/-! ### Moves that are forced -/

theorem Turn.awaits (h : r.Turn m id r₁) : r.Awaits id .go := by
  cases h with
  | free phase => simp [Awaits, phase]
  | first phase => simp [Awaits, phase]
  | next phase holder => simp [Awaits, phase, holder]

/-- An attempt whose turn it is does not leave. -/
theorem Turn.not_leaves (h : r.Turn m id r₁) {p : Phase} {ending : Ending}
    (phase : r.phase? id = some p) : ¬ r.Leaves m id p .go ending := by
  intro leaves
  have alive := h.alive
  cases h with
  | free own admits _ | first own admits _ _ =>
    rw [own, Option.some.injEq] at phase
    subst phase
    cases leaves with
    | ignored retired => rw [alive] at retired; cases retired
    | skipped _ precondition closed =>
      rw [admits.isOpen _ precondition] at closed
      cases closed
  | next own holder _ =>
    rw [own, Option.some.injEq] at phase
    subst phase
    cases leaves with
    | displaced _ changed =>
      rcases changed with retired | changed
      · rw [alive] at retired; cases retired
      · exact changed rfl

theorem Turn.not_queue (h : r.Turn m id r₁) (phase : r.phase? id = some .spawned)
    (paginated : r.resource.config.paginated = true) {holder : Nat}
    (busy : r.pages.holder = some holder) : False := by
  cases h with
  | free _ _ single => rw [paginated] at single; cases single
  | first _ _ _ vacant => rw [busy] at vacant; cases vacant
  | next own => rw [phase] at own; cases own

/-- An attempt whose turn it is takes its generation, and then its parameters are refused, or it
waits for a verdict on them, or it makes its call. -/
theorem Turn.of_move {motive : LiveResource → List Effect → Prop} (turn : r.Turn m id r₁)
    {r' : LiveResource} {effects : List Effect} (move : r.Move m id .go r' effects)
    (refuse : ∀ {r₁ : LiveResource} {message : String} {event : Event} {due : List Listener}
      {settled : Resource}, r.Turn m id r₁ →
      r.resource.config.Refuses (r.paramsFor id) message →
      (r.resource.raised (r.paramsFor id)).settle m.now (.invalid message)
        = (event, due, settled) →
      motive ({ r₁ with resource := settled }.ended id (.applied (r.resource.generation + 1)))
        (.deliver (r.resource.generation + 1) event due :: wakes r₁.pages id))
    (ask : ∀ {r₁ : LiveResource}, r.Turn m id r₁ → r.resource.config.validator = some .held →
      motive ({ r₁ with resource := r.resource.raised (r.paramsFor id) }.setPhase id
        (.validating (r.ticketFor id))) [.ask id])
    (call : ∀ {r₁ : LiveResource}, r.Turn m id r₁ →
      r.resource.config.Accepts (r.paramsFor id) →
      motive ({ r₁ with
          resource := (r.resource.raised (r.paramsFor id)).beginLoading.notify }.setPhase id
        (.calling (r.ticketFor id))) [.call id (r.ticketFor id).method (r.ticketFor id).args]) :
    motive r' effects := by
  cases move with
  | still idle => exact absurd turn.awaits idle
  | leave phase leaves => exact absurd leaves (turn.not_leaves phase)
  | queue phase _ paginated busy => exact (turn.not_queue phase paginated busy).elim
  | refuse turn refuses settles => exact refuse turn refuses settles
  | ask turn held => exact ask turn held
  | call turn accepts => exact call turn accepts
  | apply comes _ _ => exact absurd comes (not_comes_go _ _ _ _)
  | discard comes _ => exact absurd comes (not_comes_go _ _ _ _)

/-- An attempt whose turn it is, and whose parameters are refused at once, has that outcome
applied. -/
theorem advance_of_refusal (fence : r.resource.fence ≤ r.resource.generation)
    (turn : r.Turn m id r₁) {message : String}
    (refuses : r.resource.config.Refuses (r.paramsFor id) message) :
    ∃ event due settled woken,
      (r.resource.raised (r.paramsFor id)).settle m.now (.invalid message)
        = (event, due, settled) ∧
      (r.advance m id .go).1.resource = settled ∧
      deeds (r.advance m id .go).2
        = .deliver (r.resource.generation + 1) event due :: (woken : List Nat).map .wake := by
  obtain ⟨check, hv, hc, hne⟩ := refuses
  have move : r.Move m id .go (r.advance m id .go).1 (deeds (r.advance m id .go).2) :=
    advance_move fence .go
  generalize (r.advance m id .go).1 = r', deeds (r.advance m id .go).2 = effects at move
  refine turn.of_move (motive := fun r' effects => ∃ event due settled woken,
    (r.resource.raised (r.paramsFor id)).settle m.now (.invalid message) = (event, due, settled) ∧
      r'.resource = settled ∧ effects = .deliver (r.resource.generation + 1) event due
        :: (woken : List Nat).map .wake) move ?_ ?_ ?_
  · intro _ _ _ _ _ _ refuses' settles
    obtain ⟨check', hv', hc', -⟩ := refuses'
    rw [hv, Option.some.injEq, Validator.rule.injEq] at hv'
    rw [← hv', hc, Option.some.injEq] at hc'
    subst hc'
    exact ⟨_, _, _, _, settles, rfl, rfl⟩
  · intro _ _ held
    rw [hv] at held
    cases held
  · intro _ _ accepts
    simp [Config.Accepts, hv, hc, Option.filter, hne] at accepts

/-- Whoever has come to his end does nothing when he is given a signal. -/
theorem advance_of_finished {ending : Ending} (ended : r.phase? id = some (.finished ending))
    (m : Moment) (signal : Signal) : r.advance m id signal = (r, []) := by
  obtain ⟨⟨override, q⟩, attempt, rfl⟩ := Option.map_eq_some_iff.1 ended
  simp [advance, attempt]

/-- An attempt that comes to an outcome settles it. -/
theorem advance_of_comes {signal : Signal} {t : Ticket} {outcome : Outcome}
    (comes : r.Comes id signal t outcome) :
    (r.advance m id signal).1 = (r.settle m id t.generation outcome).1 ∧
      deeds (r.advance m id signal).2 = deeds (r.settle m id t.generation outcome).2 := by
  have attempt {p : Phase} (phase : r.phase? id = some p) :
      ∃ override, r.attempts[id]? = some ⟨override, p⟩ := by
    obtain ⟨⟨override, q⟩, ha, rfl⟩ := Option.map_eq_some_iff.1 phase
    exact ⟨override, ha⟩
  cases comes with
  | replied phase prompt =>
    obtain ⟨override, ha⟩ := attempt phase
    simp [advance, ha, receive, prompt]
  | rested phase =>
    obtain ⟨override, ha⟩ := attempt phase
    simp [advance, ha]
  | @refused t message phase refusal =>
    obtain ⟨override, ha⟩ := attempt phase
    have hm : (some message).filter (· ≠ "") = some message := by simp [Option.filter, refusal]
    simp only [advance, ha, judge, hm]
    simp [deeds_cons, Effect.isNote]

end Cases

end LiveResource

end ReactiveResource
