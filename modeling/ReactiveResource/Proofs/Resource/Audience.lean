import ReactiveResource.Proofs.Resource.Fencing

/-!
# Who hears of an outcome

An outcome that is applied is told to the listeners registered for its kind, those of the config
before those of the resource, each group in the order of registration. Which ones are registered at
a moment can be read off the run that led there: a listener stays from its registration on, unless
the resource is retired or the listener runs once and has run; those of a config go with it.

* `Delivery`, `Resource.Informs`: an event, with the listeners that are due for it;
* `LiveResource.deliveries`, `Orderly.delivers`: what is handed out by an action;
* `LiveResource.lasts`, `enrolled`, `adoptions`: what a run makes of the registrations;
* `own_after`, `ofConfig_after`: the listeners of the resource and of its config after a run.
-/

namespace ReactiveResource

/-- An event that is handed out, and the listeners that are due for it, in order. -/
structure Delivery where
  event : Event
  due : List Listener

/-- What is handed out, if the effect tells of it. -/
def Effect.delivery? : Effect → Option Delivery
  | .deliver _ event due => some { event, due }
  | _ => none

/-- The event tells of the results of the resource as they are: of its data, or of its error. -/
def Event.TellsOf : Event → Resource → Prop
  | .success data, r => r.state = .success ∧ r.data = some data ∧ r.error = none
  | .error message, r => r.state = .error ∧ r.error = some message

namespace Action

/-- The action is the end of the resource. -/
def retires : Action → Bool
  | .retire => true
  | _ => false

/-- The listener that an action registers on the resource for a kind. -/
def subscription? (kind : EventKind) : Action → Option Subscription
  | .listen k once listener => if k = kind then some { listener, once } else none
  | _ => none

end Action

/-- The registration is over once the listener has heard of an event. -/
def Subscription.lapses (sub : Subscription) (heard : Bool) : Bool := sub.once && heard

/-- The lists when the listeners due for an event of a kind have been handed out. -/
theorem Listeners.list_takeFor (ls : Listeners) (kind other : EventKind) :
    (ls.takeFor kind).2.list other
      = (ls.list other).filter fun sub => !sub.lapses (kind == other) := by
  by_cases h : kind = other
  · subst h
    simp [takeFor, Subscription.lapses]
  · rw [takeFor, list_withList_of_ne _ _ h, beq_eq_false_iff_ne.2 h]
    exact (List.filter_eq_self.2 fun sub _ => by simp [Subscription.lapses]).symm

/-- The lists after one more registration. -/
theorem Listeners.list_subscribe (ls : Listeners) (kind other : EventKind) (sub : Subscription) :
    (ls.subscribe kind sub).list other
      = ls.list other ++ if kind = other then [sub] else [] := by
  by_cases h : kind = other
  · subst h
    simp [subscribe]
  · simp [subscribe, list_withList_of_ne _ _ h, h]

namespace Resource

/-- The listeners registered for a kind: those of the config come first. -/
def audience (r : Resource) (kind : EventKind) : List Listener :=
  (r.config.listeners.list kind ++ r.listeners.list kind).map (·.listener)

/-- What comes of an outcome that is applied: an event that tells of the results is handed out to
those who are registered for its kind, and the registrations for one event lapse. -/
structure Informs (r : Resource) (d : Delivery) (settled : Resource) : Prop where
  due : d.due = r.audience d.event.kind
  tells : d.event.TellsOf settled
  ofConfig : ∀ kind, settled.config.listeners.list kind
    = (r.config.listeners.list kind).filter fun sub => !sub.lapses (d.event.kind == kind)
  own : ∀ kind, settled.listeners.list kind
    = (r.listeners.list kind).filter fun sub => !sub.lapses (d.event.kind == kind)

theorem exists_data_applyPayload (r : Resource) (payload : Json) :
    ∃ data, (r.applyPayload payload).data = some data := by
  cases payload with
  | arr page =>
    rw [applyPayload]
    split <;> exact ⟨_, rfl⟩
  | _ => exact ⟨_, rfl⟩

/-- The event tells of the results that the outcome leads to. -/
theorem tellsOf_withOutcome (r : Resource) (now : Nat) (outcome : Outcome) :
    ((r.withOutcome now outcome).eventOf outcome).TellsOf (r.withOutcome now outcome) := by
  cases outcome with
  | payload payload =>
    obtain ⟨data, hd⟩ := r.exists_data_applyPayload payload
    have now' : (r.withOutcome now (.payload payload)).data = some data := hd
    rw [eventOf, now']
    exact ⟨rfl, now', rfl⟩
  | remote e => exact ⟨rfl, rfl⟩
  | invalid message => exact ⟨rfl, rfl⟩

theorem informs_settle {r settled : Resource} {now : Nat} {outcome : Outcome} {event : Event}
    {due : List Listener} (settles : r.settle now outcome = (event, due, settled)) :
    r.Informs { event, due } settled := by
  obtain ⟨config, own⟩ := r.listeners_withOutcome now outcome
  have tells := r.tellsOf_withOutcome now outcome
  cases settles
  generalize (r.withOutcome now outcome).eventOf outcome = event at tells
  refine ⟨?_, ?_, fun kind => ?_, fun kind => ?_⟩
  · simp only [Listeners.takeFor, audience, config, own, List.map_append]
  · cases event <;> exact tells
  · rw [← config]
    exact Listeners.list_takeFor _ _ _
  · rw [← own]
    exact Listeners.list_takeFor _ _ _

end Resource

namespace LiveResource

/-! ### What is handed out -/

/-- What an action hands out. -/
def deliveries (r : LiveResource) (a : Action) : List Delivery :=
  (r.act a).2.filterMap Effect.delivery?

/-- In the action the outcome of an attempt is applied. -/
def Applies (r : LiveResource) (a : Action) : Prop :=
  ∃ m id signal g, a = .advance m id signal ∧ ¬ r.Applied id g ∧ (r.act a).1.Applied id g

/-- What a move hands out, and what becomes of the registrations. -/
inductive Hands (r : LiveResource) (id : Nat) (r' : LiveResource) : List Delivery → Prop
  | nothing (dropped : ∀ g, r'.Applied id g → r.Applied id g)
      (ofConfig : r'.resource.config.listeners = r.resource.config.listeners)
      (own : r'.resource.listeners = r.resource.listeners) : Hands r id r' []
  | informs {g : Nat} {d : Delivery} (alive : r.resource.retired = false)
      (before : ¬ r.Applied id g) (applied : r'.Applied id g)
      (informs : r.resource.Informs d r'.resource) : Hands r id r' [d]

section Deliveries

variable {r r' : LiveResource} {m : Moment} {id : Nat} {signal : Signal} {effects : List Effect}

theorem deliveries_eq (r : LiveResource) (a : Action) :
    r.deliveries a = (deeds (r.act a).2).filterMap Effect.delivery? := by
  refine (filterMap_deeds (fun e he => ?_) _).symm
  cases e <;> first | rfl | cases he

theorem deliveries_external {a : Action} (ha : a.External) : r.deliveries a = [] := by
  rw [deliveries, effects_external ha]
  rfl

/-- From outside nothing is handed out. -/
theorem along_deliveries_external {actions : List Action} (external : ∀ a ∈ actions, a.External)
    (r : LiveResource) : along deliveries r actions = [] := by
  induction actions generalizing r with
  | nil => rfl
  | cons a rest ih =>
    rw [List.forall_mem_cons] at external
    rw [along, deliveries_external external.1, ih external.2]
    rfl

theorem filterMap_delivery?_wakes (p : PageLock) (id : Nat) :
    (wakes p id).filterMap Effect.delivery? = [] := filterMap_map_wake (fun _ => rfl) _

/-- **A move hands out an event exactly if it applies an outcome**, and then one. -/
theorem Move.hands (h : r.Move m id signal r' effects) :
    r.Hands id r' (effects.filterMap Effect.delivery?) := by
  -- an attempt that goes to another phase has not been applied
  have dropped {q p : Phase} (phase : r.phase? id = some q)
      (ha : r'.attempts = (r.setPhase id p).attempts) (other : ∀ g, p ≠ .finished (.applied g))
      (g : Nat) (applied : r'.Applied id g) : r.Applied id g := by
    rw [Applied, phase?_of_setPhase ha phase, if_pos rfl, Option.some.injEq] at applied
    exact absurd applied (other g)
  have begun {q : Phase} (phase : r.phase? id = some q) (other : ∀ ending, q ≠ .finished ending)
      (g : Nat) : ¬ r.Applied id g := fun applied =>
    other _ (Option.some.inj (phase.symm.trans applied))
  cases h with
  | still => exact .nothing (fun _ h => h) rfl rfl
  | leave phase leaves =>
    rw [filterMap_delivery?_wakes]
    exact .nothing (dropped phase rfl (by cases leaves <;> simp)) rfl rfl
  | discard comes =>
    obtain ⟨q, phase, -⟩ := comes.phase
    rw [filterMap_delivery?_wakes]
    exact .nothing (dropped phase rfl (by simp)) rfl rfl
  | queue phase => exact .nothing (dropped phase rfl (by simp)) rfl rfl
  | accept phase => exact .nothing (dropped phase rfl (by simp)) rfl rfl
  | rest phase => exact .nothing (dropped phase rfl (by simp)) rfl rfl
  | ask turn | call turn =>
    rcases turn.phase with phase | phase <;>
      exact .nothing (dropped phase (turn.setPhase_attempts _ _) (by simp)) rfl rfl
  | refuse turn _ settles =>
    have told := Resource.informs_settle settles
    rw [List.filterMap_cons, filterMap_delivery?_wakes]
    refine .informs (g := r.resource.generation + 1) turn.alive ?_ ?_
      ⟨told.due, told.tells, told.ofConfig, told.own⟩
    · rcases turn.phase with phase | phase <;> exact begun phase (by simp) _
    · rw [Applied, phase?_ended, phase?_congr (turn.setPhase_attempts _ _)]
      rcases turn.phase with phase | phase <;> exact phase?_setPhase_self phase _
  | apply comes current settles =>
    obtain ⟨q, phase, ticket⟩ := comes.phase
    rw [List.filterMap_cons, filterMap_delivery?_wakes]
    refine .informs (Resource.isCurrent_iff.1 current).1 (begun phase ?_ _)
      (phase?_setPhase_self (r := r) phase _) (Resource.informs_settle settles)
    rintro ending rfl
    cases ticket

theorem Orderly.hands (orderly : r.Orderly) (m : Moment) (id : Nat) (signal : Signal) :
    r.Hands id (r.act (.advance m id signal)).1 (r.deliveries (.advance m id signal)) := by
  rw [deliveries_eq]
  exact (advance_move orderly.fence_le signal).hands

/-- **Who hears of an outcome.** An action that applies one hands out one event, to those who are
registered for its kind; any other action hands out nothing. -/
theorem Orderly.delivers (orderly : r.Orderly) (a : Action) :
    (r.Applies a ∧ ∃ event, r.deliveries a = [⟨event, r.resource.audience event.kind⟩] ∧
        event.TellsOf (r.act a).1.resource) ∨
      (¬ r.Applies a ∧ r.deliveries a = []) := by
  rcases act_cases r a orderly.fence_le with ha | ⟨m, id, signal, rfl, -⟩
  · refine .inr ⟨?_, deliveries_external ha⟩
    rintro ⟨m, id, signal, g, rfl, -⟩
    exact ha
  · have hands := orderly.hands m id signal
    generalize told : r.deliveries (.advance m id signal) = ds at hands
    cases hands with
    | nothing dropped =>
      refine .inr ⟨?_, rfl⟩
      rintro ⟨m', id', signal', g, same, before, applied⟩
      cases same
      exact before (dropped g applied)
    | @informs g d _ before applied informs =>
      refine .inl ⟨⟨m, id, signal, g, rfl, before, applied⟩, d.event, ?_, informs.tells⟩
      rw [← informs.due]

theorem Orderly.alive_of_deliveries (orderly : r.Orderly) {a : Action}
    (told : r.deliveries a ≠ []) : r.resource.retired = false := by
  rcases act_cases r a orderly.fence_le with ha | ⟨m, id, signal, rfl, -⟩
  · exact absurd (deliveries_external ha) told
  · have hands := orderly.hands m id signal
    generalize r.deliveries (.advance m id signal) = ds at told hands
    cases hands with
    | nothing => exact absurd rfl told
    | informs alive => exact alive

end Deliveries

/-! ### What becomes of the registrations -/

/-- The listeners registered on the resource for a kind, in order of registration. -/
def own (r : LiveResource) (kind : EventKind) : List Subscription :=
  r.resource.listeners.list kind

/-- The listeners that the config in force has for a kind, in order of registration. -/
def ofConfig (r : LiveResource) (kind : EventKind) : List Subscription :=
  r.resource.config.listeners.list kind

/-- A listener that is registered for a kind before a run still is so after it: the resource has not
been retired in between, and no event of the kind has been handed out if the listener runs once. -/
def lasts (r : LiveResource) (kind : EventKind) (run : List Action) (sub : Subscription) : Bool :=
  !run.any Action.retires &&
    !sub.lapses ((along deliveries r run).any fun d => d.event.kind == kind)

/-- The listeners that a run registers for a kind and that still are so after it, in order of
registration. -/
def enrolled (r : LiveResource) (kind : EventKind) : List Action → List Subscription
  | [] => []
  | a :: rest =>
    (a.subscription? kind).toList.filter ((r.act a).1.lasts kind rest)
      ++ enrolled (r.act a).1 kind rest

/-- The config that an action brings into force: that of an update that is accepted. -/
def adoptions (r : LiveResource) : Action → List Config
  | .update config => if (r.update config).toOption.isSome then [config] else []
  | _ => []

section Registrations

variable {r : LiveResource} {kind : EventKind}

@[simp] theorem lasts_nil (r : LiveResource) (kind : EventKind) (sub : Subscription) :
    r.lasts kind [] sub = true := by simp [lasts, along, Subscription.lapses]

theorem lasts_single (r : LiveResource) (kind : EventKind) (a : Action) (sub : Subscription) :
    r.lasts kind [a] sub
      = (!a.retires && !sub.lapses ((r.deliveries a).any fun d => d.event.kind == kind)) := by
  simp [lasts, along]

theorem lasts_cons (r : LiveResource) (kind : EventKind) (a : Action) (rest : List Action)
    (sub : Subscription) :
    r.lasts kind (a :: rest) sub
      = (r.lasts kind [a] sub && (r.act a).1.lasts kind rest sub) := by
  rw [lasts_single]
  cases once : sub.once <;> simp [lasts, along, Subscription.lapses, once, Bool.and_assoc]
  ac_rfl

/-- From outside, all registrations are ended at once or none is. -/
theorem filter_lasts_external {a : Action} (ha : a.External) (r : LiveResource)
    (kind : EventKind) (subs : List Subscription) :
    subs.filter (r.lasts kind [a]) = if a.retires then [] else subs := by
  have lasts (sub : Subscription) : r.lasts kind [a] sub = !a.retires := by
    simp [lasts_single, deliveries_external ha, Subscription.lapses]
  cases retires : a.retires with
  | true => exact List.filter_eq_nil_iff.2 fun sub _ => by simp [lasts, retires]
  | false => exact List.filter_eq_self.2 fun sub _ => by simp [lasts, retires]

/-- A move lets the registrations of a kind lapse that run once, if it hands out an event of the
kind. -/
theorem Hands.registrations {m : Moment} {id : Nat} {signal : Signal}
    (h : r.Hands id (r.act (.advance m id signal)).1 (r.deliveries (.advance m id signal))) :
    (r.act (.advance m id signal)).1.own kind
        = (r.own kind).filter (r.lasts kind [.advance m id signal]) ∧
      (r.act (.advance m id signal)).1.ofConfig kind
        = (r.ofConfig kind).filter (r.lasts kind [.advance m id signal]) := by
  have lasts : r.lasts kind [.advance m id signal] = fun sub =>
      !sub.lapses ((r.deliveries (.advance m id signal)).any fun d => d.event.kind == kind) :=
    funext fun sub => by rw [lasts_single]; rfl
  rw [lasts]
  generalize r.deliveries (.advance m id signal) = ds at h
  cases h with
  | nothing _ ofConfig own =>
    have all (subs : List Subscription) :
        subs.filter (fun sub => !sub.lapses (List.any [] fun d : Delivery => d.event.kind == kind))
          = subs := List.filter_eq_self.2 fun sub _ => by simp [Subscription.lapses]
    rw [all, all, LiveResource.own, LiveResource.ofConfig, ofConfig, own]
    exact ⟨rfl, rfl⟩
  | informs _ _ _ informs =>
    simp only [List.any_cons, List.any_nil, Bool.or_false]
    exact ⟨informs.own kind, informs.ofConfig kind⟩

/-- What one action makes of the listeners of the resource. -/
theorem Orderly.own_act (orderly : r.Orderly) (kind : EventKind) (a : Action) :
    (r.act a).1.own kind
      = (r.own kind).filter (r.lasts kind [a]) ++ (a.subscription? kind).toList := by
  rcases act_cases r a orderly.fence_le with ha | ⟨m, id, signal, rfl, -⟩
  · rw [filter_lasts_external ha]
    cases a with
    | advance => exact ha.elim
    | retire => cases kind <;> rfl
    | update config =>
      refine Eq.trans ?_ (List.append_nil _).symm
      simp only [LiveResource.act, update]
      cases accepted : r.resource.update config with
      | error e => rfl
      | ok resource => exact congrArg (·.list kind) (Resource.listeners_update accepted)
    | listen k once listener =>
      have listed : (r.act (.listen k once listener)).1.own kind
          = r.own kind ++ if k = kind then [⟨listener, once⟩] else [] := by
        cases once <;> exact Listeners.list_subscribe _ _ _ _
      rw [listed]
      by_cases same : k = kind <;> simp [Action.retires, Action.subscription?, same]
    | _ => exact (List.append_nil _).symm
  · rw [(orderly.hands m id signal).registrations.1]
    exact (List.append_nil _).symm

theorem adoptions_update {config : Config} {resource : Resource}
    (accepted : r.resource.update config = .ok resource) :
    r.adoptions (.update config) = [config] := by
  rw [adoptions, update, accepted]
  rfl

/-- What one action makes of the listeners of the config, unless it brings another config. -/
theorem Orderly.ofConfig_act (orderly : r.Orderly) (kind : EventKind) {a : Action}
    (steady : r.adoptions a = []) :
    (r.act a).1.ofConfig kind = (r.ofConfig kind).filter (r.lasts kind [a]) := by
  rcases act_cases r a orderly.fence_le with ha | ⟨m, id, signal, rfl, -⟩
  · rw [filter_lasts_external ha]
    cases a with
    | advance => exact ha.elim
    | retire => cases kind <;> rfl
    | update config =>
      simp only [LiveResource.act, update]
      cases accepted : r.resource.update config with
      | error e => rfl
      | ok resource =>
        rw [adoptions_update accepted] at steady
        cases steady
    | listen k once listener => cases once <;> rfl
    | _ => rfl
  · exact (orderly.hands m id signal).registrations.2

/-- An update that is accepted replaces the listeners of the config, and no others. -/
theorem listeners_of_adoption {config : Config} {a : Action} (h : config ∈ r.adoptions a)
    (kind : EventKind) :
    (r.act a).1.ofConfig kind = config.listeners.list kind ∧
      (r.act a).1.own kind = r.own kind := by
  cases a with
  | update adopted =>
    cases accepted : r.resource.update adopted with
    | error e =>
      rw [adoptions, update, accepted] at h
      cases h
    | ok resource =>
      rw [adoptions_update accepted, List.mem_singleton] at h
      subst h
      simp only [act, update, accepted]
      exact ⟨congrArg (·.listeners.list kind) (Resource.update_ok accepted).2.2.1,
        congrArg (·.list kind) (Resource.listeners_update accepted)⟩
  | _ => cases h

theorem filter_lasts_cons (r : LiveResource) (kind : EventKind) (a : Action)
    (rest : List Action) (subs : List Subscription) :
    subs.filter (r.lasts kind (a :: rest))
      = (subs.filter (r.lasts kind [a])).filter ((r.act a).1.lasts kind rest) := by
  rw [List.filter_filter]
  exact List.filter_congr fun sub _ => (lasts_cons r kind a rest sub).trans (Bool.and_comm _ _)

theorem filter_lasts_nil (r : LiveResource) (kind : EventKind) (subs : List Subscription) :
    subs.filter (r.lasts kind []) = subs :=
  List.filter_eq_self.2 fun sub _ => lasts_nil r kind sub

/-- **The listeners of a resource after a run**: those from before that have lasted, and then those
that have been registered in the run and have lasted since. -/
theorem Orderly.own_after (orderly : r.Orderly) (kind : EventKind) (run : List Action) :
    (r.after run).own kind
      = (r.own kind).filter (r.lasts kind run) ++ r.enrolled kind run := by
  induction run generalizing r with
  | nil => rw [filter_lasts_nil, enrolled, List.append_nil, after_nil]
  | cons a rest ih =>
    rw [after_cons, ih (orderly.act a), orderly.own_act, List.filter_append,
      ← filter_lasts_cons, List.append_assoc, enrolled]

/-- **The listeners of the config after a run**, as long as no update has been accepted. -/
theorem Orderly.ofConfig_after (orderly : r.Orderly) (kind : EventKind) {run : List Action}
    (steady : along adoptions r run = []) :
    (r.after run).ofConfig kind = (r.ofConfig kind).filter (r.lasts kind run) := by
  induction run generalizing r with
  | nil => rw [filter_lasts_nil, after_nil]
  | cons a rest ih =>
    obtain ⟨first, later⟩ := List.append_eq_nil_iff.1 steady
    rw [after_cons, ih (orderly.act a) later, orderly.ofConfig_act kind first,
      ← filter_lasts_cons]

/-- A resource that is alive after a run has not been retired in it. -/
theorem Orderly.not_retires (orderly : r.Orderly) {run : List Action}
    (alive : (r.after run).resource.retired = false) : run.any Action.retires = false := by
  induction run generalizing r with
  | nil => rfl
  | cons a rest ih =>
    rw [List.any_cons, ih (orderly.act a) alive, Bool.or_false]
    cases a with
    | retire =>
      rw [after_cons, (orderly.act .retire).retired_after rest rfl] at alive
      cases alive
    | _ => rfl

/-- **A listener that runs once** hears of the first event of its kind that is handed out after its
registration and of no other one. It stands behind those registered before it that have lasted, and
before those registered after it. -/
theorem Orderly.due_of_once (orderly : r.Orderly) (kind : EventKind) (l : Listener)
    (between : List Action) {a : Action} {d : Delivery}
    (told : d ∈ ((r.act (.listen kind true l)).1.after between).deliveries a)
    (same : d.event.kind = kind) :
    let r' := (r.act (.listen kind true l)).1
    let heard := (along deliveries r' between).any fun d => d.event.kind == kind
    d.due = (((r'.after between).ofConfig kind ++ (r.own kind).filter (r'.lasts kind between)).map
          (·.listener))
        ++ (if heard then [] else [l])
        ++ (r'.enrolled kind between).map (·.listener) := by
  intro r' heard
  have orderly' : r'.Orderly := orderly.act _
  have later := orderly'.after between
  have alive := later.alive_of_deliveries (List.ne_nil_of_mem told)
  -- the event is handed out to those who are registered at that moment
  have due : d.due = (r'.after between).resource.audience d.event.kind := by
    rcases later.delivers a with ⟨-, event, handed, -⟩ | ⟨-, none⟩
    · rw [handed, List.mem_singleton] at told
      rw [told]
    · rw [none] at told
      cases told
  have own : r'.own kind = r.own kind ++ [⟨l, true⟩] := by
    show (r.resource.listeners.subscribe kind ⟨l, true⟩).list kind = _
    rw [Listeners.list_subscribe, if_pos rfl]
    rfl
  have lasts : [⟨l, true⟩].filter (r'.lasts kind between) = if heard then [] else [⟨l, true⟩] := by
    have stays : r'.lasts kind between ⟨l, true⟩ = !heard := by
      simp [LiveResource.lasts, orderly'.not_retires alive, Subscription.lapses, heard]
    rw [List.filter_cons, stays]
    cases heard <;> rfl
  rw [due, same, Resource.audience]
  change ((r'.after between).ofConfig kind ++ (r'.after between).own kind).map _ = _
  rw [orderly'.own_after kind between, own, List.filter_append, lasts]
  cases heard <;> simp

end Registrations

/-- The registrations after a run from the beginning of a resource, as they can be read off the run,
and what the next action hands out. -/
structure Registered (name : String) (config : Config) (past : List Action) : Prop where
  /-- One event for those who are registered for its kind, if an outcome is applied; else none. -/
  told : let r := (fresh name config).after past
    ∀ a, (r.Applies a ∧ ∃ event, event.TellsOf (r.act a).1.resource ∧
          r.deliveries a
            = [{ event, due := (r.ofConfig event.kind ++ r.own event.kind).map (·.listener) }]) ∨
        (¬ r.Applies a ∧ r.deliveries a = [])
  /-- The listeners of the resource are those that the run has registered and that have lasted. -/
  own : ∀ kind, ((fresh name config).after past).own kind = (fresh name config).enrolled kind past
  /-- Those of the config are the ones that it came with and that have lasted. -/
  first : along adoptions (fresh name config) past = [] →
    ∀ kind, ((fresh name config).after past).ofConfig kind
      = (config.listeners.list kind).filter ((fresh name config).lasts kind past)
  /-- This is so for a later config as well, from the update that has brought it. -/
  later : ∀ before a since adopted, past = before ++ a :: since →
    adopted ∈ ((fresh name config).after before).adoptions a →
    along adoptions ((fresh name config).after (before ++ [a])) since = [] →
    ∀ kind, ((fresh name config).after past).ofConfig kind
      = (adopted.listeners.list kind).filter
          (((fresh name config).after (before ++ [a])).lasts kind since)
  /-- An update that is accepted replaces the listeners of the config and no others. -/
  replaces : let r := (fresh name config).after past
    ∀ a adopted, adopted ∈ r.adoptions a →
      ∀ kind, (r.act a).1.ofConfig kind = adopted.listeners.list kind ∧
        (r.act a).1.own kind = r.own kind
  /-- A listener that runs once hears of the first event of its kind and of no other one. -/
  once : ∀ before kind l between a d, past = before ++ .listen kind true l :: between →
    d ∈ ((fresh name config).after past).deliveries a → d.event.kind = kind →
    let r := (fresh name config).after (before ++ [.listen kind true l])
    let heard := (along deliveries r between).any fun d => d.event.kind == kind
    d.due = (((r.after between).ofConfig kind
            ++ (((fresh name config).after before).own kind).filter (r.lasts kind between)).map
          (·.listener))
        ++ (if heard then [] else [l])
        ++ (r.enrolled kind between).map (·.listener)

/-- **Who is registered** after a run, and who hears of an outcome then. -/
theorem registered_after (name : String) (config : Config) (past : List Action) :
    Registered name config past := by
  have start := orderly_fresh name config
  refine ⟨fun a => ?_, fun kind => ?_, fun steady kind => ?_, ?_, ?_, ?_⟩
  · refine ((start.after past).delivers a).imp_left fun ⟨applies, event, told, tells⟩ =>
      ⟨applies, event, tells, told⟩
  · have none : (fresh name config).own kind = [] := by cases kind <;> rfl
    rw [start.own_after kind past, none]
    rfl
  · exact start.ofConfig_after kind steady
  · rintro before a since adopted rfl brought steady kind
    rw [after_concat] at steady ⊢
    rw [after_append, after_cons,
      ((start.after before).act a).ofConfig_after kind steady,
      (listeners_of_adoption brought kind).1]
  · exact fun a adopted brought kind => listeners_of_adoption brought kind
  · rintro before kind l between a d rfl told same
    rw [after_append, after_cons] at told
    rw [after_concat]
    exact (start.after before).due_of_once kind l between told same

end LiveResource

end ReactiveResource
