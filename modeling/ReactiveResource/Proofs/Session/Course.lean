import ReactiveResource.Proofs.Resource.Handover
import ReactiveResource.Proofs.Resource.Loading
import ReactiveResource.Proofs.Session.Rousing

/-!
# The course of a session

A step of a session comes down to one of three things: an operation that lets no attempt move, one
move of one attempt with what its listeners do, or nothing that concerns a resource. Whatever
listeners do and whatever configs come, all resources keep what every run of a resource keeps, and
whose turn it is at a page lock stands in the queue.

* `Session.Course`, `course`: what a step comes down to;
* `Session.Affects`, `affects`: what it does to one resource, and which calls it makes for it;
* `Session.Born`: every resource has a past that begins with a new one;
* `Session.Roused`, `Roused.step`: whoever has been given a page lock can run.
-/

namespace ReactiveResource

namespace Session

variable {s s' : Session}

/-! ### What a step comes down to -/

/-- What a step comes down to. -/
inductive Course (s : Session) (step : Step) : Prop
  /-- Resources are operated on from outside, and no attempt moves. -/
  | beside (beside : s.Beside (s.step step))
  /-- An attempt makes its move, and its effects are performed. -/
  | moves {place h id : Nat} {signal : Signal} {r : LiveResource} (turn : step = .turn place)
      (job : s.ready[place]? = some (.attempt h id signal)) (there : s.resources[h]? = some r)
      (left : s.step step = (r.advance s.moment id signal).2.foldl (perform h)
        ({ s with ready := s.ready.eraseIdx place }.store h (r.advance s.moment id signal).1))
  /-- Nothing happens to the resources, and their attempts stay in the queue. -/
  | still (resources : (s.step step).resources = s.resources)
      (callers : (s.step step).callers = s.callers)
      (ready : ∀ {h id signal r}, s.resources[h]? = some r → .attempt h id signal ∈ s.ready →
        .attempt h id signal ∈ (s.step step).ready)

theorem course_turn (s : Session) (place : Nat) : s.Course (.turn place) := by
  cases turns s place with
  | nobody left =>
    refine .still (by rw [step, left]) (by rw [step, left]) fun _ hj => ?_
    rwa [step, left]
  | waiter job left =>
    refine .still (by rw [step, left]) (by rw [step, left]) fun _ hj => ?_
    rw [step, left]
    exact mem_eraseIdx_of_ne job hj (by simp)
  | stray job absent left =>
    refine .still (by rw [step, left]) (by rw [step, left]) fun there hj => ?_
    rw [step, left]
    refine mem_eraseIdx_of_ne job hj fun same => ?_
    cases same
    cases absent.symm.trans there
  | attempt job there left => exact .moves rfl job there left

/-- **Every step comes down to one of these.** -/
theorem course (s : Session) (step : Step) : s.Course step := by
  rcases step.kinds with ⟨place, rfl⟩ | ⟨passive, other⟩ | operates
  · exact course_turn s place
  · have still := still_of_passive (s := s) passive other
    exact .still still.resources still.callers fun _ => still.ready _
  · exact .beside (spans_beside.step s operates)

/-! ### One resource -/

/-- The calls of a resource, in order: each of them by the attempt that has made it. -/
def callsOf (s : Session) (handle : Nat) : List (Nat × Nat) := s.callers.filter (·.1 = handle)

/-- In the step an outcome of the resource is applied, and these listeners are run for it. -/
def Delivers (s : Session) (step : Step) (handle g : Nat) (event : Event) (due : List Listener) :
    Prop :=
  ∃ place id signal r, step = .turn place ∧ s.ready[place]? = some (.attempt handle id signal) ∧
    s.resources[handle]? = some r ∧ .deliver g event due ∈ (r.advance s.moment id signal).2

theorem callers_perform (handle : Nat) (s : Session) (e : Effect) :
    (perform handle s e).callers = s.callers ++ e.caller?.toList.map (handle, ·) := by
  have other (he : ¬ e.IsRequest) (silent : e.caller? = none) :
      (perform handle s e).callers = s.callers ++ e.caller?.toList.map (handle, ·) := by
    rw [(beside_perform handle s he).callers, silent]
    exact (List.append_nil _).symm
  cases e with
  | call id method args =>
    obtain ⟨c, -, -, called⟩ := called_perform s handle id method args
    exact called.callers
  | ask | sleep => exact (List.append_nil _).symm
  | _ => exact other not_false rfl

/-- Those who make a call are recorded, in order. -/
theorem callers_performAll (handle : Nat) (s : Session) (effects : List Effect) :
    (effects.foldl (perform handle) s).callers
      = s.callers ++ (effects.filterMap Effect.caller?).map (handle, ·) := by
  induction effects generalizing s with
  | nil => exact (List.append_nil _).symm
  | cons e rest ih =>
    rw [List.foldl_cons, ih, callers_perform, List.append_assoc, ← List.map_append]
    cases h : e.caller? <;> simp [h]

/-- What a step does to one resource, and which calls are made for it. -/
inductive Affects (s : Session) (step : Step) (handle : Nat) (r : LiveResource) : Prop
  /-- It undergoes actions from outside. -/
  | outside {actions : List Action} (external : ∀ a ∈ actions, a.External)
      (left : (s.step step).resources[handle]? = some (r.after actions))
      (calls : (s.step step).callsOf handle = s.callsOf handle)
      (quiet : ∀ g event due, ¬ s.Delivers step handle g event due)
  /-- One of its attempts makes its move, and actions from outside may come after that. -/
  | moves {place id : Nat} {signal : Signal} {actions : List Action} (turn : step = .turn place)
      (job : s.ready[place]? = some (.attempt handle id signal))
      (external : ∀ a ∈ actions, a.External)
      (left : (s.step step).resources[handle]?
        = some ((r.advance s.moment id signal).1.after actions))
      (calls : (s.step step).callsOf handle = s.callsOf handle
        ++ ((r.advance s.moment id signal).2.filterMap Effect.caller?).map (handle, ·))

theorem callsOf_append (s : Session) (handle : Nat) {h : Nat} {ids : List Nat}
    (callers : s'.callers = s.callers ++ ids.map (h, ·)) :
    s'.callsOf handle = s.callsOf handle ++ if h = handle then ids.map (handle, ·) else [] := by
  rw [callsOf, callsOf, callers, List.filter_append]
  congr 1
  split
  · next same =>
    subst same
    exact List.filter_eq_self.2 (by simp)
  · next other => exact List.filter_eq_nil_iff.2 (by simp [other])

/-- The calls that an attempt makes when it moves. -/
theorem callsOf_turn {place handle id : Nat} {signal : Signal} {r : LiveResource}
    (job : s.ready[place]? = some (.attempt handle id signal))
    (there : s.resources[handle]? = some r) :
    (s.turn place).callsOf handle = s.callsOf handle
      ++ ((r.advance s.moment id signal).2.filterMap Effect.caller?).map (handle, ·) := by
  have callers : (s.turn place).callers = s.callers
      ++ ((r.advance s.moment id signal).2.filterMap Effect.caller?).map (handle, ·) := by
    rw [turn_eq job there, callers_performAll, callers_store]
  rw [callsOf_append s handle callers, if_pos rfl]

/-- **A step does nothing else to a resource.** -/
theorem affects (s : Session) (step : Step) {handle : Nat} {r : LiveResource}
    (there : s.resources[handle]? = some r) : s.Affects step handle r := by
  by_cases own : ∃ place id signal, step = .turn place ∧
      s.ready[place]? = some (.attempt handle id signal)
  · obtain ⟨place, id, signal, rfl, job⟩ := own
    obtain ⟨actions, external, left⟩ := resources_turn job there
    exact .moves rfl job external left (callsOf_turn job there)
  · have quiet (g : Nat) (event : Event) (due : List Listener) :
        ¬ s.Delivers step handle g event due := by
      rintro ⟨place, id, signal, x, turn, job, -, -⟩
      exact own ⟨place, id, signal, turn, job⟩
    cases course s step with
    | beside beside =>
      obtain ⟨actions, external, left⟩ := beside.evolves.old there
      exact .outside external left (by rw [callsOf, callsOf, beside.callers]) quiet
    | still resources callers =>
      have left : (s.step step).resources[handle]? = some (r.after []) := by
        rw [resources, there]
        rfl
      exact .outside (List.forall_mem_nil _) left (by rw [callsOf, callsOf, callers]) quiet
    | @moves place h id signal x turn job hx left =>
      -- another resource's attempt has moved, and its listeners may operate on this one
      have other : h ≠ handle := by
        rintro rfl
        exact own ⟨place, id, signal, turn, job⟩
      have stored : ({ s with ready := s.ready.eraseIdx place }.store h
          (x.advance s.moment id signal).1).resources[handle]? = some r :=
        (resources_store_of_ne _ h _ (Ne.symm other)).trans there
      obtain ⟨actions, external, left'⟩ := (evolves_performAll h _ _).old stored
      refine .outside external (left ▸ left') ?_ quiet
      have callers : (s.step step).callers = s.callers
          ++ ((x.advance s.moment id signal).2.filterMap Effect.caller?).map (h, ·) := by
        rw [left, callers_performAll, callers_store]
      rw [callsOf_append s handle callers, if_neg other, List.append_nil]

/-! ### The past of the resources -/

/-- Every resource has come out of a new one by actions. -/
def Born (s : Session) : Prop :=
  ∀ (h : Nat) (r : LiveResource), s.resources[h]? = some r →
    ∃ name config actions, r = (LiveResource.fresh name config).after actions

theorem Vacant.born (vacant : s.Vacant) : s.Born := by
  intro h r hr
  rw [vacant.resources] at hr
  cases hr

theorem Evolves.born {P : Action → Prop} (evolves : s.Evolves P s') (born : s.Born) : s'.Born := by
  intro h r' hr'
  cases hr : s.resources[h]? with
  | none =>
    obtain ⟨name, config, actions, -, rfl⟩ := evolves.new hr' hr
    exact ⟨name, config, actions, rfl⟩
  | some r =>
    obtain ⟨name, config, before, rfl⟩ := born h r hr
    obtain ⟨later, -, same⟩ := evolves.old hr
    cases hr'.symm.trans same
    exact ⟨name, config, before ++ later, (LiveResource.after_append _ before later).symm⟩

section Born

variable {h : Nat} {r : LiveResource}

theorem Born.orderly (born : s.Born) : s.Orderly := by
  intro h r hr
  obtain ⟨name, config, actions, rfl⟩ := born h r hr
  exact (LiveResource.orderly_fresh name config).after actions

theorem Born.coherent (born : s.Born) (hr : s.resources[h]? = some r) : r.Coherent := by
  obtain ⟨name, config, actions, rfl⟩ := born h r hr
  exact LiveResource.coherent_after name config actions

theorem Born.guarded (born : s.Born) (hr : s.resources[h]? = some r) : r.Guarded := by
  obtain ⟨name, config, actions, rfl⟩ := born h r hr
  exact LiveResource.guarded_after name config actions

end Born

/-! ### Whose turn it is -/

/-- An action from outside gives nobody the lock. -/
theorem onTurn_of_external {r : LiveResource} {actions : List Action}
    (external : ∀ a ∈ actions, a.External) {k : Nat} (turn : (r.after actions).OnTurn k) :
    r.OnTurn k := by
  obtain ⟨holds, e, queued⟩ := turn
  rw [LiveResource.pages_after_external external] at holds
  exact ⟨holds, e, (LiveResource.of_phase?_after_external external queued).resolve_right (by simp)⟩

/-- Whoever has been given a page lock stands in the queue. -/
def Roused (s : Session) : Prop :=
  ∀ (h : Nat) (r : LiveResource) (k : Nat), s.resources[h]? = some r → r.OnTurn k →
    .attempt h k .go ∈ s.ready

theorem Vacant.roused (vacant : s.Vacant) : s.Roused := by
  intro h r k hr
  rw [vacant.resources] at hr
  cases hr

/-- Operations from outside give nobody the lock. -/
theorem Evolves.onTurn (evolves : s.Evolves Action.External s') {h : Nat} {r' : LiveResource}
    {k : Nat} (hr' : s'.resources[h]? = some r') (turn : r'.OnTurn k) :
    ∃ r, s.resources[h]? = some r ∧ r.OnTurn k := by
  cases hr : s.resources[h]? with
  | none =>
    obtain ⟨name, config, actions, external, rfl⟩ := evolves.new hr' hr
    cases (onTurn_of_external external turn).1
  | some r =>
    obtain ⟨actions, external, same⟩ := evolves.old hr
    cases hr'.symm.trans same
    exact ⟨r, rfl, onTurn_of_external external turn⟩

theorem Roused.beside (roused : s.Roused) (beside : s.Beside s') : s'.Roused := by
  intro h r' k hr' turn
  obtain ⟨r, hr, turn⟩ := beside.evolves.onTurn hr' turn
  exact beside.ready _ (roused h r k hr turn)

/-- An attempt has made its move. If it hands the lock on, the next one is woken. -/
theorem Roused.moves (roused : s.Roused) (born : s.Born) {place h id : Nat} {signal : Signal}
    {r : LiveResource} (job : s.ready[place]? = some (.attempt h id signal))
    (there : s.resources[h]? = some r) :
    ((r.advance s.moment id signal).2.foldl (perform h)
      ({ s with ready := s.ready.eraseIdx place }.store h (r.advance s.moment id signal).1)).Roused
        := by
  intro i r' k hr' turn
  obtain ⟨x, hx, turn⟩ := (evolves_performAll h _ _).onTurn hr' turn
  -- who stood in the queue before still does, unless he is the one who has moved
  have stays (ready : .attempt i k .go ∈ s.ready)
      (other : Job.attempt i k .go ≠ .attempt h id signal) :
      .attempt i k .go ∈ ((r.advance s.moment id signal).2.foldl (perform h)
        ({ s with ready := s.ready.eraseIdx place }.store h
          (r.advance s.moment id signal).1)).ready :=
    mem_ready_performAll h _ (mem_ready_store _ h _ (mem_eraseIdx_of_ne job ready other))
  by_cases hi : i = h
  · subst hi
    cases hx.symm.trans (resources_store_self { s with ready := s.ready.eraseIdx place } i _ there)
    have move := born.orderly.move there s.moment id signal
    rcases (born.guarded there).rouses move turn with woken | ⟨before, other⟩
    · exact mem_ready_of_wake (mem_deeds.1 woken).1 i _
    · refine stays (roused i r k there before) fun same => ?_
      cases same
      exact other rfl rfl
  · rw [resources_store_of_ne _ h _ hi] at hx
    exact stays (roused i x k hx turn) fun same => hi (by cases same; rfl)

/-- **Whoever has been given a page lock can run**, after every step. -/
theorem Roused.step (roused : s.Roused) (born : s.Born) (step : Step) : (s.step step).Roused := by
  cases course s step with
  | beside beside => exact roused.beside beside
  | moves turn job there left =>
    rw [left]
    exact roused.moves born job there
  | still resources _ ready =>
    intro h r k hr turn
    rw [resources] at hr
    exact ready hr (roused h r k hr turn)

end Session

end ReactiveResource
