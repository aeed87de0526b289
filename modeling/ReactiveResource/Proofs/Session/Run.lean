import ReactiveResource.Proofs.Resource.Generations
import ReactiveResource.Session

/-!
# Runs of a session

What happens in a session happens to each of its resources as a run of actions. Most operations do
not let any attempt move: they act on resources from outside, and put somebody in the queue.

* `Session.Step`, `Session.step`: what happens in a session;
* `Session.Evolves`: every resource has undergone a run of actions;
* `Session.Beside`: no attempt has moved, and nobody who could run has been lost;
* `Session.Covers`, `Covers.hear`: what holds across the operations that a listener may perform
  holds across what it does;
* `Session.Spans`, `Spans.step`: what holds across all operations holds across a step that is one;
* `Session.Still`: no resource has changed at all;
* `Session.Turns`, `turns`: whose turn it is, and what comes of it;
* a lemma for each operation.
-/

namespace ReactiveResource

theorem getElem?_append_of_some {β : Type} {xs : List β} {n : Nat} {x : β} (h : xs[n]? = some x)
    (ys : List β) : (xs ++ ys)[n]? = some x :=
  (List.getElem?_append_left (List.getElem?_eq_some_iff.1 h).1).trans h

namespace Session

/-- What happens in a session: one of those that can run does so, something happens outside, or an
operation is performed on a resource. -/
inductive Step where
  | turn (place : Nat)
  | resolve (call : Nat) (reply : Reply)
  | release (slot : Nat) (message : Option String)
  | elapse (ms : Nat)
  | setGate (gate : String) (isOpen : Bool)
  | push (reply : Reply)
  | await (handle : Nat) (state : Lifecycle)
  | create (name : String) (config : Config)
  | fetch (handle : Nat)
  | spawn (handle : Nat) (override : Option Params)
  | cancel (handle : Nat)
  | reset (handle : Nat)
  | retire (handle : Nat)
  | update (handle : Nat) (config : Config)
  | listen (handle : Nat) (kind : EventKind) (once : Bool) (listener : Listener)

/-- The session after a step. An operation that is refused changes nothing. -/
def step (s : Session) : Step → Session
  | .turn place => s.turn place
  | .resolve call reply => (s.resolve call reply).1
  | .release slot message => (s.release slot message).1
  | .elapse ms => s.elapse ms
  | .setGate gate isOpen => s.setGate gate isOpen
  | .push reply => s.push reply
  | .await handle state => s.await handle state
  | .create name config => ((s.create name config).toOption.map (·.1)).getD s
  | .fetch handle => s.fetch handle
  | .spawn handle override => s.spawn handle override
  | .cancel handle => s.cancel handle
  | .reset handle => s.reset handle
  | .retire handle => s.retire handle
  | .update handle config => (s.update handle config).toOption.getD s
  | .listen handle kind once listener => s.listen handle kind once listener

/-! ### Storing a resource -/

section Store

variable (s : Session) (handle : Nat) (r : LiveResource)

@[simp] theorem resources_store : (s.store handle r).resources = s.resources.set handle r := by
  unfold store
  simp only
  split <;> rfl

@[simp] theorem script_store : (s.store handle r).script = s.script := by
  unfold store
  simp only
  split <;> rfl

@[simp] theorem callers_store : (s.store handle r).callers = s.callers := by
  unfold store
  simp only
  split <;> rfl

@[simp] theorem slots_store : (s.store handle r).slots = s.slots := by
  unfold store
  simp only
  split <;> rfl

@[simp] theorem sleepers_store : (s.store handle r).sleepers = s.sleepers := by
  unfold store
  simp only
  split <;> rfl

@[simp] theorem hasRuntime_store : (s.store handle r).hasRuntime = s.hasRuntime := by
  unfold store
  simp only
  split <;> rfl

@[simp] theorem named_store : (s.store handle r).named = s.named := by
  unfold store
  simp only
  split <;> rfl

@[simp] theorem occurrences_store : (s.store handle r).occurrences = s.occurrences := by
  unfold store
  simp only
  split <;> rfl

/-- Only waiters are put in the queue. -/
theorem ready_store :
    ∃ woken : List Nat, (s.store handle r).ready = s.ready ++ woken.map .waiter := by
  unfold store
  simp only
  split
  · exact ⟨[], (List.append_nil _).symm⟩
  · exact ⟨_, by rw [wakeWaiters, List.map_map]; rfl⟩

theorem mem_ready_store {job : Job} (h : job ∈ s.ready) : job ∈ (s.store handle r).ready := by
  obtain ⟨woken, hw⟩ := s.ready_store handle r
  exact hw ▸ List.mem_append_left _ h

theorem attempt_mem_ready_store {h id : Nat} {signal : Signal}
    (hj : .attempt h id signal ∈ (s.store handle r).ready) : .attempt h id signal ∈ s.ready := by
  obtain ⟨woken, hw⟩ := s.ready_store handle r
  rw [hw, List.mem_append, List.mem_map] at hj
  rcases hj with hj | ⟨n, -, hn⟩
  · exact hj
  · cases hn

theorem resources_store_self {r₀ : LiveResource} (h : s.resources[handle]? = some r₀) :
    (s.store handle r).resources[handle]? = some r := by
  rw [resources_store, List.getElem?_set_self (List.getElem?_eq_some_iff.1 h).1]

theorem resources_store_of_ne {h : Nat} (hne : h ≠ handle) :
    (s.store handle r).resources[h]? = s.resources[h]? := by
  rw [resources_store, List.getElem?_set_ne (Ne.symm hne)]

end Store

/-- A new resource stands behind the others. -/
theorem create_ok {s s' : Session} {name : String} {config : Config} {handle : Nat}
    (h : s.create name config = .ok (s', handle)) :
    Text.isBlank config.method = false ∧ handle = s.resources.length ∧
      s' = { s with
        resources := s.resources ++ [LiveResource.fresh name config]
        named := Keyed.put s.named name handle } := by
  rw [create, Resource.create] at h
  cases hb : Text.isBlank config.method with
  | true =>
    rw [hb] at h
    cases h
  | false =>
    rw [hb] at h
    cases h
    exact ⟨rfl, rfl, rfl⟩

section Create

variable {s s' : Session} {name : String} {config : Config} {handle : Nat}

theorem resources_create (made : s.create name config = .ok (s', handle)) :
    s'.resources[handle]? = some (.fresh name config) := by
  obtain ⟨-, rfl, rfl⟩ := create_ok made
  exact List.getElem?_concat_length

/-- The handle of a new resource is new. -/
theorem new_of_create (made : s.create name config = .ok (s', handle)) :
    s.resources[handle]? = none := by
  obtain ⟨-, rfl, -⟩ := create_ok made
  exact List.getElem?_eq_none (Nat.le_refl _)

end Create

theorem create_of_method (s : Session) (name : String) {config : Config}
    (h : Text.isBlank config.method = false) : ∃ s', s.create name config = .ok s' := by
  rw [create, Resource.create, h]
  exact ⟨_, rfl⟩

/-! ### Runs of the resources -/

/-- Every resource has undergone a run of actions of a kind, those that are new from their
beginning. -/
structure Evolves (P : Action → Prop) (s s' : Session) : Prop where
  old : ∀ {h : Nat} {r : LiveResource}, s.resources[h]? = some r →
    ∃ actions, (∀ a ∈ actions, P a) ∧ s'.resources[h]? = some (r.after actions)
  new : ∀ {h : Nat} {r : LiveResource}, s'.resources[h]? = some r → s.resources[h]? = none →
    ∃ name config actions, (∀ a ∈ actions, P a) ∧
      r = (LiveResource.fresh name config).after actions

section Evolves

variable {P Q : Action → Prop} {s s' s'' : Session}

theorem Evolves.of_resources (h : s'.resources = s.resources) : s.Evolves P s' where
  old hr := ⟨[], List.forall_mem_nil _, h ▸ hr⟩
  new hr hn := by rw [h, hn] at hr; cases hr

theorem Evolves.refl (P : Action → Prop) (s : Session) : s.Evolves P s := .of_resources rfl

theorem Evolves.mono (hPQ : ∀ a, P a → Q a) (h : s.Evolves P s') : s.Evolves Q s' where
  old hr := by
    obtain ⟨actions, ha, hr'⟩ := h.old hr
    exact ⟨actions, fun a h => hPQ a (ha a h), hr'⟩
  new hr hn := by
    obtain ⟨name, config, actions, ha, hr'⟩ := h.new hr hn
    exact ⟨name, config, actions, fun a h => hPQ a (ha a h), hr'⟩

theorem Evolves.trans (h : s.Evolves P s') (h' : s'.Evolves P s'') : s.Evolves P s'' where
  old hr := by
    obtain ⟨first, ha, hr'⟩ := h.old hr
    obtain ⟨second, hb, hr''⟩ := h'.old hr'
    refine ⟨first ++ second, fun a h => (List.mem_append.1 h).elim (ha a) (hb a), ?_⟩
    rw [LiveResource.after_append, hr'']
  new {i r} hr hn := by
    cases hm : s'.resources[i]? with
    | none => exact h'.new hr hm
    | some middle =>
      obtain ⟨name, config, first, ha, rfl⟩ := h.new hm hn
      obtain ⟨second, hb, hr'⟩ := h'.old hm
      refine ⟨name, config, first ++ second,
        fun a h => (List.mem_append.1 h).elim (ha a) (hb a), ?_⟩
      rw [LiveResource.after_append]
      exact Option.some.inj (hr.symm.trans hr')

theorem Evolves.store {handle : Nat} {r : LiveResource} (hr : s.resources[handle]? = some r)
    {a : Action} (ha : P a) : s.Evolves P (s.store handle (r.act a).1) where
  old {i r₀} hi := by
    by_cases h : i = handle
    · subst h
      cases hr.symm.trans hi
      exact ⟨[a], by simpa using ha, s.resources_store_self i _ hr⟩
    · exact ⟨[], List.forall_mem_nil _, (s.resources_store_of_ne handle _ h).trans hi⟩
  new {i r₀} hi hn := by
    have h : i ≠ handle := by rintro rfl; rw [hr] at hn; cases hn
    rw [s.resources_store_of_ne handle _ h, hn] at hi
    cases hi

theorem Evolves.append {r : LiveResource} {name : String} {config : Config}
    (h : s'.resources = s.resources ++ [r]) (hr : r = .fresh name config) : s.Evolves P s' where
  old {i r₀} hi := by
    refine ⟨[], List.forall_mem_nil _, ?_⟩
    exact h ▸ getElem?_append_of_some hi [r]
  new {i r₀} hi hn := by
    refine ⟨name, config, [], List.forall_mem_nil _, ?_⟩
    rw [h, List.getElem?_append_right (List.getElem?_eq_none_iff.1 hn)] at hi
    have := List.mem_singleton.1 (List.mem_of_getElem? hi)
    rw [this, hr]
    rfl

/-- Every resource is orderly. -/
def Orderly (s : Session) : Prop :=
  ∀ (h : Nat) (r : LiveResource), s.resources[h]? = some r → r.Orderly

/-- An attempt that is given a signal makes a move. -/
theorem Orderly.move {s : Session} (orderly : s.Orderly) {h : Nat} {r : LiveResource}
    (hr : s.resources[h]? = some r) (m : Moment) (id : Nat) (signal : Signal) :
    r.Move m id signal (r.advance m id signal).1 (deeds (r.advance m id signal).2) :=
  LiveResource.advance_move (orderly h r hr).fence_le signal

theorem Evolves.orderly (h : s.Evolves P s') (orderly : s.Orderly) : s'.Orderly := by
  intro i r hr
  cases hs : s.resources[i]? with
  | none =>
    obtain ⟨name, config, actions, -, rfl⟩ := h.new hr hs
    exact (LiveResource.orderly_fresh name config).after actions
  | some r₀ =>
    obtain ⟨actions, -, hr'⟩ := h.old hs
    cases hr.symm.trans hr'
    exact (orderly i r₀ hs).after actions

end Evolves

/-! ### Operations that let no attempt move -/

/-- No attempt has moved. Those who could run still can, and new attempts can as well; nothing has
come from the gateway. -/
structure Beside (s s' : Session) : Prop where
  evolves : s.Evolves Action.External s'
  calls : s'.script.calls = s.script.calls
  callers : s'.callers = s.callers
  slots : s'.slots = s.slots
  sleepers : s'.sleepers = s.sleepers
  runtime : s'.hasRuntime = s.hasRuntime
  ready : ∀ job ∈ s.ready, job ∈ s'.ready
  replies : ∀ h id reply, .attempt h id (.reply reply) ∈ s'.ready →
    .attempt h id (.reply reply) ∈ s.ready
  spawned : ∀ h r' id, s'.resources[h]? = some r' → r'.phase? id = some .spawned →
    .attempt h id .go ∈ s'.ready ∨ ∃ r, s.resources[h]? = some r ∧ r.phase? id = some .spawned

section Beside

variable {s s' s'' : Session}

/-- Nothing has changed that others depend on. -/
theorem Beside.of_eq (resources : s'.resources = s.resources)
    (calls : s'.script.calls = s.script.calls) (callers : s'.callers = s.callers)
    (slots : s'.slots = s.slots) (sleepers : s'.sleepers = s.sleepers)
    (runtime : s'.hasRuntime = s.hasRuntime) (ready : s'.ready = s.ready) : s.Beside s' where
  evolves := .of_resources resources
  calls := calls
  callers := callers
  slots := slots
  sleepers := sleepers
  runtime := runtime
  ready _ hj := ready ▸ hj
  replies _ _ _ hj := ready ▸ hj
  spawned _ r' _ hr hp := .inr ⟨r', resources ▸ hr, hp⟩

theorem Beside.refl (s : Session) : s.Beside s := .of_eq rfl rfl rfl rfl rfl rfl rfl

theorem Beside.trans (h : s.Beside s') (h' : s'.Beside s'') : s.Beside s'' where
  evolves := h.evolves.trans h'.evolves
  calls := h'.calls.trans h.calls
  callers := h'.callers.trans h.callers
  slots := h'.slots.trans h.slots
  sleepers := h'.sleepers.trans h.sleepers
  runtime := h'.runtime.trans h.runtime
  ready job hj := h'.ready job (h.ready job hj)
  replies i id reply hj := h.replies i id reply (h'.replies i id reply hj)
  spawned i r'' id hr hp := by
    rcases h'.spawned i r'' id hr hp with go | ⟨r', hr', hp'⟩
    · exact .inl go
    · exact (h.spawned i r' id hr' hp').imp_left (h'.ready _)

theorem beside_report (s : Session) (entries : List LogEntry) : s.Beside (s.report entries) :=
  .of_eq rfl rfl rfl rfl rfl rfl rfl

theorem beside_record (s : Session) (o : Occurrence) : s.Beside (s.record o) :=
  .of_eq rfl rfl rfl rfl rfl rfl rfl

/-- An action from outside happens to a resource, and no fetch is started. -/
theorem beside_store {handle : Nat} {r : LiveResource} (hr : s.resources[handle]? = some r)
    {a : Action} (ha : a.External) (old : ∀ override, a ≠ .spawn override) :
    s.Beside (s.store handle (r.act a).1) where
  evolves := .store hr ha
  calls := by simp
  callers := by simp
  slots := by simp
  sleepers := by simp
  runtime := by simp
  ready job hj := mem_ready_store s handle _ hj
  replies h id reply hj := attempt_mem_ready_store s handle _ hj
  spawned h r' id hr' hp := by
    refine .inr ?_
    by_cases hi : h = handle
    · subst hi
      rw [resources_store_self s h _ hr, Option.some.injEq] at hr'
      subst hr'
      exact ⟨r, hr, by rw [← hp, LiveResource.phase?_congr
        (LiveResource.attempts_act_external ha old)]⟩
    · exact ⟨r', (resources_store_of_ne s handle _ hi).symm.trans hr', hp⟩

/-- A new attempt stands in the queue. -/
theorem beside_spawn (s : Session) (handle : Nat) (override : Option Params) :
    s.Beside (s.spawn handle override) := by
  rw [spawn]
  split
  · next r hr _ =>
    have evolves : s.Evolves Action.External (s.store handle (r.act (.spawn override)).1) :=
      .store hr trivial
    refine ⟨evolves.trans (.of_resources rfl), ?_, ?_, ?_, ?_, ?_, ?_, ?_, ?_⟩
    · exact congrArg Gateway.Script.calls (script_store s handle _)
    · exact callers_store s handle _
    · exact slots_store s handle _
    · exact sleepers_store s handle _
    · exact hasRuntime_store s handle _
    · exact fun job hj => List.mem_append_left _ (mem_ready_store s handle _ hj)
    · intro h id reply hj
      rcases List.mem_append.1 hj with hj | hj
      · exact attempt_mem_ready_store s handle _ hj
      · cases List.mem_singleton.1 hj
    · intro h r' id hr' hp
      change (s.store handle (r.spawn override).1).resources[h]? = some r' at hr'
      by_cases hi : h = handle
      · subst hi
        rw [resources_store_self s h _ hr, Option.some.injEq] at hr'
        subst hr'
        rw [LiveResource.phase?_spawn] at hp
        split at hp
        · next hid => exact .inl (hid ▸ List.mem_append_right _ (List.mem_singleton_self _))
        · exact .inr ⟨r, hr, hp⟩
      · exact .inr ⟨r', (resources_store_of_ne s handle _ hi).symm.trans hr', hp⟩
  · exact .refl s

theorem beside_fetch (s : Session) (handle : Nat) : s.Beside (s.fetch handle) := by
  rw [fetch]
  split
  · exact beside_spawn s handle none
  · split
    · exact beside_report s _
    · exact .refl s

theorem beside_cancel (s : Session) (handle : Nat) : s.Beside (s.cancel handle) := by
  rw [cancel]
  split
  · next r hr =>
    exact (beside_report s _).trans
      (beside_store (s := s.report r.cancelReport) hr (show Action.cancel.External from trivial)
        (by simp))
  · exact .refl s

theorem beside_reset (s : Session) (handle : Nat) : s.Beside (s.reset handle) := by
  rw [reset]
  split
  · next r hr => exact beside_store hr (show Action.reset.External from trivial) (by simp)
  · exact .refl s

theorem beside_retire (s : Session) (handle : Nat) : s.Beside (s.retire handle) := by
  rw [retire]
  split
  · next r hr => exact beside_store hr (show Action.retire.External from trivial) (by simp)
  · exact .refl s

theorem beside_listen (s : Session) (handle : Nat) (kind : EventKind) (once : Bool)
    (listener : Listener) : s.Beside (s.listen handle kind once listener) := by
  rw [listen]
  split
  · next r hr =>
    exact beside_store hr (show (Action.listen kind once listener).External from trivial) (by simp)
  · exact .refl s

/-- What an update that is accepted does. -/
theorem update_ok {handle : Nat} {config : Config} {r : LiveResource}
    (hr : s.resources[handle]? = some r) (h : s.update handle config = .ok s') :
    ∃ resource, r.resource.update config = .ok resource ∧
      s' = if config.auto && !resource.retired then
          (s.store handle (r.act (.update config)).1).fetch handle
        else s.store handle (r.act (.update config)).1 := by
  rw [update, hr] at h
  simp only [LiveResource.update] at h
  cases hu : r.resource.update config with
  | error e => rw [hu] at h; cases h
  | ok resource =>
    rw [hu] at h
    refine ⟨resource, rfl, ?_⟩
    simp only [LiveResource.act, LiveResource.update, hu]
    exact (Except.ok.inj h).symm

/-- An update with the method of the resource is accepted. -/
theorem exists_update_ok {handle : Nat} {config : Config} {r : LiveResource}
    (hr : s.resources[handle]? = some r) (named : Text.isBlank config.method = false)
    (method : config.method = r.resource.method) : ∃ s', s.update handle config = .ok s' := by
  obtain ⟨resource, hu⟩ := Resource.exists_update_ok_iff.2 ⟨named, method⟩
  rw [update, hr]
  simp only [LiveResource.update, hu]
  exact ⟨_, rfl⟩

theorem resources_cancel {handle : Nat} {r : LiveResource} (hr : s.resources[handle]? = some r) :
    (s.cancel handle).resources[handle]? = some r.cancel := by
  rw [cancel, hr]
  exact resources_store_self _ handle _ hr

theorem beside_update {handle : Nat} {config : Config} (h : s.update handle config = .ok s') :
    s.Beside s' := by
  cases hr : s.resources[handle]? with
  | none =>
    rw [update, hr] at h
    cases h
    exact .refl s
  | some r =>
    obtain ⟨resource, -, rfl⟩ := update_ok hr h
    have stored := beside_store hr (show (Action.update config).External from trivial) (by simp)
    split
    · exact stored.trans (beside_fetch _ handle)
    · exact stored

theorem beside_create {name : String} {config : Config} {handle : Nat}
    (h : s.create name config = .ok (s', handle)) : s.Beside s' := by
  obtain ⟨-, -, rfl⟩ := create_ok h
  refine ⟨.append rfl rfl, rfl, rfl, rfl, rfl, rfl, fun _ h => h, fun _ _ _ h => h, ?_⟩
  intro i r' id hr' hp
  refine .inr ⟨r', ?_, hp⟩
  change (s.resources ++ [_])[i]? = some r' at hr'
  rw [List.getElem?_append] at hr'
  split at hr'
  · exact hr'
  · -- a new resource has no attempts
    have := List.mem_singleton.1 (List.mem_of_getElem? hr')
    subst this
    cases hp

theorem beside_await (s : Session) (handle : Nat) (state : Lifecycle) :
    s.Beside (s.await handle state) := by
  rw [await]
  split
  · refine ⟨.of_resources rfl, rfl, rfl, rfl, rfl, rfl, ?_, ?_, ?_⟩
    · exact fun job hj => List.mem_append_left _ hj
    · intro h id reply hj
      rcases List.mem_append.1 hj with hj | hj
      · exact hj
      · cases List.mem_singleton.1 hj
    · exact fun h r' id hr hp => .inr ⟨r', hr, hp⟩
  · exact .refl s

theorem beside_enqueue_go (s : Session) (handle id : Nat) :
    s.Beside (s.enqueue (.attempt handle id .go)) := by
  refine ⟨.of_resources rfl, rfl, rfl, rfl, rfl, rfl, ?_, ?_, ?_⟩
  · exact fun job hj => List.mem_append_left _ hj
  · intro h id' reply hj
    rcases List.mem_append.1 hj with hj | hj
    · exact hj
    · cases List.mem_singleton.1 hj
  · exact fun h r' id' hr hp => .inr ⟨r', hr, hp⟩

/-! ### Listeners -/

/-- The relation leads from every session to what listeners may make of it that operate on some of
the resources. -/
structure Covers (R : Session → Session → Prop) (on : Nat → Prop) : Prop where
  refl : ∀ s, R s s
  trans : ∀ {s s' s''}, R s s' → R s' s'' → R s s''
  report : ∀ s entries, R s (s.report entries)
  record : ∀ s o, R s (s.record o)
  fetch : ∀ s {handle}, on handle → R s (s.fetch handle)
  cancel : ∀ s {handle}, on handle → R s (s.cancel handle)
  reset : ∀ s {handle}, on handle → R s (s.reset handle)
  retire : ∀ s {handle}, on handle → R s (s.retire handle)
  listen : ∀ s {handle} kind once listener, on handle → R s (s.listen handle kind once listener)

section Covers

variable {R : Session → Session → Prop} {on : Nat → Prop}

theorem Covers.foldl (covers : Covers R on) {β : Type} {f : Session → β → Session}
    (step : ∀ s x, R s (f s x)) (s : Session) (xs : List β) : R s (xs.foldl f s) := by
  induction xs generalizing s with
  | nil => exact covers.refl s
  | cons x rest ih => exact covers.trans (step s x) (ih (f s x))

theorem Covers.command (covers : Covers R on) (s : Session) {handle : Nat} (own : on handle)
    (listener : Listener) (kind : EventKind) (command : Command) :
    R s (s.command handle listener kind command) := by
  cases command with
  | fetch => exact covers.fetch s own
  | cancel => exact covers.cancel s own
  | reset => exact covers.reset s own
  | retire => exact covers.retire s own
  | register => exact covers.listen s kind false _ own

theorem Covers.hear (covers : Covers R on) {emitter : Nat} (event : Event) (s : Session)
    {listener : Listener} (own : ∀ command target handle,
      listener.reaction = .perform command target →
      s.handleOf? emitter target = some handle → on handle) :
    R s (hear emitter event s listener) := by
  have recorded := covers.record s
  unfold Session.hear
  simp only
  split
  · exact recorded _
  · exact covers.trans (recorded _) (covers.report _ _)
  · exact covers.trans (recorded _) (covers.report _ _)
  · exact recorded _
  · next command target reaction =>
    split
    · next handle named =>
      exact covers.trans (recorded _)
        (covers.command _ (own command target handle reaction named) _ _ _)
    · exact recorded _

/-- Listeners may operate on any resource. -/
theorem Covers.hearAll (covers : Covers R fun _ => True) (emitter : Nat) (event : Event)
    (s : Session) (listeners : List Listener) :
    R s (listeners.foldl (Session.hear emitter event) s) :=
  covers.foldl (fun s _ => covers.hear event s fun _ _ _ _ _ => trivial) s listeners

end Covers

theorem covers_beside : Covers Beside fun _ => True where
  refl := .refl
  trans := .trans
  report := beside_report
  record := beside_record
  fetch s _ _ := beside_fetch s _
  cancel s _ _ := beside_cancel s _
  reset s _ _ := beside_reset s _
  retire s _ _ := beside_retire s _
  listen s _ kind once listener _ := beside_listen s _ kind once listener

/-- The relation leads from every session to what all the operations on it make of it, one after
another. -/
structure Spans (R : Session → Session → Prop) : Prop extends Covers R fun _ => True where
  create : ∀ {s name config s' handle}, s.create name config = .ok (s', handle) → R s s'
  spawn : ∀ s handle override, R s (s.spawn handle override)
  update : ∀ {s handle config s'}, s.update handle config = .ok s' → R s s'

/-- No attempt moves. -/
theorem spans_beside : Spans Beside where
  toCovers := covers_beside
  create := beside_create
  spawn := beside_spawn
  update := beside_update

/-! ### Effects -/

/-- An effect that asks for nothing lets no attempt move. -/
theorem beside_perform (handle : Nat) (s : Session) {e : Effect} (he : ¬ e.IsRequest) :
    s.Beside (perform handle s e) := by
  cases e with
  | log entry => exact beside_report s _
  | checked gate isOpen => exact beside_record s _
  | validated params => exact beside_record s _
  | deliver g event listeners => exact covers_beside.hearAll handle event s listeners
  | wake id => exact beside_enqueue_go s handle id
  | _ => exact absurd trivial he

theorem evolves_perform (handle : Nat) (s : Session) (e : Effect) :
    s.Evolves Action.External (perform handle s e) := by
  have other (he : ¬ e.IsRequest) := (beside_perform handle s he).evolves
  cases e with
  | ask id => exact .of_resources rfl
  | call id method args =>
    unfold perform
    simp only
    split <;> exact .of_resources rfl
  | sleep id delay => exact .of_resources rfl
  | _ => exact other not_false

theorem evolves_performAll (handle : Nat) (s : Session) (effects : List Effect) :
    s.Evolves Action.External (effects.foldl (perform handle) s) := by
  induction effects generalizing s with
  | nil => exact .refl _ s
  | cons e rest ih => exact (evolves_perform handle s e).trans (ih _)

/-! ### Turns -/

/-- The attempt at a place of the queue has made its move. -/
theorem turn_eq {place h id : Nat} {signal : Signal} {r : LiveResource}
    (job : s.ready[place]? = some (.attempt h id signal)) (there : s.resources[h]? = some r) :
    s.turn place = (r.advance s.moment id signal).2.foldl (perform h)
      ({ s with ready := s.ready.eraseIdx place }.store h (r.advance s.moment id signal).1) := by
  rw [turn, job]
  simp only [run, there]
  rfl

/-- A waiter looks at its resource. -/
theorem turn_of_waiter {place n : Nat} (job : s.ready[place]? = some (.waiter n)) :
    ∃ waiters occurrences, s.turn place
      = { s with ready := s.ready.eraseIdx place, waiters, occurrences } := by
  rw [turn, job]
  simp only [run]
  split
  · exact ⟨_, _, rfl⟩
  · split
    · exact ⟨_, _, rfl⟩
    · split <;> exact ⟨_, _, rfl⟩

/-- Whose turn it is, and what comes of it. -/
inductive Turns (s : Session) (place : Nat) : Prop
  | nobody (left : s.turn place = s)
  /-- Somebody who waits for a state looks at his resource. -/
  | waiter {n : Nat} {waiters : List Waiter} {occurrences : List Occurrence}
      (job : s.ready[place]? = some (.waiter n))
      (left : s.turn place = { s with ready := s.ready.eraseIdx place, waiters, occurrences })
  /-- There is no resource of which this would be an attempt. -/
  | stray {h id : Nat} {signal : Signal} (job : s.ready[place]? = some (.attempt h id signal))
      (absent : s.resources[h]? = none)
      (left : s.turn place = { s with ready := s.ready.eraseIdx place })
  /-- An attempt makes its move, and its effects are performed. -/
  | attempt {h id : Nat} {signal : Signal} {r : LiveResource}
      (job : s.ready[place]? = some (.attempt h id signal)) (there : s.resources[h]? = some r)
      (left : s.turn place = (r.advance s.moment id signal).2.foldl (perform h)
        ({ s with ready := s.ready.eraseIdx place }.store h (r.advance s.moment id signal).1))

theorem turns (s : Session) (place : Nat) : s.Turns place := by
  cases job : s.ready[place]? with
  | none => exact .nobody (by rw [turn, job])
  | some j =>
    cases j with
    | waiter n =>
      obtain ⟨waiters, occurrences, left⟩ := turn_of_waiter job
      exact .waiter job left
    | attempt h id signal =>
      cases there : s.resources[h]? with
      | none =>
        refine .stray job there ?_
        rw [turn, job]
        simp only [run, there]
      | some r => exact .attempt job there (turn_eq job there)

/-- In a turn, every resource undergoes actions of a kind, if a move and what is performed after it
are of that kind. -/
theorem evolves_turn {P : Action → Prop} (moves : ∀ m id signal, P (.advance m id signal))
    (performed : ∀ (handle : Nat) (s : Session) (effects : List Effect),
      s.Evolves P (effects.foldl (perform handle) s))
    (s : Session) (place : Nat) : s.Evolves P (s.turn place) := by
  cases turns s place with
  | nobody left =>
    rw [left]
    exact .refl _ s
  | waiter _ left => exact .of_resources (by rw [left])
  | stray _ _ left => exact .of_resources (by rw [left])
  | @attempt h id signal r _ there left =>
    rw [left]
    have taken : s.Evolves P { s with ready := s.ready.eraseIdx place } := .of_resources rfl
    have stored := Evolves.store (s := { s with ready := s.ready.eraseIdx place }) there
      (moves s.moment id signal)
    exact (taken.trans stored).trans (performed h _ _)

/-! ### Steps -/

/-- No resource has changed, no call has been made, and whoever could run still can. -/
structure Still (s s' : Session) : Prop where
  resources : s'.resources = s.resources
  callers : s'.callers = s.callers
  ready : ∀ job ∈ s.ready, job ∈ s'.ready

theorem still_resolve (s : Session) (call : Nat) (reply : Reply) :
    s.Still (s.resolve call reply).1 := by
  simp only [resolve]
  split
  · exact ⟨rfl, rfl, fun _ hj => List.mem_append_left _ hj⟩
  · exact ⟨rfl, rfl, fun _ hj => hj⟩

theorem still_release (s : Session) (slot : Nat) (message : Option String) :
    s.Still (s.release slot message).1 := by
  rw [release]
  split
  · exact ⟨rfl, rfl, fun _ hj => List.mem_append_left _ hj⟩
  · exact ⟨rfl, rfl, fun _ hj => hj⟩

theorem still_await (s : Session) (handle : Nat) (state : Lifecycle) :
    s.Still (s.await handle state) := by
  rw [await]
  split
  · exact ⟨rfl, rfl, fun _ hj => List.mem_append_left _ hj⟩
  · exact ⟨rfl, rfl, fun _ hj => hj⟩

/-- Nobody operates on a resource: somebody runs, time moves on, or something comes from outside. -/
def Step.Passive : Step → Prop
  | .turn _ | .resolve .. | .release .. | .elapse _ | .setGate .. | .push _ | .await .. => True
  | _ => False

/-- Only a turn changes a resource, makes a call or takes somebody out of the queue. -/
theorem still_of_passive {step : Step} (passive : step.Passive)
    (other : ∀ place, step ≠ .turn place) : s.Still (s.step step) := by
  cases step with
  | turn place => exact absurd rfl (other place)
  | resolve call reply => exact still_resolve s call reply
  | release slot message => exact still_release s slot message
  | await handle state => exact still_await s handle state
  | elapse => exact ⟨rfl, rfl, fun _ hj => List.mem_append_left _ hj⟩
  | setGate | push => exact ⟨rfl, rfl, fun _ hj => hj⟩
  | _ => exact passive.elim

/-- A step is a turn, brings something from outside or is an operation. -/
theorem Step.kinds (step : Step) : (∃ place, step = .turn place) ∨
    (step.Passive ∧ ∀ place, step ≠ .turn place) ∨ ¬ step.Passive := by
  cases step <;> simp [Step.Passive]

/-- What the operations do. -/
theorem Spans.step {R : Session → Session → Prop} (spans : Spans R) (s : Session) {step : Step}
    (operates : ¬ step.Passive) : R s (s.step step) := by
  cases step with
  | create name config =>
    simp only [Session.step]
    cases made : s.create name config with
    | error e => exact spans.refl s
    | ok x => exact spans.create made
  | fetch handle => exact spans.fetch s trivial
  | spawn handle override => exact spans.spawn s handle override
  | cancel handle => exact spans.cancel s trivial
  | reset handle => exact spans.reset s trivial
  | retire handle => exact spans.retire s trivial
  | update handle config =>
    simp only [Session.step]
    cases updated : s.update handle config with
    | error e => exact spans.refl s
    | ok s' => exact spans.update updated
  | listen handle kind once listener => exact spans.listen s kind once listener trivial
  | _ => exact absurd trivial operates

/-- **In every step, every resource undergoes a run of actions.** -/
theorem evolves_step (s : Session) (step : Step) :
    s.Evolves (fun _ => True) (s.step step) := by
  rcases step.kinds with ⟨place, rfl⟩ | ⟨passive, other⟩ | operates
  · refine evolves_turn (fun _ _ _ => trivial) (fun handle s effects => ?_) s place
    exact (evolves_performAll handle s effects).mono fun _ _ => trivial
  · exact .of_resources (still_of_passive passive other).resources
  · exact (spans_beside.step s operates).evolves.mono fun _ _ => trivial

end Beside

end Session

end ReactiveResource
