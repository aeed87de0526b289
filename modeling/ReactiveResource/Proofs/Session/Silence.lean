import ReactiveResource.Proofs.Resource.Newest
import ReactiveResource.Proofs.Session.Attended
import ReactiveResource.Proofs.Session.Unfolding

/-!
# Sessions whose listeners operate on nothing

Where listeners only look, a turn changes the one resource whose attempt has moved, by that move and
by nothing else. What has been asked of the gateway, and what it has answered, stays on record.

* `Listener.Silent`, `Resource.Silent`, `Session.Silent`: no listener operates on a resource;
* `Session.Retains`, `Session.Asked`: calls and their replies stay on record;
* `Session.SameBut`: the resources are the same but for one;
* `Silent.turn`: what a turn changes.
-/

namespace ReactiveResource

/-! ### Listeners that operate on nothing -/

/-- The listener operates on no resource. -/
def Listener.Silent (l : Listener) : Prop := ∀ command target, l.reaction ≠ .perform command target

/-- No listener operates on a resource. -/
def Listeners.Silent (ls : Listeners) : Prop := ∀ kind, ∀ sub ∈ ls.list kind, sub.listener.Silent

theorem Listeners.Silent.nil : Listeners.Silent {} := by
  rintro (_ | _) sub hs <;> cases hs

theorem Listeners.Silent.takeFor {ls : Listeners} (h : ls.Silent) (kind : EventKind) :
    (∀ l ∈ (ls.takeFor kind).1, l.Silent) ∧ (ls.takeFor kind).2.Silent := by
  refine ⟨fun l hl => ?_, fun other sub hs => ?_⟩
  · obtain ⟨sub, hs, rfl⟩ := List.mem_map.1 hl
    exact h kind sub hs
  · by_cases hk : kind = other
    · subst hk
      rw [Listeners.takeFor, list_withList_self] at hs
      exact h kind sub (List.mem_filter.1 hs).1
    · rw [Listeners.takeFor, list_withList_of_ne _ _ hk] at hs
      exact h other sub hs

namespace Resource

/-- No listener of the resource operates on a resource. -/
structure Silent (r : Resource) : Prop where
  ofConfig : r.config.listeners.Silent
  own : r.listeners.Silent

/-- The listeners that hear of an outcome operate on nothing, and neither do those that stay. -/
theorem Silent.settle {r settled : Resource} (h : r.Silent) {now : Nat} {outcome : Outcome}
    {event : Event} {due : List Listener}
    (settles : r.settle now outcome = (event, due, settled)) :
    settled.Silent ∧ ∀ l ∈ due, l.Silent := by
  obtain ⟨config, own⟩ := r.listeners_withOutcome now outcome
  cases settles
  have ofConfig := (config ▸ h.ofConfig).takeFor
    ((r.withOutcome now outcome).eventOf outcome).kind
  have ofOwn := (own ▸ h.own).takeFor ((r.withOutcome now outcome).eventOf outcome).kind
  exact ⟨⟨ofConfig.2, ofOwn.2⟩, fun l hl => (List.mem_append.1 hl).elim (ofConfig.1 l) (ofOwn.1 l)⟩

end Resource

theorem LiveResource.Move.silent {r r' : LiveResource} {m : Moment} {id : Nat} {signal : Signal}
    {effects : List Effect} (h : r.Move m id signal r' effects) (silent : r.resource.Silent) :
    r'.resource.Silent ∧ ∀ g event due, .deliver g event due ∈ effects → ∀ l ∈ due, l.Silent := by
  have quiet (p : PageLock) (j : Nat) {g : Nat} {event : Event} {due : List Listener}
      (hd : .deliver g event due ∈ wakes p j) : False := by
    obtain ⟨k, -, hk⟩ := List.mem_map.1 hd
    cases hk
  cases h with
  | @refuse _ message _ _ _ _ _ settles =>
    obtain ⟨stay, hear⟩ := Resource.Silent.settle (r := r.resource.raised (r.paramsFor id))
      ⟨silent.ofConfig, silent.own⟩ settles
    refine ⟨stay, fun g event due hd => ?_⟩
    rcases List.mem_cons.1 hd with hd | hd
    · cases hd
      exact hear
    · exact (quiet _ _ hd).elim
  | apply _ _ settles =>
    obtain ⟨stay, hear⟩ := silent.settle settles
    refine ⟨stay, fun g event due hd => ?_⟩
    rcases List.mem_cons.1 hd with hd | hd
    · cases hd
      exact hear
    · exact (quiet _ _ hd).elim
  | leave => exact ⟨silent, fun _ _ _ hd => (quiet _ _ hd).elim⟩
  | discard => exact ⟨silent, fun _ _ _ hd => (quiet _ _ hd).elim⟩
  | still | queue => exact ⟨silent, nofun⟩
  | ask | call | accept | rest =>
    exact ⟨⟨silent.ofConfig, silent.own⟩, fun _ _ _ hd => nomatch List.mem_singleton.1 hd⟩

namespace Session

variable {s s' s'' : Session} {handle : Nat}

/-- No listener of any resource operates on a resource. -/
def Silent (s : Session) : Prop :=
  ∀ (h : Nat) (r : LiveResource), s.resources[h]? = some r → r.resource.Silent

theorem Silent.of_resources (silent : s.Silent) (h : s'.resources = s.resources) : s'.Silent :=
  fun i r hr => silent i r (h ▸ hr)

theorem Silent.set (silent : s.Silent) {r : LiveResource} (hr : r.resource.Silent)
    (h : s'.resources = s.resources.set handle r) : s'.Silent := by
  intro i r' hi
  rw [h, List.getElem?_set] at hi
  split at hi
  · split at hi
    · cases hi
      exact hr
    · cases hi
  · exact silent i r' hi

theorem Silent.store (silent : s.Silent) {r : LiveResource} (hr : r.resource.Silent) :
    (s.store handle r).Silent :=
  silent.set hr (resources_store s handle r)

theorem Silent.fetch (silent : s.Silent) : (s.fetch handle).Silent := by
  rw [Session.fetch]
  split
  · rw [spawn]
    split
    · next r hr _ =>
      have stored : (s.store handle (r.spawn none).1).Silent :=
        silent.store (r := (r.spawn none).1) (silent handle r hr)
      exact stored.of_resources rfl
    · exact silent
  · split
    · exact silent.of_resources rfl
    · exact silent

theorem Silent.cancel (silent : s.Silent) : (s.cancel handle).Silent := by
  rw [Session.cancel]
  split
  · next r hr =>
    have own := silent handle r hr
    exact Silent.store (s := s.report r.cancelReport) silent ⟨own.ofConfig, own.own⟩
  · exact silent

theorem Silent.create (silent : s.Silent) {name : String} {config : Config}
    (new : config.listeners.Silent) (h : s.create name config = .ok (s', handle)) : s'.Silent := by
  obtain ⟨-, -, rfl⟩ := create_ok h
  intro i r hr
  change (s.resources ++ [_])[i]? = some r at hr
  rw [List.getElem?_append] at hr
  split at hr
  · exact silent i r hr
  · rw [List.mem_singleton.1 (List.mem_of_getElem? hr)]
    exact ⟨new, .nil⟩

theorem Silent.update (silent : s.Silent) {config : Config} (new : config.listeners.Silent)
    (h : s.update handle config = .ok s') : s'.Silent := by
  cases hr : s.resources[handle]? with
  | none =>
    rw [Session.update, hr] at h
    cases h
    exact silent
  | some r =>
    obtain ⟨resource, hu, rfl⟩ := update_ok hr h
    have own := silent handle r hr
    have updated : (s.store handle (r.act (.update config)).1).Silent := by
      refine silent.store ?_
      simp only [LiveResource.act, LiveResource.update, hu]
      refine ⟨(Resource.update_ok hu).2.2.1 ▸ new, ?_⟩
      exact Resource.listeners_update hu ▸ own.own
    split
    · exact updated.fetch
    · exact updated

/-! ### What stays on record -/

/-- The attempt has made a call, and has been given this reply. -/
def Asked (s : Session) (h id : Nat) (method : String) (args : Json) (reply : Reply) : Prop :=
  ∃ n c, s.Made h id n c ∧ c.method = method ∧ c.params = args ∧ c.status.reply? = some reply

/-- Calls stay on record, and so do their replies; there still is a runtime if there was one. -/
structure Retains (s s' : Session) : Prop where
  runtime : s'.hasRuntime = s.hasRuntime
  callers : ∀ (n : Nat) x, s.callers[n]? = some x → s'.callers[n]? = some x
  calls : ∀ (n : Nat) c, s.script.calls[n]? = some c → ∃ c', s'.script.calls[n]? = some c' ∧
    c'.method = c.method ∧ c'.params = c.params ∧
      ∀ reply, c.status.reply? = some reply → c'.status.reply? = some reply

theorem Retains.of_eq (runtime : s'.hasRuntime = s.hasRuntime) (callers : s'.callers = s.callers)
    (calls : s'.script.calls = s.script.calls) : s.Retains s' where
  runtime := runtime
  callers _ _ hn := callers ▸ hn
  calls _ c hn := ⟨c, calls ▸ hn, rfl, rfl, fun _ h => h⟩

theorem Retains.refl (s : Session) : s.Retains s := .of_eq rfl rfl rfl

theorem Retains.trans (h : s.Retains s') (h' : s'.Retains s'') : s.Retains s'' where
  runtime := h'.runtime.trans h.runtime
  callers n x hn := h'.callers n x (h.callers n x hn)
  calls n c hn := by
    obtain ⟨c', hn', method, params, replied⟩ := h.calls n c hn
    obtain ⟨c'', hn'', method', params', replied'⟩ := h'.calls n c' hn'
    exact ⟨c'', hn'', method'.trans method, params'.trans params,
      fun reply hr => replied' reply (replied reply hr)⟩

theorem Beside.retains (h : s.Beside s') : s.Retains s' := .of_eq h.runtime h.callers h.calls

theorem Retains.asked (h : s.Retains s') {i id : Nat} {method : String} {args : Json}
    {reply : Reply} (asked : s.Asked i id method args reply) : s'.Asked i id method args reply := by
  obtain ⟨n, c, ⟨caller, call⟩, rfl, rfl, replied⟩ := asked
  obtain ⟨c', call', method', params', replied'⟩ := h.calls n c call
  exact ⟨n, c', ⟨h.callers n _ caller, call'⟩, method', params', replied' _ replied⟩

theorem retains_perform (handle : Nat) (s : Session) (e : Effect) :
    s.Retains (perform handle s e) := by
  have other (he : ¬ e.IsRequest) : s.Retains (perform handle s e) :=
    (beside_perform handle s he).retains
  cases e with
  | ask id => exact .of_eq rfl rfl rfl
  | sleep id delay => exact .of_eq rfl rfl rfl
  | call id method args =>
    obtain ⟨c, -, -, called⟩ := called_perform s handle id method args
    exact
      { runtime := called.runtime
        callers := fun n x hn => called.callers ▸ getElem?_append_of_some hn _
        calls := fun n d hn => ⟨d, called.calls ▸ getElem?_append_of_some hn _, rfl, rfl,
          fun _ h => h⟩ }
  | _ => exact other not_false

theorem retains_performAll (handle : Nat) (s : Session) (effects : List Effect) :
    s.Retains (effects.foldl (perform handle) s) := by
  induction effects generalizing s with
  | nil => exact .refl s
  | cons e rest ih => exact (retains_perform handle s e).trans (ih _)

theorem retains_turn (s : Session) (place : Nat) : s.Retains (s.turn place) := by
  cases turns s place with
  | nobody left =>
    rw [left]
    exact .refl s
  | waiter _ left =>
    rw [left]
    exact .of_eq rfl rfl rfl
  | stray _ _ left =>
    rw [left]
    exact .of_eq rfl rfl rfl
  | @attempt h _ _ _ _ _ left =>
    rw [left]
    have taken : s.Retains { s with ready := s.ready.eraseIdx place } := .of_eq rfl rfl rfl
    have stored (s : Session) (r : LiveResource) : s.Retains (s.store h r) :=
      .of_eq (hasRuntime_store s h r) (callers_store s h r)
        (congrArg Gateway.Script.calls (script_store s h r))
    exact (taken.trans (stored _ _)).trans (retains_performAll h _ _)

theorem Resolved.retains {n h id : Nat} {reply : Reply} {c : Gateway.Call}
    (resolved : s.Resolved n reply h id c s') : s.Retains s' where
  runtime := resolved.runtime
  callers _ _ hk := resolved.callers ▸ hk
  calls k d hk := by
    rcases resolved.same_or_self hk with ⟨rfl, rfl⟩ | hk
    · refine ⟨_, resolved.self.2, rfl, rfl, fun r hr => ?_⟩
      rw [resolved.waiting] at hr
      cases hr
    · exact ⟨d, hk, rfl, rfl, fun _ h => h⟩

theorem Attended.retains_resolve (attended : s.Attended) (n : Nat) (reply : Reply) :
    s.Retains (s.resolve n reply).1 := by
  rcases resolve_cases (attended 0).lengths n reply with same | ⟨h, id, c, resolved⟩
  · rw [same]
    exact .refl s
  · exact resolved.retains

/-! ### A turn -/

/-- Listeners that operate on nothing leave the resources alone. -/
theorem resources_hear {emitter : Nat} {event : Event} {l : Listener} (silent : l.Silent)
    (s : Session) : (hear emitter event s l).resources = s.resources := by
  unfold hear
  cases reaction : l.reaction with
  | perform command target => exact absurd reaction (silent command target)
  | _ => rfl

theorem resources_hearAll {emitter : Nat} {event : Event} {ls : List Listener}
    (silent : ∀ l ∈ ls, l.Silent) (s : Session) :
    (ls.foldl (hear emitter event) s).resources = s.resources := by
  induction ls generalizing s with
  | nil => rfl
  | cons l rest ih =>
    rw [List.forall_mem_cons] at silent
    exact (ih silent.2 _).trans (resources_hear silent.1 s)

/-- Effects that run only listeners that operate on nothing leave the resources alone. -/
theorem resources_performAll_of_silent {effects : List Effect}
    (silent : ∀ g event due, .deliver g event due ∈ deeds effects → ∀ l ∈ due, l.Silent)
    (handle : Nat) (s : Session) : (effects.foldl (perform handle) s).resources = s.resources := by
  induction effects generalizing s with
  | nil => rfl
  | cons e rest ih =>
    have later (g : Nat) (event : Event) (due : List Listener)
        (hd : .deliver g event due ∈ deeds rest) : ∀ l ∈ due, l.Silent := by
      rw [mem_deeds] at hd
      exact silent g event due (mem_deeds.2 ⟨List.mem_cons_of_mem _ hd.1, hd.2⟩)
    refine (ih later _).trans ?_
    cases e with
    | deliver g event due =>
      exact resources_hearAll (silent g event due (mem_deeds.2 ⟨List.mem_cons_self, rfl⟩)) s
    | call id method args =>
      unfold perform
      simp only
      split <;> rfl
    | _ => rfl

/-- **What a turn changes.** Nothing but the one resource whose attempt makes its move, where
listeners operate on nothing. -/
theorem Silent.turn (silent : s.Silent) (orderly : s.Orderly) (place : Nat) :
    (s.turn place).resources = s.resources ∨
      ∃ (h id : Nat) (signal : Signal) (r : LiveResource),
        s.ready[place]? = some (.attempt h id signal) ∧ s.resources[h]? = some r ∧
        (s.turn place).resources = s.resources.set h (r.advance s.moment id signal).1 := by
  cases turns s place with
  | nobody left => exact .inl (by rw [left])
  | waiter _ left => exact .inl (by rw [left])
  | stray _ _ left => exact .inl (by rw [left])
  | @attempt h id signal r job there left =>
    refine .inr ⟨h, id, signal, r, job, there, ?_⟩
    have move := orderly.move there s.moment id signal
    rw [left]
    exact (resources_performAll_of_silent (move.silent (silent h r there)).2 h _).trans
      (resources_store _ _ _)

/-! ### Passive steps -/

theorem Attended.retains_step (attended : s.Attended) {step : Step} (passive : step.Passive) :
    s.Retains (s.step step) := by
  cases step with
  | turn place => exact retains_turn s place
  | resolve call reply => exact attended.retains_resolve call reply
  | release slot message =>
    simp only [Session.step, Session.release]
    split
    · exact .of_eq rfl rfl rfl
    · exact .refl s
  | elapse ms => exact .of_eq rfl rfl rfl
  | setGate gate isOpen => exact .of_eq rfl rfl rfl
  | push reply => exact .of_eq rfl rfl rfl
  | await handle state => exact (beside_await s handle state).retains
  | _ => exact passive.elim

/-- In a passive step one attempt makes its move, if any does. -/
theorem Silent.step_cases (silent : s.Silent) (orderly : s.Orderly) {step : Step}
    (passive : step.Passive) :
    (s.step step).resources = s.resources ∨
      ∃ (h id : Nat) (signal : Signal) (r : LiveResource),
        .attempt h id signal ∈ s.ready ∧ s.resources[h]? = some r ∧
        (s.step step).resources = s.resources.set h (r.advance s.moment id signal).1 := by
  by_cases other : ∀ place, step ≠ .turn place
  · exact .inl (still_of_passive passive other).resources
  · obtain ⟨place, rfl⟩ : ∃ place, step = .turn place := by simpa using other
    rcases silent.turn orderly place with same | ⟨h, id, signal, r, job, hr, moved⟩
    · exact .inl same
    · exact .inr ⟨h, id, signal, r, List.mem_of_getElem? job, hr, moved⟩

theorem Silent.step (silent : s.Silent) (orderly : s.Orderly) {step : Step}
    (passive : step.Passive) : (s.step step).Silent := by
  rcases silent.step_cases orderly passive with same | ⟨h, id, signal, r, -, hr, moved⟩
  · exact silent.of_resources same
  · have move := orderly.move hr s.moment id signal
    exact silent.set (move.silent (silent h r hr)).1 moved

/-- The outcome that an attempt comes to is the reply to its own call. -/
theorem Attended.asked_of_comes (attended : s.Attended) {h id : Nat} {signal : Signal}
    {r : LiveResource} (job : .attempt h id signal ∈ s.ready) (hr : s.resources[h]? = some r)
    (unheld : r.Unheld) {t : Ticket} {outcome : Outcome} (comes : r.Comes id signal t outcome) :
    ∃ reply, outcome = .ofReply reply ∧ s.Asked h id t.method t.args reply := by
  cases comes with
  | replied phase =>
    obtain ⟨n, c, made, ⟨method, args⟩, replied⟩ :=
      (attended h).replied (attended.summons hr phase) job
    exact ⟨_, rfl, n, c, made, method, args, replied⟩
  | rested phase =>
    obtain ⟨⟨n, c, made, ⟨method, args⟩, replied⟩, -⟩ := attended.summons hr phase
    exact ⟨_, rfl, n, c, made, method, args, replied⟩
  | refused phase => exact absurd phase (unheld.unchecked _ _)

/-- **The newest fetch along a passive step.** A resource on which nobody operates goes on as
before, and so does its newest fetch. -/
theorem Attended.newest_step (attended : s.Attended) (silent : s.Silent) {step : Step}
    (passive : step.Passive) {h : Nat} {r : LiveResource} (hr : s.resources[h]? = some r)
    (plain : r.Plain) :
    ∃ r', (s.step step).resources[h]? = some r' ∧ r'.Plain ∧
      r'.resource.config.bare = r.resource.config.bare ∧
      (r.Newest (s.Asked h) → r'.Newest ((s.step step).Asked h)) := by
  have orderly := attended.orderly
  have retains := attended.retains_step passive
  have kept (same : (s.step step).resources[h]? = s.resources[h]?) : ∃ r',
      (s.step step).resources[h]? = some r' ∧ r'.Plain ∧
      r'.resource.config.bare = r.resource.config.bare ∧
      (r.Newest (s.Asked h) → r'.Newest ((s.step step).Asked h)) :=
    ⟨r, same.trans hr, plain, rfl, fun newest => newest.mono fun _ _ _ _ => retains.asked⟩
  rcases silent.step_cases orderly passive with same | ⟨i, id, signal, x, job, hx, moved⟩
  · exact kept (by rw [same])
  · -- an attempt has moved, of this resource or of another
    by_cases hi : i = h
    · subst hi
      cases hr.symm.trans hx
      have move := orderly.move hr s.moment id signal
      refine ⟨_, ?_, plain.move move, move.config, fun newest => ?_⟩
      · rw [moved]
        exact List.getElem?_set_self (List.getElem?_eq_some_iff.1 hr).1
      · have moved := newest.move plain (orderly i r hr) move
          fun t outcome => attended.asked_of_comes job hr plain.unheld
        exact moved.mono fun _ _ _ _ => retains.asked
    · exact kept (by rw [moved, List.getElem?_set_ne hi])

/-! ### Operations on one resource -/

/-- The resources are the same but for one. -/
def SameBut (handle : Nat) (s s' : Session) : Prop :=
  ∀ i, i ≠ handle → s'.resources[i]? = s.resources[i]?

theorem SameBut.trans (h : s.SameBut handle s') (h' : s'.SameBut handle s'') :
    s.SameBut handle s'' := fun i hi => (h' i hi).trans (h i hi)

theorem sameBut_fetch (s : Session) (handle : Nat) : s.SameBut handle (s.fetch handle) :=
  fun _ => (unfolds_fetch s handle).elsewhere

theorem sameBut_cancel (s : Session) (handle : Nat) : s.SameBut handle (s.cancel handle) :=
  fun _ => (unfolds_cancel s handle).elsewhere

theorem sameBut_update {config : Config} (h : s.update handle config = .ok s') :
    s.SameBut handle s' := by
  have updated := unfolds_update s handle config
  rw [h] at updated
  exact fun _ => updated.elsewhere

theorem sameBut_create {name : String} {config : Config}
    (h : s.create name config = .ok (s', handle)) : s.SameBut handle s' := by
  obtain ⟨-, rfl, rfl⟩ := create_ok h
  intro i hi
  show (s.resources ++ [_])[i]? = s.resources[i]?
  rcases Nat.lt_or_gt_of_ne hi with hi | hi
  · exact List.getElem?_append_left hi
  · rw [List.getElem?_eq_none (by simp; omega), List.getElem?_eq_none (by omega)]

/-- A fetch that is started is one more attempt. -/
theorem resources_fetch {r : LiveResource} (runtime : s.hasRuntime = true)
    (hr : s.resources[handle]? = some r) :
    (s.fetch handle).resources[handle]? = some (r.spawn none).1 := by
  simp only [fetch, spawn, hr, runtime, if_true]
  exact resources_store_self s handle _ hr

end Session

end ReactiveResource
