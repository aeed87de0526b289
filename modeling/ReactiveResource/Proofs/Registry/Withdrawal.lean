import ReactiveResource.Proofs.Registry.Incidents
import ReactiveResource.Proofs.Session.Seclusion

/-!
# Withdrawn resources

When no config is derived for a name any more, its resource is kept without one. It stays quiet from
then on if nothing may come of its attempts any more: a watcher that remembers a config cancels the
current fetch and displaces those that wait for their turn, but a fetch that has not been started
decides only when it starts.

* `World.Leaves`, `World.LeavesThrough`: nothing is derived for a name, and nobody operates on its
  resource, in an incident and along a run;
* `World.StaysQuiet`: nothing shows of the attempts of the resource in any such run;
* `Attainable.withdraws_mutate`: what a change of the owner's state does to a name that it leaves
  unwanted;
* `StaysQuiet.moved`, `Attainable.idle_of_staysQuiet`: what may come of an attempt shows;
* `Attainable.staysQuiet_iff`: a resource stays quiet exactly if nothing may come of its attempts;
* `withdrawn_stays_quiet_iff`: the statement, for all that may have happened before the withdrawal;
* `withdrawn_fetch_starts`: a run in which a fetch starts after it.
-/

namespace ReactiveResource

open Keyed (value?)

/-- What fires for a name is what its watchers derive. -/
theorem Bridge.new_of_fires {α : Type} {b : Bridge α} {owner : α} {f : WatcherFire}
    (fired : f ∈ (b.evaluate owner).2) : ∃ wt ∈ b.named f.name, f.new = wt.derive owner := by
  obtain ⟨wt, mem, hf⟩ := List.mem_filterMap.1 fired
  obtain ⟨name, new⟩ := name_of_fireOf hf
  exact ⟨wt, List.mem_filter.2 ⟨mem, by simp [name]⟩, new⟩

/-- A watcher that remembers a config fires if it derives none. -/
theorem Bridge.fires_of_unwanted {α : Type} {b : Bridge α} {owner : α} {name : String}
    {wt : Watcher α} (mem : wt ∈ b.named name) (remembers : wt.last.isSome = true)
    (unwanted : wt.derive owner = none) : ∃ f ∈ (b.evaluate owner).2, f.name = name := by
  obtain ⟨watched, named⟩ := List.mem_filter.1 mem
  have changed : configChanged wt.last (wt.derive owner) = true := by
    obtain ⟨config, last⟩ := Option.isSome_iff_exists.1 remembers
    rw [last, unwanted]
    rfl
  refine ⟨{ name := wt.name, new := wt.derive owner, old := wt.last },
    List.mem_filterMap.2 ⟨wt, watched, ?_⟩, by simpa using named⟩
  simp [fireOf, changed]

namespace Registry

variable {α : Type} {s s' : Session} {r r' : Registry α} {name : String} {handle : Nat}
  {live : LiveResource}

/-! ### A name that is not wanted -/

/-- Without a config the resource of a name is withdrawn. -/
theorem Housed.withdraws_respond (h : Housed s r)
    (given : value? r.resources name = some handle) (there : s.resources[handle]? = some live)
    {f : WatcherFire} (unwanted : f.name = name → f.new = none) (failed : Option ConfigError) :
    ∃ actions : List Action, (∀ a ∈ actions, a.Withdraws) ∧ (f.name = name → actions ≠ []) ∧
      (Registry.respond (s, r, failed) f).1.resources[handle]? = some (live.after actions) := by
  by_cases own : f.name = name
  · refine ⟨[.cancel], by simp [Action.Withdraws], by simp, ?_⟩
    subst own
    have applied : r.apply s f.name f.new f.old
        = .ok ((s.report [.debug ("Resource '" ++ f.name ++ "' withdrawn by its watcher")]).cancel
          handle, r) := by
      simp [Registry.apply, h.attached, given, unwanted rfl]
    simp only [Registry.respond, applied]
    exact Session.resources_cancel (s := s.report _) there
  · refine ⟨[], List.forall_mem_nil _, fun same => absurd same own, ?_⟩
    have spares := h.spares_respond failed own
    have live := spares.live
    rw [live?_of_given (spares.handle.trans given), live?_of_given given] at live
    exact live.trans there

theorem Housed.withdraws_responds (h : Housed s r)
    (given : value? r.resources name = some handle) (there : s.resources[handle]? = some live)
    {fires : List WatcherFire} (unwanted : ∀ f ∈ fires, f.name = name → f.new = none)
    (failed : Option ConfigError) :
    ∃ actions : List Action, (∀ a ∈ actions, a.Withdraws) ∧
      ((∃ f ∈ fires, f.name = name) → actions ≠ []) ∧
      (fires.foldl Registry.respond (s, r, failed)).1.resources[handle]?
        = some (live.after actions) := by
  induction fires generalizing s r live failed with
  | nil => exact ⟨[], List.forall_mem_nil _, by simp, there⟩
  | cons f rest ih =>
    rw [List.forall_mem_cons] at unwanted
    obtain ⟨first, withdraws, own, there'⟩ := h.withdraws_respond given there unwanted.1 failed
    obtain ⟨later, withdraws', own', there''⟩ :=
      ih (h.respond failed f) (handle_respond given failed f) there' unwanted.2 _
    refine ⟨first ++ later, ?_, ?_, ?_⟩
    · exact fun a mem => (List.mem_append.1 mem).elim (withdraws a) (withdraws' a)
    · rintro ⟨g, mem, named⟩
      rcases List.mem_cons.1 mem with rfl | mem
      · simp [own named]
      · simp [own' ⟨g, mem, named⟩]
    · rw [LiveResource.after_append]
      exact there''

/-- All resources of a registry that is detached are withdrawn, if at all. -/
theorem withdraws_detach (s : Session) (r : Registry α) :
    s.Evolves Action.Withdraws (r.detach s).1 := by
  have retires (s : Session) (entries : Keyed Nat) :
      s.Evolves Action.Withdraws (entries.foldl (fun s x => s.retire x.2) s) := by
    induction entries generalizing s with
    | nil => exact .refl _ s
    | cons x rest ih =>
      refine Session.Evolves.trans ?_ (ih (s.retire x.2))
      rw [Session.retire]
      split
      · next r hr => exact .store hr (show Action.retire.Withdraws from trivial)
      · exact .refl _ s
  rw [detach]
  split
  · exact .refl _ s
  · exact (retires s r.resources).trans (.of_resources rfl)

end Registry

namespace World

variable {α : Type} {w : World α} {definitions : List (String × Definition α)}
  {name : String} {handle : Nat} {live live' : LiveResource}

/-- No config is derived for the name in a state of the owner. -/
def Unwanted (w : World α) (name : String) (owner : α) : Prop :=
  ∀ wt ∈ w.registry.bridge.named name, wt.derive owner = none

/-- In the incident no config is derived for the name, and nobody operates on the resource. -/
def Leaves (w : World α) (name : String) (handle : Nat) : Incident α → Prop
  | .deed (.step step) => w.session.LeavesAlone step handle
  | .deed (.mutate change) => w.Unwanted name (change w.registry.owner)
  | .deed .detach => True
  | .fire other new _ => other = name → new = none

/-- So it is in all incidents of a run. -/
def LeavesThrough (name : String) (handle : Nat) : World α → List (Incident α) → Prop
  | _, [] => True
  | w, i :: rest => w.Leaves name handle i ∧ LeavesThrough name handle (w.undergo i) rest

theorem leavesThrough_append {first second : List (Incident α)} :
    LeavesThrough name handle w (first ++ second) ↔
      LeavesThrough name handle w first ∧ LeavesThrough name handle (w.through first) second := by
  induction first generalizing w with
  | nil => simp [LeavesThrough]
  | cons i rest ih => simp [LeavesThrough, ih, and_assoc]

/-- From one world to a later one, the resource makes no call and takes no generation, no outcome is
applied, and it shows the same. -/
structure Undisturbed (w : World α) (handle : Nat) (live : LiveResource) (later : World α) :
    Prop where
  calls : later.session.callsOf handle = w.session.callsOf handle
  shown : ∃ live', later.session.resources[handle]? = some live' ∧ live.Undisturbed live'

/-- As long as no config is derived for the name and nobody operates on the resource, nothing shows
of what was under way. -/
def StaysQuiet (w : World α) (name : String) (handle : Nat) (live : LiveResource) : Prop :=
  ∀ incidents, LeavesThrough name handle w incidents →
    w.Undisturbed handle live (w.through incidents)

/-! ### What an incident does to a resource that is not wanted -/

/-- The name has the resource as long as the registry is attached. -/
def Gives (w : World α) (name : String) (handle : Nat) : Prop :=
  w.registry.attached = true → value? w.registry.resources name = some handle

theorem Gives.undergo (h : w.Attainable definitions) (gives : w.Gives name handle)
    (i : Incident α) : (w.undergo i).Gives name handle := by
  intro attached
  have before : w.registry.attached = true := by
    rcases h.housed with housed | empty
    · exact housed.attached
    · cases (empty_undergo empty i).detached.symm.trans attached
  by_cases last : i = .deed .detach
  · subst last
    have detached := (Registry.empty_detach (s := w.session) before).detached
    cases detached.symm.trans attached
  · exact handle_undergo (gives before) last

/-- **A change of the owner's state** that leaves a name unwanted withdraws its resource, if its
watcher remembers a config, and leaves it alone otherwise. -/
theorem Attainable.withdraws_mutate (h : w.Attainable definitions) (gives : w.Gives name handle)
    (there : w.session.resources[handle]? = some live) {change : α → α}
    (unwanted : w.Unwanted name (change w.registry.owner)) :
    ∃ actions : List Action, (∀ a ∈ actions, a.Withdraws) ∧
      ((∃ wt ∈ w.registry.bridge.named name, wt.last.isSome = true) → actions ≠ []) ∧
      (w.act (.mutate change)).session.resources[handle]? = some (live.after actions) := by
  rcases h.housed with housed | empty
  · have fires (f : WatcherFire)
        (fired : f ∈ (w.registry.bridge.evaluate (change w.registry.owner)).2)
        (own : f.name = name) : f.new = none := by
      obtain ⟨wt, mem, new⟩ := Bridge.new_of_fires fired
      exact new.trans (unwanted wt (own ▸ mem))
    obtain ⟨actions, withdraws, fired, there'⟩ :=
      (housed.evaluated _ _).withdraws_responds (gives housed.attached) there fires none
    refine ⟨actions, withdraws, ?_, ?_⟩
    · rintro ⟨wt, mem, remembers⟩
      exact fired (Bridge.fires_of_unwanted mem remembers (unwanted wt mem))
    · show (w.registry.mutateOwner w.session change).1.resources[handle]? = _
      rw [Registry.mutateOwner_of_attached housed.attached]
      exact there'
  · refine ⟨[], List.forall_mem_nil _, ?_, ?_⟩
    · rintro ⟨wt, mem, -⟩
      rw [Bridge.named, empty.watchers] at mem
      cases mem
    · show (w.registry.mutateOwner w.session change).1.resources[handle]? = _
      rw [Registry.mutateOwner_of_detached empty.detached]
      exact there

/-- No watcher and no caller of the registry does more than withdraw the resource once more. -/
theorem Attainable.withdraws_undergo (h : w.Attainable definitions) (gives : w.Gives name handle)
    (there : w.session.resources[handle]? = some live) {i : Incident α}
    (other : ∀ step, i ≠ .deed (.step step)) (leaves : w.Leaves name handle i) :
    ∃ actions : List Action, (∀ a ∈ actions, a.Withdraws) ∧
      (w.undergo i).session.resources[handle]? = some (live.after actions) := by
  cases i with
  | deed d =>
    cases d with
    | step step => exact absurd rfl (other step)
    | mutate change =>
      obtain ⟨actions, withdraws, -, there'⟩ := h.withdraws_mutate gives there leaves
      exact ⟨actions, withdraws, there'⟩
    | detach => exact (Registry.withdraws_detach w.session w.registry).old there
  | fire n new old =>
    show ∃ actions : List Action, _ ∧ (w.fire n new old).session.resources[handle]? = _
    rcases w.fire_cases n new old with same | ⟨s, r, applied, fired⟩
    · rw [same]
      exact ⟨[], List.forall_mem_nil _, there⟩
    · rw [fired]
      rcases h.housed with housed | empty
      · by_cases own : n = name
        · cases leaves own
          cases Registry.apply_ok applied with
          | idle => exact ⟨[], List.forall_mem_nil _, there⟩
          | withdraw entries attached given =>
            cases (own ▸ given).symm.trans (gives attached)
            exact ⟨[.cancel], by simp [Action.Withdraws],
              Session.resources_cancel (s := w.session.report entries) there⟩
        · have spares := housed.spares_apply own applied
          have given := gives housed.attached
          have kept := spares.live
          rw [Registry.live?_of_given (spares.handle.trans given),
            Registry.live?_of_given given] at kept
          exact ⟨[], List.forall_mem_nil _, kept.trans there⟩
      · rw [Registry.apply_of_detached empty.detached] at applied
        cases applied
        exact ⟨[], List.forall_mem_nil _, there⟩

/-- **Nothing shows of an idle resource** in an incident in which it is left alone. -/
theorem Attainable.idle_undergo (h : w.Attainable definitions) (gives : w.Gives name handle)
    (there : w.session.resources[handle]? = some live) (idle : live.Idle) {i : Incident α}
    (leaves : w.Leaves name handle i) :
    ∃ live', (w.undergo i).session.resources[handle]? = some live' ∧ live'.Idle ∧
      live.Undisturbed live' ∧
      (w.undergo i).session.callsOf handle = w.session.callsOf handle := by
  have arises : live.Arises := h.born handle live there
  by_cases stepped : ∃ step, i = .deed (.step step)
  · obtain ⟨step, rfl⟩ := stepped
    rcases Session.LeavesAlone.affects leaves there with
      ⟨same, calls⟩ | ⟨place, id, signal, rfl, job⟩
    · exact ⟨live, same, idle, .refl live, calls⟩
    · have move := h.attended.orderly.move there w.session.moment id signal
      obtain ⟨-, silent, told, -⟩ := move.of_idle (idle id)
      obtain ⟨undisturbed, idle'⟩ := idle.move arises.orderly move
      refine ⟨_, Session.resources_turn_of_quiet job there told, idle', undisturbed, ?_⟩
      rw [filterMap_deeds (fun e he => by cases e <;> first | rfl | cases he)] at silent
      refine (Session.callsOf_turn job there).trans ?_
      rw [silent]
      exact List.append_nil _
  · obtain ⟨actions, withdraws, there'⟩ :=
      h.withdraws_undergo gives there (fun step same => stepped ⟨step, same⟩) leaves
    obtain ⟨undisturbed, idle'⟩ := idle.withdrawn arises withdraws
    refine ⟨_, there', idle', undisturbed, ?_⟩
    rw [Session.callsOf, Session.callsOf, ((w.step_or_beside i).resolve_left stepped).callers]

theorem Attainable.idle_through (h : w.Attainable definitions) (gives : w.Gives name handle)
    (there : w.session.resources[handle]? = some live) (idle : live.Idle) :
    w.StaysQuiet name handle live := by
  intro incidents leaves
  induction incidents generalizing w live with
  | nil => exact ⟨rfl, live, there, .refl live⟩
  | cons i rest ih =>
    obtain ⟨live', there', idle', undisturbed, calls⟩ := h.idle_undergo gives there idle leaves.1
    obtain ⟨calls', live'', there'', undisturbed'⟩ :=
      ih (h.undergo i) (gives.undergo h i) there' idle' leaves.2
    exact ⟨calls'.trans calls, live'', there'', undisturbed.trans undisturbed'⟩

/-! ### What is bound to show -/

/-- The steps that bring something from outside are incidents that leave the resource alone. -/
theorem leavesThrough_of_prepares {steps : List Session.Step}
    (prepares : ∀ step ∈ steps, step.Prepares) :
    LeavesThrough name handle w (steps.map fun step => .deed (.step step)) := by
  induction steps generalizing w with
  | nil => trivial
  | cons step rest ih =>
    rw [List.forall_mem_cons] at prepares
    exact ⟨Session.leavesAlone_of_prepares prepares.1, ih prepares.2⟩

theorem through_steps (w : World α) (steps : List Session.Step) :
    w.through (steps.map fun step => .deed (.step step))
      = { w with session := w.session.after steps } := by
  induction steps generalizing w with
  | nil => rfl
  | cons step rest ih => exact ih _

/-- A resource that stays quiet does so from any later time on. -/
theorem StaysQuiet.later (quiet : w.StaysQuiet name handle live) {incidents : List (Incident α)}
    (leaves : LeavesThrough name handle w incidents)
    (there : (w.through incidents).session.resources[handle]? = some live')
    (kept : ∀ id g, live.Applied id g → live'.Applied id g) :
    (w.through incidents).StaysQuiet name handle live' := by
  intro more leaves'
  obtain ⟨calls, x, hx, shown⟩ := quiet incidents leaves
  cases there.symm.trans hx
  obtain ⟨calls', live'', there'', shown'⟩ :=
    quiet (incidents ++ more) (leavesThrough_append.2 ⟨leaves, leaves'⟩)
  rw [through_append] at calls' there''
  exact ⟨calls'.trans calls.symm, live'', there'', shown.between shown' kept⟩

/-- The move of an attempt that can be brought to it leaves no trace, if the resource stays
quiet. -/
theorem StaysQuiet.moved (quiet : w.StaysQuiet name handle live)
    (there : w.session.resources[handle]? = some live) {steps : List Session.Step}
    (prepares : ∀ step ∈ steps, step.Prepares) {place id : Nat} {signal : Signal}
    (job : (w.session.after steps).ready[place]? = some (.attempt handle id signal)) :
    ∃ incidents, LeavesThrough name handle w incidents ∧
      w.through incidents = { w with session := (w.session.after steps).turn place } ∧
      (deeds (live.advance (w.session.after steps).moment id signal).2).filterMap
        Effect.caller? = [] ∧
      (live.advance (w.session.after steps).moment id signal).1.resource.generation
        = live.resource.generation ∧
      ∀ g, (live.advance (w.session.after steps).moment id signal).1.Applied id g →
        live.Applied id g := by
  have before : LeavesThrough name handle w (steps.map fun step => .deed (.step step)) :=
    leavesThrough_of_prepares prepares
  have calls := (quiet _ before).calls
  rw [through_steps] at calls
  have ready : (w.session.after steps).resources[handle]? = some live := by
    rw [Session.resources_prepares prepares, there]
  obtain ⟨incidents, leaves, reached⟩ : ∃ incidents, LeavesThrough name handle w incidents ∧
      w.through incidents = { w with session := (w.session.after steps).turn place } := by
    refine ⟨(steps.map fun step => .deed (.step step)) ++ [.deed (.step (.turn place))], ?_, ?_⟩
    · rw [leavesThrough_append, through_steps]
      exact ⟨before, Session.leavesAlone_of_own job, trivial⟩
    · rw [through_append, through_steps]
      rfl
  obtain ⟨calls', live', there', shown⟩ := quiet incidents leaves
  rw [reached] at calls' there'
  obtain ⟨actions, external, turned⟩ := Session.resources_turn job ready
  cases there'.symm.trans turned
  refine ⟨incidents, leaves, reached, ?_, ?_, fun g applied => ?_⟩
  · rw [filterMap_deeds (fun e he => by cases e <;> first | rfl | cases he)]
    have made := (Session.callsOf_turn job ready).symm.trans (calls'.trans calls.symm)
    simpa using made
  · exact (LiveResource.generation_after_external external).symm.trans shown.generation
  · exact shown.applied id g (LiveResource.phase?_after_external external applied)

/-- **Whatever may come of an attempt shows** in some run in which the resource is left alone. The
induction is on the moves that the attempts have left. -/
theorem Attainable.idle_of_staysQuiet (h : w.Attainable definitions)
    (there : w.session.resources[handle]? = some live) (quiet : w.StaysQuiet name handle live) :
    live.Idle := by
  induction left : live.remaining using Nat.strongRecOn generalizing w live with
  | ind n ih =>
    rintro id ⟨p, phase, favours⟩
    have arises : live.Arises := h.born handle live there
    have unfinished (ending : Ending) : p ≠ .finished ending := by
      rintro rfl
      exact favours
    obtain ⟨steps, place, k, signal, prepares, job, awaits, isOpen⟩ :=
      h.roused.exists_move h.attended arises.guarded there phase unfinished
    -- some attempt makes its next move, and all may act afterwards who might act before
    obtain ⟨incidents, leaves, reached, silent, generation, unapplied⟩ :=
      quiet.moved there prepares job
    have move : live.Move (w.session.after steps).moment k signal _ _ :=
      LiveResource.advance_move arises.orderly.fence_le signal
    obtain ⟨told, mayAct⟩ := move.mayAct isOpen generation silent unapplied
    have there' : (w.through incidents).session.resources[handle]?
        = some (live.advance (w.session.after steps).moment k signal).1 := by
      rw [reached]
      refine Session.resources_turn_of_quiet job ?_ told
      rw [Session.resources_prepares prepares, there]
    refine ih _ (left ▸ move.remaining_lt awaits) (h.through incidents) there'
      (quiet.later leaves there' fun j g applied => move.finished applied) rfl id ?_
    exact mayAct id ⟨p, phase, favours⟩

/-- **A resource stays quiet exactly if nothing may come of its attempts.** -/
theorem Attainable.staysQuiet_iff (h : w.Attainable definitions) (gives : w.Gives name handle)
    (there : w.session.resources[handle]? = some live) :
    w.StaysQuiet name handle live ↔ live.Idle :=
  ⟨h.idle_of_staysQuiet there, h.idle_through gives there⟩

/-- **Withdrawn resources.** Let a change of the owner's state leave no config derived for a name
that has a resource. As long as none is derived and nobody operates on the resource, it makes no
call, takes no generation, applies no outcome and shows the same, exactly if nothing may come of any
of its attempts: none has yet to be started, waits for its turn undisturbed or has a generation that
counts. If a watcher of the name still remembers a config, which it does unless the resource has
been withdrawn before, this is so exactly if the resource is retired or all its fetches have been
started. -/
theorem withdrawn_stays_quiet_iff (h : w.Attainable definitions)
    (given : value? w.registry.resources name = some handle) (change : α → α)
    (unwanted : w.Unwanted name (change w.registry.owner))
    (there : (w.act (.mutate change)).session.resources[handle]? = some live) :
    ((w.act (.mutate change)).StaysQuiet name handle live ↔ ∀ id, ¬ live.MayAct id) ∧
    ((∃ wt ∈ w.registry.bridge.named name, wt.last.isSome = true) →
      ((w.act (.mutate change)).StaysQuiet name handle live ↔
        live.resource.retired = true ∨ ∀ id, live.phase? id ≠ some .spawned)) := by
  have gives : w.Gives name handle := fun _ => given
  have quiet_iff := (h.undergo (.deed (.mutate change))).staysQuiet_iff
    (gives.undergo h (.deed (.mutate change))) there
  refine ⟨quiet_iff, fun remembers => quiet_iff.trans ?_⟩
  obtain ⟨before, present⟩ := (h.housed_of_given given).present given
  obtain ⟨actions, withdraws, fired, there'⟩ := h.withdraws_mutate gives present unwanted
  cases there.symm.trans there'
  exact LiveResource.idle_after_iff (h.born handle before present) withdraws (fired remembers)

/-! ### Tickets that are not wanted any more -/

/-- Tickets that are fetched by themselves as long as they are wanted. -/
def wantedTickets : List (String × Definition Bool) :=
  [("tickets", .derived fun wanted =>
    if wanted then some { method := "list", auto := true } else none)]

/-- A desk that wants tickets, after some deeds. -/
def wantedWorld (deeds : List (Deed Bool)) : World Bool :=
  match Registry.attach {} "desk" true wantedTickets with
  | .ok (session, registry) => World.after { session, registry } deeds
  | .error _ => { session := {}, registry := { id := "desk", owner := true } }

theorem attainable_wantedWorld (deeds : List (Deed Bool)) :
    (wantedWorld deeds).Attainable wantedTickets := by
  have attached : Registry.attach {} "desk" true wantedTickets
      = .ok ((wantedWorld []).session, (wantedWorld []).registry) := rfl
  have start : (wantedWorld []).Attainable wantedTickets := .attach ⟨rfl, rfl, rfl, rfl⟩ attached
  have moved := start.through (deeds.map .deed)
  rwa [through_deeds] at moved

/-- The fetch of the first config has not been started when the tickets are withdrawn. It starts
afterwards, takes a generation and makes a call. -/
theorem withdrawn_fetch_starts :
    (wantedWorld []).Attainable wantedTickets ∧
      value? (wantedWorld []).registry.resources "tickets" = some 0 ∧
      (wantedWorld []).Unwanted "tickets" false ∧
      ∃ live live', (wantedWorld [.mutate fun _ => false]).session.resources[0]? = some live ∧
        LeavesThrough "tickets" 0 (wantedWorld [.mutate fun _ => false])
          [.deed (.step (.turn 0))] ∧
        (wantedWorld [.mutate fun _ => false, .step (.turn 0)]).session.resources[0]? = some live' ∧
        live.resource.generation = 0 ∧ live'.resource.generation = 1 ∧
        live.resource.state = .idle ∧ live'.resource.state = .loading ∧
        (wantedWorld [.mutate fun _ => false]).session.callsOf 0 = [] ∧
        (wantedWorld [.mutate fun _ => false, .step (.turn 0)]).session.callsOf 0 = [(0, 0)] ∧
        ¬ (wantedWorld [.mutate fun _ => false]).StaysQuiet "tickets" 0 live := by
  have job : (wantedWorld [.mutate fun _ => false]).session.ready[0]?
      = some (.attempt 0 0 .go) := rfl
  have leaves : LeavesThrough "tickets" 0 (wantedWorld [.mutate fun _ => false])
      [.deed (.step (.turn 0))] := ⟨Session.leavesAlone_of_own job, trivial⟩
  have unwanted : (wantedWorld []).Unwanted "tickets" false := by
    intro wt mem
    cases List.mem_singleton.1 mem
    rfl
  refine ⟨attainable_wantedWorld [], rfl, unwanted, _, _, rfl, leaves, rfl, rfl, rfl, rfl, rfl, rfl,
    rfl, fun quiet => ?_⟩
  have calls : [(0, 0)] = [] := (quiet _ leaves).calls
  cases calls

/-- A call that is under way when the tickets are withdrawn brings nothing any more, whatever comes
after that. -/
theorem withdrawn_call_stays_quiet :
    ∃ live t, (wantedWorld [.step (.turn 0), .mutate fun _ => false]).session.resources[0]?
        = some live ∧
      live.phase? 0 = some (.calling t) ∧
      (wantedWorld [.step (.turn 0), .mutate fun _ => false]).StaysQuiet "tickets" 0 live := by
  have unwanted : (wantedWorld [.step (.turn 0)]).Unwanted "tickets" false := by
    intro wt mem
    cases List.mem_singleton.1 mem
    rfl
  have final := withdrawn_stays_quiet_iff (attainable_wantedWorld [.step (.turn 0)])
    (show value? (wantedWorld [.step (.turn 0)]).registry.resources "tickets" = some 0 from rfl)
    (fun _ => false) unwanted rfl
  refine ⟨_, _, rfl, rfl, (final.2 ⟨_, List.mem_singleton_self _, rfl⟩).2 (.inr fun id phase => ?_)⟩
  cases id <;> cases phase

end World

end ReactiveResource
