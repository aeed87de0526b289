import ReactiveResource.Proofs.Resource.Audience
import ReactiveResource.Proofs.Session.Seclusion

/-!
# Exact delivery

When an outcome is applied, all listeners that are due are run, one after another and with the same
event, whatever they do: that one of them fails or panics, or operates on a resource, keeps none of
the others from being run, and changes nothing but by the operation that it performs.

* `Delivery.hearings`, `Session.responses`: how those who are due are run, and what they do to a
  resource;
* `unfolds_hearAll`, `unfolds_attempt`: all who are due are run, and what a turn comes to;
* `Session.dispatches`, `happenings`, `unfolds_step`: what a step comes to;
* `Session.dispatched`, `history`, `past_after`: the same for a run;
* `delivery_exact`: the statement, for every run.
-/

namespace ReactiveResource

/-- Everyone who is due is run once, in order and with the event. -/
def Delivery.hearings (d : Delivery) : List Hearing :=
  d.due.map fun l => { label := l.label, event := d.event }

namespace Session

/-! ### What listeners do -/

/-- What the command of a listener does to the resource that it means. -/
def orders (s : Session) (kind : EventKind) (l : Listener) : Command → List Action
  | .fetch => s.starts none
  | .cancel => [.cancel]
  | .reset => [.reset]
  | .retire => [.retire]
  | .register => [.listen kind false { label := l.label ++ "+" }]

/-- What a listener of the emitter does to a resource: nothing, unless it performs an operation and
means that resource. -/
def operations (s : Session) (emitter : Nat) (kind : EventKind) (l : Listener) (handle : Nat) :
    List Action :=
  match l.reaction with
  | .perform command target =>
    if s.handleOf? emitter target = some handle then s.orders kind l command else []
  | _ => []

/-- What those who are due do to a resource, one after another. -/
def responses (s : Session) (emitter : Nat) (d : Delivery) (handle : Nat) : List Action :=
  d.due.flatMap fun l => s.operations emitter d.event.kind l handle

section Responses

variable {s s' : Session} {emitter handle : Nat}

theorem operations_congr (named : s'.named = s.named) (runtime : s'.hasRuntime = s.hasRuntime)
    (emitter : Nat) (kind : EventKind) (l : Listener) (handle : Nat) :
    s'.operations emitter kind l handle = s.operations emitter kind l handle := by
  have orders (command : Command) : s'.orders kind l command = s.orders kind l command := by
    cases command <;> simp only [Session.orders, starts, runtime]
  rw [operations, operations]
  split
  · next command target => rw [handleOf?_of_named named, orders]
  · rfl

theorem responses_congr (named : s'.named = s.named) (runtime : s'.hasRuntime = s.hasRuntime)
    (emitter : Nat) (d : Delivery) (handle : Nat) :
    s'.responses emitter d handle = s.responses emitter d handle := by
  simp only [responses, operations_congr named runtime]

theorem external_starts (s : Session) (override : Option Params) :
    ∀ a ∈ s.starts override, a.External := by
  rw [starts]
  split <;> simp [Action.External]

theorem external_responses (s : Session) (emitter : Nat) (d : Delivery) (handle : Nat) :
    ∀ a ∈ s.responses emitter d handle, a.External := by
  have orders (kind : EventKind) (l : Listener) (command : Command) :
      ∀ a ∈ s.orders kind l command, a.External := by
    cases command with
    | fetch => exact external_starts s none
    | _ => simp [Session.orders, Action.External]
  refine List.forall_mem_flatMap.2 fun l _ => ?_
  rw [operations]
  split
  · split
    · exact orders _ _ _
    · exact List.forall_mem_nil _
  · exact List.forall_mem_nil _

end Responses

/-! ### Listeners -/

section Listeners

variable (s : Session) (emitter : Nat)

theorem unfolds_command (handle : Nat) (l : Listener) (kind : EventKind) (command : Command) :
    s.Unfolds [] (only handle (s.orders kind l command)) (s.command handle l kind command) := by
  cases command with
  | fetch => exact unfolds_fetch s handle
  | cancel => exact unfolds_cancel s handle
  | reset => exact unfolds_reset s handle
  | retire => exact unfolds_retire s handle
  | register => exact unfolds_listen s handle kind false _

/-- A listener is run once, and does no more than the operation that it performs. -/
theorem unfolds_hear (event : Event) (l : Listener) :
    s.Unfolds [{ label := l.label, event }] (s.operations emitter event.kind l)
      (hear emitter event s l) := by
  have recorded := unfolds_record s (.heard l.label event)
  have none {s' : Session} (h : s.Unfolds [{ label := l.label, event }] (fun _ => []) s')
      (idle : ∀ command target, l.reaction ≠ .perform command target) :
      s.Unfolds [{ label := l.label, event }] (s.operations emitter event.kind l) s' :=
    h.congr fun i => by
      rw [operations]
      split
      · next reaction => exact absurd reaction (idle _ _)
      · rfl
  cases reaction : l.reaction with
  | accept =>
    simp only [hear, reaction]
    exact none recorded (by simp [reaction])
  | fail message =>
    simp only [hear, reaction]
    exact none (recorded.trans (unfolds_report _ _)) (by simp [reaction])
  | panic reason =>
    simp only [hear, reaction]
    exact none (recorded.trans (unfolds_report _ _)) (by simp [reaction])
  | observe target =>
    simp only [hear, reaction]
    exact none (unfolds_record s (.observed l.label event _)) (by simp [reaction])
  | perform command target =>
    simp only [hear, reaction]
    have meant : (s.record (.heard l.label event)).handleOf? emitter target
        = s.handleOf? emitter target := handleOf?_of_named rfl emitter target
    rw [meant]
    split
    · next handle named =>
      refine (recorded.trans (unfolds_command _ handle l event.kind command)).congr fun i => ?_
      rw [operations, reaction]
      simp only [named, Option.some.injEq, only, eq_comm (a := i)]
      rfl
    · next absent =>
      refine recorded.congr fun i => ?_
      rw [operations, reaction]
      simp only [absent]
      rfl

/-- **All who are due are run**, whatever those before them do. -/
theorem unfolds_hearAll (d : Delivery) :
    s.Unfolds d.hearings (s.responses emitter d) (d.due.foldl (hear emitter d.event) s) := by
  obtain ⟨event, due⟩ := d
  induction due generalizing s with
  | nil => exact .refl s
  | cons l rest ih =>
    have first := unfolds_hear s emitter event l
    refine (first.trans (ih (hear emitter event s l))).congr fun i => ?_
    -- no operation changes whom the listeners after it mean
    rw [responses_congr first.named first.runtime]
    rfl

theorem unfolds_perform (e : Effect) :
    s.Unfolds (e.delivery?.toList.flatMap Delivery.hearings)
      (fun i => e.delivery?.toList.flatMap fun d => s.responses emitter d i)
      (perform emitter s e) := by
  cases e with
  | deliver g event due =>
    have heard := unfolds_hearAll s emitter { event, due }
    simpa only [Effect.delivery?, Option.toList_some, List.flatMap_singleton, perform] using heard
  | log entry => exact unfolds_report s _
  | checked gate isOpen => exact unfolds_record s (.checked gate isOpen)
  | validated params => exact unfolds_record s (.validated params)
  | ask id => exact .of_eq rfl rfl rfl rfl
  | sleep id delay => exact .of_eq rfl rfl rfl rfl
  | wake id => exact unfolds_enqueue s _
  | call id method args =>
    unfold perform
    simp only
    split <;> exact .of_eq rfl rfl rfl rfl

/-- What is performed for an attempt: those are run who are due, and nobody else. -/
theorem unfolds_performAll (effects : List Effect) :
    s.Unfolds ((effects.filterMap Effect.delivery?).flatMap Delivery.hearings)
      (fun i => (effects.filterMap Effect.delivery?).flatMap fun d => s.responses emitter d i)
      (effects.foldl (perform emitter) s) := by
  induction effects generalizing s with
  | nil => exact .refl s
  | cons e rest ih =>
    have first := unfolds_perform s emitter e
    have all := first.trans (ih (perform emitter s e))
    simp only [responses_congr first.named first.runtime] at all
    rw [List.foldl_cons, List.filterMap_cons]
    cases told : e.delivery? with
    | none => simpa only [told, Option.toList_none, List.flatMap_nil, List.nil_append] using all
    | some d =>
      simpa only [told, Option.toList_some, List.flatMap_cons, List.flatMap_nil,
        List.append_nil] using all

end Listeners

/-! ### Turns and steps -/

/-- What is handed out in a step, and by which resource. -/
def dispatches (s : Session) : Step → List (Nat × Delivery)
  | .turn place =>
    match s.ready[place]? with
    | some (.attempt handle id signal) =>
      match s.resources[handle]? with
      | some r => (r.deliveries (.advance s.moment id signal)).map fun d => (handle, d)
      | none => []
    | _ => []
  | _ => []

/-- The move of the resource in a turn, if it is the turn of one of its attempts. -/
def movesOf (s : Session) (handle place : Nat) : List Action :=
  match s.ready[place]? with
  | some (.attempt h id signal) => only h [.advance s.moment id signal] handle
  | _ => []

/-- What happens to a resource in a step. After the move of a turn come the operations of those who
are due. -/
def happenings (s : Session) (handle : Nat) : Step → List Action
  | .turn place =>
    s.movesOf handle place
      ++ (s.dispatches (.turn place)).flatMap fun x => s.responses x.1 x.2 handle
  | .fetch h => only h (s.starts none) handle
  | .spawn h override => only h (s.starts override) handle
  | .cancel h => only h [.cancel] handle
  | .reset h => only h [.reset] handle
  | .retire h => only h [.retire] handle
  | .update h config => only h (s.revises h config) handle
  | .listen h kind once listener => only h [.listen kind once listener] handle
  | _ => []

section Steps

variable (s : Session) {handle : Nat} {r : LiveResource}

theorem unfolds_waiter (n : Nat) : s.Unfolds [] (fun _ => []) (s.run (.waiter n)) := by
  simp only [run]
  split
  · exact .refl s
  · split
    · exact .refl s
    · split
      · exact unfolds_record s (.reached _ _ _)
      · exact .of_eq rfl rfl rfl rfl

variable {s} in
/-- **What the turn of an attempt comes to**: it makes its move, those are run who are due, and the
operations that they perform are all that happens besides. -/
theorem unfolds_attempt {place id : Nat} {signal : Signal}
    (job : s.ready[place]? = some (.attempt handle id signal))
    (there : s.resources[handle]? = some r) :
    s.Unfolds ((r.deliveries (.advance s.moment id signal)).flatMap Delivery.hearings)
      (fun i => only handle [.advance s.moment id signal] i
        ++ (r.deliveries (.advance s.moment id signal)).flatMap fun d => s.responses handle d i)
      (s.turn place) := by
  have taken : s.Unfolds [] (fun _ => []) { s with ready := s.ready.eraseIdx place } :=
    .of_eq rfl rfl rfl rfl
  have stored := taken.trans (unfolds_store (s := { s with ready := s.ready.eraseIdx place }) there
    (.advance s.moment id signal))
  have performed := stored.trans (unfolds_performAll _ handle (r.advance s.moment id signal).2)
  simp only [responses_congr stored.named stored.runtime] at performed
  rw [turn_eq job there]
  exact performed

/-- What a turn comes to. -/
theorem unfolds_turn (place : Nat) :
    s.Unfolds ((s.dispatches (.turn place)).flatMap fun x => x.2.hearings)
      (fun i => s.happenings i (.turn place)) (s.turn place) := by
  have taken : s.Unfolds [] (fun _ => []) { s with ready := s.ready.eraseIdx place } :=
    .of_eq rfl rfl rfl rfl
  cases job : s.ready[place]? with
  | none =>
    simp only [turn, happenings, dispatches, movesOf, job]
    exact .refl s
  | some j =>
    cases j with
    | waiter n =>
      simp only [turn, happenings, dispatches, movesOf, job]
      exact taken.trans (unfolds_waiter _ n)
    | attempt h id signal =>
      cases there : s.resources[h]? with
      | none =>
        simp only [turn, run, happenings, dispatches, movesOf, job, there]
        exact (taken.trans (unfolds_absent (s := { s with ready := s.ready.eraseIdx place }) there
          [.advance s.moment id signal])).congr fun i => List.append_nil _
      | some r =>
        simp only [happenings, dispatches, movesOf, job, there, List.flatMap_map]
        exact unfolds_attempt job there

/-- **What a step comes to**, unless a resource is made. -/
theorem unfolds_step {step : Step} (other : ∀ name config, step ≠ .create name config) :
    s.Unfolds ((s.dispatches step).flatMap fun x => x.2.hearings)
      (fun i => s.happenings i step) (s.step step) := by
  cases step with
  | turn place => exact unfolds_turn s place
  | create name config => exact absurd rfl (other name config)
  | fetch h => exact unfolds_fetch s h
  | spawn h override => exact unfolds_spawn s h override
  | cancel h => exact unfolds_cancel s h
  | reset h => exact unfolds_reset s h
  | retire h => exact unfolds_retire s h
  | update h config => exact unfolds_update s h config
  | listen h kind once listener => exact unfolds_listen s h kind once listener
  | resolve call reply =>
    simp only [Session.step, resolve]
    split <;> exact .of_eq rfl rfl rfl rfl
  | release slot message =>
    simp only [Session.step, release]
    split <;> exact .of_eq rfl rfl rfl rfl
  | await h state =>
    simp only [Session.step, await]
    split <;> exact .of_eq rfl rfl rfl rfl
  | elapse | setGate | push => exact .of_eq rfl rfl rfl rfl

/-- In a step those are run who are due, and nobody else. -/
theorem hearings_step (step : Step) :
    (s.step step).hearings
      = s.hearings ++ (s.dispatches step).flatMap fun x => x.2.hearings := by
  by_cases made : ∃ name config, step = .create name config
  · obtain ⟨name, config, rfl⟩ := made
    refine Eq.trans ?_ (List.append_nil _).symm
    simp only [Session.step]
    cases created : s.create name config with
    | error e => rfl
    | ok x =>
      have told : x.1.hearings = s.hearings := by
        rw [(create_ok created).2.2]
        rfl
      exact told
  · exact (unfolds_step s fun name config same => made ⟨name, config, same⟩).hearings

variable {s}

/-- A step does to a resource what it is said to do. -/
theorem resources_step (there : s.resources[handle]? = some r) (step : Step) :
    (s.step step).resources[handle]? = some (r.after (s.happenings handle step)) := by
  by_cases made : ∃ name config, step = .create name config
  · obtain ⟨name, config, rfl⟩ := made
    simp only [Session.step]
    cases created : s.create name config with
    | error e => exact there
    | ok x =>
      obtain ⟨-, -, same⟩ := create_ok created
      exact (congrArg (·.resources[handle]?) same).trans (getElem?_append_of_some there _)
  · rw [(unfolds_step s fun name config same => made ⟨name, config, same⟩).resources, there]
    rfl

/-- A resource that comes to be there in a step is a new one. -/
theorem fresh_step (absent : s.resources[handle]? = none) {step : Step}
    (there : (s.step step).resources[handle]? = some r) :
    ∃ name config, r = .fresh name config := by
  by_cases made : ∃ name config, step = .create name config
  · obtain ⟨name, config, rfl⟩ := made
    simp only [Session.step] at there
    cases created : s.create name config with
    | error e =>
      rw [created] at there
      cases absent.symm.trans there
    | ok x =>
      obtain ⟨s', h⟩ := x
      obtain ⟨-, -, same⟩ := create_ok created
      rw [created] at there
      refine ⟨name, config, ?_⟩
      change s'.resources[handle]? = some r at there
      rw [same, List.getElem?_append_right (List.getElem?_eq_none_iff.1 absent)] at there
      exact List.mem_singleton.1 (List.mem_of_getElem? there)
  · rw [(unfolds_step s fun name config same => made ⟨name, config, same⟩).resources,
      absent] at there
    cases there

end Steps

/-! ### Runs -/

/-- What is handed out in a run, and by which resource. -/
def dispatched (s : Session) : List Step → List (Nat × Delivery)
  | [] => []
  | step :: rest => s.dispatches step ++ (s.step step).dispatched rest

/-- What happens to a resource in a run, from the moment at which it is there. -/
def history (s : Session) (handle : Nat) : List Step → List Action
  | [] => []
  | step :: rest =>
    (if handle < s.resources.length then s.happenings handle step else [])
      ++ (s.step step).history handle rest

/-- What a resource hands out. -/
def toldBy (handle : Nat) (told : List (Nat × Delivery)) : List Delivery :=
  (told.filter (·.1 = handle)).map (·.2)

section Runs

variable {s : Session} {handle : Nat} {r : LiveResource}

theorem toldBy_append (handle : Nat) (first second : List (Nat × Delivery)) :
    toldBy handle (first ++ second) = toldBy handle first ++ toldBy handle second := by
  rw [toldBy, List.filter_append, List.map_append, toldBy, toldBy]

/-- What one resource hands out. -/
theorem toldBy_map (handle h : Nat) (ds : List Delivery) :
    toldBy handle (ds.map fun d => (h, d)) = if h = handle then ds else [] := by
  by_cases same : h = handle
  · simp [toldBy, same, List.filter_map, Function.comp_def]
  · simp [toldBy, same]

theorem external_only {actions : List Action} (external : ∀ a ∈ actions, a.External)
    (handle h : Nat) : ∀ a ∈ only h actions handle, a.External := by
  rw [only]
  split
  · exact external
  · exact List.forall_mem_nil _

/-- A resource hands out in a step what it is said to hand out. -/
theorem deliveries_happenings (there : s.resources[handle]? = some r) (step : Step) :
    LiveResource.along LiveResource.deliveries r (s.happenings handle step)
      = toldBy handle (s.dispatches step) := by
  have operation {h : Nat} {actions : List Action} (external : ∀ a ∈ actions, a.External) :
      LiveResource.along LiveResource.deliveries r (only h actions handle) = toldBy handle [] :=
    LiveResource.along_deliveries_external (external_only external handle h) r
  cases step with
  | turn place =>
    have responses (told : List (Nat × Delivery)) (x : LiveResource) :
        LiveResource.along LiveResource.deliveries x
          (told.flatMap fun y => s.responses y.1 y.2 handle) = [] :=
      LiveResource.along_deliveries_external
        (List.forall_mem_flatMap.2 fun y _ => external_responses s y.1 y.2 handle) x
    rw [happenings, LiveResource.along_append, responses, List.append_nil]
    cases job : s.ready[place]? with
    | none =>
      simp only [movesOf, dispatches, job]
      rfl
    | some j =>
      cases j with
      | waiter n =>
        simp only [movesOf, dispatches, job]
        rfl
      | attempt h id signal =>
        simp only [movesOf, dispatches, job, only]
        by_cases same : handle = h
        · subst same
          rw [if_pos rfl, there, toldBy_map, if_pos rfl, LiveResource.along]
          exact List.append_nil _
        · rw [if_neg same]
          cases s.resources[h]? with
          | none => rfl
          | some x => exact (toldBy_map handle h _).symm ▸ (if_neg (Ne.symm same)).symm
  | fetch h => exact operation (external_starts s none)
  | spawn h override => exact operation (external_starts s override)
  | update h config =>
    refine operation (List.forall_mem_cons.2 ⟨trivial, ?_⟩)
    split
    · exact external_starts s none
    · exact List.forall_mem_nil _
  | cancel | reset | retire | listen => exact operation (by simp [Action.External])
  | _ => rfl

/-- **Those are run in a run who are due, in the order in which they are, and nobody else.** -/
theorem hearings_after (s : Session) (steps : List Step) :
    (s.after steps).hearings
      = s.hearings ++ (s.dispatched steps).flatMap fun x => x.2.hearings := by
  induction steps generalizing s with
  | nil => exact (List.append_nil _).symm
  | cons step rest ih =>
    change ((s.step step).after rest).hearings = _
    rw [ih, hearings_step, dispatched, List.flatMap_append, List.append_assoc]

/-- **What a run does to a resource** that is there. -/
theorem resources_after (there : s.resources[handle]? = some r) (steps : List Step) :
    (s.after steps).resources[handle]? = some (r.after (s.history handle steps)) ∧
      LiveResource.along LiveResource.deliveries r (s.history handle steps)
        = toldBy handle (s.dispatched steps) := by
  induction steps generalizing s r with
  | nil => exact ⟨there, rfl⟩
  | cons step rest ih =>
    obtain ⟨left, told⟩ := ih (resources_step there step)
    rw [history, if_pos (List.getElem?_eq_some_iff.1 there).1, dispatched, toldBy_append,
      LiveResource.after_append, LiveResource.along_append, deliveries_happenings there, told]
    exact ⟨left, rfl⟩

/-- A resource that is not there hands out nothing. -/
theorem toldBy_absent (absent : s.resources[handle]? = none) (step : Step) :
    toldBy handle (s.dispatches step) = [] := by
  cases step with
  | turn place =>
    rw [dispatches]
    split
    · next h id signal _ =>
      split
      · next x there =>
        rw [toldBy_map, if_neg]
        rintro rfl
        cases absent.symm.trans there
      · rfl
    · rfl
  | _ => rfl

/-- **The past of a resource** that comes to be there in a run. -/
theorem past_after (absent : s.resources[handle]? = none) {steps : List Step}
    (there : (s.after steps).resources[handle]? = some r) :
    ∃ name config, r = (LiveResource.fresh name config).after (s.history handle steps) ∧
      LiveResource.along LiveResource.deliveries (.fresh name config) (s.history handle steps)
        = toldBy handle (s.dispatched steps) := by
  induction steps generalizing s with
  | nil => cases absent.symm.trans there
  | cons step rest ih =>
    have still : ¬ handle < s.resources.length := by
      simpa using List.getElem?_eq_none_iff.1 absent
    rw [history, if_neg still, List.nil_append, dispatched, toldBy_append,
      toldBy_absent absent, List.nil_append]
    cases now : (s.step step).resources[handle]? with
    | none => exact ih now there
    | some x =>
      obtain ⟨name, config, rfl⟩ := fresh_step absent now
      obtain ⟨left, told⟩ := resources_after now rest
      exact ⟨name, config, Option.some.inj (there.symm.trans left), told⟩

end Runs

/-! ### The statement -/

/-- **Exact delivery.** In every run of a session, those listeners are run that are due when an
outcome is applied, each of them once, in order and with the event, and nobody else. In a turn, all
that are due are run whatever they do, and besides the move nothing happens to a resource but the
operations that they perform on it. Who is due is what the past of the resource makes of the
registrations. -/
theorem delivery_exact {s : Session} (vacant : s.Vacant) (steps : List Step) :
    ((s.after steps).hearings
      = s.hearings ++ (s.dispatched steps).flatMap fun x => x.2.hearings) ∧
    (∀ place handle id signal live,
      (s.after steps).ready[place]? = some (.attempt handle id signal) →
      (s.after steps).resources[handle]? = some live →
      let now := s.after steps
      let told := live.deliveries (.advance now.moment id signal)
      (now.turn place).hearings = now.hearings ++ told.flatMap Delivery.hearings ∧
      ∀ (other : Nat) (r : LiveResource), now.resources[other]? = some r →
        (now.turn place).resources[other]? = some (r.after
          (only handle [.advance now.moment id signal] other
            ++ told.flatMap fun d => now.responses handle d other))) ∧
    (∀ handle live, (s.after steps).resources[handle]? = some live →
      ∃ name config, live = (LiveResource.fresh name config).after (s.history handle steps) ∧
        LiveResource.along LiveResource.deliveries (.fresh name config) (s.history handle steps)
          = toldBy handle (s.dispatched steps)) ∧
    ∀ name config past, LiveResource.Registered name config past := by
  refine ⟨hearings_after s steps, ?_, fun handle live there => ?_,
    LiveResource.registered_after⟩
  · intro place handle id signal live job there now told
    have turned := unfolds_attempt job there
    refine ⟨turned.hearings, fun other r hr => ?_⟩
    rw [turned.resources, hr]
    rfl
  · have absent : s.resources[handle]? = none := by rw [vacant.resources]; rfl
    exact past_after absent there

/-- A config with two listeners, one that fails and one that panics and runs once. -/
def faulty : Config :=
  { method := "list"
    listeners :=
      { success := [⟨{ label := "hook", reaction := .fail "no" }, false⟩,
          ⟨{ label := "first", reaction := .panic none }, true⟩] } }

/-- Two fetches one after the other. A listener that runs once registers another one, and a second
one starts the second fetch. -/
def twoRounds : List Step :=
  [.create "tickets" faulty,
    .listen 0 .success true { label := "once", reaction := .perform .register .emitter },
    .listen 0 .success false { label := "again", reaction := .perform .fetch .emitter },
    .listen 0 .error false { label := "quiet" },
    .fetch 0, .turn 0, .resolve 0 (.ok .null), .turn 0,
    .turn 0, .resolve 1 (.ok (.bool true)), .turn 0]

/-- The listener that is registered in the first round hears of the second one only, and those that
run once hear of the first one only. -/
theorem tickets_heard :
    ((({} : Session).after twoRounds).hearings
      = ["hook", "first", "once", "again"].map (fun label => ⟨label, .success .null⟩)
        ++ ["hook", "again", "once+"].map fun label => ⟨label, .success (.bool true)⟩) ∧
    ∃ live name config, (({} : Session).after twoRounds).resources[0]? = some live ∧
      live = (LiveResource.fresh name config).after (({} : Session).history 0 twoRounds) ∧
      (live.own .success).map (·.listener.label) = ["again", "once+"] ∧
      (live.ofConfig .success).map (·.listener.label) = ["hook"] := by
  obtain ⟨heard, -, past, -⟩ := delivery_exact (s := {}) ⟨rfl, rfl, rfl, rfl⟩ twoRounds
  obtain ⟨name, config, same, -⟩ := past 0 _ rfl
  exact ⟨heard, _, name, config, rfl, same, rfl, rfl⟩

end Session

end ReactiveResource
