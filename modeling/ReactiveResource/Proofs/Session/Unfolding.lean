import ReactiveResource.Proofs.Session.Run

/-!
# What operations come to

Every operation on a resource comes to a few actions on that one, and runs no listener. The names
and the runtime stay as they are.

* `Hearing`, `Session.hearings`: the listeners that have been run, with their events;
* `Session.Unfolds`: which listeners have been run, and what has happened to each resource;
* `unfolds_fetch`, `unfolds_update` and so on: a lemma for each operation.
-/

namespace ReactiveResource

/-- A listener has been run: its label, and the event that it has been given. -/
structure Hearing where
  label : String
  event : Event

/-- The listener that has been run, if the occurrence tells of one. -/
def Occurrence.hearing? : Occurrence → Option Hearing
  | .heard label event | .observed label event _ => some { label, event }
  | _ => none

namespace Session

/-- The listeners that have been run so far, in order. -/
def hearings (s : Session) : List Hearing := s.occurrences.filterMap Occurrence.hearing?

/-- Actions on one resource only. -/
def only (handle : Nat) (actions : List Action) (other : Nat) : List Action :=
  if other = handle then actions else []

theorem only_append (handle : Nat) (first second : List Action) (other : Nat) :
    only handle (first ++ second) other = only handle first other ++ only handle second other := by
  rw [only, only, only]
  split <;> rfl

/-- A fetch is started if there is a runtime. -/
def starts (s : Session) (override : Option Params) : List Action :=
  if s.hasRuntime then [.spawn override] else []

/-! ### What has come of a session -/

/-- The session has come to be another one: these listeners have been run, each resource has
undergone these actions, and there are no others. -/
structure Unfolds (s : Session) (heard : List Hearing) (actions : Nat → List Action)
    (s' : Session) : Prop where
  hearings : s'.hearings = s.hearings ++ heard
  resources : ∀ h, s'.resources[h]? = s.resources[h]?.map (LiveResource.after · (actions h))
  named : s'.named = s.named
  runtime : s'.hasRuntime = s.hasRuntime

section Unfolds

variable {s s' s'' : Session} {heard heard' : List Hearing} {actions actions' : Nat → List Action}
  {handle : Nat} {r : LiveResource}

theorem Unfolds.of_eq (occurrences : s'.occurrences = s.occurrences)
    (resources : s'.resources = s.resources) (named : s'.named = s.named)
    (runtime : s'.hasRuntime = s.hasRuntime) : s.Unfolds [] (fun _ => []) s' where
  hearings := by rw [Session.hearings, occurrences, List.append_nil, Session.hearings]
  resources h := by
    rw [resources]
    cases s.resources[h]? <;> rfl
  named := named
  runtime := runtime

theorem Unfolds.refl (s : Session) : s.Unfolds [] (fun _ => []) s := .of_eq rfl rfl rfl rfl

theorem Unfolds.trans (h : s.Unfolds heard actions s') (h' : s'.Unfolds heard' actions' s'') :
    s.Unfolds (heard ++ heard') (fun i => actions i ++ actions' i) s'' where
  hearings := by rw [h'.hearings, h.hearings, List.append_assoc]
  resources i := by
    rw [h'.resources, h.resources]
    cases s.resources[i]? with
    | none => rfl
    | some r => exact congrArg some (LiveResource.after_append r _ _).symm
  named := h'.named.trans h.named
  runtime := h'.runtime.trans h.runtime

theorem Unfolds.congr (h : s.Unfolds heard actions s') (same : ∀ i, actions' i = actions i) :
    s.Unfolds heard actions' s' := funext same ▸ h

theorem unfolds_record (s : Session) (o : Occurrence) :
    s.Unfolds o.hearing?.toList (fun _ => []) (s.record o) where
  hearings := by
    rw [record, hearings, List.filterMap_append, hearings]
    cases o <;> rfl
  resources h := (Unfolds.refl s).resources h
  named := rfl
  runtime := rfl

theorem unfolds_report (s : Session) (entries : List LogEntry) :
    s.Unfolds [] (fun _ => []) (s.report entries) := .of_eq rfl rfl rfl rfl

theorem unfolds_enqueue (s : Session) (job : Job) : s.Unfolds [] (fun _ => []) (s.enqueue job) :=
  .of_eq rfl rfl rfl rfl

/-- Actions that leave the resource as it is, if it is there. -/
theorem unfolds_idle {actions : List Action}
    (idle : ∀ r, s.resources[handle]? = some r → r.after actions = r) :
    s.Unfolds [] (only handle actions) s where
  hearings := (List.append_nil _).symm
  resources h := by
    by_cases same : h = handle
    · subst same
      rw [only, if_pos rfl]
      cases there : s.resources[h]? with
      | none => rfl
      | some r => exact congrArg some (idle r there).symm
    · rw [only, if_neg same]
      exact (Unfolds.refl s).resources h
  named := rfl
  runtime := rfl

theorem unfolds_absent (absent : s.resources[handle]? = none) (actions : List Action) :
    s.Unfolds [] (only handle actions) s :=
  unfolds_idle fun r there => by rw [absent] at there; cases there

/-- An action happens to a resource. -/
theorem unfolds_store (there : s.resources[handle]? = some r) (a : Action) :
    s.Unfolds [] (only handle [a]) (s.store handle (r.act a).1) where
  hearings := by rw [hearings, occurrences_store, List.append_nil, hearings]
  resources h := by
    by_cases same : h = handle
    · subst same
      rw [resources_store_self s h _ there, there, only, if_pos rfl]
      rfl
    · rw [resources_store_of_ne s handle _ same, only, if_neg same]
      exact (Unfolds.refl s).resources h
  named := named_store s handle _
  runtime := hasRuntime_store s handle _

/-- The other resources stay as they are. -/
theorem Unfolds.elsewhere {actions : List Action} (h : s.Unfolds heard (only handle actions) s')
    {i : Nat} (other : i ≠ handle) : s'.resources[i]? = s.resources[i]? := by
  rw [h.resources, only, if_neg other]
  cases s.resources[i]? <;> rfl

end Unfolds

/-! ### Operations -/

section Operations

variable (s : Session) (handle : Nat)

theorem unfolds_spawn (override : Option Params) :
    s.Unfolds [] (only handle (s.starts override)) (s.spawn handle override) := by
  rw [spawn]
  split
  · next r there runtime =>
    rw [starts, if_pos runtime]
    exact ((unfolds_store there (.spawn override)).trans (unfolds_enqueue _ _)).congr
      fun i => (List.append_nil _).symm
  · next none =>
    cases there : s.resources[handle]? with
    | none => exact unfolds_absent there _
    | some r =>
      have runtime : s.hasRuntime = false := by
        cases h : s.hasRuntime with
        | false => rfl
        | true => exact (none r there h).elim
      rw [starts, if_neg (by simp [runtime])]
      exact (Unfolds.refl s).congr fun i => ite_self _

theorem unfolds_fetch : s.Unfolds [] (only handle (s.starts none)) (s.fetch handle) := by
  rw [fetch]
  split
  · exact unfolds_spawn s handle none
  · next runtime =>
    rw [starts, if_neg runtime]
    have nothing {s' : Session} (h : s.Unfolds [] (fun _ => []) s') :
        s.Unfolds [] (only handle []) s' := h.congr fun i => ite_self _
    split
    · exact nothing (unfolds_report s _)
    · exact nothing (.refl s)

theorem unfolds_cancel : s.Unfolds [] (only handle [.cancel]) (s.cancel handle) := by
  rw [cancel]
  split
  · next r there =>
    exact (unfolds_report s r.cancelReport).trans
      (unfolds_store (s := s.report r.cancelReport) there .cancel)
  · next absent => exact unfolds_absent absent _

/-- An operation that is one action on a resource, if it is there. -/
theorem unfolds_act (a : Action) :
    s.Unfolds [] (only handle [a])
      (match s.resources[handle]? with
        | some r => s.store handle (r.act a).1
        | none => s) := by
  split
  · next there => exact unfolds_store there a
  · next absent => exact unfolds_absent absent _

theorem unfolds_reset : s.Unfolds [] (only handle [.reset]) (s.reset handle) :=
  unfolds_act s handle .reset

theorem unfolds_retire : s.Unfolds [] (only handle [.retire]) (s.retire handle) :=
  unfolds_act s handle .retire

theorem unfolds_listen (kind : EventKind) (once : Bool) (listener : Listener) :
    s.Unfolds [] (only handle [.listen kind once listener])
      (s.listen handle kind once listener) :=
  unfolds_act s handle (.listen kind once listener)

/-- An update is accepted, and a fetch is started after it, as the config says. -/
def renews (config : Config) : Bool :=
  match s.resources[handle]? with
  | none => false
  | some r =>
    match r.resource.update config with
    | .ok updated => config.auto && !updated.retired
    | .error _ => false

/-- What an update does to the resource. An update that is refused changes nothing. -/
def revises (config : Config) : List Action :=
  .update config :: if s.renews handle config then s.starts none else []

theorem unfolds_update (config : Config) :
    s.Unfolds [] (only handle (s.revises handle config))
      ((s.update handle config).toOption.getD s) := by
  cases there : s.resources[handle]? with
  | none =>
    rw [update, there]
    exact unfolds_absent there _
  | some r =>
    cases accepted : r.resource.update config with
    | error e =>
      have refused : (s.update handle config).toOption.getD s = s := by
        simp [update, there, LiveResource.update, accepted, Except.map, Except.toOption]
      have renews : s.renews handle config = false := by
        simp [Session.renews, there, accepted]
      rw [refused, revises, renews]
      refine unfolds_idle fun r' there' => ?_
      cases there.symm.trans there'
      simp [LiveResource.act, LiveResource.update, accepted, Except.map, Except.toOption]
    | ok updated =>
      have renews : s.renews handle config = (config.auto && !updated.retired) := by
        simp [Session.renews, there, accepted]
      have stored : s.Unfolds [] (only handle [.update config])
          (s.store handle { r with resource := updated }) := by
        have stored := unfolds_store there (.update config)
        rw [LiveResource.act, LiveResource.update, accepted] at stored
        exact stored
      rw [update, there, revises, renews]
      simp only [LiveResource.update, accepted, Except.map, Except.toOption, Option.getD_some]
      by_cases renewed : (config.auto && !updated.retired) = true
      · rw [if_pos renewed, if_pos renewed]
        have fetched := unfolds_fetch (s.store handle { r with resource := updated }) handle
        refine (stored.trans fetched).congr fun i => ?_
        rw [starts, starts, stored.runtime, ← only_append]
        rfl
      · rw [if_neg renewed, if_neg renewed]
        exact stored

end Operations

end Session

end ReactiveResource
