import ReactiveResource.Resource.Live

/-!
# Runs of a resource

A run is a list of actions, in the order in which they happen. Fetches may be started at any time,
any attempt may be given any signal at any time, and operations from outside may come in between:
nothing is assumed about a scheduler, and replies may come in any order. Between two of its signals
an attempt is not interrupted. What a listener does to the resource is an action of its own, after
the one that has settled the fetch.

* `Action`, `LiveResource.act`: what happens to a resource, and what comes of it;
* `LiveResource.after`, `LiveResource.along`: the resource after a run, and what is observed along
  the run;
* `LiveResource.fresh`: where every run begins;
* `LiveResource.phase?`: the phase of an attempt, as the operations change it.
-/

namespace ReactiveResource

/-- What happens to a resource. -/
inductive Action where
  /-- A fetch is started, with parameters of its own or those of the config. -/
  | spawn (override : Option Params)
  /-- An attempt is given a signal. -/
  | advance (m : Moment) (id : Nat) (signal : Signal)
  | cancel
  | reset
  | retire
  | update (config : Config)
  /-- A listener is registered, for one event or for all. -/
  | listen (kind : EventKind) (once : Bool) (listener : Listener)

namespace Action

/-- The action is a cancellation or the end of the resource: generations taken so far no longer
count. -/
def Withdraws : Action → Prop
  | .cancel | .retire => True
  | _ => False

/-- The action comes from outside: no attempt moves. -/
def External : Action → Prop
  | .advance .. => False
  | _ => True

end Action

namespace LiveResource

/-- A new resource without fetches. -/
def fresh (name : String) (config : Config) : LiveResource := ofResource (.fresh name config)

/-- The resource after an action, and the effects of the action. An update that is refused changes
nothing. -/
def act (r : LiveResource) : Action → LiveResource × List Effect
  | .spawn override => ((r.spawn override).1, [])
  | .advance m id signal => r.advance m id signal
  | .cancel => (r.cancel, [])
  | .reset => (r.reset, [])
  | .retire => (r.retire, [])
  | .update config => ((r.update config).toOption.getD r, [])
  | .listen kind once listener => (if once then r.once kind listener else r.on kind listener, [])

/-- The resource after a run. -/
def after (r : LiveResource) (actions : List Action) : LiveResource :=
  actions.foldl (fun r a => (r.act a).1) r

@[simp] theorem after_nil (r : LiveResource) : r.after [] = r := rfl

@[simp] theorem after_cons (r : LiveResource) (a : Action) (rest : List Action) :
    r.after (a :: rest) = (r.act a).1.after rest := rfl

theorem after_append (r : LiveResource) (first second : List Action) :
    r.after (first ++ second) = (r.after first).after second := List.foldl_append

theorem after_concat (r : LiveResource) (actions : List Action) (a : Action) :
    r.after (actions ++ [a]) = ((r.after actions).act a).1 := after_append r actions [a]

/-- What is observed at each action of a run, in order. -/
def along {β : Type} (observe : LiveResource → Action → List β) :
    LiveResource → List Action → List β
  | _, [] => []
  | r, a :: rest => observe r a ++ along observe (r.act a).1 rest

theorem along_append {β : Type} (observe : LiveResource → Action → List β) (r : LiveResource)
    (first second : List Action) :
    along observe r (first ++ second)
      = along observe r first ++ along observe (r.after first) second := by
  induction first generalizing r with
  | nil => rfl
  | cons a rest ih => rw [List.cons_append, along, along, ih, List.append_assoc, after_cons]

/-- What holds of a resource and is kept by every action holds after every run. -/
theorem after_induction {motive : LiveResource → Prop} {r : LiveResource} (start : motive r)
    (step : ∀ r a, motive r → motive (r.act a).1) (actions : List Action) :
    motive (r.after actions) := by
  induction actions generalizing r with
  | nil => exact start
  | cons a rest ih => exact ih (step r a start)

/-! ### Phases -/

/-- The phase of an attempt, if there is one of that number. -/
def phase? (r : LiveResource) (id : Nat) : Option Phase := r.attempts[id]?.map (·.phase)

/-- The parameters of an attempt that are used instead of those of the config. -/
def override? (r : LiveResource) (id : Nat) : Option Params := r.attempts[id]?.bind (·.override)

theorem phase?_congr {r r' : LiveResource} (h : r'.attempts = r.attempts) (id : Nat) :
    r'.phase? id = r.phase? id := by rw [phase?, h, phase?]

theorem phase?_setPhase (r : LiveResource) (id : Nat) (p : Phase) (j : Nat) :
    (r.setPhase id p).phase? j = if j = id then (r.phase? id).map fun _ => p else r.phase? j := by
  simp only [phase?, setPhase, List.getElem?_modify]
  split
  · next h => subst h; cases r.attempts[id]? <;> simp
  · next h => simp [Ne.symm h]

/-- The phases after one attempt has changed its phase, whatever else has changed. -/
theorem phase?_of_setPhase {r r' : LiveResource} {id : Nat} {q p : Phase}
    (h : r'.attempts = (r.setPhase id p).attempts) (phase : r.phase? id = some q) (j : Nat) :
    r'.phase? j = if j = id then some p else r.phase? j := by
  rw [phase?_congr h, phase?_setPhase, phase]; rfl

theorem phase?_setPhase_self {r : LiveResource} {id : Nat} {q : Phase} (h : r.phase? id = some q)
    (p : Phase) : (r.setPhase id p).phase? id = some p := by
  rw [phase?_setPhase, if_pos rfl, h]; rfl

theorem phase?_setPhase_of_ne (r : LiveResource) {id j : Nat} (h : j ≠ id) (p : Phase) :
    (r.setPhase id p).phase? j = r.phase? j := by rw [phase?_setPhase, if_neg h]

theorem override?_setPhase (r : LiveResource) (id : Nat) (p : Phase) (j : Nat) :
    (r.setPhase id p).override? j = r.override? j := by
  simp only [override?, setPhase, List.getElem?_modify]
  split
  · cases r.attempts[j]? <;> rfl
  · cases r.attempts[j]? <;> rfl

theorem length_setPhase (r : LiveResource) (id : Nat) (p : Phase) :
    (r.setPhase id p).attempts.length = r.attempts.length := by simp [setPhase]

theorem phase?_spawn (r : LiveResource) (override : Option Params) (j : Nat) :
    (r.spawn override).1.phase? j
      = if j = r.attempts.length then some .spawned else r.phase? j := by
  simp only [phase?, spawn]
  split
  · next h => subst h; simp
  · next h =>
    rcases Nat.lt_or_gt_of_ne h with h | h
    · rw [List.getElem?_append_left h]
    · rw [List.getElem?_eq_none (by simp; omega), List.getElem?_eq_none (by omega)]

theorem lt_length_of_phase? {r : LiveResource} {id : Nat} {p : Phase} (h : r.phase? id = some p) :
    id < r.attempts.length := by
  simp only [phase?, Option.map_eq_some_iff] at h
  obtain ⟨a, ha, -⟩ := h
  exact (List.getElem?_eq_some_iff.1 ha).1

/-- Only a new fetch adds an attempt. -/
theorem attempts_act_external {r : LiveResource} {a : Action} (ha : a.External)
    (old : ∀ override, a ≠ .spawn override) : (r.act a).1.attempts = r.attempts := by
  cases a with
  | advance m id signal => exact ha.elim
  | spawn override => exact absurd rfl (old override)
  | update config =>
    simp only [act, update]
    cases r.resource.update config <;> rfl
  | listen kind once listener => cases once <;> rfl
  | _ => rfl

/-- No attempt moves by an action from outside. -/
theorem phase?_act_external {r : LiveResource} {a : Action} (ha : a.External) {id : Nat}
    {p : Phase} (h : r.phase? id = some p) : (r.act a).1.phase? id = some p := by
  by_cases old : ∀ override, a ≠ .spawn override
  · rw [phase?_congr (attempts_act_external ha old), h]
  · obtain ⟨override, rfl⟩ : ∃ override, a = .spawn override := by simpa using old
    have := lt_length_of_phase? h
    rw [act, phase?_spawn, if_neg (by omega), h]

end LiveResource

end ReactiveResource
