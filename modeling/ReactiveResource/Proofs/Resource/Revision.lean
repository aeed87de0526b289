import ReactiveResource.Proofs.Resource.Generations

/-!
# What the revision tells

Others watch the revision of a resource, and look at the resource again when it has been raised. It
is raised with every change that can be observed but one: an attempt that takes its generation and
has to wait for a verdict on its parameters tells nobody.

* `Resource.observed`, `Resource.Announces`: what can be observed, and that the revision tells of a
  change;
* `Move.announces`: the one move that does not announce what it changes;
* `Orderly.announces_act_iff`: the actions that do;
* `Orderly.state_act`, `state_after`: a change of the state is always announced.
-/

namespace ReactiveResource

namespace Resource

variable {r r' r'' : Resource}

/-- All that can be observed of a resource besides the revision: the snapshot, the failed call and
the parameters of the current fetch. -/
def observed (r : Resource) : Snapshot × Option RemoteError × Option Params :=
  (r.snapshot, r.remoteError, r.currentParams)

/-- The revision is not lowered, and is raised if anything else that can be observed has changed. -/
structure Announces (r r' : Resource) : Prop where
  le : r.revision ≤ r'.revision
  lt : r'.observed ≠ r.observed → r.revision < r'.revision

theorem Announces.refl (r : Resource) : r.Announces r := ⟨Nat.le_refl _, fun h => absurd rfl h⟩

theorem Announces.of_lt (h : r.revision < r'.revision) : r.Announces r' :=
  ⟨Nat.le_of_lt h, fun _ => h⟩

theorem Announces.of_succ (h : r'.revision = r.revision + 1) : r.Announces r' :=
  .of_lt (h ▸ Nat.lt_succ_self _)

theorem Announces.trans (h : r.Announces r') (h' : r'.Announces r'') : r.Announces r'' := by
  refine ⟨Nat.le_trans h.le h'.le, fun changed => ?_⟩
  by_cases same : r'.observed = r.observed
  · exact Nat.lt_of_le_of_lt h.le (h'.lt (same ▸ changed))
  · exact Nat.lt_of_lt_of_le (h.lt same) h'.le

/-- A generation that is taken without a word is not announced. -/
theorem not_announces_raised (r : Resource) (params : Params) :
    ¬ r.Announces (r.raised params) := by
  intro h
  refine Nat.lt_irrefl _ (h.lt fun same => ?_)
  have taken : r.generation + 1 = r.generation := congrArg (·.1.generation) same
  omega

theorem revision_update {config : Config} (h : r.update config = .ok r') :
    r'.revision = r.revision + 1 := by
  rw [update] at h
  split at h
  · cases h
  · split at h
    · cases h
    · split at h <;> cases h <;> rfl

end Resource

namespace LiveResource

variable {r r' : LiveResource} {a : Action}

/-- All that is done from outside is announced. -/
theorem announces_external (ha : a.External) : r.resource.Announces (r.act a).1.resource := by
  cases a with
  | advance => exact ha.elim
  | spawn => exact .refl _
  | cancel | reset | retire => exact .of_succ rfl
  | listen kind once => cases once <;> exact ⟨Nat.le_refl _, fun h => absurd rfl h⟩
  | update config =>
    simp only [act, LiveResource.update]
    cases h : r.resource.update config with
    | error e => exact .refl _
    | ok resource => exact .of_succ (Resource.revision_update h)

theorem announces_after_external {actions : List Action} (ha : ∀ a ∈ actions, a.External) :
    r.resource.Announces (r.after actions).resource := by
  induction actions generalizing r with
  | nil => exact .refl _
  | cons a rest ih =>
    rw [List.forall_mem_cons] at ha
    exact (announces_external ha.1).trans (ih ha.2)

theorem not_mem_wakes_ask (p : PageLock) (id k : Nat) : .ask k ∉ wakes p id := by
  intro mem
  obtain ⟨j, -, hj⟩ := List.mem_map.1 mem
  cases hj

/-- **The one move that is not announced.** A move announces what it changes, or the attempt takes
its generation and asks for a verdict. -/
theorem Move.announces {m : Moment} {id : Nat} {signal : Signal} {effects : List Effect}
    (h : r.Move m id signal r' effects) :
    (r.resource.Announces r'.resource ∧ ∀ k, .ask k ∉ effects) ∨
      (effects = [.ask id] ∧ r'.resource = r.resource.raised (r.paramsFor id)) := by
  cases h with
  | still | queue => exact .inl ⟨.refl _, fun _ => List.not_mem_nil⟩
  | rest => exact .inl ⟨.refl _, fun _ mem => nomatch List.mem_singleton.1 mem⟩
  | leave | discard => exact .inl ⟨.refl _, not_mem_wakes_ask _ _⟩
  | call | accept =>
    exact .inl ⟨.of_succ rfl, fun _ mem => nomatch List.mem_singleton.1 mem⟩
  | ask => exact .inr ⟨rfl, rfl⟩
  | refuse _ _ settles | apply _ _ settles =>
    have raised := (Resource.Settled.of_settle settles).revision
    refine .inl ⟨.of_succ raised, fun k mem => ?_⟩
    exact not_mem_wakes_ask _ _ k ((List.mem_cons.1 mem).resolve_left nofun)

/-- An attempt takes its generation in the action and asks for a verdict on its parameters. -/
def Asks (r : LiveResource) (a : Action) : Prop := ∃ id, .ask id ∈ (r.act a).2

/-- What can be observed after an attempt has asked for a verdict: only the generation and the
parameters have changed. -/
theorem Orderly.raised_of_asks (orderly : r.Orderly) (asks : r.Asks a) :
    ∃ params, (r.act a).1.resource = r.resource.raised params := by
  obtain ⟨k, mem⟩ := asks
  rcases act_cases r a orderly.fence_le with ha | ⟨m, id, signal, -, move⟩
  · rw [effects_external ha] at mem
    cases mem
  · rcases move.announces with ⟨-, none⟩ | ⟨-, raised⟩
    · exact absurd (mem_deeds.2 ⟨mem, rfl⟩) (none k)
    · exact ⟨_, raised⟩

/-- **What is announced.** An action announces what it changes exactly if no attempt asks for a
verdict in it. -/
theorem Orderly.announces_act_iff (orderly : r.Orderly) (a : Action) :
    r.resource.Announces (r.act a).1.resource ↔ ¬ r.Asks a := by
  constructor
  · intro announces asks
    obtain ⟨params, raised⟩ := orderly.raised_of_asks asks
    rw [raised] at announces
    exact r.resource.not_announces_raised params announces
  · intro silent
    rcases act_cases r a orderly.fence_le with ha | ⟨m, id, signal, -, move⟩
    · exact announces_external ha
    · rcases move.announces with ⟨announces, -⟩ | ⟨asked, -⟩
      · exact announces
      · refine absurd ⟨id, (mem_deeds.1 ?_).1⟩ silent
        rw [asked]
        exact List.mem_singleton_self _

/-- A change of the state is announced, whatever the action. -/
theorem Orderly.state_act (orderly : r.Orderly) (a : Action) :
    r.resource.revision ≤ (r.act a).1.resource.revision ∧
      ((r.act a).1.resource.state ≠ r.resource.state →
        r.resource.revision < (r.act a).1.resource.revision) := by
  by_cases asks : r.Asks a
  · obtain ⟨params, raised⟩ := orderly.raised_of_asks asks
    rw [raised]
    exact ⟨Nat.le_refl _, fun changed => absurd rfl changed⟩
  · have announces := (orderly.announces_act_iff a).2 asks
    exact ⟨announces.le, fun changed => announces.lt fun same =>
      changed (congrArg (·.1.state) same)⟩

theorem Orderly.state_after (orderly : r.Orderly) (actions : List Action) :
    r.resource.revision ≤ (r.after actions).resource.revision ∧
      ((r.after actions).resource.state ≠ r.resource.state →
        r.resource.revision < (r.after actions).resource.revision) := by
  induction actions generalizing r with
  | nil => exact ⟨Nat.le_refl _, fun changed => absurd rfl changed⟩
  | cons a rest ih =>
    obtain ⟨le, lt⟩ := orderly.state_act a
    obtain ⟨le', lt'⟩ := ih (orderly.act a)
    refine ⟨Nat.le_trans le le', fun changed => ?_⟩
    by_cases same : (r.act a).1.resource.state = r.resource.state
    · exact Nat.lt_of_le_of_lt le (lt' (same ▸ changed))
    · exact Nat.lt_of_lt_of_le (lt same) le'

end LiveResource

end ReactiveResource
