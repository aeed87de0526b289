import ReactiveResource.Proofs.Resource.Audience
import ReactiveResource.Proofs.Resource.Passage
import ReactiveResource.Proofs.Resource.Prospects

/-!
# Cancelled fetches are undone

As long as none of the fetches that have begun is settled, the resource is what it was before them,
but for its counters and the parameters of the current fetch, and perhaps it loads. It then keeps
the state to fall back to, so that a cancellation leads back, whichever of the fetches have made it
load. Afterwards nothing comes of any of them.

* `Action.Fetches`: fetches begin and go on, and nothing is done from outside;
* `Resource.Restorable`: what is left of a resource while fetches are under way, as each of their
  moves keeps it (`Move.restorable`), and so does a run of them (`Orderly.restorable_after`);
* `Resource.fencedOff`, `Resource.Restorable.cancel`: a cancellation leads back;
* `Idle.unchanged_after`: attempts of which nothing may come change nothing along a run;
* `cancel_undoes_fetches`: both together.
-/

namespace ReactiveResource

/-- A fetch is started, or an attempt is given a signal. -/
def Action.Fetches : Action → Prop
  | .spawn _ | .advance .. => True
  | _ => False

/-- An attempt is given a signal. -/
def Action.Advances : Action → Prop
  | .advance .. => True
  | _ => False

namespace Resource

/-- The resource is as it is given first, but for its counters and the parameters of the current
fetch, unless it loads: then it falls back to the state that it had. -/
def Restorable (r₀ r : Resource) : Prop :=
  ∃ generation params state settled revision,
    r = { r₀ with generation, currentParams := params, state, settled, revision } ∧
      (state = r₀.state ∧ settled = r₀.settled ∨ state = .loading ∧ settled = r₀.state)

/-- The same resource, with more generations taken and all of them fenced off. -/
def fencedOff (r : Resource) (generation revision : Nat) : Resource :=
  { r with generation, fence := generation, epoch := r.epoch + 1, revision }

variable {r₀ r : Resource}

theorem Restorable.refl (r : Resource) : r.Restorable r := ⟨_, _, _, _, _, rfl, .inl ⟨rfl, rfl⟩⟩

/-- A generation is taken. -/
theorem Restorable.raised (h : r₀.Restorable r) (params : Params) :
    r₀.Restorable (r.raised params) := by
  obtain ⟨_, _, _, _, _, rfl, fallback⟩ := h
  exact ⟨_, _, _, _, _, rfl, fallback⟩

/-- A fetch makes the resource load, whether it has loaded before or not. -/
theorem Restorable.beginLoading (h : r₀.Restorable r) (rest : r₀.state ≠ .loading) :
    r₀.Restorable r.beginLoading.notify := by
  obtain ⟨_, _, _, _, _, rfl, ⟨rfl, rfl⟩ | ⟨rfl, rfl⟩⟩ := h
  · refine ⟨_, _, _, _, _, rfl, .inr ⟨rfl, ?_⟩⟩
    exact if_neg (by simpa using rest)
  · exact ⟨_, _, _, _, _, rfl, .inr ⟨rfl, rfl⟩⟩

/-- A cancellation leads back, but for the counters. -/
theorem Restorable.cancel (h : r₀.Restorable r) (rest : r₀.state ≠ .loading)
    (settled : r₀.settled = r₀.state) (params : r₀.currentParams = none) :
    ∃ generation revision, r.cancel = r₀.fencedOff generation revision := by
  obtain ⟨generation, _, _, _, revision, rfl, fallback⟩ := h
  refine ⟨generation, revision + 1, ?_⟩
  rcases fallback with ⟨rfl, rfl⟩ | ⟨rfl, rfl⟩
  · simp [Resource.cancel, fenceInFlight, notify, fencedOff, rest, params]
  · simp [Resource.cancel, fenceInFlight, notify, fencedOff, settled, params]

end Resource

namespace LiveResource

variable {r r' : LiveResource} {m : Moment} {id : Nat} {signal : Signal} {effects : List Effect}

/-! ### Fetches are under way -/

/-- A move that applies no outcome leaves the way back open. -/
theorem Move.restorable {r₀ : Resource} (h : r.Move m id signal r' effects)
    (rest : r₀.state ≠ .loading) (restorable : r₀.Restorable r.resource)
    (unsettled : effects.filterMap Effect.delivery? = []) : r₀.Restorable r'.resource := by
  cases h with
  | ask => exact restorable.raised _
  | call => exact (restorable.raised _).beginLoading rest
  | accept => exact restorable.beginLoading rest
  | refuse => cases unsettled
  | apply => cases unsettled
  | still => exact restorable
  | leave => exact restorable
  | queue => exact restorable
  | rest => exact restorable
  | discard => exact restorable

theorem Orderly.restorable_act {r₀ : Resource} (orderly : r.Orderly) (rest : r₀.state ≠ .loading)
    (restorable : r₀.Restorable r.resource) {a : Action} (fetches : a.Fetches)
    (unsettled : r.deliveries a = []) : r₀.Restorable (r.act a).1.resource := by
  cases a with
  | spawn => exact restorable
  | advance m id signal =>
    rw [deliveries_eq] at unsettled
    exact (advance_move orderly.fence_le signal).restorable rest restorable unsettled
  | _ => exact fetches.elim

theorem Orderly.restorable_after {r₀ : Resource} (orderly : r.Orderly)
    (rest : r₀.state ≠ .loading) (restorable : r₀.Restorable r.resource) {actions : List Action}
    (fetches : ∀ a ∈ actions, a.Fetches) (unsettled : along deliveries r actions = []) :
    r₀.Restorable (r.after actions).resource := by
  induction actions generalizing r with
  | nil => exact restorable
  | cons a actions ih =>
    rw [List.forall_mem_cons] at fetches
    obtain ⟨here, later⟩ := List.append_eq_nil_iff.1 unsettled
    exact ih (orderly.act a) (orderly.restorable_act rest restorable fetches.1 here) fetches.2 later

/-- A resource whose attempts have all come to their end is at rest: it does not load, and there is
no current fetch. -/
theorem Coherent.rest_of_finished (coherent : r.Coherent)
    (finished : ∀ id p, r.phase? id = some p → ∃ ending, p = .finished ending) :
    r.resource.state ≠ .loading ∧ r.resource.settled = r.resource.state ∧
      r.resource.currentParams = none := by
  have noneUnderway {id g : Nat} : ¬ r.Underway id g := by
    rintro ⟨p, t, phase, ticket, -⟩
    obtain ⟨ending, rfl⟩ := finished id p phase
    cases ticket
  have rest : r.resource.state ≠ .loading := fun loading => by
    obtain ⟨id, underway, -⟩ := coherent.awaited loading
    exact noneUnderway underway
  refine ⟨rest, coherent.settled_eq rest, ?_⟩
  refine Option.eq_none_iff_forall_ne_some.2 fun ps current => ?_
  obtain ⟨id, t, leads, -⟩ := (coherent.params ps).1 current
  exact noneUnderway leads.underway

theorem remaining_mem {p : Phase} (phase : r.phase? id = some p) :
    p.remaining ∈ r.attempts.map (·.phase.remaining) := by
  obtain ⟨a, place, rfl⟩ := Option.map_eq_some_iff.1 phase
  exact List.mem_map_of_mem (List.mem_of_getElem? place)

/-! ### Nothing comes of them -/

/-- Attempts of which nothing may come change nothing along a run, and nobody hears of them. -/
theorem Idle.unchanged_after (idle : r.Idle) (orderly : r.Orderly) {actions : List Action}
    (advances : ∀ a ∈ actions, a.Advances) :
    (r.after actions).resource = r.resource ∧ along calls r actions = [] ∧
      along deliveries r actions = [] := by
  induction actions generalizing r with
  | nil => exact ⟨rfl, rfl, rfl⟩
  | cons a actions ih =>
    rw [List.forall_mem_cons] at advances
    cases a with
    | advance m id signal =>
      have move : r.Move m id signal (r.act (.advance m id signal)).1
        (deeds (r.act (.advance m id signal)).2) := advance_move orderly.fence_le signal
      obtain ⟨same, silent, quiet, -⟩ := move.of_idle (idle id)
      have untold : (deeds (r.act (.advance m id signal)).2).filterMap Effect.delivery? = [] := by
        rw [List.filterMap_eq_nil_iff] at quiet ⊢
        intro e mem
        cases e with
        | deliver => cases quiet _ mem
        | _ => rfl
      obtain ⟨same', silent', untold'⟩ :=
        ih (idle.move orderly move).2 (orderly.act _) advances.2
      refine ⟨same'.trans same, ?_, ?_⟩
      · rw [along, calls_eq, silent, silent']
        rfl
      · rw [along, deliveries_eq, untold, untold']
        rfl
    | _ => exact advances.1.elim

/-- **A cancellation undoes the fetches that it fences off.** After any run that has left no attempt
unfinished, let fetches begin and go on, in any order and into any phase, as long as none is
settled, and then cancel them. But for its counters the resource is the one from before these
fetches, and it stays as it is whatever the attempts are told afterwards, without a call and without
a word to its listeners. -/
theorem cancel_undoes_fetches (name : String) (config : Config) (earlier begun : List Action)
    (finished : ∀ id p, ((fresh name config).after earlier).phase? id = some p →
      ∃ ending, p = .finished ending)
    (fetches : ∀ a ∈ begun, a.Fetches)
    (unsettled : along deliveries ((fresh name config).after earlier) begun = [])
    (started : ∀ id, (((fresh name config).after earlier).after begun).phase? id
      ≠ some .spawned) :
    let before := (fresh name config).after earlier
    let cancelled := before.after (begun ++ [.cancel])
    (∃ generation revision, cancelled.resource = before.resource.fencedOff generation revision) ∧
    ∀ later, (∀ a ∈ later, a.Advances) →
      (cancelled.after later).resource = cancelled.resource ∧ along calls cancelled later = [] ∧
        along deliveries cancelled later = [] := by
  intro before cancelled
  have arises : before.Arises := ⟨name, config, earlier, rfl⟩
  have ended : cancelled = ((before.after begun).act .cancel).1 := after_concat before begun .cancel
  obtain ⟨rest, settled, params⟩ := arises.coherent.rest_of_finished finished
  have restorable : before.resource.Restorable (before.after begun).resource :=
    arises.orderly.restorable_after rest (.refl _) fetches unsettled
  have idle : cancelled.Idle := by
    rw [ended, idle_act_iff (a := .cancel) (arises.after begun) trivial]
    exact .inr started
  refine ⟨?_, fun later advances => ?_⟩
  · rw [ended]
    exact restorable.cancel rest settled params
  · exact idle.unchanged_after (arises.after _).orderly advances

/-- After a fetch that has failed, one more rests before its outcome, one waits for its reply and
one for a verdict on its parameters. Once they are cancelled the failure is shown again, and it
still is when all three have come to their end. -/
theorem failure_shown_again :
    let m : Moment := { now := 7, isOpen := fun _ => true }
    let config : Config :=
      { method := "list", validator := some .held, delay := some (.ofMillis 5) }
    let earlier : List Action :=
      [.spawn none, .advance m 0 .go, .advance m 0 (.verdict none),
        .advance m 0 (.reply (.err (.ofMessage "down"))), .advance m 0 .elapsed]
    let begun : List Action :=
      [.spawn none, .spawn none, .spawn none, .advance m 1 .go, .advance m 1 (.verdict none),
        .advance m 1 (.reply (.ok (.int 1))), .advance m 2 .go, .advance m 2 (.verdict none),
        .advance m 3 .go]
    let later : List Action :=
      [.advance m 3 (.verdict (some "no such team")), .advance m 2 (.reply (.ok (.int 2))),
        .advance m 1 .elapsed, .advance m 2 .elapsed]
    let before := (fresh "tickets" config).after earlier
    let cancelled := before.after (begun ++ [.cancel])
    (∀ id p, before.phase? id = some p → ∃ ending, p = .finished ending) ∧
      (∀ a ∈ begun, a.Fetches) ∧ along deliveries before begun = [] ∧
      (∀ id, (before.after begun).phase? id ≠ some .spawned) ∧ (∀ a ∈ later, a.Advances) ∧
      before.resource.state = .error ∧ (before.after begun).resource.state = .loading ∧
      (∃ generation revision,
        (cancelled.after later).resource = before.resource.fencedOff generation revision) ∧
      along calls cancelled later = [] ∧ along deliveries cancelled later = [] := by
  intro m config earlier begun later before cancelled
  -- how many moves the attempts have before them tells their phases apart
  have none_left : before.attempts.map (·.phase.remaining) = [0] := by decide +kernel
  have midway : (before.after begun).attempts.map (·.phase.remaining) = [0, 1, 2, 3] := by
    decide +kernel
  have finished : ∀ id p, before.phase? id = some p → ∃ ending, p = .finished ending := by
    intro id p phase
    have mem := remaining_mem phase
    rw [none_left, List.mem_singleton] at mem
    cases p with
    | finished ending => exact ⟨ending, rfl⟩
    | _ => cases mem
  have fetches : ∀ a ∈ begun, a.Fetches := by simp [begun, Action.Fetches]
  have unsettled : along deliveries before begun = [] :=
    List.eq_nil_of_length_eq_zero (by decide +kernel)
  have started : ∀ id, (before.after begun).phase? id ≠ some .spawned := by
    intro id phase
    have mem := remaining_mem phase
    rw [midway] at mem
    simp [Phase.remaining] at mem
  have advances : ∀ a ∈ later, a.Advances := by simp [later, Action.Advances]
  have failed : before.resource.state = .error := by decide +kernel
  have loading : (before.after begun).resource.state = .loading := by decide +kernel
  obtain ⟨⟨generation, revision, undone⟩, still⟩ :=
    cancel_undoes_fetches "tickets" config earlier begun finished fetches unsettled started
  obtain ⟨same, silent, untold⟩ := still later advances
  exact ⟨finished, fetches, unsettled, started, advances, failed, loading,
    ⟨generation, revision, same.trans undone⟩, silent, untold⟩

end LiveResource

end ReactiveResource
