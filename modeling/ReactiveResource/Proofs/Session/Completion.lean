import ReactiveResource.Proofs.Session.Silence

/-!
# Attempts under way can come to their end

An attempt that has taken its generation waits for something that the surroundings may do at any
time. As long as its generation is current, there is a way on which its outcome is applied.

* `Session.after`: the session after some steps;
* `Attended.exists_signal`: whoever waits can be given the signal that he waits for;
* `Attended.exists_applied`: the way to the end.
-/

namespace ReactiveResource

namespace Session

/-- The session after some steps. -/
def after (s : Session) (steps : List Step) : Session := steps.foldl Session.step s

section Completion

variable {s : Session} {h id : Nat} {r : LiveResource}

/-! ### Whoever waits can be woken -/

/-- In the step something comes from outside. -/
def Step.Prepares : Step → Prop
  | .resolve .. | .release .. | .elapse _ | .setGate .. => True
  | _ => False

theorem resources_prepare {step : Step} (prepares : step.Prepares) :
    (s.step step).resources = s.resources := by
  refine (still_of_passive ?_ ?_).resources
  · cases step <;> trivial
  · rintro place rfl
    exact prepares.elim

theorem resources_prepares {steps : List Step} (prepares : ∀ step ∈ steps, step.Prepares) :
    (s.after steps).resources = s.resources := by
  induction steps generalizing s with
  | nil => rfl
  | cons step rest ih =>
    rw [List.forall_mem_cons] at prepares
    exact (ih prepares.2).trans (resources_prepare prepares.1)

theorem Attended.after (attended : s.Attended) (steps : List Step) : (s.after steps).Attended := by
  induction steps generalizing s with
  | nil => exact attended
  | cons step rest ih => exact ih (attended.step step)

/-- **Whoever waits can be given the signal that he waits for**, unless he waits for his turn. -/
theorem Attended.exists_signal (attended : s.Attended) (hr : s.resources[h]? = some r) {p : Phase}
    (phase : r.phase? id = some p) (unfinished : ∀ ending, p ≠ .finished ending)
    (begun : ∀ e, p ≠ .queued e) :
    ∃ steps signal, (∀ step ∈ steps, step.Prepares) ∧
      .attempt h id signal ∈ (s.after steps).ready ∧ p.WaitsFor signal := by
  have summons := attended.summons hr phase
  -- he stands in the queue, or does so after one step
  have here {signal : Signal} (hj : .attempt h id signal ∈ s.ready) (waits : p.WaitsFor signal) :
      ∃ steps signal, (∀ step ∈ steps, step.Prepares) ∧
        .attempt h id signal ∈ (s.after steps).ready ∧ p.WaitsFor signal :=
    ⟨[], signal, List.forall_mem_nil _, hj, waits⟩
  have next (step : Step) (signal : Signal) (prepares : step.Prepares)
      (hj : .attempt h id signal ∈ (s.step step).ready) (waits : p.WaitsFor signal) :
      ∃ steps signal, (∀ step ∈ steps, step.Prepares) ∧
        .attempt h id signal ∈ (s.after steps).ready ∧ p.WaitsFor signal :=
    ⟨[step], signal, by simpa using prepares, hj, waits⟩
  cases p with
  | spawned => exact here summons trivial
  | queued e => exact absurd rfl (begun e)
  | finished ending => exact absurd rfl (unfinished ending)
  | validating t =>
    rcases summons with ⟨slot, hslot⟩ | ⟨message, hj⟩ | owed
    · refine next (.release slot none) (.verdict none) trivial ?_ trivial
      simp only [Session.step, Session.release, hslot]
      exact List.mem_append_right _ (List.mem_singleton_self _)
    · exact here hj trivial
    · cases owed
  | calling t =>
    rcases summons with ⟨n, c, made, -, waiting | ⟨reply, hj⟩⟩ | owed
    · -- any reply will do
      exact next (.resolve n (.ok .null)) (.reply (.ok .null)) trivial
        (resolved_of_waiting made waiting (.ok .null)).mem_ready trivial
    · exact here hj trivial
    · cases owed
  | delaying t reply =>
    rcases summons.2 with ⟨sleeper, hmem, rfl, rfl⟩ | hj | ⟨delay, owed⟩
    · -- the instant of the sleeper comes
      refine next (.elapse sleeper.due) .elapsed trivial ?_ trivial
      refine List.mem_append_right _ (List.mem_map.2 ⟨sleeper, List.mem_mergeSort.2 ?_, rfl⟩)
      exact List.mem_filter.2 ⟨hmem, by simp⟩
    · exact here hj trivial
    · cases owed

/-! ### The way to the end -/

/-- The outcome of an attempt can be applied. -/
def CanApply (s : Session) (h id g : Nat) : Prop :=
  ∃ steps r, (s.after steps).resources[h]? = some r ∧ r.Applied id g

theorem CanApply.of_after {g : Nat} (steps : List Step) (hc : (s.after steps).CanApply h id g) :
    s.CanApply h id g := by
  obtain ⟨later, r, hr, applied⟩ := hc
  refine ⟨steps ++ later, r, ?_, applied⟩
  rwa [Session.after, List.foldl_append]

theorem CanApply.of_step {g : Nat} (step : Step) (hc : (s.step step).CanApply h id g) :
    s.CanApply h id g := .of_after [step] hc

/-- Effects that run no listeners leave the resources alone. -/
theorem resources_performAll {effects : List Effect}
    (quiet : (deeds effects).filterMap Effect.delivered? = []) (handle : Nat) (s : Session) :
    (effects.foldl (perform handle) s).resources = s.resources := by
  refine resources_performAll_of_silent (fun g event due told => ?_) handle s
  exact absurd (List.filterMap_eq_nil_iff.1 quiet _ told) (by simp [Effect.delivered?])

theorem resources_turn {place : Nat} {signal : Signal}
    (job : s.ready[place]? = some (.attempt h id signal)) (hr : s.resources[h]? = some r) :
    ∃ actions, (∀ a ∈ actions, a.External) ∧ (s.turn place).resources[h]?
      = some ((r.advance s.moment id signal).1.after actions) := by
  rw [turn_eq job hr]
  exact (evolves_performAll h _ _).old (resources_store_self _ h _ hr)

theorem resources_turn_of_quiet {place : Nat} {signal : Signal}
    (job : s.ready[place]? = some (.attempt h id signal)) (hr : s.resources[h]? = some r)
    (quiet : (deeds (r.advance s.moment id signal).2).filterMap Effect.delivered? = []) :
    (s.turn place).resources[h]? = some (r.advance s.moment id signal).1 := by
  rw [turn_eq job hr, resources_performAll quiet]
  exact resources_store_self _ h _ hr

/-- An attempt that comes to an outcome of a current generation has it applied. -/
theorem canApply_of_comes {place : Nat} {signal : Signal} {t : Ticket} {outcome : Outcome}
    (job : s.ready[place]? = some (.attempt h id signal)) (hr : s.resources[h]? = some r)
    (comes : r.Comes id signal t outcome) (current : r.resource.isCurrent t.generation = true) :
    s.CanApply h id t.generation := by
  obtain ⟨actions, external, hr'⟩ := resources_turn job hr
  refine ⟨[.turn place], _, hr', LiveResource.phase?_after_external external ?_⟩
  rw [(LiveResource.advance_of_comes comes).1,
    (LiveResource.settle_of_current r s.moment id current outcome).1]
  obtain ⟨q, phase, -⟩ := comes.phase
  exact LiveResource.phase?_setPhase_self (r := r) phase _

theorem exists_place {job : Job} (hj : job ∈ s.ready) : ∃ place : Nat, s.ready[place]? = some job :=
  List.mem_iff_getElem?.1 hj

/-- A delay that is over. -/
theorem canApply_of_delaying (attended : s.Attended) (hr : s.resources[h]? = some r) {t : Ticket}
    {reply : Reply} (phase : r.phase? id = some (.delaying t reply))
    (current : r.resource.isCurrent t.generation = true) : s.CanApply h id t.generation := by
  obtain ⟨steps, signal, prepares, hj, waits⟩ := attended.exists_signal hr phase (by simp) (by simp)
  obtain ⟨place, job⟩ := exists_place hj
  refine .of_after steps ?_
  rw [← resources_prepares prepares] at hr
  cases signal with
  | elapsed => exact canApply_of_comes job hr (.rested phase) current
  | _ => exact waits.elim

/-- A call whose reply comes. -/
theorem canApply_of_calling (attended : s.Attended) (hr : s.resources[h]? = some r) {t : Ticket}
    (phase : r.phase? id = some (.calling t))
    (current : r.resource.isCurrent t.generation = true) : s.CanApply h id t.generation := by
  obtain ⟨steps, signal, prepares, hj, waits⟩ := attended.exists_signal hr phase (by simp) (by simp)
  obtain ⟨place, job⟩ := exists_place hj
  refine .of_after steps ?_
  rw [← resources_prepares prepares] at hr
  cases signal with
  | reply reply =>
    cases hd : t.delay.filter (0 < ·.nanos) with
    | none => exact canApply_of_comes job hr (.replied phase hd) current
    | some delay =>
      obtain ⟨override, ha⟩ : ∃ override, r.attempts[id]? = some ⟨override, .calling t⟩ := by
        obtain ⟨⟨override, q⟩, ha, rfl⟩ := Option.map_eq_some_iff.1 phase
        exact ⟨override, ha⟩
      have moved : r.advance (s.after steps).moment id (.reply reply)
          = (r.setPhase id (.delaying t reply), [.sleep id delay]) := by
        simp [LiveResource.advance, ha, LiveResource.receive, hd]
      have hr' := resources_turn_of_quiet job hr (by rw [moved]; rfl)
      rw [moved] at hr'
      exact .of_step (.turn place) (canApply_of_delaying ((attended.after steps).turn place) hr'
        (LiveResource.phase?_setPhase_self phase _) current)
  | _ => exact waits.elim

/-- A verdict that comes. -/
theorem canApply_of_validating (attended : s.Attended) (hr : s.resources[h]? = some r) {t : Ticket}
    (phase : r.phase? id = some (.validating t))
    (current : r.resource.isCurrent t.generation = true) : s.CanApply h id t.generation := by
  obtain ⟨steps, signal, prepares, hj, waits⟩ := attended.exists_signal hr phase (by simp) (by simp)
  obtain ⟨place, job⟩ := exists_place hj
  refine .of_after steps ?_
  rw [← resources_prepares prepares] at hr
  cases signal with
  | verdict message =>
    cases hm : message.filter (· ≠ "") with
    | some refusal =>
      obtain ⟨rfl, hne⟩ := Option.filter_eq_some_iff.1 hm
      exact canApply_of_comes job hr (.refused phase (by simpa using hne)) current
    | none =>
      obtain ⟨override, ha⟩ : ∃ override, r.attempts[id]? = some ⟨override, .validating t⟩ := by
        obtain ⟨⟨override, q⟩, ha, rfl⟩ := Option.map_eq_some_iff.1 phase
        exact ⟨override, ha⟩
      have moved : r.advance (s.after steps).moment id (.verdict message)
          = { r with resource := r.resource.beginLoading }.place id t := by
        simp only [LiveResource.advance, ha, LiveResource.judge, hm, current, if_true]
      have hr' := resources_turn_of_quiet job hr (by rw [moved, LiveResource.deeds_place]; rfl)
      rw [moved] at hr'
      exact .of_step (.turn place) (canApply_of_calling ((attended.after steps).turn place) hr'
        (LiveResource.phase?_setPhase_self (r := r) phase _) current)
  | _ => exact waits.elim

/-- **An attempt under way whose generation is current can have its outcome applied.** -/
theorem Attended.exists_applied (attended : s.Attended) (hr : s.resources[h]? = some r) {g : Nat}
    (underway : r.Underway id g) (current : r.resource.isCurrent g = true) :
    s.CanApply h id g := by
  obtain ⟨p, t, phase, ticket, rfl⟩ := underway
  cases p with
  | validating t' => cases ticket; exact canApply_of_validating attended hr phase current
  | calling t' => cases ticket; exact canApply_of_calling attended hr phase current
  | delaying t' reply => cases ticket; exact canApply_of_delaying attended hr phase current
  | _ => cases ticket

end Completion

end Session

end ReactiveResource
