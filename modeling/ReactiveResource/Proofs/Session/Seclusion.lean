import ReactiveResource.Proofs.Resource.Prospects
import ReactiveResource.Proofs.Session.Course
import ReactiveResource.Proofs.Session.Silence

/-!
# Resources that are left alone

A step leaves a resource alone if it is no operation on the resource, and runs no listener of
another resource that operates on it. What becomes of the resource then is a matter of its own
attempts: nothing, or the move of one of them.

* `Session.Commands`, `Session.LeavesAlone`: a listener of another resource operates on the
  resource; nobody operates on it;
* `Session.Skirts`, `covers_skirts`: operations elsewhere, with a lemma for each of them;
* `LeavesAlone.affects`: what becomes of a resource that is left alone;
* `Roused.exists_move`: as long as an attempt has not come to its end, some attempt can be brought
  to its next move.
-/

namespace ReactiveResource

namespace Session

variable {s s' s'' : Session} {handle other : Nat}

/-- The step is an operation on the resource. -/
def Step.Touches (handle : Nat) : Step → Prop
  | .fetch h | .spawn h _ | .cancel h | .reset h | .retire h | .update h _ | .listen h _ _ _ =>
    h = handle
  | _ => False

/-- In the step a listener of another resource is run that operates on the resource. -/
def Commands (s : Session) (step : Step) (handle : Nat) : Prop :=
  ∃ emitter g event due listener command target, emitter ≠ handle ∧
    s.Delivers step emitter g event due ∧ listener ∈ due ∧
    listener.reaction = .perform command target ∧ s.handleOf? emitter target = some handle

/-- Nobody operates on the resource in the step, unless its own listeners do. -/
structure LeavesAlone (s : Session) (step : Step) (handle : Nat) : Prop where
  untouched : ¬ step.Touches handle
  uncommanded : ¬ s.Commands step handle

/-! ### Operations elsewhere -/

/-- The names and the resource are the same afterwards. -/
structure Skirts (handle : Nat) (s s' : Session) : Prop where
  named : s'.named = s.named
  same : s'.resources[handle]? = s.resources[handle]?

theorem Skirts.of_eq (named : s'.named = s.named) (resources : s'.resources = s.resources) :
    s.Skirts handle s' := ⟨named, by rw [resources]⟩

theorem Skirts.refl (handle : Nat) (s : Session) : s.Skirts handle s := .of_eq rfl rfl

theorem Skirts.trans (h : s.Skirts handle s') (h' : s'.Skirts handle s'') : s.Skirts handle s'' :=
  ⟨h'.named.trans h.named, h'.same.trans h.same⟩

theorem Unfolds.skirts {heard : List Hearing} {actions : List Action}
    (h : s.Unfolds heard (only other actions) s') (elsewhere : other ≠ handle) :
    s.Skirts handle s' := ⟨h.named, h.elsewhere (Ne.symm elsewhere)⟩

section Elsewhere

variable (s) (elsewhere : other ≠ handle)
include elsewhere

theorem skirts_store (r : LiveResource) : s.Skirts handle (s.store other r) :=
  ⟨named_store s other r, resources_store_of_ne s other r (Ne.symm elsewhere)⟩

theorem skirts_spawn (override : Option Params) : s.Skirts handle (s.spawn other override) :=
  (unfolds_spawn s other override).skirts elsewhere

theorem skirts_fetch : s.Skirts handle (s.fetch other) :=
  (unfolds_fetch s other).skirts elsewhere

theorem skirts_cancel : s.Skirts handle (s.cancel other) :=
  (unfolds_cancel s other).skirts elsewhere

theorem skirts_reset : s.Skirts handle (s.reset other) :=
  (unfolds_reset s other).skirts elsewhere

theorem skirts_retire : s.Skirts handle (s.retire other) :=
  (unfolds_retire s other).skirts elsewhere

theorem skirts_listen (kind : EventKind) (once : Bool) (listener : Listener) :
    s.Skirts handle (s.listen other kind once listener) :=
  (unfolds_listen s other kind once listener).skirts elsewhere

end Elsewhere

theorem covers_skirts (handle : Nat) : Covers (Skirts handle) (· ≠ handle) where
  refl := .refl handle
  trans := .trans
  report _ _ := .of_eq rfl rfl
  record _ _ := .of_eq rfl rfl
  fetch s _ := skirts_fetch s
  cancel s _ := skirts_cancel s
  reset s _ := skirts_reset s
  retire s _ := skirts_retire s
  listen s _ kind once listener elsewhere := skirts_listen s elsewhere kind once listener

/-! ### Listeners of other resources -/

/-- The listener of a resource operates on others. -/
def Spares (s : Session) (emitter handle : Nat) (listener : Listener) : Prop :=
  ∀ command target, listener.reaction = .perform command target →
    s.handleOf? emitter target ≠ some handle

theorem handleOf?_of_named (named : s'.named = s.named) (emitter : Nat) (target : Target) :
    s'.handleOf? emitter target = s.handleOf? emitter target := by
  cases target with
  | emitter => rfl
  | named name => rw [handleOf?, handleOf?, named]

theorem skirts_hearAll {emitter : Nat} {event : Event} {listeners : List Listener}
    (spares : ∀ l ∈ listeners, s.Spares emitter handle l) :
    s.Skirts handle (listeners.foldl (hear emitter event) s) := by
  induction listeners generalizing s with
  | nil => exact .refl handle s
  | cons l rest ih =>
    rw [List.forall_mem_cons] at spares
    have first : s.Skirts handle (hear emitter event s l) :=
      (covers_skirts handle).hear event s fun command target h reaction named same =>
        spares.1 command target reaction (same ▸ named)
    refine first.trans (ih fun k hk command target reaction => ?_)
    rw [handleOf?_of_named first.named]
    exact spares.2 k hk command target reaction

theorem skirts_performAll {emitter : Nat} {effects : List Effect}
    (spares : ∀ g event due, .deliver g event due ∈ effects →
      ∀ l ∈ due, s.Spares emitter handle l) :
    s.Skirts handle (effects.foldl (perform emitter) s) := by
  induction effects generalizing s with
  | nil => exact .refl handle s
  | cons e rest ih =>
    have first : s.Skirts handle (perform emitter s e) := by
      cases e with
      | deliver g event due => exact skirts_hearAll (spares g event due List.mem_cons_self)
      | call id method args =>
        unfold perform
        simp only
        split <;> exact .of_eq rfl rfl
      | _ => exact .of_eq rfl rfl
    refine first.trans (ih fun g event due hd l hl command target reaction => ?_)
    rw [handleOf?_of_named first.named]
    exact spares g event due (List.mem_cons_of_mem _ hd) l hl command target reaction

/-! ### What becomes of a resource that is left alone -/

/-- An attempt of another resource makes its move. -/
theorem LeavesAlone.skirts_turn {place id : Nat} {signal : Signal} {x : LiveResource}
    (alone : s.LeavesAlone (.turn place) handle) (elsewhere : other ≠ handle)
    (job : s.ready[place]? = some (.attempt other id signal))
    (there : s.resources[other]? = some x) : s.Skirts handle (s.turn place) := by
  rw [turn_eq job there]
  have taken : s.Skirts handle { s with ready := s.ready.eraseIdx place } := .of_eq rfl rfl
  have stored := taken.trans (skirts_store _ elsewhere (x.advance s.moment id signal).1)
  refine stored.trans (skirts_performAll fun g event due told l hl command target reaction => ?_)
  rw [handleOf?_of_named stored.named]
  exact fun same => alone.uncommanded ⟨other, g, event, due, l, command, target, elsewhere,
    ⟨place, id, signal, x, rfl, job, there, told⟩, hl, reaction, same⟩

/-- The resource is as it was, unless one of its attempts makes its move. -/
theorem LeavesAlone.resources_step {step : Step} {r : LiveResource}
    (alone : s.LeavesAlone step handle) (there : s.resources[handle]? = some r)
    (foreign : ∀ place id signal, step = .turn place →
      s.ready[place]? ≠ some (.attempt handle id signal)) :
    (s.step step).resources[handle]? = some r := by
  have skirts (h : s.Skirts handle (s.step step)) : (s.step step).resources[handle]? = some r :=
    h.same.trans there
  have untouched := alone.untouched
  cases step with
  | turn place =>
    cases turns s place with
    | nobody left => rwa [Session.step, left]
    | waiter _ left => rwa [Session.step, left]
    | stray _ _ left => rwa [Session.step, left]
    | @attempt h id signal x job hx left =>
      refine skirts (alone.skirts_turn ?_ job hx)
      rintro rfl
      exact foreign place id signal rfl job
  | resolve | release | elapse | setGate | push | await =>
    rw [(still_of_passive (by exact trivial) (by simp)).resources]
    exact there
  | create name config =>
    simp only [Session.step]
    cases made : s.create name config with
    | error e => exact there
    | ok x =>
      obtain ⟨s', h⟩ := x
      obtain ⟨-, -, rfl⟩ := create_ok made
      exact getElem?_append_of_some there _
  | fetch h => exact skirts (skirts_fetch s untouched)
  | spawn h override => exact skirts (skirts_spawn s untouched override)
  | cancel h => exact skirts (skirts_cancel s untouched)
  | reset h => exact skirts (skirts_reset s untouched)
  | retire h => exact skirts (skirts_retire s untouched)
  | update h config =>
    simp only [Session.step]
    cases updated : s.update h config with
    | error e => exact there
    | ok x => exact (sameBut_update updated handle (Ne.symm untouched)).trans there
  | listen h kind once listener => exact skirts (skirts_listen s untouched kind once listener)

/-- **A resource that is left alone** is as it was and makes no call, or one of its attempts makes
its move. -/
theorem LeavesAlone.affects {step : Step} {r : LiveResource} (alone : s.LeavesAlone step handle)
    (there : s.resources[handle]? = some r) :
    ((s.step step).resources[handle]? = some r ∧
        (s.step step).callsOf handle = s.callsOf handle) ∨
      ∃ place id signal, step = .turn place ∧
        s.ready[place]? = some (.attempt handle id signal) := by
  by_cases own : ∃ place id signal, step = .turn place ∧
      s.ready[place]? = some (.attempt handle id signal)
  · exact .inr own
  · refine .inl ⟨alone.resources_step there fun place id signal turn job =>
      own ⟨place, id, signal, turn, job⟩, ?_⟩
    cases s.affects step there with
    | outside _ _ calls => exact calls
    | moves turn job => exact absurd ⟨_, _, _, turn, job⟩ own

/-! ### The next move -/

/-- The steps that bring something from outside operate on no resource. -/
theorem leavesAlone_of_prepares {step : Step} (prepares : step.Prepares) :
    s.LeavesAlone step handle := by
  refine ⟨fun touches => ?_, ?_⟩
  · cases step <;> first | exact prepares.elim | exact touches
  · rintro ⟨-, -, -, -, -, -, -, -, ⟨place, -, -, -, rfl, -⟩, -⟩
    exact prepares

/-- No listener of another resource is run when an attempt of the resource makes its move. -/
theorem leavesAlone_of_own {place id : Nat} {signal : Signal}
    (job : s.ready[place]? = some (.attempt handle id signal)) :
    s.LeavesAlone (.turn place) handle := by
  refine ⟨not_false, ?_⟩
  rintro ⟨emitter, -, -, -, -, -, -, elsewhere, ⟨place', id', signal', x, turn, job', -⟩, -⟩
  cases turn
  cases job.symm.trans job'
  exact elsewhere rfl

/-- Who waits for his turn stands behind somebody who does not, or can run. -/
theorem Roused.exists_signal (roused : s.Roused) (attended : s.Attended) {r : LiveResource}
    (guarded : r.Guarded) (there : s.resources[handle]? = some r) {j : Nat} {p : Phase}
    (phase : r.phase? j = some p) (unfinished : ∀ ending, p ≠ .finished ending) :
    ∃ steps k signal, (∀ step ∈ steps, step.Prepares) ∧
      .attempt handle k signal ∈ (s.after steps).ready ∧ r.Awaits k signal := by
  -- whoever does not wait for his turn can be given his signal, and whoever has it stands ready
  have begun {k : Nat} {q : Phase} (phase : r.phase? k = some q)
      (unfinished : ∀ ending, q ≠ .finished ending)
      (turn : ∀ e, q = .queued e → r.pages.holder = some k) :
      ∃ steps k signal, (∀ step ∈ steps, step.Prepares) ∧
        .attempt handle k signal ∈ (s.after steps).ready ∧ r.Awaits k signal := by
    by_cases waits : ∃ e, q = .queued e
    · obtain ⟨e, rfl⟩ := waits
      have holder := turn e rfl
      exact ⟨[], k, .go, List.forall_mem_nil _, roused handle r k there ⟨holder, e, phase⟩,
        by simpa [LiveResource.Awaits, phase] using holder⟩
    · obtain ⟨steps, signal, prepares, job, waitsFor⟩ :=
        attended.exists_signal there phase unfinished fun e same => waits ⟨e, same⟩
      exact ⟨steps, k, signal, prepares, job, LiveResource.awaits_of_waitsFor phase waitsFor⟩
  cases holder : r.pages.holder with
  | none =>
    refine begun phase unfinished ?_
    rintro e rfl
    have line := (guarded.queued phase).1
    rw [guarded.empty_of_vacant holder] at line
    cases line
  | some k =>
    obtain ⟨q, phase', inLine⟩ := guarded.holds holder
    refine begun phase' ?_ fun _ _ => holder
    rintro ending rfl
    exact inLine

/-- **Some attempt can be brought to its next move**, with the precondition open, as long as there
is one that has not come to its end. -/
theorem Roused.exists_move (roused : s.Roused) (attended : s.Attended) {r : LiveResource}
    (guarded : r.Guarded) (there : s.resources[handle]? = some r) {j : Nat} {p : Phase}
    (phase : r.phase? j = some p) (unfinished : ∀ ending, p ≠ .finished ending) :
    ∃ steps, ∃ place k : Nat, ∃ signal, (∀ step ∈ steps, step.Prepares) ∧
      (s.after steps).ready[place]? = some (.attempt handle k signal) ∧ r.Awaits k signal ∧
      ∀ q, r.resource.config.precondition = some q →
        (s.after steps).moment.isOpen q.gate = true := by
  obtain ⟨steps, k, signal, prepares, job, awaits⟩ :=
    roused.exists_signal attended guarded there phase unfinished
  obtain ⟨place, job⟩ := exists_place job
  cases precondition : r.resource.config.precondition with
  | none => exact ⟨steps, place, k, signal, prepares, job, awaits, by simp⟩
  | some q =>
    refine ⟨steps ++ [.setGate q.gate true], place, k, signal, ?_, ?_, awaits, ?_⟩
    · simpa [or_imp, forall_and, Step.Prepares] using prepares
    · rw [Session.after, List.foldl_append]
      exact job
    · rintro q' same
      cases same
      rw [Session.after, List.foldl_append]
      simp [Session.step, setGate, moment, isOpen, Keyed.value?_put_self]

end Session

end ReactiveResource
