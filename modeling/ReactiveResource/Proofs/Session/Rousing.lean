import ReactiveResource.Proofs.Resource.Forecast
import ReactiveResource.Proofs.Session.Completion
import ReactiveResource.Proofs.Session.Silence

/-!
# Whose turn it is can run

The page lock is handed on by waking the one who is given it. He stands in the queue of the session
from then on, so that a line for the lock does not come to a halt.

* `Session.Rouses`: whose turn it is stands in the queue, with `Rouses.beside` and `Rouses.step`;
* `Rouses.foresees_step`: the pages to come, along a step in which nobody operates on a resource.
-/

namespace ReactiveResource

namespace Session

variable {s s' : Session} {h : Nat} {r r' : LiveResource} {job : Job}

/-! ### Who stays in the queue -/

theorem mem_ready_perform (handle : Nat) (e : Effect) (hj : job ∈ s.ready) :
    job ∈ (perform handle s e).ready := by
  have other (he : ¬ e.IsRequest) : job ∈ (perform handle s e).ready :=
    (beside_perform handle s he).ready job hj
  cases e with
  | call id method args =>
    unfold perform
    simp only
    split
    · exact List.mem_cons_of_mem _ hj
    · exact hj
  | ask | sleep => exact hj
  | _ => exact other not_false

theorem mem_ready_performAll (handle : Nat) (effects : List Effect) (hj : job ∈ s.ready) :
    job ∈ (effects.foldl (perform handle) s).ready := by
  induction effects generalizing s with
  | nil => exact hj
  | cons e rest ih => exact ih (mem_ready_perform handle e hj)

/-- Whoever is woken stands in the queue. -/
theorem mem_ready_of_wake {effects : List Effect} {k : Nat} (woken : .wake k ∈ effects)
    (handle : Nat) (s : Session) :
    .attempt handle k .go ∈ (effects.foldl (perform handle) s).ready := by
  induction effects generalizing s with
  | nil => cases woken
  | cons e rest ih =>
    rcases List.mem_cons.1 woken with rfl | woken
    · exact mem_ready_performAll handle rest
        (List.mem_append_right _ (List.mem_singleton_self _))
    · exact ih woken _

/-! ### The line for the page lock -/

/-- The attempts of a resource stand in one line for the page lock, and whose turn it is stands in
the queue. -/
structure Rouses (s : Session) (h : Nat) (r : LiveResource) : Prop where
  there : s.resources[h]? = some r
  lined : r.Lined
  woken : ∀ {k}, r.OnTurn k → .attempt h k .go ∈ s.ready

/-- Operations that let no attempt move. -/
theorem Rouses.beside (rouses : s.Rouses h r) (beside : s.Beside s')
    (there : s'.resources[h]? = some r') : s'.Rouses h r' := by
  obtain ⟨actions, external, there'⟩ := beside.evolves.old rouses.there
  cases there.symm.trans there'
  refine ⟨there, rouses.lined.after_external external, fun {k} turn => beside.ready _ ?_⟩
  obtain ⟨holds, e, queued⟩ := turn
  rw [LiveResource.pages_after_external external] at holds
  refine rouses.woken ⟨holds, e, ?_⟩
  exact (LiveResource.of_phase?_after_external external queued).resolve_right (by simp)

/-- The first fetch of a new resource does not stand in the line yet. -/
theorem rouses_fresh {name : String} {config : Config} {override : Option Params}
    (there : s.resources[h]? = some ((LiveResource.fresh name config).spawn override).1) :
    s.Rouses h ((LiveResource.fresh name config).spawn override).1 where
  there := there
  lined := (LiveResource.lined_fresh name config).external (a := .spawn override) trivial
  woken turn := nomatch turn.1

/-- Others than those of the resource leave the queue. -/
theorem Rouses.kept (rouses : s.Rouses h r) (there : s'.resources[h]? = s.resources[h]?)
    (ready : ∀ k, .attempt h k .go ∈ s.ready → .attempt h k .go ∈ s'.ready) : s'.Rouses h r :=
  ⟨there.trans rouses.there, rouses.lined, fun turn => ready _ (rouses.woken turn)⟩

/-- Somebody of the resource has made his move. -/
theorem Rouses.advance (rouses : s.Rouses h r) (serial : r.Serial) (orderly : s.Orderly)
    (silent : s.Silent) {place id : Nat} {signal : Signal}
    (job : s.ready[place]? = some (.attempt h id signal)) :
    (s.turn place).Rouses h (r.advance s.moment id signal).1 := by
  have there := rouses.there
  have move := orderly.move there s.moment id signal
  have pageMove := serial.pageMove move
  have quiet := (move.silent (silent h r there)).2
  rw [turn_eq job there]
  refine ⟨?_, rouses.lined.move pageMove, fun {k} turn => ?_⟩
  · rw [resources_performAll_of_silent quiet]
    exact resources_store_self _ h _ there
  · rcases rouses.lined.rouses pageMove turn with woken | ⟨before, other⟩
    · exact mem_ready_of_wake (mem_deeds.1 woken).1 h _
    · refine mem_ready_performAll h _ (mem_ready_store _ h _ ?_)
      refine mem_eraseIdx_of_ne job (rouses.woken before) fun same => ?_
      cases same
      exact other rfl rfl

/-- **Whose turn it is stays in the queue** until he has his turn, where nobody operates on a
resource. -/
theorem Rouses.step (rouses : s.Rouses h r) (serial : r.Serial) (orderly : s.Orderly)
    (silent : s.Silent) {step : Step} (passive : step.Passive) :
    (s.step step).Rouses h r ∨ ∃ id signal, .attempt h id signal ∈ s.ready ∧
      (s.step step).Rouses h (r.advance s.moment id signal).1 := by
  by_cases other : ∀ place, step ≠ .turn place
  · have still : s.Still (s.step step) := still_of_passive passive other
    exact .inl (rouses.kept (by rw [still.resources]) fun _ => still.ready _)
  obtain ⟨place, rfl⟩ : ∃ place, step = .turn place := by simpa using other
  simp only [Session.step]
  -- the one who has his turn is of this resource, or the others stay
  by_cases own : ∃ id signal, s.ready[place]? = some (.attempt h id signal)
  · obtain ⟨id, signal, job⟩ := own
    exact .inr ⟨id, signal, List.mem_of_getElem? job, rouses.advance serial orderly silent job⟩
  have stay {j : Job} (job : s.ready[place]? = some j) {k : Nat}
      (hj : .attempt h k .go ∈ s.ready) : .attempt h k .go ∈ s.ready.eraseIdx place :=
    mem_eraseIdx_of_ne job hj fun same => own ⟨k, .go, same ▸ job⟩
  refine .inl (rouses.kept ?_ fun k hj => ?_)
  · rcases silent.turn orderly place with same | ⟨i, id, signal, x, job, -, moved⟩
    · rw [same]
    · rw [moved, List.getElem?_set_ne]
      rintro rfl
      exact own ⟨id, signal, job⟩
  · cases turns s place with
    | nobody left => rwa [left]
    | waiter job left =>
      rw [left]
      exact stay job hj
    | stray job _ left =>
      rw [left]
      exact stay job hj
    | @attempt i _ _ _ job _ left =>
      rw [left]
      exact mem_ready_performAll i _ (mem_ready_store _ i _ (stay job hj))

/-! ### The pages to come -/

/-- **The pages to come along a step.** Where nobody operates on a resource and the gateway answers
every call with its page, the forecast stays as it is. -/
theorem Rouses.foresees_step (rouses : s.Rouses h r) (serial : r.Serial) (attended : s.Attended)
    (silent : s.Silent) {step : Step} (passive : step.Passive) {f : Json → List Json}
    (answered : ∀ id method args reply, s.Asked h id method args reply →
      reply = .ok (.arr (f args))) :
    ∃ r', (s.step step).Rouses h r' ∧ r'.Serial ∧
      r'.resource.config.bare = r.resource.config.bare ∧
      ∀ items, r.Foresees f items → r'.Foresees f items := by
  have orderly := attended.orderly
  rcases rouses.step serial orderly silent passive with same | ⟨id, signal, job, rouses'⟩
  · exact ⟨r, same, serial, rfl, fun _ foresees => foresees⟩
  · have move := orderly.move rouses.there s.moment id signal
    refine ⟨_, rouses', serial.move move, move.config, fun items foresees => ?_⟩
    refine foresees.move serial rouses.lined (orderly h r rouses.there).fence_le
      (serial.pageMove move) fun t outcome comes => ?_
    obtain ⟨reply, rfl, asked⟩ :=
      attended.asked_of_comes job rouses.there serial.unheld comes
    rw [answered id _ _ _ asked]
    rfl

end Session

end ReactiveResource
