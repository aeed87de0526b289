import ReactiveResource.Proofs.Resource.Pages

/-!
# The way of an attempt

An attempt goes from one phase to another, and asks for what it is going to wait for. It makes its
call on the way, once at most, and none when it has come to its end.

* `LiveResource.Passage`, `Move.passage`: how the phase of an attempt changes, and what it asks for;
* `Phase.HasCalled`, `Orderly.nodup_calls`: no attempt makes two calls.
-/

namespace ReactiveResource

/-- An attempt in this phase makes no call any more. -/
def Phase.HasCalled : Phase → Prop
  | .calling _ | .delaying .. | .finished _ => True
  | _ => False

namespace LiveResource

/-- How the phase of an attempt changes when it moves, with the effects that matter to others. -/
inductive Passage (id : Nat) (signal : Signal) (effects : List Effect) : Phase → Phase → Prop
  | ends {q : Phase} {ending : Ending} (silent : effects.filterMap Effect.caller? = []) :
      Passage id signal effects q (.finished ending)
  | queues {epoch : Nat} (silent : effects = []) :
      Passage id signal effects .spawned (.queued epoch)
  | asks {q : Phase} {t : Ticket} (before : ¬ q.HasCalled) (asked : effects = [.ask id]) :
      Passage id signal effects q (.validating t)
  | calls {q : Phase} {t : Ticket} (before : ¬ q.HasCalled)
      (called : effects = [.call id t.method t.args]) : Passage id signal effects q (.calling t)
  | rests {t : Ticket} {reply : Reply} {delay : Duration} (replied : signal = .reply reply)
      (slept : effects = [.sleep id delay]) :
      Passage id signal effects (.calling t) (.delaying t reply)

theorem Passage.hasCalled {id : Nat} {signal : Signal} {effects : List Effect} {q p : Phase}
    (h : Passage id signal effects q p) (called : q.HasCalled) : p.HasCalled := by
  cases h with
  | ends | rests => trivial
  | queues => exact called.elim
  | asks before | calls before => exact absurd called before

/-- Who makes a call has made none before. -/
theorem Passage.caller {id : Nat} {signal : Signal} {effects : List Effect} {q p : Phase}
    (h : Passage id signal effects q p) :
    effects.filterMap Effect.caller? = [] ∨
      (effects.filterMap Effect.caller? = [id] ∧ ¬ q.HasCalled ∧ p.HasCalled) := by
  cases h with
  | ends silent => exact .inl silent
  | queues silent => exact .inl (by rw [silent]; rfl)
  | asks _ asked => exact .inl (by rw [asked]; rfl)
  | rests _ slept => exact .inl (by rw [slept]; rfl)
  | calls before called => exact .inr ⟨by rw [called]; rfl, before, trivial⟩

theorem Move.passage {r r' : LiveResource} {m : Moment} {id : Nat} {signal : Signal}
    {effects : List Effect} (h : r.Move m id signal r' effects) :
    (r' = r ∧ effects = [] ∧ ¬ r.Awaits id signal) ∨
      ∃ q p, r.phase? id = some q ∧ r'.attempts = (r.setPhase id p).attempts ∧
        Passage id signal effects q p := by
  have started {r₁ : LiveResource} (turn : r.Turn m id r₁) :
      ∃ q, r.phase? id = some q ∧ ¬ q.HasCalled := by
    rcases turn.phase with phase | phase <;> exact ⟨_, phase, not_false⟩
  cases h with
  | still idle => exact .inl ⟨rfl, rfl, idle⟩
  | leave phase => exact .inr ⟨_, _, phase, rfl, .ends (filterMap_caller?_wakes _ _)⟩
  | queue phase => exact .inr ⟨_, _, phase, rfl, .queues rfl⟩
  | refuse turn =>
    obtain ⟨q, phase, -⟩ := started turn
    exact .inr ⟨q, _, phase, turn.setPhase_attempts _ _, .ends (filterMap_caller?_wakes _ _)⟩
  | ask turn =>
    obtain ⟨q, phase, before⟩ := started turn
    exact .inr ⟨q, _, phase, turn.setPhase_attempts _ _, .asks before rfl⟩
  | call turn =>
    obtain ⟨q, phase, before⟩ := started turn
    exact .inr ⟨q, _, phase, turn.setPhase_attempts _ _, .calls before rfl⟩
  | accept phase => exact .inr ⟨_, _, phase, rfl, .calls not_false rfl⟩
  | rest phase => exact .inr ⟨_, _, phase, rfl, .rests rfl rfl⟩
  | apply comes =>
    obtain ⟨q, phase, -⟩ := comes.phase
    exact .inr ⟨q, _, phase, rfl, .ends (filterMap_caller?_wakes _ _)⟩
  | discard comes =>
    obtain ⟨q, phase, -⟩ := comes.phase
    exact .inr ⟨q, _, phase, rfl, .ends (filterMap_caller?_wakes _ _)⟩

/-- A move of another attempt leaves the phase of an attempt alone. -/
theorem Move.phase?_of_ne {r r' : LiveResource} {m : Moment} {id j : Nat} {signal : Signal}
    {effects : List Effect} (h : r.Move m j signal r' effects) (other : id ≠ j) :
    r'.phase? id = r.phase? id := by
  rcases h.passage with ⟨rfl, -⟩ | ⟨q, p, phase, attempts, -⟩
  · rfl
  · rw [phase?_of_setPhase attempts phase, if_neg other]

/-- A signal for which the attempt does not wait changes nothing. -/
theorem advance_of_not_awaits {r : LiveResource} {id : Nat} {signal : Signal}
    (idle : ¬ r.Awaits id signal) (m : Moment) : r.advance m id signal = (r, []) := by
  unfold Awaits at idle
  cases attempt : r.attempts[id]? with
  | none => simp only [advance, attempt]
  | some a =>
    obtain ⟨override, p⟩ := a
    have phase : r.phase? id = some p := by rw [phase?, attempt]; rfl
    rw [phase] at idle
    cases p <;> cases signal <;> simp_all [advance]

/-! ### One call at most -/

section Calls

variable {r : LiveResource} {id : Nat}

/-- The attempt makes no call any more. -/
def HasCalled (r : LiveResource) (id : Nat) : Prop := ∃ p, r.phase? id = some p ∧ p.HasCalled

theorem calls_eq (r : LiveResource) (a : Action) :
    r.calls a = (deeds (r.act a).2).filterMap Effect.caller? := by
  refine (filterMap_deeds (fun e he => ?_) _).symm
  cases e <;> first | rfl | cases he

/-- An action makes one call at most, for an attempt that has made none. -/
theorem Orderly.calls_act (orderly : r.Orderly) (a : Action) :
    r.calls a = [] ∨ ∃ m id signal, a = .advance m id signal ∧ r.calls a = [id] ∧
      ¬ r.HasCalled id ∧ (r.act a).1.HasCalled id := by
  rw [calls_eq]
  rcases act_cases r a orderly.fence_le with ha | ⟨m, id, signal, rfl, move⟩
  · exact .inl (by rw [effects_external ha]; rfl)
  rcases move.passage with ⟨-, none, -⟩ | ⟨q, p, phase, attempts, passage⟩
  · exact .inl (by rw [none]; rfl)
  refine passage.caller.imp (fun h => h) fun ⟨called, before, after⟩ =>
    ⟨m, id, signal, rfl, called, ?_, p, ?_, after⟩
  · rintro ⟨q', phase', called'⟩
    cases phase.symm.trans phase'
    exact before called'
  · rw [phase?_of_setPhase attempts phase, if_pos rfl]

theorem Orderly.hasCalled_act (orderly : r.Orderly) (a : Action) (h : r.HasCalled id) :
    (r.act a).1.HasCalled id := by
  obtain ⟨p, phase, called⟩ := h
  rcases act_cases r a orderly.fence_le with ha | ⟨m, j, signal, -, move⟩
  · exact ⟨p, phase?_act_external ha phase, called⟩
  rcases move.passage with ⟨same, -⟩ | ⟨q, q', phase', attempts, passage⟩
  · exact ⟨p, by rw [same, phase], called⟩
  by_cases hj : id = j
  · subst hj
    cases phase.symm.trans phase'
    exact ⟨q', by rw [phase?_of_setPhase attempts phase, if_pos rfl], passage.hasCalled called⟩
  · exact ⟨p, by rw [phase?_of_setPhase attempts phase', if_neg hj, phase], called⟩

theorem Orderly.hasCalled_after (orderly : r.Orderly) (actions : List Action)
    (h : r.HasCalled id) : (r.after actions).HasCalled id := by
  induction actions generalizing r with
  | nil => exact h
  | cons a rest ih => exact ih (orderly.act a) (orderly.hasCalled_act a h)

theorem Orderly.hasCalled_of_mem_calls (orderly : r.Orderly) {actions : List Action}
    (mem : id ∈ along calls r actions) : (r.after actions).HasCalled id := by
  induction actions generalizing r with
  | nil => cases mem
  | cons a rest ih =>
    rcases List.mem_append.1 mem with here | later
    · rcases orderly.calls_act a with none | ⟨m, j, signal, -, called, -, now⟩
      · rw [none] at here
        cases here
      · rw [called, List.mem_singleton] at here
        exact (orderly.act a).hasCalled_after rest (here ▸ now)
    · exact ih (orderly.act a) later

/-- Who has called, or has come to his end, does not call again. -/
theorem Orderly.not_calls_of_hasCalled (orderly : r.Orderly) (h : r.HasCalled id)
    (actions : List Action) : id ∉ along calls r actions := by
  induction actions generalizing r with
  | nil => exact List.not_mem_nil
  | cons a rest ih =>
    refine fun mem => (List.mem_append.1 mem).elim (fun here => ?_)
      (ih (orderly.act a) (orderly.hasCalled_act a h))
    rcases orderly.calls_act a with none | ⟨m, j, signal, -, called, before, -⟩
    · rw [none] at here
      cases here
    · rw [called, List.mem_singleton] at here
      exact before (here ▸ h)

/-- **No attempt makes two calls.** -/
theorem Orderly.nodup_calls (orderly : r.Orderly) (actions : List Action) :
    (along calls r actions).Nodup := by
  induction actions generalizing r with
  | nil => exact .nil
  | cons a rest ih =>
    rw [along]
    rcases orderly.calls_act a with none | ⟨m, id, signal, -, called, -, now⟩
    · rw [none]
      exact ih (orderly.act a)
    · rw [called, List.singleton_append, List.nodup_cons]
      exact ⟨(orderly.act a).not_calls_of_hasCalled now rest, ih (orderly.act a)⟩

end Calls

end LiveResource

end ReactiveResource
