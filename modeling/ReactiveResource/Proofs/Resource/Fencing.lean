import ReactiveResource.Proofs.Resource.Generations

/-!
# Generation fencing

Fetches may overtake one another, and a resource may be cancelled or retired while they are under
way. An outcome is applied exactly if it belongs to the last generation taken and nothing has been
withdrawn since that generation was taken; all other outcomes leave the resource as it is.

* `LiveResource.Takes`, `LiveResource.Concludes`: an attempt takes a generation, and comes to an
  outcome;
* `LiveResource.applications`: the generations whose outcomes are applied along a run;
* `LiveResource.SettlesIff`: what comes of an outcome that is applied, and of one that is not;
* `generation_fencing`: the statement, for every run.
-/

namespace ReactiveResource

theorem filterMap_delivered?_wakes (ids : List Nat) :
    (ids.map Effect.wake).filterMap Effect.delivered? = [] := filterMap_map_wake (fun _ => rfl) ids

namespace LiveResource

/-- The attempt takes the generation in the action. -/
structure Takes (r : LiveResource) (a : Action) (id g : Nat) : Prop where
  own : ∃ m signal, a = .advance m id signal
  next : g = r.resource.generation + 1
  taken : (r.act a).1.resource.generation = g

/-- Given a signal, the attempt comes to an outcome: the reply to its call, once the delay is over,
or the refusal of its parameters, which may come in the move in which it takes its generation. -/
inductive Concludes (r : LiveResource) (m : Moment) (id : Nat) : Signal → Outcome → Prop
  | later {signal : Signal} {t : Ticket} {outcome : Outcome}
      (comes : r.Comes id signal t outcome) : Concludes r m id signal outcome
  | atOnce {r₁ : LiveResource} {message : String} (turn : r.Turn m id r₁)
      (refuses : r.resource.config.Refuses (r.paramsFor id) message) :
      Concludes r m id .go (.invalid message)

/-- The generations whose outcomes an action applies. -/
def applied (r : LiveResource) (a : Action) : List Nat := (r.act a).2.filterMap Effect.delivered?

/-- The generations whose outcomes are applied along a run, in order. -/
def applications (r : LiveResource) (actions : List Action) : List Nat := along applied r actions

/-- What comes of an outcome of a generation: if it is valid, the resource settles with it, which
changes the fields that `Resource.Settled` names, and the listeners that are due are run; otherwise
nothing of the resource changes and no listener is run. The outcome meets the resource as it is, or
as it is once the generation has been taken in the same move. -/
structure SettlesIff (r : LiveResource) (a : Action) (now g : Nat) (outcome : Outcome)
    (valid : Prop) : Prop where
  changes : (r.act a).1.resource ≠ r.resource ↔ valid
  settles : valid → ∃ before event due,
    (before = r.resource ∨ ∃ params, before = r.resource.raised params) ∧ before.generation = g ∧
      before.settle now outcome = (event, due, (r.act a).1.resource) ∧
      before.Settled now outcome (r.act a).1.resource ∧
      .deliver g event due ∈ (r.act a).2 ∧ r.applied a = [g]
  quiet : ¬ valid → r.applied a = []

/-! ### Current generations -/

section Current

variable {r : LiveResource}

/-- A current generation stays so until another one is taken or something is withdrawn. -/
theorem Orderly.isCurrent_act_iff (orderly : r.Orderly) {g : Nat}
    (current : r.resource.isCurrent g = true) (a : Action) :
    (r.act a).1.resource.isCurrent g = true ↔
      (r.act a).1.resource.generation = g ∧ ¬ a.Withdraws := by
  obtain ⟨alive, hg, hf⟩ := Resource.isCurrent_iff.1 current
  rw [Resource.isCurrent_iff]
  have hle := orderly.fence_le
  rcases act_cases r a hle with ha | ⟨m, id, signal, rfl, move⟩
  · have hgen := generation_external (r := r) ha
    rcases fence_external (r := r) ha with ⟨hw, h⟩ | ⟨hw, h, hr⟩
    · refine iff_of_false (fun hc => ?_) (fun hc => hc.2 hw)
      omega
    · refine iff_of_true ⟨hr.trans alive, by omega, by omega⟩ ⟨by omega, hw⟩
  · obtain ⟨h, hr⟩ := move.keeps
    constructor
    · rintro ⟨-, h', -⟩
      exact ⟨h'.symm, not_false⟩
    · rintro ⟨h', -⟩
      exact ⟨hr.trans alive, h'.symm, by omega⟩

/-- A generation that had been taken before a run and is current after it was current before it. -/
theorem Orderly.isCurrent_of_after (orderly : r.Orderly) (actions : List Action) {g : Nat}
    (taken : g ≤ r.resource.generation) (h : (r.after actions).resource.isCurrent g = true) :
    r.resource.isCurrent g = true := by
  induction actions generalizing r with
  | nil => exact h
  | cons a rest ih =>
    have taken' := Nat.le_trans taken (orderly.generation_le_act a)
    exact orderly.isCurrent_of_act a taken (ih (orderly.act a) taken' h)

theorem Orderly.isCurrent_after_iff (orderly : r.Orderly) {g : Nat}
    (current : r.resource.isCurrent g = true) (actions : List Action) :
    (r.after actions).resource.isCurrent g = true ↔
      (r.after actions).resource.generation = g ∧ ∀ a ∈ actions, ¬ a.Withdraws := by
  have taken : g = r.resource.generation := (Resource.isCurrent_iff.1 current).2.1
  induction actions generalizing r with
  | nil => exact iff_of_true current ⟨taken.symm, by simp⟩
  | cons a rest ih =>
    rw [after_cons, List.forall_mem_cons]
    have mono := orderly.generation_le_act a
    have mono' := (orderly.act a).generation_le_after rest
    by_cases h : (r.act a).1.resource.isCurrent g = true
    · obtain ⟨hg, hw⟩ := (orderly.isCurrent_act_iff current a).1 h
      refine (ih (orderly.act a) h hg.symm).trans ?_
      simp [hw]
    · refine iff_of_false (fun hc => h ?_) (fun ⟨hg, hw, _⟩ => h ?_)
      · exact (orderly.act a).isCurrent_of_after rest (by omega) hc
      · exact (orderly.isCurrent_act_iff current a).2 ⟨by omega, hw⟩

/-- A generation is current when it has been taken. -/
theorem Takes.isCurrent {a : Action} {id g : Nat} (h : r.Takes a id g) (orderly : r.Orderly) :
    (r.act a).1.resource.isCurrent g = true := by
  obtain ⟨⟨m, signal, rfl⟩, next, taken⟩ := h
  have move : r.Move m id signal (r.act (.advance m id signal)).1 _ :=
    advance_move orderly.fence_le signal
  obtain ⟨hf, hr⟩ := move.keeps
  have hle := orderly.fence_le
  refine Resource.isCurrent_iff.2 ⟨hr.trans ?_, taken.symm, by omega⟩
  generalize (r.act (.advance m id signal)).1 = r', deeds _ = effects at *
  cases move with
  | refuse turn => exact turn.alive
  | ask turn => exact turn.alive
  | call turn => exact turn.alive
  | apply comes current settles => exact (Resource.isCurrent_iff.1 current).1
  | _ => exact absurd (next.symm.trans taken.symm) (Nat.succ_ne_self _)

theorem Takes.generationOf? {a : Action} {id g : Nat} (h : r.Takes a id g) (orderly : r.Orderly) :
    r.generationOf? id = none ∧ (r.act a).1.generationOf? id = some g := by
  obtain ⟨⟨m, signal, rfl⟩, next, taken⟩ := h
  have move : r.Move m id signal (r.act (.advance m id signal)).1 _ :=
    advance_move orderly.fence_le signal
  rcases move.generations with ⟨same, -⟩ | ⟨-, fresh, now⟩
  · omega
  · exact ⟨fresh, by rw [now, if_pos rfl, next]⟩

end Current

/-! ### Outcomes that are applied -/

section Applied

variable {r r' : LiveResource} {m : Moment} {id : Nat} {signal : Signal} {effects : List Effect}

theorem applied_eq (r : LiveResource) (a : Action) :
    r.applied a = (deeds (r.act a).2).filterMap Effect.delivered? := by
  refine (filterMap_deeds (fun e he => ?_) _).symm
  cases e <;> first | rfl | cases he

theorem applied_external {a : Action} (ha : a.External) : r.applied a = [] := by
  rw [applied, effects_external ha]; rfl

theorem delivered?_settled (g : Nat) (event : Event) (due : List Listener) (ids : List Nat) :
    (Effect.deliver g event due :: ids.map .wake).filterMap Effect.delivered? = [g] := by
  rw [List.filterMap_cons]
  simp only [Effect.delivered?, filterMap_delivered?_wakes]

/-- The outcome that a move applies is that of the last generation taken, and belongs to the
attempt that has moved. -/
theorem Move.delivered (h : r.Move m id signal r' effects) :
    effects.filterMap Effect.delivered? = [] ∨
      ∃ g, effects.filterMap Effect.delivered? = [g] ∧ r'.Applied id g ∧
        r'.resource.generation = g ∧
        (g = r.resource.generation + 1 ∨ (r.Underway id g ∧ r.resource.isCurrent g = true)) := by
  cases h with
  | leave => exact .inl (filterMap_delivered?_wakes _)
  | discard => exact .inl (filterMap_delivered?_wakes _)
  | refuse turn _ settles =>
    have agrees := (Resource.Settled.of_settle settles).agrees
    have phase := turn.phase
    refine .inr ⟨_, delivered?_settled _ _ _ _, ?_, agrees.generation, .inl rfl⟩
    rw [Applied, phase?_ended, phase?_congr (turn.setPhase_attempts _ _)]
    rcases phase with phase | phase <;> exact phase?_setPhase_self phase _
  | apply comes current settles =>
    have agrees := (Resource.Settled.of_settle settles).agrees
    obtain ⟨q, phase, -⟩ := comes.phase
    exact .inr ⟨_, delivered?_settled _ _ _ _, phase?_setPhase_self (r := r) phase _,
      agrees.generation.trans (Resource.isCurrent_iff.1 current).2.1.symm,
      .inr ⟨comes.underway, current⟩⟩
  | _ => exact .inl rfl

/-- What is applied along a run is taken in the run, or was current before it with its attempt
under way. -/
theorem Orderly.of_mem_applications (orderly : r.Orderly) (actions : List Action) {g : Nat}
    (h : g ∈ r.applications actions) :
    r.resource.generation < g ∨ ∃ id, r.Underway id g ∧ r.resource.isCurrent g = true := by
  induction actions generalizing r with
  | nil => cases h
  | cons a rest ih =>
    have mono := orderly.generation_le_act a
    rcases List.mem_append.1 h with here | later
    · rcases act_cases r a orderly.fence_le with ha | ⟨m, id, signal, -, move⟩
      · rw [applied_external ha] at here
        cases here
      · rw [applied_eq] at here
        rcases move.delivered with none | ⟨g', one, -, -, before⟩
        · rw [none] at here
          cases here
        · rw [one, List.mem_singleton] at here
          subst here
          exact before.imp (fun _ => by omega) fun h => ⟨id, h⟩
    · rcases ih (orderly.act a) later with new | ⟨id, underway, current⟩
      · exact .inl (by omega)
      · by_cases hg : g ≤ r.resource.generation
        · exact .inr ⟨id, orderly.underway_of_act a hg underway,
            orderly.isCurrent_of_act a hg current⟩
        · exact .inl (by omega)

/-- The generations that are applied along a run ascend. -/
theorem Orderly.pairwise_applications (orderly : r.Orderly) (actions : List Action) :
    (r.applications actions).Pairwise (· < ·) := by
  induction actions generalizing r with
  | nil => exact .nil
  | cons a rest ih =>
    refine List.pairwise_append.2 ⟨?_, ih (orderly.act a), fun g hg g' hg' => ?_⟩
    all_goals rcases act_cases r a orderly.fence_le with ha | ⟨m, id, signal, -, move⟩
    · rw [applied_external ha]
      exact .nil
    · rw [applied_eq]
      rcases move.delivered with none | ⟨g, one, -⟩
      · rw [none]; exact .nil
      · rw [one]; exact List.pairwise_singleton _ _
    · rw [applied_external ha] at hg
      cases hg
    · rw [applied_eq] at hg
      rcases move.delivered with none | ⟨g₁, one, now, last, -⟩
      · rw [none] at hg
        cases hg
      · rw [one, List.mem_singleton] at hg
        subst hg
        rcases (orderly.act a).of_mem_applications rest hg' with new | ⟨j, underway, current⟩
        · omega
        · -- the attempt has come to its end, and no other one has taken that generation
          have same : g' = g := (Resource.isCurrent_iff.1 current).2.1.trans last
          subst same
          have := (orderly.act a).distinct now.generationOf? underway.generationOf?
          subst this
          exact absurd underway (now.not_underway _)

/-! ### Outcomes as they come -/

/-- An outcome that has been settled has changed the resource. -/
theorem settled_ne {before settled : Resource} {event : Event} {due : List Listener} {now : Nat}
    {outcome : Outcome} (h : before.settle now outcome = (event, due, settled)) {x : Resource}
    (same : before.revision = x.revision) : settled ≠ x := by
  have raised := (Resource.Settled.of_settle h).revision
  rintro rfl
  exact absurd (raised.trans (congrArg (· + 1) same)) (Nat.ne_of_lt (Nat.lt_succ_self _))

/-- A refusal in the move in which the generation is taken is always applied. -/
theorem SettlesIff.of_refusal (orderly : r.Orderly) {r₁ : LiveResource} (turn : r.Turn m id r₁)
    {message : String} (refuses : r.resource.config.Refuses (r.paramsFor id) message)
    {valid : Prop} (holds : valid) :
    r.SettlesIff (.advance m id .go) m.now (r.resource.generation + 1) (.invalid message)
      valid := by
  obtain ⟨event, due, settled, woken, settles, left, told⟩ :=
    advance_of_refusal orderly.fence_le turn refuses
  have delivered : .deliver (r.resource.generation + 1) event due ∈ (r.advance m id .go).2 :=
    (mem_deeds.1 (told ▸ List.mem_cons_self)).1
  refine ⟨iff_of_true ?_ holds, fun _ => ?_, fun h => absurd holds h⟩
  · exact left ▸ settled_ne settles rfl
  · refine ⟨_, event, due, .inr ⟨_, rfl⟩, rfl, left ▸ settles, left ▸ .of_settle settles, delivered,
      ?_⟩
    rw [applied_eq]
    exact told ▸ delivered?_settled _ _ _ _

/-- Any other outcome is applied exactly if its generation is current. -/
theorem SettlesIff.of_comes {t : Ticket} {outcome : Outcome}
    (comes : r.Comes id signal t outcome) :
    r.SettlesIff (.advance m id signal) m.now t.generation outcome
      (r.resource.isCurrent t.generation = true) := by
  obtain ⟨left, told⟩ := advance_of_comes (m := m) comes
  cases current : r.resource.isCurrent t.generation with
  | true =>
    obtain ⟨left', told'⟩ := settle_of_current r m id current outcome
    rcases hs : r.resource.settle m.now outcome with ⟨event, due, settled⟩
    rw [hs] at left' told'
    have resource : (r.advance m id signal).1.resource = settled := by rw [left, left']; rfl
    have delivered : .deliver t.generation event due ∈ (r.advance m id signal).2 :=
      (mem_deeds.1 (told.trans told' ▸ List.mem_cons_self)).1
    refine ⟨iff_of_true ?_ rfl, fun _ => ?_, fun h => absurd rfl h⟩
    · exact resource ▸ settled_ne hs rfl
    · refine ⟨r.resource, event, due, .inl rfl, (Resource.isCurrent_iff.1 current).2.1.symm,
        resource ▸ hs, resource ▸ .of_settle hs, delivered, ?_⟩
      rw [applied_eq]
      exact (told.trans told') ▸ delivered?_settled _ _ _ _
  | false =>
    obtain ⟨left', told'⟩ := settle_of_stale r m id current outcome
    have resource : (r.advance m id signal).1.resource = r.resource := by
      rw [left, left']; rfl
    refine ⟨iff_of_false (fun h => h resource) (by simp), fun h => (nomatch h), fun _ => ?_⟩
    rw [applied_eq]
    exact (told.trans told') ▸ filterMap_delivered?_wakes _

/-- What is applied is an outcome to which the attempt has come. -/
theorem Move.concludes (h : r.Move m id signal r' effects)
    (applied : effects.filterMap Effect.delivered? ≠ []) :
    ∃ outcome, r.Concludes m id signal outcome := by
  cases h with
  | leave => exact absurd (filterMap_delivered?_wakes _) applied
  | discard => exact absurd (filterMap_delivered?_wakes _) applied
  | refuse turn refuses => exact ⟨_, .atOnce turn refuses⟩
  | apply comes => exact ⟨_, .later comes⟩
  | _ => exact absurd rfl applied

/-- An attempt that ends without being applied leaves the resource as it is. -/
theorem Move.unapplied (h : r.Move m id signal r' effects) {ending : Ending}
    (before : r.phase? id ≠ some (.finished ending)) (now : r'.phase? id = some (.finished ending))
    (unapplied : ∀ g, ending ≠ .applied g) :
    r'.resource = r.resource ∧ effects.filterMap Effect.delivered? = [] := by
  -- in all other moves the attempt goes on, or its outcome is applied
  have goes {q p : Phase} (phase : r.phase? id = some q)
      (ha : r'.attempts = (r.setPhase id p).attempts)
      (other : ∀ ending, p = .finished ending → ∃ g, ending = .applied g) : False := by
    rw [phase?_of_setPhase ha phase, if_pos rfl, Option.some.injEq] at now
    obtain ⟨g, hg⟩ := other _ now
    exact unapplied g hg
  cases h with
  | still => exact absurd now before
  | leave => exact ⟨rfl, filterMap_delivered?_wakes _⟩
  | discard => exact ⟨rfl, filterMap_delivered?_wakes _⟩
  | queue phase => exact (goes phase rfl nofun).elim
  | accept phase => exact (goes phase rfl nofun).elim
  | rest phase => exact (goes phase rfl nofun).elim
  | apply comes =>
    obtain ⟨q, phase, -⟩ := comes.phase
    exact (goes phase rfl fun _ h => ⟨_, (Phase.finished.inj h).symm⟩).elim
  | refuse turn =>
    rcases turn.phase with phase | phase <;>
      exact (goes phase (turn.setPhase_attempts _ _)
        fun _ h => ⟨_, (Phase.finished.inj h).symm⟩).elim
  | ask turn | call turn =>
    rcases turn.phase with phase | phase <;>
      exact (goes phase (turn.setPhase_attempts _ _) nofun).elim

end Applied

/-! ### The statement -/

/-- An outcome is applied exactly if its generation is the last one taken and nothing has been
withdrawn since. -/
theorem Orderly.settlesIff {r : LiveResource} (orderly : r.Orderly) {a : Action}
    {since : List Action} {m : Moment} {id : Nat} {signal : Signal} {g : Nat} {outcome : Outcome}
    (takes : r.Takes a id g)
    (concludes : ((r.act a).1.after since).Concludes m id signal outcome) :
    ((r.act a).1.after since).SettlesIff (.advance m id signal) m.now g outcome
      (((r.act a).1.after (since ++ [.advance m id signal])).resource.generation = g ∧
        ∀ b ∈ since ++ [.advance m id signal], ¬ b.Withdraws) := by
  have orderly' := (orderly.act a).after since
  have own := (orderly.act a).generationOf?_after since (takes.generationOf? orderly).2
  rw [← (orderly.act a).isCurrent_after_iff (takes.isCurrent orderly), after_concat]
  generalize (r.act a).1.after since = s at orderly' own concludes ⊢
  cases concludes with
  | atOnce turn refuses => rw [turn.generationOf?] at own; cases own
  | @later _ t _ comes =>
    have same : t.generation = g := by
      rw [comes.underway.generationOf?, Option.some.injEq] at own
      exact own
    subst same
    -- the attempt has its generation, so that none is taken in the move
    have move : s.Move m id signal (s.act (.advance m id signal)).1 _ :=
      advance_move orderly'.fence_le signal
    have kept : (s.act (.advance m id signal)).1.resource.isCurrent t.generation
        = s.resource.isCurrent t.generation := by
      obtain ⟨hf, hr⟩ := move.keeps
      rcases move.generations with ⟨hg, -⟩ | ⟨-, fresh, -⟩
      · simp only [Resource.isCurrent, hf, hr, hg]
      · rw [own] at fresh; cases fresh
    rw [kept]
    exact .of_comes comes

/-- **Generation fencing.** In every run of a new resource, the outcome of an attempt is applied
exactly if, at that moment, no later generation has been taken and nothing has been withdrawn since
the attempt took its own; nothing else is applied; an attempt that ends otherwise leaves the
resource as it is, and no listener is run; the generations that are applied ascend. -/
theorem generation_fencing (name : String) (config : Config) :
    (∀ earlier before a since m id signal g outcome,
      earlier ++ [.advance m id signal] = before ++ a :: since →
      ((fresh name config).after before).Takes a id g →
      ((fresh name config).after earlier).Concludes m id signal outcome →
      ((fresh name config).after earlier).SettlesIff (.advance m id signal) m.now g outcome
        (((fresh name config).after (earlier ++ [.advance m id signal])).resource.generation = g ∧
          ∀ b ∈ since, ¬ b.Withdraws)) ∧
    (∀ earlier a, ((fresh name config).after earlier).applied a ≠ [] →
      ∃ m id signal outcome, a = .advance m id signal ∧
        ((fresh name config).after earlier).Concludes m id signal outcome) ∧
    (∀ earlier m id signal ending,
      ((fresh name config).after earlier).phase? id ≠ some (.finished ending) →
      ((fresh name config).after (earlier ++ [.advance m id signal])).phase? id
        = some (.finished ending) →
      (∀ g, ending ≠ .applied g) →
      ((fresh name config).after (earlier ++ [.advance m id signal])).resource
          = ((fresh name config).after earlier).resource ∧
        ((fresh name config).after earlier).applied (.advance m id signal) = []) ∧
    ∀ actions, ((fresh name config).applications actions).Pairwise (· < ·) := by
  have start := orderly_fresh name config
  refine ⟨?_, ?_, ?_, start.pairwise_applications⟩
  · intro earlier before a since m id signal g outcome split takes concludes
    have orderly := start.after before
    rcases List.eq_nil_or_concat since with rfl | ⟨between, last, rfl⟩
    · -- the attempt takes its generation and comes to its outcome in one move
      obtain ⟨rfl, here⟩ := List.append_inj' split rfl
      obtain rfl := (List.singleton_inj.1 here).symm
      cases concludes with
      | later comes =>
        have none := (takes.generationOf? orderly).1
        rw [comes.underway.generationOf?] at none
        cases none
      | atOnce turn refuses =>
        obtain rfl := takes.next
        refine .of_refusal orderly turn refuses ⟨?_, by simp⟩
        rw [after_concat]
        exact takes.taken
    · -- it has taken its generation in an earlier move
      rw [List.concat_eq_append] at split ⊢
      rw [← List.cons_append, ← List.append_assoc] at split
      obtain ⟨rfl, here⟩ := List.append_inj' split rfl
      obtain rfl := (List.singleton_inj.1 here).symm
      rw [after_append, after_cons] at concludes
      rw [List.append_assoc, after_append _ before, after_append _ before]
      exact orderly.settlesIff takes concludes
  · intro earlier a applied
    rcases act_cases _ a (start.after earlier).fence_le with ha | ⟨m, id, signal, rfl, move⟩
    · exact absurd (applied_external ha) applied
    · rw [applied_eq] at applied
      obtain ⟨outcome, concludes⟩ := move.concludes applied
      exact ⟨m, id, signal, outcome, rfl, concludes⟩
  · intro earlier m id signal ending before now unapplied
    rw [after_concat] at now ⊢
    rw [applied_eq]
    have move : Move _ m id signal _ _ := advance_move (start.after earlier).fence_le signal
    exact move.unapplied before now unapplied

/-- The first of two fetches is overtaken: its reply comes when the second one has taken its
generation. -/
theorem overtaken_fetch_discarded :
    let m : Moment := { now := 0, isOpen := fun _ => true }
    let r := fresh "tickets" { method := "list" }
    let earlier : List Action :=
      [.spawn none, .spawn none, .advance m 0 .go, .advance m 1 .go]
    (r.after [.spawn none, .spawn none]).Takes (.advance m 0 .go) 0 1 ∧
      (r.after earlier).Concludes m 0 (.reply (.ok .null)) (.payload .null) ∧
      (r.after (earlier ++ [.advance m 0 (.reply (.ok .null))])).resource
        = (r.after earlier).resource := by
  intro m r earlier
  have takes : (r.after [.spawn none, .spawn none]).Takes (.advance m 0 .go) 0 1 :=
    ⟨⟨m, .go, rfl⟩, rfl, rfl⟩
  have concludes : (r.after earlier).Concludes m 0 (.reply (.ok .null)) (.payload .null) :=
    .later (.replied rfl rfl)
  refine ⟨takes, concludes, ?_⟩
  have settles := (generation_fencing "tickets" { method := "list" }).1 earlier
    [.spawn none, .spawn none] (.advance m 0 .go) [.advance m 1 .go, .advance m 0 _] m 0 _ 1 _ rfl
    takes concludes
  rw [after_concat]
  exact Classical.not_not.1 fun h => absurd (settles.changes.1 h).1 (show (2 : Nat) ≠ 1 by decide)

end LiveResource

end ReactiveResource
