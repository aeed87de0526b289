import Mathlib.Algebra.GroupWithZero.Nat
import ReactiveResource.Proofs.Resource.Handover
import ReactiveResource.Proofs.Resource.Retirement

/-!
# What may still come of an attempt

Something may still come of an attempt that has not been started, of one that waits for its turn
and has not been displaced, and of one whose generation counts. The others come to their end
without leaving a trace. No attempt moves for ever.

* `Phase.remaining`, `LiveResource.remaining`, `Move.descends`: the moves that are left get fewer;
* `LiveResource.MayAct`, `LiveResource.Idle`: something may still come of an attempt, or of none;
* `Move.of_idle`, `Move.mayAct`: moves that leave no trace, of attempts that may not act and of
  those that may;
* `mayAct_of_withdraws`, `idle_act_iff`: who may act after a withdrawal, and when nobody may;
* `Idle.move`, `Idle.withdrawn`: what shows of a resource of which nothing may come.
-/

namespace ReactiveResource

/-- How many moves an attempt in this phase has before it at most. -/
def Phase.remaining : Phase → Nat
  | .spawned => 5
  | .queued _ => 4
  | .validating _ => 3
  | .calling _ => 2
  | .delaying .. => 1
  | .finished _ => 0

theorem Phase.remaining_pos {p : Phase} (h : ∀ ending, p ≠ .finished ending) :
    0 < p.remaining := by
  cases p with
  | finished ending => exact absurd rfl (h ending)
  | _ => exact Nat.succ_pos _

theorem Phase.remaining_pos_of_ticket {p : Phase} {t : Ticket} (h : p.ticket? = some t) :
    0 < p.remaining := by
  refine p.remaining_pos ?_
  rintro ending rfl
  cases h

namespace LiveResource

variable {r r' : LiveResource} {m : Moment} {id : Nat} {signal : Signal} {effects : List Effect}

/-! ### No attempt moves for ever -/

/-- How many moves all attempts together have before them at most. -/
def remaining (r : LiveResource) : Nat := (r.attempts.map (·.phase.remaining)).sum

theorem remaining_of_setPhase {q p : Phase} (phase : r.phase? id = some q)
    (attempts : r'.attempts = (r.setPhase id p).attempts) :
    r'.remaining + q.remaining = r.remaining + p.remaining := by
  obtain ⟨before, a, later, split, rfl, modified⟩ :=
    List.exists_of_modify (fun a : Attempt => { a with phase := p }) (lt_length_of_phase? phase)
  have own : a.phase = q := by simpa [phase?, split] using phase
  have attempts : r'.attempts = before ++ { a with phase := p } :: later := attempts.trans modified
  rw [remaining, remaining, attempts, split]
  simp only [List.map_append, List.map_cons, List.sum_append, List.sum_cons, own]
  omega

/-- An attempt that moves comes nearer to its end. -/
theorem Move.descends (h : r.Move m id signal r' effects) :
    (r' = r ∧ ¬ r.Awaits id signal) ∨ ∃ q p, r.phase? id = some q ∧
      r'.attempts = (r.setPhase id p).attempts ∧ p.remaining < q.remaining := by
  have begun {r₁ : LiveResource} (turn : r.Turn m id r₁) :
      ∃ q, r.phase? id = some q ∧ 3 < q.remaining := by
    rcases turn.phase with phase | phase <;> exact ⟨_, phase, by simp [Phase.remaining]⟩
  cases h with
  | still idle => exact .inl ⟨rfl, idle⟩
  | leave phase leaves =>
    refine .inr ⟨_, _, phase, rfl, ?_⟩
    cases leaves <;> exact Nat.succ_pos _
  | queue phase => exact .inr ⟨_, _, phase, rfl, by simp [Phase.remaining]⟩
  | refuse turn =>
    obtain ⟨q, phase, lt⟩ := begun turn
    exact .inr ⟨q, _, phase, turn.setPhase_attempts _ _, Nat.lt_of_le_of_lt (Nat.zero_le 3) lt⟩
  | ask turn =>
    obtain ⟨q, phase, lt⟩ := begun turn
    exact .inr ⟨q, _, phase, turn.setPhase_attempts _ _, lt⟩
  | call turn =>
    obtain ⟨q, phase, lt⟩ := begun turn
    refine .inr ⟨q, _, phase, turn.setPhase_attempts _ _, ?_⟩
    exact Nat.lt_trans (Nat.lt_succ_self 2) lt
  | accept phase => exact .inr ⟨_, _, phase, rfl, by simp [Phase.remaining]⟩
  | rest phase => exact .inr ⟨_, _, phase, rfl, by simp [Phase.remaining]⟩
  | apply comes | discard comes =>
    obtain ⟨q, phase, ticket⟩ := comes.phase
    exact .inr ⟨q, _, phase, rfl, Phase.remaining_pos_of_ticket ticket⟩

/-- Who is given the signal that he waits for has fewer moves left afterwards. -/
theorem Move.remaining_lt (h : r.Move m id signal r' effects) (awaits : r.Awaits id signal) :
    r'.remaining < r.remaining := by
  rcases h.descends with ⟨-, idle⟩ | ⟨q, p, phase, attempts, lt⟩
  · exact absurd awaits idle
  · have sums := remaining_of_setPhase phase attempts
    omega

/-- Whoever has come to his end stays there. -/
theorem Move.finished (h : r.Move m id signal r' effects) {j : Nat} {ending : Ending}
    (phase : r.phase? j = some (.finished ending)) : r'.phase? j = some (.finished ending) := by
  rcases h.descends with ⟨rfl, -⟩ | ⟨q, p, phase', attempts, lt⟩
  · exact phase
  · rw [phase?_of_setPhase attempts phase']
    split
    · next own =>
      subst own
      cases phase.symm.trans phase'
      exact absurd lt (Nat.not_lt_zero _)
    · exact phase

/-! ### Prospects -/

end LiveResource

/-- Something may still come of an attempt in this phase: a generation, a call or an outcome. One
that has not been started decides only then what it fetches. -/
def Resource.Favours (r : Resource) : Phase → Prop
  | .spawned => r.retired = false
  | .queued epoch => r.retired = false ∧ epoch = r.epoch
  | .validating t | .calling t | .delaying t _ => r.isCurrent t.generation = true
  | .finished _ => False

theorem Resource.favours_of_ticket {r : Resource} {p : Phase} {t : Ticket}
    (ticket : p.ticket? = some t) : r.Favours p ↔ r.isCurrent t.generation = true := by
  cases p <;> cases ticket <;> exact Iff.rfl

namespace LiveResource

variable {r r' : LiveResource} {m : Moment} {id : Nat} {signal : Signal} {effects : List Effect}

/-- Something may still come of the attempt. -/
def MayAct (r : LiveResource) (id : Nat) : Prop := ∃ p, r.phase? id = some p ∧ r.resource.Favours p

/-- Nothing may come of any attempt. -/
def Idle (r : LiveResource) : Prop := ∀ id, ¬ r.MayAct id

theorem mayAct_iff {p : Phase} (phase : r.phase? id = some p) :
    r.MayAct id ↔ r.resource.Favours p := by
  constructor
  · rintro ⟨p', phase', favours⟩
    cases phase.symm.trans phase'
    exact favours
  · exact fun favours => ⟨p, phase, favours⟩

/-- One attempt has gone on to another phase. -/
theorem mayAct_of_setPhase {q p : Phase} (phase : r.phase? id = some q)
    (attempts : r'.attempts = (r.setPhase id p).attempts) (resource : r'.resource = r.resource)
    (j : Nat) : r'.MayAct j ↔ if j = id then r.resource.Favours p else r.MayAct j := by
  rw [MayAct, resource, phase?_of_setPhase attempts phase]
  by_cases hj : j = id <;> simp [hj, MayAct]

/-- Whose turn it is may act. -/
theorem Turn.mayAct {r₁ : LiveResource} (turn : r.Turn m id r₁) : r.MayAct id := by
  rcases turn.phase with phase | phase
  · exact ⟨_, phase, turn.alive⟩
  · exact ⟨_, phase, turn.alive, rfl⟩

/-- Who comes to an outcome may act if his generation counts. -/
theorem Comes.mayAct_iff {t : Ticket} {outcome : Outcome} (comes : r.Comes id signal t outcome) :
    r.MayAct id ↔ r.resource.isCurrent t.generation = true := by
  obtain ⟨q, phase, ticket⟩ := comes.phase
  rw [LiveResource.mayAct_iff phase, Resource.favours_of_ticket ticket]

/-- Who leaves without an outcome could not act, unless his precondition does not hold. -/
theorem Leaves.not_favours {p : Phase} {ending : Ending} (leaves : r.Leaves m id p signal ending)
    (isOpen : ∀ p, r.resource.config.precondition = some p → m.isOpen p.gate = true) :
    ¬ r.resource.Favours p := by
  cases leaves with
  | ignored retired => simp [Resource.Favours, retired]
  | skipped _ precondition closed => cases closed.symm.trans (isOpen _ precondition)
  | displaced _ changed =>
    rintro ⟨alive, same⟩
    exact changed.elim (fun retired => nomatch alive.symm.trans retired) fun ne => ne same.symm
  | superseded _ stale => simp [Resource.Favours, stale]

/-- **An attempt that may not act** leaves the resource as it is, calls nobody and brings no
outcome, and does not let any attempt act. -/
theorem Move.of_idle (h : r.Move m id signal r' effects) (idle : ¬ r.MayAct id) :
    r'.resource = r.resource ∧ effects.filterMap Effect.caller? = [] ∧
      effects.filterMap Effect.delivered? = [] ∧ ∀ j, r'.MayAct j → r.MayAct j := by
  have ends {ending : Ending} {q : Phase} (phase : r.phase? id = some q) (j : Nat)
      (mayAct : (r.ended id ending).MayAct j) : r.MayAct j := by
    have attempts : (r.ended id ending).attempts = (r.setPhase id (.finished ending)).attempts :=
      rfl
    rw [mayAct_of_setPhase phase attempts rfl] at mayAct
    split at mayAct
    · exact mayAct.elim
    · exact mayAct
  cases h with
  | still => exact ⟨rfl, rfl, rfl, fun _ mayAct => mayAct⟩
  | leave phase =>
    exact ⟨rfl, filterMap_caller?_wakes _ _, filterMap_delivered?_wakes _, ends phase⟩
  | queue phase admits => exact absurd ⟨_, phase, admits.alive⟩ idle
  | refuse turn | ask turn | call turn => exact absurd turn.mayAct idle
  | accept phase _ current => exact absurd ⟨_, phase, current⟩ idle
  | rest phase =>
    refine ⟨rfl, rfl, rfl, fun j mayAct => ?_⟩
    rw [mayAct_of_setPhase phase rfl rfl] at mayAct
    split at mayAct
    · exact absurd ⟨_, phase, mayAct⟩ idle
    · exact mayAct
  | apply comes current => exact absurd (comes.mayAct_iff.2 current) idle
  | discard comes =>
    obtain ⟨q, phase, -⟩ := comes.phase
    exact ⟨rfl, filterMap_caller?_wakes _ _, filterMap_delivered?_wakes _, ends phase⟩

/-- **A move that leaves no trace** runs no listener, and lets everybody act who might act before,
if the precondition holds. -/
theorem Move.mayAct (h : r.Move m id signal r' effects)
    (isOpen : ∀ p, r.resource.config.precondition = some p → m.isOpen p.gate = true)
    (generation : r'.resource.generation = r.resource.generation)
    (silent : effects.filterMap Effect.caller? = [])
    (unapplied : ∀ g, r'.Applied id g → r.Applied id g) :
    effects.filterMap Effect.delivered? = [] ∧ ∀ j, r.MayAct j → r'.MayAct j := by
  have goes {q p : Phase} (phase : r.phase? id = some q)
      (attempts : r'.attempts = (r.setPhase id p).attempts) (resource : r'.resource = r.resource)
      (own : r.resource.Favours q → r.resource.Favours p) (j : Nat) (mayAct : r.MayAct j) :
      r'.MayAct j := by
    rw [mayAct_of_setPhase phase attempts resource]
    split
    · next same => exact own ((mayAct_iff phase).1 (same ▸ mayAct))
    · exact mayAct
  cases h with
  | still => exact ⟨rfl, fun _ mayAct => mayAct⟩
  | leave phase leaves =>
    exact ⟨filterMap_delivered?_wakes _,
      goes phase rfl rfl fun own => absurd own (leaves.not_favours isOpen)⟩
  | queue phase admits => exact ⟨rfl, goes phase rfl rfl fun _ => ⟨admits.alive, rfl⟩⟩
  | refuse _ _ settles =>
    have agrees := (Resource.Settled.of_settle settles).agrees
    exact absurd (agrees.generation.symm.trans generation) (Nat.succ_ne_self _)
  | ask | call => exact absurd generation (Nat.succ_ne_self _)
  | accept => cases silent
  | rest phase => exact ⟨rfl, goes phase rfl rfl fun own => own⟩
  | @apply _ t _ _ _ settled comes =>
    obtain ⟨q, phase, ticket⟩ := comes.phase
    have before : r.Applied id t.generation :=
      unapplied t.generation (phase?_setPhase_self (r := { r with resource := settled }) phase _)
    cases phase.symm.trans before
    cases ticket
  | discard comes stale =>
    obtain ⟨q, phase, ticket⟩ := comes.phase
    refine ⟨filterMap_delivered?_wakes _, goes phase rfl rfl fun own => ?_⟩
    rw [Resource.favours_of_ticket ticket] at own
    cases stale.symm.trans own

/-! ### Withdrawals -/

/-- The resource has come out of a new one by actions. -/
def Arises (r : LiveResource) : Prop := ∃ name config actions, r = (fresh name config).after actions

section Arises

variable (arises : r.Arises)
include arises

theorem Arises.after (actions : List Action) : (r.after actions).Arises := by
  obtain ⟨name, config, before, rfl⟩ := arises
  exact ⟨name, config, before ++ actions, (after_append _ before actions).symm⟩

theorem Arises.orderly : r.Orderly := by
  obtain ⟨name, config, actions, rfl⟩ := arises
  exact (orderly_fresh name config).after actions

theorem Arises.coherent : r.Coherent := by
  obtain ⟨name, config, actions, rfl⟩ := arises
  exact coherent_after name config actions

theorem Arises.guarded : r.Guarded := by
  obtain ⟨name, config, actions, rfl⟩ := arises
  exact guarded_after name config actions

theorem Arises.over_of_retired (retired : r.resource.retired = true) : r.Over := by
  obtain ⟨name, config, actions, rfl⟩ := arises
  exact over_of_retired name config actions retired

/-- A resource of which nothing may come is not loading. -/
theorem Idle.not_loading (idle : r.Idle) : r.resource.state ≠ .loading := by
  intro loading
  cases retired : r.resource.retired with
  | true => exact (arises.over_of_retired retired).not_loading arises.coherent loading
  | false =>
    obtain ⟨id, ⟨p, t, phase, ticket, last⟩, -⟩ := arises.coherent.awaited loading
    refine idle id ⟨p, phase, (Resource.favours_of_ticket ticket).2 ?_⟩
    exact Resource.isCurrent_iff.2 ⟨retired, last, last ▸ arises.coherent.unfenced loading⟩

/-- After a withdrawal only those may act that have not been started. -/
theorem mayAct_of_withdraws {a : Action} (withdraws : a.Withdraws)
    (mayAct : (r.act a).1.MayAct id) :
    r.resource.retired = false ∧ r.phase? id = some .spawned := by
  obtain ⟨p, phase, favours⟩ := mayAct
  have same : r.phase? id = some p := by cases a <;> first | exact withdraws.elim | exact phase
  have epoch : (r.act a).1.resource.epoch = r.resource.epoch + 1 := by
    cases a <;> first | exact withdraws.elim | rfl
  have alive (h : (r.act a).1.resource.retired = false) : r.resource.retired = false := by
    cases a with
    | cancel => exact h
    | retire => cases h
    | _ => exact withdraws.elim
  have stale (g : Nat) : (r.act a).1.resource.isCurrent g ≠ true := by
    rw [Ne, Resource.isCurrent_iff]
    rintro ⟨-, last, unfenced⟩
    have fenced : (r.act a).1.resource.fence = (r.act a).1.resource.generation := by
      cases a <;> first | exact withdraws.elim | rfl
    omega
  cases p with
  | spawned => exact ⟨alive favours, same⟩
  | queued e =>
    have le := (arises.guarded.queued same).2
    have eq : e = r.resource.epoch + 1 := epoch ▸ favours.2
    omega
  | validating t | calling t | delaying t => exact absurd favours (stale _)
  | finished => exact favours.elim

/-- **What a withdrawal leaves to come**: the fetches that have not been started. -/
theorem idle_act_iff {a : Action} (withdraws : a.Withdraws) :
    (r.act a).1.Idle ↔ (r.act a).1.resource.retired = true ∨
      ∀ id, (r.act a).1.phase? id ≠ some .spawned := by
  constructor
  · intro idle
    cases alive : (r.act a).1.resource.retired with
    | true => exact .inl rfl
    | false => exact .inr fun id phase => idle id ⟨_, phase, alive⟩
  · rintro settled id mayAct
    have external : a.External := by
      cases a with
      | advance => exact withdraws.elim
      | _ => trivial
    have phase := phase?_act_external external (mayAct_of_withdraws arises withdraws mayAct).2
    have alive : (r.act a).1.resource.retired = false := (mayAct_iff phase).1 mayAct
    exact settled.elim (fun retired => nomatch alive.symm.trans retired) fun begun => begun id phase

theorem idle_after_iff {actions : List Action} (withdraws : ∀ a ∈ actions, a.Withdraws)
    (fired : actions ≠ []) :
    (r.after actions).Idle ↔ (r.after actions).resource.retired = true ∨
      ∀ id, (r.after actions).phase? id ≠ some .spawned := by
  rcases List.eq_nil_or_concat actions with rfl | ⟨init, a, rfl⟩
  · exact absurd rfl fired
  · rw [List.concat_eq_append, after_concat]
    exact idle_act_iff (arises.after init) (withdraws a (by simp))

end Arises

/-! ### Nothing comes of the attempts -/

/-- From one state of a resource to a later one, no generation is taken and no outcome is applied,
and the resource shows the same. -/
structure Undisturbed (r r' : LiveResource) : Prop where
  generation : r'.resource.generation = r.resource.generation
  state : r'.resource.state = r.resource.state
  data : r'.resource.data = r.resource.data
  error : r'.resource.error = r.resource.error
  applied : ∀ id g, r'.Applied id g → r.Applied id g

theorem Undisturbed.refl (r : LiveResource) : r.Undisturbed r :=
  ⟨rfl, rfl, rfl, rfl, fun _ _ applied => applied⟩

theorem Undisturbed.trans {r'' : LiveResource} (h : r.Undisturbed r') (h' : r'.Undisturbed r'') :
    r.Undisturbed r'' where
  generation := h'.generation.trans h.generation
  state := h'.state.trans h.state
  data := h'.data.trans h.data
  error := h'.error.trans h.error
  applied id g applied := h.applied id g (h'.applied id g applied)

/-- What is seen from the same state twice shows no change in between. -/
theorem Undisturbed.between {r'' : LiveResource} (h : r.Undisturbed r') (later : r.Undisturbed r'')
    (kept : ∀ id g, r.Applied id g → r'.Applied id g) : r'.Undisturbed r'' where
  generation := later.generation.trans h.generation.symm
  state := later.state.trans h.state.symm
  data := later.data.trans h.data.symm
  error := later.error.trans h.error.symm
  applied id g applied := kept id g (later.applied id g applied)

/-- Nothing comes of an idle resource when one of its attempts moves. -/
theorem Idle.move (idle : r.Idle) (orderly : r.Orderly) (h : r.Move m id signal r' effects) :
    r.Undisturbed r' ∧ r'.Idle := by
  obtain ⟨resource, -, -, mayAct⟩ := h.of_idle (idle id)
  refine ⟨⟨by rw [resource], by rw [resource], by rw [resource], by rw [resource], ?_⟩,
    fun j may => idle j (mayAct j may)⟩
  intro j g applied
  rcases h.of_applied applied with before | taken | ⟨⟨p, t, phase, ticket, rfl⟩, current⟩
  · exact before
  · have bounded := (h.orderly orderly).bounded applied.generationOf?
    rw [resource] at bounded
    omega
  · exact absurd ⟨p, phase, (Resource.favours_of_ticket ticket).2 current⟩ (idle j)

/-- Nothing comes of an idle resource when it is withdrawn once more. -/
theorem Idle.withdraws (idle : r.Idle) (arises : r.Arises) {a : Action} (withdraws : a.Withdraws) :
    r.Undisturbed (r.act a).1 ∧ (r.act a).1.Idle := by
  have state : r.resource.state ≠ .loading := Idle.not_loading arises idle
  refine ⟨?_, fun id mayAct => ?_⟩
  · cases a with
    | cancel =>
      refine ⟨rfl, ?_, rfl, rfl, fun _ _ applied => applied⟩
      simp [act, LiveResource.cancel, Resource.cancel, Resource.fenceInFlight, Resource.notify,
        state]
    | retire =>
      refine ⟨rfl, ?_, rfl, rfl, fun _ _ applied => applied⟩
      simp [act, LiveResource.retire, Resource.retire, Resource.fenceInFlight, Resource.notify,
        state]
    | _ => exact withdraws.elim
  · obtain ⟨alive, phase⟩ := mayAct_of_withdraws arises withdraws mayAct
    exact idle id ⟨_, phase, alive⟩

theorem Idle.withdrawn (idle : r.Idle) (arises : r.Arises) {actions : List Action}
    (withdraws : ∀ a ∈ actions, a.Withdraws) :
    r.Undisturbed (r.after actions) ∧ (r.after actions).Idle := by
  induction actions generalizing r with
  | nil => exact ⟨.refl r, idle⟩
  | cons a rest ih =>
    rw [List.forall_mem_cons] at withdraws
    obtain ⟨first, idle'⟩ := idle.withdraws arises withdraws.1
    obtain ⟨later, still⟩ := ih idle' (arises.after [a]) withdraws.2
    exact ⟨first.trans later, still⟩

end LiveResource

end ReactiveResource
