import ReactiveResource.Proofs.Resource.Frame
import ReactiveResource.Proofs.Resource.Move

/-!
# Generations

Every generation is taken by one attempt, which keeps it to its end. The counters of the resource
bound the generations of its attempts, along every run.

* `Phase.generation?`, `LiveResource.generationOf?`: the generation that an attempt has taken;
* `LiveResource.Underway`, `LiveResource.Applied`: an attempt has taken a generation and has not
  come to its end, or its outcome has been applied;
* `LiveResource.Orderly`, `Orderly.after`: the invariant, and that every run keeps it;
* `Orderly.of_applied`: which generations may still be applied.
-/

namespace ReactiveResource

/-- The generation that an attempt in this phase has taken. -/
def Phase.generation? : Phase → Option Nat
  | .validating t | .calling t | .delaying t _ => some t.generation
  | .finished (.superseded g) | .finished (.discarded g) | .finished (.applied g) => some g
  | _ => none

/-- What an attempt in this phase carries, if it has taken its generation and has not come to its
end. -/
def Phase.ticket? : Phase → Option Ticket
  | .validating t | .calling t | .delaying t _ => some t
  | _ => none

theorem Phase.generation?_of_ticket? {p : Phase} {t : Ticket} (h : p.ticket? = some t) :
    p.generation? = some t.generation := by
  cases p <;> simp_all [ticket?, generation?]

namespace LiveResource

/-- The generation that an attempt has taken. -/
def generationOf? (r : LiveResource) (id : Nat) : Option Nat :=
  (r.phase? id).bind Phase.generation?

/-- The attempt has taken the generation and has not come to its end. -/
def Underway (r : LiveResource) (id g : Nat) : Prop :=
  ∃ p t, r.phase? id = some p ∧ p.ticket? = some t ∧ t.generation = g

/-- The outcome of the attempt, which has taken the generation, has been applied. -/
def Applied (r : LiveResource) (id g : Nat) : Prop :=
  r.phase? id = some (.finished (.applied g))

theorem Underway.generationOf? {r : LiveResource} {id g : Nat} (h : r.Underway id g) :
    r.generationOf? id = some g := by
  obtain ⟨p, t, phase, ticket, rfl⟩ := h
  simp [LiveResource.generationOf?, phase, Phase.generation?_of_ticket? ticket]

theorem Applied.generationOf? {r : LiveResource} {id g : Nat} (h : r.Applied id g) :
    r.generationOf? id = some g := by
  rw [LiveResource.generationOf?, h]; rfl

theorem Applied.not_underway {r : LiveResource} {id g : Nat} (h : r.Applied id g) (g' : Nat) :
    ¬ r.Underway id g' := by
  rintro ⟨p, t, phase, ticket, -⟩
  rw [h, Option.some.injEq] at phase
  subst phase
  cases ticket

theorem Comes.underway {r : LiveResource} {id : Nat} {signal : Signal} {t : Ticket}
    {outcome : Outcome} (h : r.Comes id signal t outcome) : r.Underway id t.generation := by
  cases h with
  | replied phase => exact ⟨_, t, phase, rfl, rfl⟩
  | rested phase => exact ⟨_, t, phase, rfl, rfl⟩
  | refused phase => exact ⟨_, t, phase, rfl, rfl⟩

theorem Turn.generationOf? {r r₁ : LiveResource} {m : Moment} {id : Nat} (h : r.Turn m id r₁) :
    r.generationOf? id = none := by
  rcases h.phase with h | h <;> rw [LiveResource.generationOf?, h] <;> rfl

theorem generationOf?_of_setPhase {r r' : LiveResource} {id : Nat} {q p : Phase}
    (h : r'.attempts = (r.setPhase id p).attempts) (phase : r.phase? id = some q) (j : Nat) :
    r'.generationOf? j = if j = id then p.generation? else r.generationOf? j := by
  rw [generationOf?, phase?_of_setPhase h phase]
  split <;> rfl

/-! ### What a move does to the generations -/

/-- How the phase of an attempt changes in a move, and how many generations have been taken after
it. -/
inductive Shift (r : LiveResource) : Phase → Phase → Nat → Prop
  /-- It waits for its turn. -/
  | wait {epoch : Nat} : Shift r .spawned (.queued epoch) r.resource.generation
  /-- It takes the next generation. -/
  | take {q p : Phase} (fresh : q.generation? = none)
      (taken : p.generation? = some (r.resource.generation + 1)) :
      Shift r q p (r.resource.generation + 1)
  /-- It goes on with what it carries. -/
  | carry {q p : Phase} {t : Ticket} (before : q.ticket? = some t) (now : p.ticket? = some t) :
      Shift r q p r.resource.generation
  /-- It ends, and its outcome is applied. -/
  | apply {q : Phase} {t : Ticket} (before : q.ticket? = some t)
      (current : r.resource.isCurrent t.generation = true) :
      Shift r q (.finished (.applied t.generation)) r.resource.generation
  /-- It ends, and nothing is applied. -/
  | leave {q : Phase} {ending : Ending}
      (same : (Phase.finished ending).generation? = q.generation?)
      (unapplied : ∀ g, ending ≠ .applied g) :
      Shift r q (.finished ending) r.resource.generation

theorem Shift.generation? {r : LiveResource} {q p : Phase} {n : Nat} (h : r.Shift q p n) :
    (n = r.resource.generation ∧ p.generation? = q.generation?) ∨
      (n = r.resource.generation + 1 ∧ q.generation? = none ∧
        p.generation? = some (r.resource.generation + 1)) := by
  cases h with
  | wait => exact .inl ⟨rfl, rfl⟩
  | take fresh taken => exact .inr ⟨rfl, fresh, taken⟩
  | carry before now =>
    exact .inl ⟨rfl, by
      rw [Phase.generation?_of_ticket? before, Phase.generation?_of_ticket? now]⟩
  | apply before _ => exact .inl ⟨rfl, (Phase.generation?_of_ticket? before).symm⟩
  | leave same _ => exact .inl ⟨rfl, same⟩

section Moves

variable {r r' : LiveResource} {m : Moment} {id : Nat} {signal : Signal} {effects : List Effect}

/-- No move changes the fence or retires the resource. -/
theorem Move.keeps (h : r.Move m id signal r' effects) :
    r'.resource.fence = r.resource.fence ∧ r'.resource.retired = r.resource.retired := by
  cases h with
  | refuse _ _ settles | apply _ _ settles =>
    have agrees := (Resource.Settled.of_settle settles).agrees
    exact ⟨agrees.fence, agrees.retired⟩
  | _ => exact ⟨rfl, rfl⟩

/-- An attempt that comes to its outcome carries its ticket. -/
theorem Comes.phase {t : Ticket} {outcome : Outcome} (h : r.Comes id signal t outcome) :
    ∃ q, r.phase? id = some q ∧ q.ticket? = some t := by
  cases h with
  | replied phase => exact ⟨_, phase, rfl⟩
  | rested phase => exact ⟨_, phase, rfl⟩
  | refused phase => exact ⟨_, phase, rfl⟩

/-- A move changes the phase of one attempt at most. -/
theorem Move.shift (h : r.Move m id signal r' effects) :
    r' = r ∨ ∃ q p, r.phase? id = some q ∧ r'.attempts = (r.setPhase id p).attempts ∧
      r.Shift q p r'.resource.generation := by
  -- an attempt whose turn it is has no generation before, and the next one after
  have taken {r₁ : LiveResource} (turn : r.Turn m id r₁) (x : Resource) (p : Phase)
      (hx : x.generation = r.resource.generation + 1)
      (hp : p.generation? = some (r.resource.generation + 1)) :
      ∃ q p', r.phase? id = some q ∧
        ({ r₁ with resource := x }.setPhase id p).attempts = (r.setPhase id p').attempts ∧
        r.Shift q p' x.generation := by
    rw [hx]
    rcases turn.phase with phase | phase <;>
      exact ⟨_, p, phase, turn.setPhase_attempts x p, .take rfl hp⟩
  cases h with
  | still => exact .inl rfl
  | leave phase leaves =>
    refine .inr ⟨_, _, phase, rfl, .leave ?_ ?_⟩ <;> cases leaves <;> simp [Phase.generation?]
  | queue phase => exact .inr ⟨_, _, phase, rfl, .wait⟩
  | accept phase _ _ => exact .inr ⟨_, _, phase, rfl, .carry rfl rfl⟩
  | rest phase _ => exact .inr ⟨_, _, phase, rfl, .carry rfl rfl⟩
  | discard comes _ =>
    obtain ⟨q, phase, ticket⟩ := comes.phase
    refine .inr ⟨q, _, phase, rfl, .leave ?_ (by simp)⟩
    rw [Phase.generation?_of_ticket? ticket]; rfl
  | apply comes current settles =>
    obtain ⟨q, phase, ticket⟩ := comes.phase
    have agrees := (Resource.Settled.of_settle settles).agrees
    refine .inr ⟨q, _, phase, rfl, ?_⟩
    rw [resource_ended, agrees.generation]
    exact .apply ticket current
  | refuse turn _ settles =>
    have agrees := (Resource.Settled.of_settle settles).agrees
    exact .inr (taken turn _ _ agrees.generation rfl)
  | ask turn _ => exact .inr (taken turn _ (.validating _) rfl rfl)
  | call turn _ => exact .inr (taken turn _ (.calling _) rfl rfl)

/-- A move either takes no generation, or it takes the next one, for an attempt that had none. -/
theorem Move.generations (h : r.Move m id signal r' effects) :
    (r'.resource.generation = r.resource.generation ∧
        ∀ j, r'.generationOf? j = r.generationOf? j) ∨
      (r'.resource.generation = r.resource.generation + 1 ∧ r.generationOf? id = none ∧
        ∀ j, r'.generationOf? j
          = if j = id then some (r.resource.generation + 1) else r.generationOf? j) := by
  rcases h.shift with rfl | ⟨q, p, phase, ha, shift⟩
  · exact .inl ⟨rfl, fun _ => rfl⟩
  have before : r.generationOf? id = q.generation? := by rw [generationOf?, phase]; rfl
  rcases shift.generation? with ⟨hn, same⟩ | ⟨hn, fresh, taken⟩
  · refine .inl ⟨hn, fun j => ?_⟩
    rw [generationOf?_of_setPhase ha phase]
    split
    · next hj => rw [hj, same, before]
    · rfl
  · refine .inr ⟨hn, before.trans fresh, fun j => ?_⟩
    rw [generationOf?_of_setPhase ha phase, taken]

/-- An outcome that has been applied after a move had been applied before it, or the move has
applied it: of the current generation, or of one that is taken in the same move. -/
theorem Move.of_applied (h : r.Move m id signal r' effects) {j g : Nat} (applied : r'.Applied j g) :
    r.Applied j g ∨ g = r.resource.generation + 1 ∨
      (r.Underway j g ∧ r.resource.isCurrent g = true) := by
  rcases h.shift with rfl | ⟨q, p, phase, ha, shift⟩
  · exact .inl applied
  rw [Applied, phase?_of_setPhase ha phase] at applied
  by_cases hj : j = id
  · rw [if_pos hj, Option.some.injEq] at applied
    subst applied hj
    generalize r'.resource.generation = n at shift
    cases shift with
    | take _ taken => exact .inr (.inl (Option.some.inj taken))
    | carry _ now => cases now
    | apply before current => exact .inr (.inr ⟨⟨q, _, phase, before, rfl⟩, current⟩)
    | leave _ unapplied => exact absurd rfl (unapplied g)
  · rw [if_neg hj] at applied
    exact .inl applied

/-- Who is under way after a move has been so before it, or has taken its generation in it. -/
theorem Move.of_underway (h : r.Move m id signal r' effects) {j g : Nat}
    (underway : r'.Underway j g) : r.Underway j g ∨ g = r.resource.generation + 1 := by
  rcases h.shift with rfl | ⟨q, p, phase, ha, shift⟩
  · exact .inl underway
  obtain ⟨p', t, phase', ticket, rfl⟩ := underway
  rw [phase?_of_setPhase ha phase] at phase'
  by_cases hj : j = id
  · rw [if_pos hj, Option.some.injEq] at phase'
    subst phase' hj
    generalize r'.resource.generation = n at shift
    cases shift with
    | wait => cases ticket
    | take _ taken =>
      rw [Phase.generation?_of_ticket? ticket, Option.some.injEq] at taken
      exact .inr taken
    | carry before now =>
      rw [now, Option.some.injEq] at ticket
      exact .inl ⟨q, t, phase, ticket ▸ before, rfl⟩
    | apply => cases ticket
    | leave => cases ticket
  · rw [if_neg hj] at phase'
    exact .inl ⟨p', t, phase', ticket, rfl⟩

end Moves

/-! ### Actions from outside -/

section External

variable {r : LiveResource} {a : Action}

theorem effects_external (ha : a.External) : (r.act a).2 = [] := by
  cases a <;> first | exact ha.elim | rfl

theorem generation_external (ha : a.External) :
    (r.act a).1.resource.generation = r.resource.generation := by
  cases a with
  | advance m id signal => exact ha.elim
  | update config =>
    cases h : r.resource.update config with
    | error e => simp only [act, update, h]; rfl
    | ok r' =>
      simp only [act, update, h]
      exact (Resource.update_ok h).2.2.2.2.1
  | listen kind once listener => cases once <;> rfl
  | _ => rfl

/-- Only a cancellation or the end of the resource moves the fence, up to the generations taken. -/
theorem fence_external (ha : a.External) :
    (a.Withdraws ∧ (r.act a).1.resource.fence = r.resource.generation) ∨
      (¬ a.Withdraws ∧ (r.act a).1.resource.fence = r.resource.fence ∧
        (r.act a).1.resource.retired = r.resource.retired) := by
  cases a with
  | advance m id signal => exact ha.elim
  | cancel => exact .inl ⟨trivial, rfl⟩
  | retire => exact .inl ⟨trivial, rfl⟩
  | update config =>
    refine .inr ⟨id, ?_⟩
    cases h : r.resource.update config with
    | error e => simp only [act, update, h]; exact ⟨rfl, rfl⟩
    | ok r' =>
      simp only [act, update, h]
      obtain ⟨-, -, -, -, -, fence, retired, -⟩ := Resource.update_ok h
      exact ⟨fence, retired⟩
  | listen kind once listener => cases once <;> exact .inr ⟨id, rfl, rfl⟩
  | _ => exact .inr ⟨id, rfl, rfl⟩

/-- Who has not started yet may be new, and all others are in the phase they were in. -/
theorem phase?_external (ha : a.External) (j : Nat) :
    (r.act a).1.phase? j = r.phase? j ∨
      (r.phase? j = none ∧ (r.act a).1.phase? j = some .spawned) := by
  cases hj : r.phase? j with
  | some p => exact .inl (phase?_act_external ha hj)
  | none =>
    cases a with
    | advance m id signal => exact ha.elim
    | spawn override =>
      rw [act, phase?_spawn, hj]
      split <;> simp
    | update config =>
      simp only [act, update]
      cases r.resource.update config <;> exact .inl hj
    | listen kind once listener => cases once <;> exact .inl hj
    | _ => exact .inl hj

theorem generationOf?_external (ha : a.External) (j : Nat) :
    (r.act a).1.generationOf? j = r.generationOf? j := by
  rw [generationOf?, generationOf?]
  rcases phase?_external ha j with h | ⟨h, h'⟩
  · rw [h]
  · rw [h, h']; rfl

theorem Applied.of_external (ha : a.External) {j g : Nat} (h : (r.act a).1.Applied j g) :
    r.Applied j g := by
  rcases phase?_external ha j with he | ⟨-, he⟩ <;> rw [Applied, he] at h
  · exact h
  · cases h

theorem Underway.of_external (ha : a.External) {j g : Nat} (h : (r.act a).1.Underway j g) :
    r.Underway j g := by
  obtain ⟨p, t, phase, ticket, rfl⟩ := h
  rcases phase?_external ha j with he | ⟨-, he⟩ <;> rw [he] at phase
  · exact ⟨p, t, phase, ticket, rfl⟩
  · cases phase; cases ticket

theorem phase?_after_external {r : LiveResource} {actions : List Action}
    (ha : ∀ a ∈ actions, a.External) {id : Nat} {p : Phase} (h : r.phase? id = some p) :
    (r.after actions).phase? id = some p := by
  induction actions generalizing r with
  | nil => exact h
  | cons a rest ih =>
    rw [List.forall_mem_cons] at ha
    exact ih ha.2 (phase?_act_external ha.1 h)

/-- Attempts that are in a phase after actions from outside were so before, or are new. -/
theorem of_phase?_after_external {r : LiveResource} {actions : List Action}
    (ha : ∀ a ∈ actions, a.External) {id : Nat} {p : Phase}
    (h : (r.after actions).phase? id = some p) :
    r.phase? id = some p ∨ (r.phase? id = none ∧ p = .spawned) := by
  cases before : r.phase? id with
  | some q =>
    rw [phase?_after_external ha before] at h
    exact .inl h
  | none =>
    refine .inr ⟨rfl, ?_⟩
    induction actions generalizing r with
    | nil => rw [after_nil, before] at h; cases h
    | cons a rest ih =>
      rw [List.forall_mem_cons] at ha
      rcases phase?_external ha.1 id with same | ⟨-, new⟩
      · exact ih ha.2 h (same.trans before)
      · rw [after_cons, phase?_after_external ha.2 new] at h
        exact (Option.some.inj h).symm

theorem generation_after_external {r : LiveResource} {actions : List Action}
    (ha : ∀ a ∈ actions, a.External) :
    (r.after actions).resource.generation = r.resource.generation := by
  induction actions generalizing r with
  | nil => rfl
  | cons a rest ih =>
    rw [List.forall_mem_cons] at ha
    exact (ih ha.2).trans (generation_external ha.1)

end External

/-- An action comes from outside, or an attempt makes a move. -/
theorem act_cases (r : LiveResource) (a : Action)
    (fence : r.resource.fence ≤ r.resource.generation) :
    a.External ∨ ∃ m id signal, a = .advance m id signal ∧
      r.Move m id signal (r.act a).1 (deeds (r.act a).2) := by
  cases a with
  | advance m id signal => exact .inr ⟨m, id, signal, rfl, advance_move fence signal⟩
  | _ => exact .inl trivial

/-! ### The invariant -/

/-- The generations of the attempts are distinct and have been taken, and none beyond them is
fenced off. -/
structure Orderly (r : LiveResource) : Prop where
  fence_le : r.resource.fence ≤ r.resource.generation
  bounded : ∀ {id g}, r.generationOf? id = some g → g ≤ r.resource.generation
  distinct : ∀ {i j g}, r.generationOf? i = some g → r.generationOf? j = some g → i = j

theorem orderly_fresh (name : String) (config : Config) : (fresh name config).Orderly where
  fence_le := Nat.le_refl 0
  bounded h := by simp [generationOf?, phase?, fresh, ofResource] at h
  distinct h := by simp [generationOf?, phase?, fresh, ofResource] at h

theorem Move.orderly {r r' : LiveResource} {m : Moment} {id : Nat} {signal : Signal}
    {effects : List Effect} (h : r.Move m id signal r' effects) (orderly : r.Orderly) :
    r'.Orderly := by
  have fence := h.keeps.1
  have hle := orderly.fence_le
  rcases h.generations with ⟨hg, same⟩ | ⟨hg, fresh, taken⟩
  · refine ⟨by omega, fun hi => ?_, fun hi hj => ?_⟩
    · rw [same] at hi; rw [hg]; exact orderly.bounded hi
    · rw [same] at hi hj; exact orderly.distinct hi hj
  · refine ⟨by omega, fun {i g} hi => ?_, fun {i j g} hi hj => ?_⟩
    · rw [taken] at hi
      split at hi
      · cases hi; omega
      · have := orderly.bounded hi; omega
    · -- the new generation is beyond those that others have taken
      rw [taken] at hi hj
      split at hi <;> split at hj
      · next hi' hj' => rw [hi', hj']
      · cases hi; have := orderly.bounded hj; omega
      · cases hj; have := orderly.bounded hi; omega
      · exact orderly.distinct hi hj

theorem Orderly.act {r : LiveResource} (orderly : r.Orderly) (a : Action) :
    (r.act a).1.Orderly := by
  rcases act_cases r a orderly.fence_le with ha | ⟨m, id, signal, -, move⟩
  · have hg := generation_external (r := r) ha
    have hle := orderly.fence_le
    refine ⟨?_, fun hi => ?_, fun hi hj => ?_⟩
    · rcases fence_external (r := r) ha with ⟨-, hf⟩ | ⟨-, hf, -⟩ <;> omega
    · rw [generationOf?_external ha] at hi; rw [hg]; exact orderly.bounded hi
    · rw [generationOf?_external ha] at hi hj; exact orderly.distinct hi hj
  · exact move.orderly orderly

theorem Orderly.after {r : LiveResource} (orderly : r.Orderly) (actions : List Action) :
    (r.after actions).Orderly :=
  after_induction orderly (fun _ a h => h.act a) actions

/-! ### Along a run -/

section Run

variable {r : LiveResource}

theorem Orderly.generation_le_act (orderly : r.Orderly) (a : Action) :
    r.resource.generation ≤ (r.act a).1.resource.generation := by
  rcases act_cases r a orderly.fence_le with ha | ⟨m, id, signal, -, move⟩
  · exact Nat.le_of_eq (generation_external ha).symm
  · rcases move.generations with ⟨h, -⟩ | ⟨h, -⟩ <;> omega

theorem Orderly.generation_le_after (orderly : r.Orderly) (actions : List Action) :
    r.resource.generation ≤ (r.after actions).resource.generation := by
  induction actions generalizing r with
  | nil => exact Nat.le_refl _
  | cons a rest ih => exact Nat.le_trans (orderly.generation_le_act a) (ih (orderly.act a))

theorem Orderly.fence_le_act (orderly : r.Orderly) (a : Action) :
    r.resource.fence ≤ (r.act a).1.resource.fence := by
  have hle := orderly.fence_le
  rcases act_cases r a hle with ha | ⟨m, id, signal, -, move⟩
  · rcases fence_external (r := r) ha with ⟨-, h⟩ | ⟨-, h, -⟩ <;> omega
  · exact Nat.le_of_eq move.keeps.1.symm

theorem Orderly.fence_le_after (orderly : r.Orderly) (actions : List Action) :
    r.resource.fence ≤ (r.after actions).resource.fence := by
  induction actions generalizing r with
  | nil => exact Nat.le_refl _
  | cons a rest ih => exact Nat.le_trans (orderly.fence_le_act a) (ih (orderly.act a))

/-- An attempt keeps the generation that it has taken. -/
theorem Orderly.generationOf?_act (orderly : r.Orderly) (a : Action) {id g : Nat}
    (h : r.generationOf? id = some g) : (r.act a).1.generationOf? id = some g := by
  rcases act_cases r a orderly.fence_le with ha | ⟨m, j, signal, -, move⟩
  · rw [generationOf?_external ha, h]
  · rcases move.generations with ⟨-, same⟩ | ⟨-, fresh, taken⟩
    · rw [same, h]
    · rw [taken, if_neg, h]
      rintro rfl
      rw [h] at fresh
      cases fresh

theorem Orderly.generationOf?_after (orderly : r.Orderly) (actions : List Action) {id g : Nat}
    (h : r.generationOf? id = some g) : (r.after actions).generationOf? id = some g := by
  induction actions generalizing r with
  | nil => exact h
  | cons a rest ih => exact ih (orderly.act a) (orderly.generationOf?_act a h)

/-- A retired resource stays so. -/
theorem Orderly.retired_act (orderly : r.Orderly) (a : Action) (h : r.resource.retired = true) :
    (r.act a).1.resource.retired = true := by
  rcases act_cases r a orderly.fence_le with ha | ⟨m, id, signal, -, move⟩
  · cases a with
    | retire => rfl
    | cancel => exact h
    | _ =>
      rcases fence_external (r := r) ha with ⟨hw, -⟩ | ⟨-, -, hr⟩
      · exact hw.elim
      · exact hr.trans h
  · exact move.keeps.2.trans h

theorem Orderly.retired_after (orderly : r.Orderly) (actions : List Action)
    (retired : r.resource.retired = true) : (r.after actions).resource.retired = true := by
  induction actions generalizing r with
  | nil => exact retired
  | cons a rest ih => exact ih (orderly.act a) (orderly.retired_act a retired)

/-- A generation that had been taken before an action and is current after it was current before
it. -/
theorem Orderly.isCurrent_of_act (orderly : r.Orderly) (a : Action) {g : Nat}
    (taken : g ≤ r.resource.generation) (h : (r.act a).1.resource.isCurrent g = true) :
    r.resource.isCurrent g = true := by
  obtain ⟨alive, hg, hf⟩ := Resource.isCurrent_iff.1 h
  have h1 := orderly.generation_le_act a
  have h2 := orderly.fence_le_act a
  refine Resource.isCurrent_iff.2 ⟨?_, by omega, by omega⟩
  cases hr : r.resource.retired with
  | false => rfl
  | true => rw [orderly.retired_act a hr] at alive; cases alive

/-- An attempt that is under way after an action was so before it, if its generation had been
taken. -/
theorem Orderly.underway_of_act (orderly : r.Orderly) (a : Action) {id g : Nat}
    (taken : g ≤ r.resource.generation) (h : (r.act a).1.Underway id g) : r.Underway id g := by
  rcases act_cases r a orderly.fence_le with ha | ⟨m, j, signal, -, move⟩
  · exact h.of_external ha
  · exact (move.of_underway h).resolve_right (by omega)

/-- An outcome that has been applied after a run had been applied before it, or its generation is
taken in the run, or it was current before it with the attempt under way. -/
theorem Orderly.of_applied (orderly : r.Orderly) (actions : List Action) {id g : Nat}
    (h : (r.after actions).Applied id g) :
    r.Applied id g ∨ r.resource.generation < g ∨
      (r.Underway id g ∧ r.resource.isCurrent g = true) := by
  induction actions generalizing r with
  | nil => exact .inl h
  | cons a rest ih =>
    have mono := orderly.generation_le_act a
    rcases ih (orderly.act a) h with applied | later | ⟨underway, current⟩
    · rcases act_cases r a orderly.fence_le with ha | ⟨m, j, signal, -, move⟩
      · exact .inl (applied.of_external ha)
      · rcases move.of_applied applied with h | h | h
        · exact .inl h
        · exact .inr (.inl (by omega))
        · exact .inr (.inr h)
    · exact .inr (.inl (by omega))
    · by_cases hg : g ≤ r.resource.generation
      · exact .inr (.inr ⟨orderly.underway_of_act a hg underway,
          orderly.isCurrent_of_act a hg current⟩)
      · exact .inr (.inl (by omega))

end Run

end LiveResource

end ReactiveResource
