import Mathlib.Data.List.Induction
import ReactiveResource.Proofs.Resource.Passage
import ReactiveResource.Proofs.Resource.Prospects

/-!
# What entitles an attempt to its call

An attempt reads the config twice: when it begins, for the precondition and for whether it has to
wait for the page lock, and when it takes its generation, for all the rest. Whatever happens in
between, and while a verdict on its parameters is awaited, a call is made only if it was the same
config both times, and only while the generation counts.

* `LiveResource.Enters`, `LiveResource.Draws`: an attempt begins, and takes its ticket, under a
  config;
* `LiveResource.Entered`, `LiveResource.Drawn`: it has done so in a run;
* `LiveResource.Traced`, `traced_after`: where attempts that wait have come from;
* `LiveResource.Warrant`, `calls_warranted`: the statement, for every run.
-/

namespace ReactiveResource

/-- The validator of the config, if there is one, does not object to the parameters: its rule has
no message for them, or an empty one, and a verdict that is awaited is the signal. -/
def Config.Passes (c : Config) (params : Params) (signal : Signal) : Prop :=
  match c.validator with
  | none => True
  | some (.rule check) => ∀ message, check params = some message → message = ""
  | some .held =>
    ∃ verdict, signal = .verdict verdict ∧ ∀ message, verdict = some message → message = ""

theorem Config.Accepts.passes {c : Config} {params : Params} (h : c.Accepts params) :
    c.Passes params .go := by
  unfold Accepts at h
  unfold Passes
  cases hv : c.validator with
  | none => trivial
  | some validator =>
    rw [hv] at h
    cases validator with
    | rule check => simpa [Option.filter_eq_none_iff] using h
    | held => exact h.elim

namespace LiveResource

/-- In the action, the attempt begins under the config: the resource is not retired, and the
precondition, if there is one, is looked at and holds. -/
structure Enters (r : LiveResource) (a : Action) (id : Nat) (c : Config) : Prop where
  begins : r.phase? id = some .spawned
  alive : r.resource.retired = false
  config : r.resource.config.bare = c.bare
  gate : ∃ m, a = .advance m id .go ∧ ∀ p, c.precondition = some p →
    m.isOpen p.gate = true ∧ .checked p.gate true ∈ (r.act a).2

/-- In the action, the attempt takes a ticket under the config: the next generation, its own
parameters or those of the config, and the call that belongs to them. The parameters are given to
the validator, if there is one. -/
structure Draws (r : LiveResource) (a : Action) (id : Nat) (c : Config) (t : Ticket) : Prop where
  takes : r.Takes a id t.generation
  config : r.resource.config.bare = c.bare
  params : t.params = (r.override? id).getD c.params
  method : t.method = c.method
  args : t.args = c.callArgs t.params
  delay : t.delay = c.delay
  validated : c.validator.isSome = true → .validated t.params ∈ (r.act a).2

/-- In the run, the attempt has begun under the config. -/
def Entered (start : LiveResource) (run : List Action) (id : Nat) (c : Config) : Prop :=
  ∃ before a later, run = before ++ a :: later ∧ (start.after before).Enters a id c

/-- In the run, the attempt has taken the ticket under the config under which it has begun. It has
waited in between only if the config is paginated. -/
def Drawn (start : LiveResource) (run : List Action) (id : Nat) (c : Config) (t : Ticket) : Prop :=
  ∃ before a later, run = before ++ a :: later ∧ (start.after before).Draws a id c t ∧
    start.Entered (before ++ [a]) id c ∧
    (c.paginated = false → (start.after before).Enters a id c)

section Step

variable {r r' r₁ : LiveResource} {m : Moment} {id : Nat} {signal : Signal} {effects : List Effect}
  {c : Config}

/-! ### What is looked at -/

theorem mem_advance_of_spawned (phase : r.phase? id = some .spawned)
    (alive : r.resource.retired = false) {e : Effect}
    (mem : (∃ p, r.resource.config.precondition = some p ∧ e = .checked p.gate (m.isOpen p.gate)) ∨
      r.Admits m ∧ e ∈ (r.enter m id (r.override? id)).2) :
    e ∈ (r.advance m id .go).2 := by
  obtain ⟨⟨override, q⟩, attempt, rfl⟩ := Option.map_eq_some_iff.1 phase
  have same : override = r.override? id := by simp [override?, attempt]
  subst same
  simp only [advance, attempt, start, alive, Bool.false_eq_true, if_false]
  rcases mem with ⟨p, precondition, rfl⟩ | ⟨admits, mem⟩
  · rw [precondition]
    exact List.mem_cons_self
  · cases precondition : r.resource.config.precondition with
    | none => exact mem
    | some p => simpa [admits.isOpen p precondition] using .inr mem

/-- An attempt that takes its generation does what belongs to that. -/
theorem Turn.mem_advance (turn : r.Turn m id r₁) {e : Effect}
    (mem : e ∈ (r₁.take m id (r.override? id) r.resource.epoch).2) :
    e ∈ (r.advance m id .go).2 := by
  cases turn with
  | free phase admits single =>
    refine mem_advance_of_spawned phase admits.alive (.inr ⟨admits, ?_⟩)
    simpa [enter, single] using mem
  | first phase admits paginated vacant =>
    refine mem_advance_of_spawned phase admits.alive (.inr ⟨admits, ?_⟩)
    simpa [enter, paginated, vacant] using mem
  | next phase holder alive =>
    obtain ⟨⟨override, q⟩, attempt, rfl⟩ := Option.map_eq_some_iff.1 phase
    have same : override = r.override? id := by simp [override?, attempt]
    subst same
    simpa [advance, attempt, holder] using mem

/-- The parameters are given to the validator when the generation is taken. -/
theorem Turn.validated (turn : r.Turn m id r₁)
    (checked : r.resource.config.validator.isSome = true) :
    .validated (r.paramsFor id) ∈ (r.advance m id .go).2 := by
  refine turn.mem_advance ?_
  have params : (r.override? id).getD r.resource.config.params = r.paramsFor id := rfl
  obtain ⟨validator, hv⟩ := Option.isSome_iff_exists.1 checked
  rw [take]
  simp only [turn.resource, turn.alive, bne_self_eq_false, Bool.or_self, Bool.false_eq_true,
    if_false, params, hv]
  cases validator <;> exact List.mem_cons_self

/-! ### One config -/

/-- An attempt that is let in begins under the config of that moment. -/
theorem Admits.enters (admits : r.Admits m) (begins : r.phase? id = some .spawned)
    (same : r.resource.config.bare = c.bare) : r.Enters (.advance m id .go) id c where
  begins := begins
  alive := admits.alive
  config := same
  gate := by
    refine ⟨m, rfl, fun p precondition => ?_⟩
    have precondition := (Config.precondition_of_bare same).trans precondition
    have isOpen := admits.isOpen p precondition
    exact ⟨isOpen, mem_advance_of_spawned begins admits.alive
      (.inl ⟨p, precondition, by rw [isOpen]⟩)⟩

/-- An attempt whose turn it is takes the next generation. -/
theorem Turn.takes (turn : r.Turn m id r₁) (fence : r.resource.fence ≤ r.resource.generation) :
    r.Takes (.advance m id .go) id (r.resource.generation + 1) := by
  refine ⟨⟨m, .go, rfl⟩, rfl, ?_⟩
  have move : r.Move m id .go (r.act (.advance m id .go)).1 _ := advance_move fence .go
  refine turn.of_move (motive := fun r' _ => r'.resource.generation = r.resource.generation + 1)
    move ?_ (fun _ _ => rfl) fun _ _ => rfl
  intro _ message _ _ _ _ _ settles
  have agrees := (r.resource.raised (r.paramsFor id)).settle_agrees m.now (.invalid message)
  rw [settles] at agrees
  exact agrees.generation

/-- Its ticket is that of the config of that moment. -/
theorem Turn.draws (turn : r.Turn m id r₁) (fence : r.resource.fence ≤ r.resource.generation)
    (same : r.resource.config.bare = c.bare) :
    r.Draws (.advance m id .go) id c (r.ticketFor id) where
  takes := turn.takes fence
  config := same
  params := (congrArg (fun c : Config => (r.override? id).getD c.params) same :)
  method := Config.method_of_bare same
  args := (congrArg (fun c : Config => c.callArgs (r.paramsFor id)) same :)
  delay := (congrArg Config.delay same :)
  validated checked := turn.validated (by rwa [Config.validator_of_bare same])

/-- An attempt that takes its generation under a paginated config holds the page lock. -/
theorem Turn.holder (turn : r.Turn m id r₁) (paginated : r.resource.config.paginated = true) :
    r₁.pages.holder = some id := by
  cases turn with
  | free _ _ single => cases paginated.symm.trans single
  | first => rfl
  | next _ holder => exact holder

/-- The lock stays with an attempt that does not move. -/
theorem Move.holder_of_ne (h : r.Move m id signal r' effects) (guarded : r.Guarded) {j : Nat}
    (hne : j ≠ id) (holder : r.pages.holder = some j) : r'.pages.holder = some j := by
  rcases h.handover guarded with ⟨rfl, -⟩ | ⟨q, p, -, -, handover⟩
  · exact holder
  generalize r'.pages = pages at handover
  cases handover with
  | keep => exact holder
  | leave => rwa [PageLock.leave, if_neg fun own => hne (Option.some.inj (holder.symm.trans own))]
  | queue => exact holder
  | take vacant => cases holder.symm.trans vacant

/-- An attempt that waits for the page lock after a move did so before, or has just begun. -/
theorem Move.of_queued (h : r.Move m id signal r' effects) {j epoch : Nat}
    (queued : r'.phase? j = some (.queued epoch)) :
    r.phase? j = some (.queued epoch) ∨ (j = id ∧ signal = .go ∧ epoch = r.resource.epoch ∧
      r.phase? id = some .spawned ∧ r.Admits m ∧ r.resource.config.paginated = true) := by
  have other {q p : Phase} (phase : r.phase? id = some q)
      (attempts : r'.attempts = (r.setPhase id p).attempts) (onward : ∀ e, p ≠ .queued e) :
      r.phase? j = some (.queued epoch) := by
    rw [phase?_of_setPhase attempts phase] at queued
    split at queued
    · exact absurd (Option.some.inj queued) (onward epoch)
    · exact queued
  cases h with
  | still => exact .inl queued
  | queue phase admits paginated =>
    change (r.setPhase id (.queued r.resource.epoch)).phase? j = some (.queued epoch) at queued
    rw [phase?_of_setPhase rfl phase] at queued
    split at queued
    · next own =>
      cases queued
      exact .inr ⟨own, rfl, rfl, phase, admits, paginated⟩
    · exact .inl queued
  | leave phase => exact .inl (other phase rfl nofun)
  | accept phase => exact .inl (other phase rfl nofun)
  | rest phase => exact .inl (other phase rfl nofun)
  | apply comes | discard comes =>
    obtain ⟨q, phase, -⟩ := comes.phase
    exact .inl (other phase rfl nofun)
  | refuse turn | ask turn | call turn =>
    rcases turn.phase with phase | phase <;>
      exact .inl (other phase (turn.setPhase_attempts _ _) nofun)

/-- An attempt that waits for a verdict after a move did so before and has not moved, or has just
taken its generation. -/
theorem Move.of_validating (h : r.Move m id signal r' effects) {j : Nat} {t : Ticket}
    (validating : r'.phase? j = some (.validating t)) :
    (r.phase? j = some (.validating t) ∧ (r' = r ∨ j ≠ id)) ∨
      (j = id ∧ signal = .go ∧ t = r.ticketFor id ∧
        r.resource.config.validator = some .held ∧ ∃ r₁, r.Turn m id r₁ ∧ r'.pages = r₁.pages) := by
  have other {q p : Phase} (phase : r.phase? id = some q)
      (attempts : r'.attempts = (r.setPhase id p).attempts) (onward : ∀ t, p ≠ .validating t) :
      r.phase? j = some (.validating t) ∧ (r' = r ∨ j ≠ id) := by
    rw [phase?_of_setPhase attempts phase] at validating
    split at validating
    · exact absurd (Option.some.inj validating) (onward t)
    · next hne => exact ⟨validating, .inr hne⟩
  cases h with
  | still => exact .inl ⟨validating, .inl rfl⟩
  | @ask r₁ turn held =>
    obtain ⟨q, phase⟩ : ∃ q, r.phase? id = some q := by
      rcases turn.phase with phase | phase <;> exact ⟨_, phase⟩
    rw [phase?_of_setPhase (turn.setPhase_attempts _ _) phase] at validating
    split at validating
    · next own =>
      cases validating
      exact .inr ⟨own, rfl, rfl, held, r₁, turn, rfl⟩
    · next hne => exact .inl ⟨validating, .inr hne⟩
  | queue phase => exact .inl (other phase rfl nofun)
  | leave phase => exact .inl (other phase rfl nofun)
  | accept phase => exact .inl (other phase rfl nofun)
  | rest phase => exact .inl (other phase rfl nofun)
  | apply comes | discard comes =>
    obtain ⟨q, phase, -⟩ := comes.phase
    exact .inl (other phase rfl nofun)
  | refuse turn | call turn =>
    rcases turn.phase with phase | phase <;>
      exact .inl (other phase (turn.setPhase_attempts _ _) nofun)

/-- A call is made when it is an attempt's turn and its parameters are accepted at once, or when the
verdict that it waits for accepts them. -/
theorem Move.of_call (h : r.Move m id signal r' effects) {j : Nat} {method : String} {args : Json}
    (called : .call j method args ∈ effects) :
    j = id ∧ ((∃ r₁, r.Turn m id r₁ ∧ r.resource.config.Accepts (r.paramsFor id) ∧ signal = .go ∧
        method = (r.ticketFor id).method ∧ args = (r.ticketFor id).args ∧ r'.pages = r₁.pages ∧
        r'.phase? id = some (.calling (r.ticketFor id))) ∨
      ∃ t verdict, r.phase? id = some (.validating t) ∧ signal = .verdict verdict ∧
        (∀ message, verdict = some message → message = "") ∧ method = t.method ∧ args = t.args ∧
        r'.pages = r.pages ∧ r'.resource.isCurrent t.generation = true ∧
        r'.phase? id = some (.calling t)) := by
  cases h with
  | @call r₁ turn accepts =>
    obtain ⟨rfl, rfl, rfl⟩ : j = id ∧ method = _ ∧ args = _ := by simpa using called
    obtain ⟨q, phase⟩ : ∃ q, r.phase? j = some q := by
      rcases turn.phase with phase | phase <;> exact ⟨_, phase⟩
    refine ⟨rfl, .inl ⟨r₁, turn, accepts, rfl, rfl, rfl, rfl, ?_⟩⟩
    rw [phase?_of_setPhase (turn.setPhase_attempts _ _) phase, if_pos rfl]
  | @accept t verdict phase accepted current =>
    obtain ⟨rfl, rfl, rfl⟩ : j = id ∧ method = _ ∧ args = _ := by simpa using called
    refine ⟨rfl, .inr ⟨t, verdict, phase, rfl, ?_, rfl, rfl, rfl, current, ?_⟩⟩
    · simpa [Option.filter_eq_none_iff] using accepted
    · exact phase?_setPhase_self (r := r) phase _
  | still => cases called
  | queue => cases called
  | ask => simp at called
  | rest => simp at called
  | _ => simp [wakes] at called

/-- As long as fetches that wait are not displaced, the config is the same. -/
theorem bare_external {a : Action} (ha : a.External)
    (epoch : (r.act a).1.resource.epoch = r.resource.epoch) :
    (r.act a).1.resource.config.bare = r.resource.config.bare := by
  cases a with
  | advance => exact ha.elim
  | update config =>
    simp only [act, LiveResource.update] at epoch ⊢
    cases hu : r.resource.update config with
    | error e => rfl
    | ok resource =>
      obtain ⟨-, -, -, raised, -⟩ := Resource.update_ok hu
      rw [hu] at epoch
      exact absurd (raised.symm.trans epoch) (Nat.succ_ne_self _)
  | listen kind once => cases once <;> rfl
  | _ => rfl

end Step

/-! ### Where attempts that wait have come from -/

section Run

variable {start : LiveResource} {run : List Action} {id : Nat} {c : Config} {t : Ticket}

theorem Entered.mono (h : start.Entered run id c) (more : List Action) :
    start.Entered (run ++ more) id c := by
  obtain ⟨before, a, later, rfl, enters⟩ := h
  exact ⟨before, a, later ++ more, by simp, enters⟩

theorem Drawn.mono (h : start.Drawn run id c t) (more : List Action) :
    start.Drawn (run ++ more) id c t := by
  obtain ⟨before, a, later, rfl, rest⟩ := h
  exact ⟨before, a, later ++ more, by simp, rest⟩

/-- Where those come from who wait for the page lock, and who wait for a verdict. -/
structure Traced (start : LiveResource) (run : List Action) : Prop where
  queued : ∀ {id epoch}, (start.after run).phase? id = some (.queued epoch) →
    ∃ c, start.Entered run id c ∧ c.paginated = true ∧
      ((start.after run).resource.epoch = epoch → (start.after run).resource.config.bare = c.bare)
  validating : ∀ {id t}, (start.after run).phase? id = some (.validating t) →
    ∃ c, start.Drawn run id c t ∧ c.validator = some .held ∧
      (c.paginated = true → (start.after run).pages.holder = some id)

/-- An attempt that takes its generation has begun under the config of that moment. -/
theorem Traced.drawn (traced : start.Traced run) (orderly : (start.after run).Orderly) {m : Moment}
    {r₁ : LiveResource} (turn : (start.after run).Turn m id r₁) :
    ∃ c, start.Drawn (run ++ [.advance m id .go]) id c ((start.after run).ticketFor id) ∧
      (start.after run).resource.config.bare = c.bare := by
  have draws (c : Config) (same : (start.after run).resource.config.bare = c.bare) :=
    turn.draws orderly.fence_le same
  have begun (admits : (start.after run).Admits m)
      (begins : (start.after run).phase? id = some .spawned) :
      start.Drawn (run ++ [.advance m id .go]) id (start.after run).resource.config
        ((start.after run).ticketFor id) :=
    ⟨run, _, [], rfl, draws _ rfl,
      ⟨run, _, [], rfl, admits.enters begins rfl⟩, fun _ => admits.enters begins rfl⟩
  cases turn with
  | free begins admits => exact ⟨_, begun admits begins, rfl⟩
  | first begins admits => exact ⟨_, begun admits begins, rfl⟩
  | next queued holder alive =>
    obtain ⟨c, entered, paginated, same⟩ := traced.queued queued
    refine ⟨c, ⟨run, _, [], rfl, draws c (same rfl), entered.mono _, ?_⟩, same rfl⟩
    exact fun single => absurd (paginated.symm.trans single) (by simp)

/-- What one action preserves. -/
theorem Traced.act (traced : start.Traced run) (orderly : (start.after run).Orderly)
    (guarded : (start.after run).Guarded) (a : Action) : start.Traced (run ++ [a]) where
  queued {id epoch} queued := by
    rw [after_concat] at queued ⊢
    rcases act_cases _ a orderly.fence_le with ha | ⟨m, i, signal, rfl, move⟩
    · rcases phase?_external (r := start.after run) ha id with same | ⟨-, new⟩
      · rw [same] at queued
        obtain ⟨c, entered, paginated, unchanged⟩ := traced.queued queued
        refine ⟨c, entered.mono [a], paginated, fun now => ?_⟩
        -- the epoch was reached when the attempt began to wait, and has not been raised since
        have before := (guarded.queued queued).2
        have later := epoch_le_external (r := start.after run) ha
        have stands : (start.after run).resource.epoch = epoch := by omega
        exact (bare_external ha (now.trans stands.symm)).trans (unchanged stands)
      · cases new.symm.trans queued
    · rcases move.of_queued queued with before | ⟨rfl, rfl, rfl, begins, admits, paginated⟩
      · obtain ⟨c, entered, paginated, unchanged⟩ := traced.queued before
        refine ⟨c, entered.mono _, paginated, fun now => ?_⟩
        exact move.config.trans (unchanged (move.epoch.symm.trans now))
      · exact ⟨_, ⟨run, _, [], rfl, admits.enters begins rfl⟩, paginated, fun _ => move.config⟩
  validating {id t} validating := by
    rw [after_concat] at validating ⊢
    rcases act_cases _ a orderly.fence_le with ha | ⟨m, i, signal, rfl, move⟩
    · rcases phase?_external (r := start.after run) ha id with same | ⟨-, new⟩
      · obtain ⟨c, drawn, held, holder⟩ := traced.validating (same.symm.trans validating)
        exact ⟨c, drawn.mono [a], held, fun paginated => by
          rw [pages_external ha, holder paginated]⟩
      · cases new.symm.trans validating
    · rcases move.of_validating validating with
        ⟨before, still⟩ | ⟨rfl, rfl, rfl, held, r₁, turn, pages⟩
      · obtain ⟨c, drawn, held, holder⟩ := traced.validating before
        refine ⟨c, drawn.mono _, held, fun paginated => ?_⟩
        rcases still with same | hne
        · rw [same, holder paginated]
        · exact move.holder_of_ne guarded hne (holder paginated)
      · obtain ⟨c, drawn, same⟩ := traced.drawn orderly turn
        refine ⟨c, drawn, (Config.validator_of_bare same).symm.trans held, fun paginated => ?_⟩
        rw [pages]
        exact turn.holder ((Config.paginated_of_bare same).trans paginated)

theorem traced_after (name : String) (config : Config) (run : List Action) :
    (fresh name config).Traced run := by
  induction run using List.reverseRecOn with
  | nil => exact ⟨nofun, nofun⟩
  | append_singleton run a ih =>
    exact ih.act ((orderly_fresh name config).after run) (guarded_after name config run) a

/-! ### Attempts that make no call -/

section Declined

variable {r r' r₁ : LiveResource} {m : Moment} {signal : Signal} {effects : List Effect}

/-- An attempt whose precondition does not hold comes to its end, and that is all. -/
theorem Guarded.skips (guarded : r.Guarded) (begins : r.phase? id = some .spawned)
    (alive : r.resource.retired = false) {p : Precondition}
    (precondition : r.resource.config.precondition = some p) (closed : m.isOpen p.gate = false) :
    (r.advance m id .go).1 = r.setPhase id (.finished .skipped) ∧
      deeds (r.advance m id .go).2 = [] := by
  have outside : r.pages.holder ≠ some id := by
    intro holder
    obtain ⟨p, phase, inLine⟩ := guarded.holds holder
    cases begins.symm.trans phase
    exact inLine
  obtain ⟨⟨override, q⟩, attempt, rfl⟩ := Option.map_eq_some_iff.1 begins
  simp only [advance, attempt, start, alive, precondition, closed, finish_eq, ended, wakes,
    PageLock.leave, PageLock.heir?, if_neg outside]
  exact ⟨rfl, rfl⟩

theorem Orderly.finished_act (orderly : r.Orderly) {ending : Ending}
    (ended : r.phase? id = some (.finished ending)) (a : Action) :
    (r.act a).1.phase? id = some (.finished ending) := by
  rcases act_cases r a orderly.fence_le with ha | ⟨m, i, signal, -, move⟩
  · exact phase?_act_external ha ended
  · exact move.finished ended

theorem Orderly.finished_after (orderly : r.Orderly) {ending : Ending}
    (ended : r.phase? id = some (.finished ending)) (actions : List Action) :
    (r.after actions).phase? id = some (.finished ending) := by
  induction actions generalizing r with
  | nil => exact ended
  | cons a rest ih => exact ih (orderly.act a) (orderly.finished_act ended a)

/-- An attempt turns the resource loading only in the move in which it calls. -/
theorem Move.calls_of_loading (h : r.Move m id signal r' effects)
    (before : r.resource.state ≠ .loading) (now : r'.resource.state = .loading) :
    ∃ method args, .call id method args ∈ effects := by
  have settled {x settled : Resource} {outcome : Outcome} {event : Event} {due : List Listener}
      (settles : x.settle m.now outcome = (event, due, settled)) : settled.state ≠ .loading := by
    have state : (x.settle m.now outcome).2.2.state ≠ .loading := by cases outcome <;> exact nofun
    rwa [settles] at state
  cases h with
  | call => exact ⟨_, _, List.mem_singleton_self _⟩
  | accept => exact ⟨_, _, List.mem_singleton_self _⟩
  | refuse _ _ settles => exact absurd now (settled settles)
  | apply _ _ settles => exact absurd now (settled settles)
  | _ => exact absurd now before

/-- An attempt whose parameters are refused has made no call, makes none then, and none after. -/
theorem Concludes.no_call (orderly : r.Orderly) {message : String}
    (refused : r.Concludes m id signal (.invalid message)) :
    ¬ r.HasCalled id ∧ id ∉ r.calls (.advance m id signal) ∧
      (r.act (.advance m id signal)).1.HasCalled id := by
  rw [calls_eq]
  have move : r.Move m id signal (r.act (.advance m id signal)).1
      (deeds (r.act (.advance m id signal)).2) := advance_move orderly.fence_le signal
  have quiet (g : Nat) (event : Event) (due : List Listener) (p : PageLock) :
      id ∉ (Effect.deliver g event due :: wakes p id).filterMap Effect.caller? := by
    rw [List.filterMap_cons, filterMap_caller?_wakes]
    exact List.not_mem_nil
  cases refused with
  | @later _ t _ comes =>
    obtain ⟨left, told⟩ := advance_of_comes (m := m) comes
    obtain ⟨q, phase, -⟩ := comes.phase
    have new : ¬ r.HasCalled id := by
      generalize ho : Outcome.invalid message = outcome at comes
      cases comes with
      | refused phase =>
        rintro ⟨p, phase', called⟩
        cases phase.symm.trans phase'
        exact called
      | @replied _ reply => cases reply <;> cases ho
      | @rested _ reply => cases reply <;> cases ho
    have act : r.act (.advance m id signal) = r.advance m id signal := rfl
    rw [act, left, told]
    refine ⟨new, ?_⟩
    cases current : r.resource.isCurrent t.generation with
    | true =>
      obtain ⟨left', told'⟩ := settle_of_current r m id current (.invalid message)
      rw [left', told']
      exact ⟨quiet _ _ _ _, _, phase?_setPhase_self (r := r) phase _, trivial⟩
    | false =>
      obtain ⟨left', told'⟩ := settle_of_stale r m id current (.invalid message)
      rw [left', told', filterMap_caller?_wakes]
      exact ⟨List.not_mem_nil, _, phase?_setPhase_self (r := r) phase _, trivial⟩
  | atOnce turn refuses =>
    obtain ⟨q, phase, new⟩ : ∃ q, r.phase? id = some q ∧ ¬ q.HasCalled := by
      rcases turn.phase with phase | phase <;> exact ⟨_, phase, not_false⟩
    obtain ⟨check, hv, hc, hne⟩ := refuses
    refine ⟨fun ⟨p, phase', called⟩ => ?_, ?_⟩
    · cases phase.symm.trans phase'
      exact new called
    refine turn.of_move (motive := fun r' effects =>
      id ∉ effects.filterMap Effect.caller? ∧ r'.HasCalled id) move ?_ ?_ ?_
    · intro r₁ _ _ _ settled turn _ _
      refine ⟨quiet _ _ _ _, .finished (.applied (r.resource.generation + 1)), ?_, trivial⟩
      rw [phase?_ended, phase?_congr (turn.setPhase_attempts _ _)]
      exact phase?_setPhase_self phase _
    · intro _ _ held
      rw [hv] at held
      cases held
    · intro _ _ accepts
      simp [Config.Accepts, hv, hc, Option.filter, hne] at accepts

end Declined

/-! ### The statement -/

/-- What entitles an attempt to a call. It has begun and has taken its ticket under one config, the
validator of that config has passed the parameters of the ticket, the call is that of the ticket,
and its generation counts. If the config is paginated, the attempt holds the page lock. -/
structure Warrant (start : LiveResource) (earlier : List Action) (a : Action) (id : Nat)
    (method : String) (args : Json) (c : Config) (t : Ticket) : Prop where
  drawn : start.Drawn (earlier ++ [a]) id c t
  passed : ∃ m signal, a = .advance m id signal ∧ c.Passes t.params signal
  current : (start.after (earlier ++ [a])).resource.isCurrent t.generation = true
  calling : (start.after (earlier ++ [a])).phase? id = some (.calling t)
  lock : c.paginated = true → (start.after (earlier ++ [a])).pages.holder = some id
  method : method = c.method
  args : args = c.callArgs t.params

theorem Traced.warrant (traced : start.Traced run) (orderly : (start.after run).Orderly)
    {a : Action} {method : String} {args : Json}
    (called : .call id method args ∈ ((start.after run).act a).2) :
    ∃ c t, start.Warrant run a id method args c t := by
  have called := mem_deeds.2 ⟨called, rfl⟩
  rcases act_cases _ a orderly.fence_le with ha | ⟨m, i, signal, rfl, move⟩
  · rw [effects_external ha] at called
    cases called
  obtain ⟨rfl, ⟨r₁, turn, accepts, rfl, rfl, rfl, pages, calling⟩ |
    ⟨t, verdict, validating, rfl, accepted, rfl, rfl, pages, current, calling⟩⟩ :=
      move.of_call called
  · obtain ⟨c, drawn, same⟩ := traced.drawn orderly turn
    have draws := turn.draws orderly.fence_le same
    refine ⟨c, _, ⟨drawn, ⟨m, .go, rfl, ?_⟩, ?_, ?_, fun paginated => ?_, draws.method,
      draws.args⟩⟩
    · have passes := accepts.passes
      rwa [Config.Passes, Config.validator_of_bare same] at passes
    · rw [after_concat]
      exact draws.takes.isCurrent orderly
    · rw [after_concat]
      exact calling
    · rw [after_concat, pages]
      exact turn.holder ((Config.paginated_of_bare same).trans paginated)
  · obtain ⟨c, drawn, held, holder⟩ := traced.validating validating
    have draws : t.method = c.method ∧ t.args = c.callArgs t.params := by
      obtain ⟨before, b, later, -, draws, -⟩ := drawn
      exact ⟨draws.method, draws.args⟩
    refine ⟨c, t, ⟨drawn.mono _, ⟨m, _, rfl, ?_⟩, ?_, ?_, fun paginated => ?_, draws.1, draws.2⟩⟩
    · rw [Config.Passes, held]
      exact ⟨verdict, rfl, accepted⟩
    · rw [after_concat]
      exact current
    · rw [after_concat]
      exact calling
    · rw [after_concat, pages, holder paginated]

/-- The arguments of a call: for every key the value of the parameters if there is one, or else the
one that is passed through. -/
theorem Warrant.merged {a : Action} {method : String} {args : Json}
    (h : start.Warrant run a id method args c t) (once : (Keyed.keys t.params).Nodup)
    (key : String) : args.member? key
      = (Keyed.value? t.params key).or (Keyed.value? c.passthrough key) := by
  rw [h.args, Config.callArgs, Json.member?, Keyed.value?_overlay, Keyed.value?_reverse once]

/-- **Every call is authorized by one config.** In every run of a new resource, an attempt that
makes a call has a warrant for it, and the arguments are the parameters over what is passed through.
No attempt makes two calls. One whose precondition does not hold changes nothing, then and later.
One whose parameters are refused makes no call in the whole run, and never turns the resource
loading. -/
theorem calls_warranted (name : String) (config : Config) :
    (∀ earlier a id method args,
      .call id method args ∈ (((fresh name config).after earlier).act a).2 →
      ∃ c t, (fresh name config).Warrant earlier a id method args c t ∧
        ((Keyed.keys t.params).Nodup → ∀ key, args.member? key
          = (Keyed.value? t.params key).or (Keyed.value? c.passthrough key))) ∧
    (∀ actions, (along calls (fresh name config) actions).Nodup) ∧
    (∀ earlier m id p, ((fresh name config).after earlier).phase? id = some .spawned →
      ((fresh name config).after earlier).resource.retired = false →
      ((fresh name config).after earlier).resource.config.precondition = some p →
      m.isOpen p.gate = false →
      (fresh name config).after (earlier ++ [.advance m id .go])
          = ((fresh name config).after earlier).setPhase id (.finished .skipped) ∧
        deeds (((fresh name config).after earlier).act (.advance m id .go)).2 = [] ∧
        ∀ later m' signal,
          ((fresh name config).after (earlier ++ [.advance m id .go] ++ later)).act
              (.advance m' id signal)
            = ((fresh name config).after (earlier ++ [.advance m id .go] ++ later), [])) ∧
    ∀ earlier m id signal message later,
      ((fresh name config).after earlier).Concludes m id signal (.invalid message) →
      id ∉ along calls (fresh name config) (earlier ++ .advance m id signal :: later) ∧
        ∀ before m' signal' since,
          earlier ++ .advance m id signal :: later = before ++ .advance m' id signal' :: since →
          ((fresh name config).after before).resource.state ≠ .loading →
          ((fresh name config).after (before ++ [.advance m' id signal'])).resource.state
            ≠ .loading := by
  have orderly (run : List Action) := (orderly_fresh name config).after run
  refine ⟨?_, (orderly_fresh name config).nodup_calls, ?_, ?_⟩
  · intro earlier a id method args called
    obtain ⟨c, t, warrant⟩ := (traced_after name config earlier).warrant (orderly earlier) called
    exact ⟨c, t, warrant, warrant.merged⟩
  · intro earlier m id p begins alive precondition closed
    obtain ⟨left, quiet⟩ :=
      (guarded_after name config earlier).skips begins alive precondition closed
    have same : (fresh name config).after (earlier ++ [.advance m id .go])
        = ((fresh name config).after earlier).setPhase id (.finished .skipped) := by
      rw [after_concat]
      exact left
    refine ⟨same, quiet, fun later m' signal => ?_⟩
    have ended : ((fresh name config).after (earlier ++ [.advance m id .go])).phase? id
        = some (.finished .skipped) := by
      rw [same]
      exact phase?_setPhase_self begins _
    rw [after_append]
    exact advance_of_finished ((orderly _).finished_after ended later) m' signal
  · intro earlier m id signal message later refused
    obtain ⟨before, now, since⟩ := refused.no_call (orderly earlier)
    have none : id ∉ along calls (fresh name config)
        (earlier ++ .advance m id signal :: later) := by
      rw [along_append, along, List.mem_append, List.mem_append, not_or, not_or]
      exact ⟨fun mem => before ((orderly_fresh name config).hasCalled_of_mem_calls mem), now,
        ((orderly earlier).act _).not_calls_of_hasCalled since later⟩
    refine ⟨none, fun before m' signal' since split idle loading => none ?_⟩
    rw [after_concat] at loading
    have move : Move _ m' id signal' _ _ := advance_move (orderly before).fence_le signal'
    obtain ⟨method, args, called⟩ := move.calls_of_loading idle loading
    rw [split, along_append, along]
    refine List.mem_append_right _ (List.mem_append_left _ ?_)
    rw [calls_eq]
    exact List.mem_filterMap.2 ⟨_, called, rfl⟩

end Run

/-! ### Pages that are checked -/

/-- Tickets that are fetched page by page while a line is open, with parameters that are checked
elsewhere. -/
def checkedPages : Config :=
  { method := "list", params := [("team", .str "a")], passthrough := [("locale", .str "en")]
    paginated := true, precondition := some ⟨"line"⟩, validator := some .held }

/-- The line is open, or it is not. -/
def lineMoment (isOpen : Bool) : Moment := { now := 0, isOpen := fun _ => isOpen }

/-- Two fetches begin, the second one with parameters of its own, and it waits for the first one. -/
def pagesBegun : List Action :=
  [.spawn none, .spawn (some [("team", .str "b")]), .advance (lineMoment true) 0 .go,
    .advance (lineMoment true) 1 .go]

/-- The first one is refused, and it is the turn of the second one. -/
def pagesRefused : List Action :=
  [.advance (lineMoment true) 0 (.verdict (some "no such team")), .advance (lineMoment true) 1 .go]

/-- The first fetch makes no call, the second one has a warrant for its own, and a third one does
not pass the line when it is closed. -/
theorem second_page_warranted :
    (∃ c t, (fresh "tickets" checkedPages).Warrant (pagesBegun ++ pagesRefused)
      (.advance (lineMoment true) 1 (.verdict (some ""))) 1 "list"
      (.obj [("locale", .str "en"), ("team", .str "b")]) c t) ∧
    0 ∉ along calls (fresh "tickets" checkedPages) (pagesBegun ++ pagesRefused) ∧
    (fresh "tickets" checkedPages).after (pagesBegun ++ [.spawn none]
        ++ [.advance (lineMoment false) 2 .go])
      = ((fresh "tickets" checkedPages).after (pagesBegun ++ [.spawn none])).setPhase 2
        (.finished .skipped) := by
  obtain ⟨warranted, -, skipped, refused⟩ := calls_warranted "tickets" checkedPages
  have called : .call 1 "list" (.obj [("locale", .str "en"), ("team", .str "b")])
      ∈ (((fresh "tickets" checkedPages).after (pagesBegun ++ pagesRefused)).act
        (.advance (lineMoment true) 1 (.verdict (some "")))).2 := .tail _ (.head _)
  have declined : ((fresh "tickets" checkedPages).after pagesBegun).Concludes (lineMoment true) 0
      (.verdict (some "no such team")) (.invalid "no such team") :=
    .later (.refused rfl (by decide))
  obtain ⟨c, t, warrant, -⟩ := warranted _ _ _ _ _ called
  exact ⟨⟨c, t, warrant⟩, (refused _ _ _ _ _ _ declined).1, (skipped _ _ _ _ rfl rfl rfl rfl).1⟩

end LiveResource

end ReactiveResource
