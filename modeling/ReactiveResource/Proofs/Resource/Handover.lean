import ReactiveResource.Proofs.Resource.Line

/-!
# The page lock under any config

A config may be replaced at any time by one that is paginated or by one that is not, so that
attempts which hold the page lock or wait for it and attempts which need no lock are under way side
by side. Whatever the configs, the lock belongs to an attempt that has begun and has not come to its
end, those behind it wait for their turn, and nobody waits anywhere else.

* `LiveResource.Handover`, `Move.handover`: what a move makes of the lock;
* `LiveResource.Guarded`: who holds the lock and who waits for it, with `Guarded.act` and
  `guarded_after`;
* `Guarded.rouses`: the one whose turn it is has been woken.
-/

namespace ReactiveResource

theorem PageLock.line_of_holder {p : PageLock} {id : Nat} (holder : p.holder = some id) :
    p.line = id :: p.waiting := by
  rw [line, holder]
  rfl

namespace LiveResource

variable {r r' : LiveResource} {m : Moment} {id : Nat} {signal : Signal} {effects : List Effect}
  {q p : Phase}

/-- Who holds the page lock, and who waits for it. -/
structure Guarded (r : LiveResource) : Prop where
  once : r.pages.line.Nodup
  vacant : r.pages.holder = none → r.pages.waiting = []
  holds : ∀ {id}, r.pages.holder = some id → ∃ p, r.phase? id = some p ∧ p.InLine
  waits : ∀ {id}, id ∈ r.pages.waiting → ∃ e, r.phase? id = some (.queued e)
  queued : ∀ {id e}, r.phase? id = some (.queued e) → id ∈ r.pages.line ∧ e ≤ r.resource.epoch

theorem guarded_fresh (name : String) (config : Config) : (fresh name config).Guarded where
  once := .nil
  vacant _ := rfl
  holds := nofun
  waits := nofun
  queued := nofun

/-- Whoever stands in the line has begun, and has not come to his end. -/
theorem Guarded.inside (guarded : r.Guarded) (mem : id ∈ r.pages.line) :
    ∃ p, r.phase? id = some p ∧ p.InLine := by
  rw [PageLock.line, List.mem_append, Option.mem_toList] at mem
  rcases mem with holder | behind
  · exact guarded.holds holder
  · obtain ⟨e, queued⟩ := guarded.waits behind
    exact ⟨_, queued, trivial⟩

theorem Guarded.not_mem_line (guarded : r.Guarded) (phase : r.phase? id = some p)
    (out : ¬ p.InLine) : id ∉ r.pages.line := by
  intro mem
  obtain ⟨p', phase', inLine⟩ := guarded.inside mem
  cases phase.symm.trans phase'
  exact out inLine

/-- The one who holds the lock does not wait for it. -/
theorem Guarded.not_waiting (guarded : r.Guarded) (holder : r.pages.holder = some id) :
    id ∉ r.pages.waiting := by
  have once := guarded.once
  rw [PageLock.line_of_holder holder] at once
  exact (List.nodup_cons.1 once).1

/-- Nobody stands in the line of a lock that nobody holds. -/
theorem Guarded.empty_of_vacant (guarded : r.Guarded) (vacant : r.pages.holder = none) :
    r.pages = {} := by
  have behind := guarded.vacant vacant
  rcases hp : r.pages with ⟨holder, waiting⟩
  rw [hp] at vacant behind
  cases vacant
  cases behind
  rfl

/-! ### What a move makes of the lock -/

/-- What becomes of the page lock, and who is woken, when an attempt goes from one phase to
another. -/
inductive Handover (r : LiveResource) (id : Nat) :
    Phase → Phase → PageLock → List Effect → Prop
  /-- It stays with whoever has it. An attempt that was waiting has it itself. -/
  | keep {q p : Phase} {effects : List Effect}
      (turn : ∀ e, q = .queued e → r.pages.holder = some id) (onward : ∀ e, p ≠ .queued e)
      (inLine : r.pages.holder = some id → p.InLine) : Handover r id q p r.pages effects
  /-- The attempt comes to its end, and hands the lock on if it has it. -/
  | leave {q : Phase} {ending : Ending} {effects : List Effect}
      (turn : ∀ e, q = .queued e → r.pages.holder = some id)
      (woken : ∀ e ∈ wakes r.pages id, e ∈ effects) :
      Handover r id q (.finished ending) (r.pages.leave id) effects
  /-- The attempt goes to the end of the line. -/
  | queue {holder : Nat} {effects : List Effect} (busy : r.pages.holder = some holder) :
      Handover r id .spawned (.queued r.resource.epoch)
        { r.pages with waiting := r.pages.waiting ++ [id] } effects
  /-- Nobody has the lock, and the attempt takes it. -/
  | take {p : Phase} {effects : List Effect} (vacant : r.pages.holder = none)
      (onward : ∀ e, p ≠ .queued e) (inLine : p.InLine) :
      Handover r id .spawned p { r.pages with holder := some id } effects

/-- No move changes the epoch. -/
theorem Move.epoch (h : r.Move m id signal r' effects) :
    r'.resource.epoch = r.resource.epoch := by
  cases h with
  | refuse _ _ settles | apply _ _ settles =>
    exact (Resource.Settled.of_settle settles).agrees.epoch
  | _ => rfl

/-- An attempt that takes its generation goes on with the lock, or without one. -/
theorem Turn.handover {r₁ : LiveResource} (turn : r.Turn m id r₁) (p : Phase)
    (effects : List Effect) (onward : ∀ e, p ≠ .queued e) (inLine : p.InLine) :
    ∃ q, r.phase? id = some q ∧ r.Handover id q p r₁.pages effects := by
  cases turn with
  | free phase => exact ⟨_, phase, .keep nofun onward fun _ => inLine⟩
  | first phase _ _ vacant => exact ⟨_, phase, .take vacant onward inLine⟩
  | next phase holder => exact ⟨_, phase, .keep (fun _ _ => holder) onward fun _ => inLine⟩

/-- **What a move makes of the lock.** -/
theorem Move.handover (h : r.Move m id signal r' effects) (guarded : r.Guarded) :
    (r' = r ∧ ¬ r.Awaits id signal) ∨ ∃ q p, r.phase? id = some q ∧
      r'.attempts = (r.setPhase id p).attempts ∧ r.Handover id q p r'.pages effects := by
  have carried {t : Ticket} {q : Phase} (ticket : q.ticket? = some t) :
      ∀ e, q = .queued e → r.pages.holder = some id := by
    rintro e rfl
    cases ticket
  cases h with
  | still idle => exact .inl ⟨rfl, idle⟩
  | leave phase leaves =>
    refine .inr ⟨_, _, phase, rfl, .leave (fun e queued => ?_) fun _ he => he⟩
    subst queued
    cases leaves with
    | displaced holder => exact holder
  | queue phase _ _ busy => exact .inr ⟨_, _, phase, rfl, .queue busy⟩
  | @refuse r₁ _ _ _ _ turn =>
    refine .inr ?_
    have attempts := turn.setPhase_attempts r.resource
      (.finished (.applied (r.resource.generation + 1)))
    cases turn with
    | free phase =>
      exact ⟨_, _, phase, attempts, .leave (by simp) fun _ => List.mem_cons_of_mem _⟩
    | first phase _ _ vacant =>
      -- it has taken the lock and given it back in one move
      refine ⟨_, _, phase, attempts, ?_⟩
      have same : PageLock.leave { r.pages with holder := some id } id = r.pages := by
        rw [guarded.empty_of_vacant vacant, PageLock.leave, if_pos rfl]
        rfl
      show r.Handover id _ _ (PageLock.leave _ id) _
      rw [same]
      exact .keep (by simp) (by simp) (by simp [vacant])
    | next phase holder =>
      exact ⟨_, _, phase, attempts, .leave (fun _ _ => holder) fun _ => List.mem_cons_of_mem _⟩
  | ask turn =>
    obtain ⟨q, phase, handover⟩ :=
      turn.handover (.validating (r.ticketFor id)) [.ask id] (by simp) trivial
    exact .inr ⟨q, _, phase, turn.setPhase_attempts _ _, handover⟩
  | call turn =>
    obtain ⟨q, phase, handover⟩ := turn.handover (.calling (r.ticketFor id))
      [.call id (r.ticketFor id).method (r.ticketFor id).args] (by simp) trivial
    exact .inr ⟨q, _, phase, turn.setPhase_attempts _ _, handover⟩
  | accept phase => exact .inr ⟨_, _, phase, rfl, .keep (by simp) (by simp) fun _ => trivial⟩
  | rest phase => exact .inr ⟨_, _, phase, rfl, .keep (by simp) (by simp) fun _ => trivial⟩
  | apply comes =>
    obtain ⟨q, phase, ticket⟩ := comes.phase
    exact .inr ⟨q, _, phase, rfl, .leave (carried ticket) fun _ => List.mem_cons_of_mem _⟩
  | discard comes =>
    obtain ⟨q, phase, ticket⟩ := comes.phase
    exact .inr ⟨q, _, phase, rfl, .leave (carried ticket) fun _ he => he⟩

/-! ### The lock is kept -/

/-- An attempt has gone on to another phase. It stands in the line as that phase says, and the
others stand where they stood. -/
theorem Guarded.of_setPhase (guarded : r.Guarded) (phase : r.phase? id = some q)
    (attempts : r'.attempts = (r.setPhase id p).attempts)
    (epoch : r'.resource.epoch = r.resource.epoch) (once : r'.pages.line.Nodup)
    (vacant : r'.pages.holder = none → r'.pages.waiting = [])
    (others : ∀ {j}, j ≠ id → (j ∈ r'.pages.line ↔ j ∈ r.pages.line))
    (behind : ∀ {j}, j ≠ id → j ∈ r'.pages.waiting → j ∈ r.pages.waiting)
    (heads : r'.pages.holder = some id → p.InLine)
    (waits : id ∈ r'.pages.waiting → ∃ e, p = .queued e)
    (queued : ∀ {e}, p = .queued e → id ∈ r'.pages.line ∧ e ≤ r.resource.epoch) : r'.Guarded where
  once := once
  vacant := vacant
  holds {j} holder := by
    rw [phase?_of_setPhase attempts phase]
    split
    · next he => exact ⟨p, rfl, heads (he ▸ holder)⟩
    · next hne =>
      refine guarded.inside ((others hne).1 ?_)
      rw [PageLock.line_of_holder holder]
      exact List.mem_cons_self
  waits {j} mem := by
    rw [phase?_of_setPhase attempts phase]
    split
    · next he =>
      obtain ⟨e, rfl⟩ := waits (he ▸ mem)
      exact ⟨e, rfl⟩
    · next hne => exact guarded.waits (behind hne mem)
  queued {j e} phase' := by
    rw [phase?_of_setPhase attempts phase] at phase'
    rw [epoch]
    split at phase'
    · next he => exact he ▸ queued (Option.some.inj phase')
    · next hne => exact ⟨(others hne).2 (guarded.queued phase').1, (guarded.queued phase').2⟩

/-- The attempt that moves does not stand behind another. -/
theorem Guarded.not_behind (guarded : r.Guarded) (phase : r.phase? id = some q)
    (turn : ∀ e, q = .queued e → r.pages.holder = some id) : id ∉ r.pages.waiting := by
  intro mem
  obtain ⟨e, queued⟩ := guarded.waits mem
  cases phase.symm.trans queued
  exact guarded.not_waiting (turn e rfl) mem

/-- The one who holds the lock comes to his end, and the next one in the line holds it. -/
theorem Guarded.handOn (guarded : r.Guarded) (phase : r.phase? id = some q) {ending : Ending}
    (attempts : r'.attempts = (r.setPhase id (.finished ending)).attempts)
    (epoch : r'.resource.epoch = r.resource.epoch) (holder : r.pages.holder = some id)
    (pages : r'.pages = r.pages.leave id) : r'.Guarded := by
  have out := guarded.not_waiting holder
  have line : r'.pages.line = r.pages.waiting := by rw [pages, PageLock.line_leave holder]
  have head : r'.pages.holder = r.pages.waiting.head? := by
    rw [pages, PageLock.leave, if_pos holder]
  have tail : r'.pages.waiting = r.pages.waiting.tail := by
    rw [pages, PageLock.leave, if_pos holder]
  have before := PageLock.line_of_holder holder
  have once := guarded.once
  rw [before, List.nodup_cons] at once
  refine guarded.of_setPhase phase attempts epoch (line ▸ once.2) (fun vacant => ?_)
    (fun hne => ?_) (fun _ mem => ?_) (fun next => ?_) (fun mem => ?_) (by simp)
  · rw [head] at vacant
    rw [tail, List.head?_eq_none_iff.1 vacant]
    rfl
  · rw [line, before, List.mem_cons, or_iff_right hne]
  · exact List.mem_of_mem_tail (tail ▸ mem)
  · exact absurd (List.mem_of_mem_head? (head ▸ next)) out
  · exact absurd (List.mem_of_mem_tail (tail ▸ mem)) out

/-- An attempt that has been started goes to the end of the line. -/
theorem Guarded.lineUp (guarded : r.Guarded) (phase : r.phase? id = some .spawned)
    (attempts : r'.attempts = (r.setPhase id (.queued r.resource.epoch)).attempts)
    (epoch : r'.resource.epoch = r.resource.epoch) {holder : Nat}
    (busy : r.pages.holder = some holder)
    (pages : r'.pages = { r.pages with waiting := r.pages.waiting ++ [id] }) : r'.Guarded := by
  have out : id ∉ r.pages.line := guarded.not_mem_line phase not_false
  have line : r'.pages.line = r.pages.line ++ [id] := by
    rw [pages, PageLock.line, PageLock.line, List.append_assoc]
  refine guarded.of_setPhase phase attempts epoch ?_ (fun vacant => ?_) (fun hne => ?_)
    (fun hne mem => ?_) (fun _ => trivial) (fun _ => ⟨_, rfl⟩) (fun queued => ⟨?_, ?_⟩)
  · rw [line]
    refine List.nodup_append.2 ⟨guarded.once, by simp, fun j hj k hk => ?_⟩
    rw [List.mem_singleton.1 hk]
    exact fun he => out (he ▸ hj)
  · rw [pages] at vacant
    cases busy.symm.trans vacant
  · rw [line, List.mem_append, List.mem_singleton, or_iff_left hne]
  · rw [pages, List.mem_append, List.mem_singleton, or_iff_left hne] at mem
    exact mem
  · rw [line]
    exact List.mem_append_right _ (List.mem_singleton_self id)
  · cases queued
    exact Nat.le_refl _

theorem Guarded.handover (guarded : r.Guarded) (phase : r.phase? id = some q)
    (attempts : r'.attempts = (r.setPhase id p).attempts)
    (epoch : r'.resource.epoch = r.resource.epoch)
    (handover : r.Handover id q p r'.pages effects) : r'.Guarded := by
  generalize hp : r'.pages = pages at handover
  cases handover with
  | keep turn onward inLine =>
    refine guarded.of_setPhase phase attempts epoch (hp ▸ guarded.once) (hp ▸ guarded.vacant)
      (fun _ => by rw [hp]) (fun _ mem => hp ▸ mem) (fun h => inLine (hp ▸ h))
      (fun mem => ?_) (fun queued => absurd queued (onward _))
    exact absurd (hp ▸ mem) (guarded.not_behind phase turn)
  | leave turn woken =>
    by_cases holder : r.pages.holder = some id
    · exact guarded.handOn phase attempts epoch holder hp
    · have out := guarded.not_behind phase turn
      have same : r'.pages = r.pages := by rw [hp, PageLock.leave, if_neg holder]
      exact guarded.of_setPhase phase attempts epoch (same ▸ guarded.once)
        (same ▸ guarded.vacant) (fun _ => by rw [same]) (fun _ mem => same ▸ mem)
        (fun head => absurd (same ▸ head) holder) (fun mem => absurd (same ▸ mem) out) (by simp)
  | queue busy => exact guarded.lineUp phase attempts epoch busy hp
  | take vacant onward inLine =>
    have empty := guarded.empty_of_vacant vacant
    have line : r'.pages.line = [id] := by rw [hp, empty]; rfl
    have waiting : r'.pages.waiting = [] := by rw [hp, empty]
    refine guarded.of_setPhase phase attempts epoch (by simp [line]) (fun _ => waiting)
      (fun hne => ?_) (fun _ mem => by simp [waiting] at mem) (fun _ => inLine)
      (fun mem => by simp [waiting] at mem) (fun queued => absurd queued (onward _))
    rw [line, empty, List.mem_singleton, PageLock.line]
    exact iff_of_false hne (by simp)

theorem Guarded.move (guarded : r.Guarded) (h : r.Move m id signal r' effects) : r'.Guarded := by
  rcases h.handover guarded with ⟨rfl, -⟩ | ⟨q, p, phase, attempts, handover⟩
  · exact guarded
  · exact guarded.handover phase attempts h.epoch handover

theorem Guarded.external (guarded : r.Guarded) {a : Action} (ha : a.External) :
    (r.act a).1.Guarded where
  once := pages_external (r := r) ha ▸ guarded.once
  vacant := pages_external (r := r) ha ▸ guarded.vacant
  holds holder := by
    rw [pages_external ha] at holder
    obtain ⟨p, phase, inLine⟩ := guarded.holds holder
    exact ⟨p, phase?_act_external ha phase, inLine⟩
  waits mem := by
    rw [pages_external ha] at mem
    obtain ⟨e, phase⟩ := guarded.waits mem
    exact ⟨e, phase?_act_external ha phase⟩
  queued {j e} phase := by
    rcases phase?_external (r := r) ha j with same | ⟨-, new⟩
    · obtain ⟨mem, le⟩ := guarded.queued (same.symm.trans phase)
      exact ⟨pages_external (r := r) ha ▸ mem, Nat.le_trans le (epoch_le_external ha)⟩
    · cases new.symm.trans phase

/-- What one action preserves. -/
theorem Guarded.act (guarded : r.Guarded) (orderly : r.Orderly) (a : Action) :
    (r.act a).1.Guarded := by
  rcases act_cases r a orderly.fence_le with ha | ⟨m, id, signal, -, move⟩
  · exact guarded.external ha
  · exact guarded.move move

/-- **The page lock is kept in order**, whatever the configs. -/
theorem guarded_after (name : String) (config : Config) (actions : List Action) :
    ((fresh name config).after actions).Guarded := by
  have kept : ((fresh name config).after actions).Orderly ∧
      ((fresh name config).after actions).Guarded :=
    after_induction (motive := fun r => r.Orderly ∧ r.Guarded)
      ⟨orderly_fresh name config, guarded_fresh name config⟩
      (fun _ a h => ⟨h.1.act a, h.2.act h.1 a⟩) actions
  exact kept.2

/-! ### Whose turn it is -/

/-- **Whose turn it is has been woken**, unless it was so before and nothing has come of it yet. -/
theorem Guarded.rouses (guarded : r.Guarded) (h : r.Move m id signal r' effects) {k : Nat}
    (turn : r'.OnTurn k) : .wake k ∈ effects ∨ r.OnTurn k ∧ (k = id → signal ≠ .go) := by
  obtain ⟨holds, e, queued⟩ := turn
  rcases h.handover guarded with ⟨rfl, idle⟩ | ⟨q, p, phase, attempts, handover⟩
  · refine .inr ⟨⟨holds, e, queued⟩, ?_⟩
    rintro rfl rfl
    exact idle (by simpa [Awaits, queued] using holds)
  have other (onward : ∀ e, p ≠ .queued e) : k ≠ id := by
    rintro rfl
    rw [phase?_of_setPhase attempts phase, if_pos rfl] at queued
    exact onward e (Option.some.inj queued)
  -- another attempt has gone on, and the lock is where it was
  have stays (hne : k ≠ id) (holder : r.pages.holder = some k) :
      r.OnTurn k ∧ (k = id → signal ≠ .go) := by
    rw [phase?_of_setPhase attempts phase, if_neg hne] at queued
    exact ⟨⟨holder, e, queued⟩, fun he => absurd he hne⟩
  generalize hp : r'.pages = pages at handover
  rw [hp] at holds
  cases handover with
  | keep _ onward => exact .inr (stays (other onward) holds)
  | leave _ woken =>
    by_cases holder : r.pages.holder = some id
    · refine .inl (woken _ ?_)
      rw [PageLock.leave, if_pos holder] at holds
      simp [wakes, PageLock.heir?, holder, show r.pages.waiting.head? = some k from holds]
    · rw [PageLock.leave, if_neg holder] at holds
      exact .inr (stays (other (by simp)) holds)
  | queue busy =>
    refine .inr (stays ?_ holds)
    rintro rfl
    have head : r.pages.line = k :: r.pages.waiting := PageLock.line_of_holder holds
    exact guarded.not_mem_line phase not_false (head ▸ List.mem_cons_self)
  | take _ onward => exact absurd (Option.some.inj holds).symm (other onward)

end LiveResource

end ReactiveResource
