import ReactiveResource.Proofs.Resource.Pages
import ReactiveResource.Proofs.Resource.Unheld

/-!
# The line for the page lock

However often the config of a paginated resource is replaced, its attempts stand in one line for the
page lock. The one who is under way is at its head, the others in it wait for their turn, and those
who wait since before the last change of config are dropped when it comes.

* `LiveResource.Serial`: fetches wait for the page lock and for nothing else;
* `LiveResource.PageMove`, `Serial.pageMove`: what their attempts can do;
* `LiveResource.Lined`: who stands in the line, with `Lined.move` and `Lined.external`;
* `Lined.rouses`: the one whose turn it is has been woken.
-/

namespace ReactiveResource

/-- The line when the one at its head leaves. -/
theorem PageLock.line_leave {p : PageLock} {id : Nat} (holder : p.holder = some id) :
    (p.leave id).line = p.waiting := by
  rw [leave, if_pos holder, line]
  cases p.waiting <;> rfl

/-- An attempt in this phase stands in the line for the page lock. -/
def Phase.InLine : Phase → Prop
  | .queued _ | .validating _ | .calling _ | .delaying .. => True
  | .spawned | .finished _ => False

namespace LiveResource

/-- Every fetch waits for the page lock, and then makes the call of the config. -/
structure Serial (r : LiveResource) : Prop where
  unheld : r.Unheld
  paginated : r.resource.config.paginated = true

/-- What an attempt of such a resource does when it is given a signal. -/
inductive PageMove (r : LiveResource) (m : Moment) (id : Nat) :
    Signal → LiveResource → List Effect → Prop
  | still {signal : Signal} (idle : ¬ r.Awaits id signal) : PageMove r m id signal r []
  /-- It goes to the end of the line. -/
  | queue {holder : Nat} (phase : r.phase? id = some .spawned)
      (busy : r.pages.holder = some holder) :
      PageMove r m id .go
        ({ r with pages := { r.pages with waiting := r.pages.waiting ++ [id] } }.setPhase id
          (.queued r.resource.epoch)) []
  /-- Its turn has come too late. -/
  | drop {epoch : Nat} (phase : r.phase? id = some (.queued epoch))
      (holder : r.pages.holder = some id) (changed : r.resource.epoch ≠ epoch) :
      PageMove r m id .go (r.ended id .displaced) (wakes r.pages id)
  /-- It makes its call, as soon as it comes if nobody stands in the line. -/
  | call {q : Phase} (phase : r.phase? id = some q)
      (turn : q = .spawned ∧ r.pages.holder = none ∨
        q = .queued r.resource.epoch ∧ r.pages.holder = some id) :
      PageMove r m id .go
        ({ r with
            pages := { r.pages with holder := some id }
            resource := (r.resource.raised r.resource.config.params).beginLoading.notify }.setPhase
          id (.calling (r.ticketFor id)))
        [.call id (r.ticketFor id).method (r.ticketFor id).args]
  /-- The reply to its call has come, and a delay begins. -/
  | rest {t : Ticket} {reply : Reply} {delay : Duration} (phase : r.phase? id = some (.calling t)) :
      PageMove r m id (.reply reply) (r.setPhase id (.delaying t reply)) [.sleep id delay]
  /-- Its outcome is applied. -/
  | apply {signal : Signal} {t : Ticket} {outcome : Outcome} {event : Event} {due : List Listener}
      {settled : Resource} (comes : r.Comes id signal t outcome)
      (current : r.resource.isCurrent t.generation = true)
      (settles : r.resource.settle m.now outcome = (event, due, settled)) :
      PageMove r m id signal ({ r with resource := settled }.ended id (.applied t.generation))
        (.deliver t.generation event due :: wakes r.pages id)
  /-- Its outcome is dropped. -/
  | discard {signal : Signal} {t : Ticket} {outcome : Outcome}
      (comes : r.Comes id signal t outcome)
      (stale : r.resource.isCurrent t.generation = false) :
      PageMove r m id signal (r.ended id (.discarded t.generation)) (wakes r.pages id)

variable {r r' : LiveResource} {m : Moment} {id : Nat} {signal : Signal} {effects : List Effect}

/-- **There are no other moves.** -/
theorem Serial.pageMove (serial : r.Serial) (h : r.Move m id signal r' effects) :
    r.PageMove m id signal r' effects := by
  have unheld := serial.unheld
  cases h with
  | still idle => exact .still idle
  | leave phase leaves =>
    cases leaves with
    | ignored retired =>
      rw [unheld.alive] at retired
      cases retired
    | skipped _ precondition =>
      rw [unheld.config.precondition] at precondition
      cases precondition
    | displaced holder changed =>
      rw [unheld.alive] at changed
      exact .drop phase holder (changed.resolve_left (by simp))
    | superseded => exact absurd phase (unheld.unchecked _ _)
  | queue phase _ _ busy => exact .queue phase busy
  | refuse _ refuses => exact absurd refuses (unheld.config.not_refuses _ _)
  | ask _ held => exact absurd held unheld.config.not_held
  | @call r₁ turn _ =>
    rw [unheld.paramsFor]
    cases turn with
    | free _ _ single =>
      rw [serial.paginated] at single
      cases single
    | first phase _ _ vacant => exact .call phase (.inl ⟨rfl, vacant⟩)
    | next phase holder _ =>
      have held : { r.pages with holder := some id } = r.pages := by rw [← holder]
      have move := PageMove.call (m := m) phase (.inr ⟨rfl, holder⟩)
      rwa [held] at move
  | accept phase => exact absurd phase (unheld.unchecked _ _)
  | rest phase => exact .rest phase
  | apply comes current settles => exact .apply comes current settles
  | discard comes stale => exact .discard comes stale

theorem Serial.move (serial : r.Serial) (h : r.Move m id signal r' effects) : r'.Serial :=
  ⟨serial.unheld.move h, (Config.paginated_of_bare h.config).trans serial.paginated⟩

/-! ### Who stands in the line -/

/-- Those who have reached the page lock stand in its line, each of them once. -/
structure Lined (r : LiveResource) : Prop where
  once : r.pages.line.Nodup
  vacant : r.pages.holder = none → r.pages.waiting = []
  inside : ∀ {id}, id ∈ r.pages.line → ∃ p, r.phase? id = some p ∧ p.InLine
  queued : ∀ {id e}, r.phase? id = some (.queued e) → id ∈ r.pages.line ∧ e ≤ r.resource.epoch
  underway : ∀ {id g}, r.Underway id g → r.pages.holder = some id

theorem lined_fresh (name : String) (config : Config) : (fresh name config).Lined where
  once := .nil
  vacant _ := rfl
  inside := nofun
  queued := nofun
  underway := nofun

theorem Lined.of_holder (lined : r.Lined) (holder : r.pages.holder = some id) :
    ∃ p, r.phase? id = some p ∧ p.InLine :=
  lined.inside (by rw [PageLock.line, holder]; exact List.mem_cons_self)

/-- The one at the head of the line does not stand behind it. -/
theorem Lined.not_waiting (lined : r.Lined) (holder : r.pages.holder = some id) :
    id ∉ r.pages.waiting := by
  have once := lined.once
  rw [PageLock.line, holder] at once
  exact (List.nodup_cons.1 once).1

/-- Those behind the head of the line are waiting for their turn. -/
theorem Lined.of_waiting (lined : r.Lined) {j : Nat} (hj : j ∈ r.pages.waiting) :
    ∃ e, r.phase? j = some (.queued e) := by
  obtain ⟨p, phase, inLine⟩ := lined.inside (List.mem_append_right _ hj)
  cases ticket : p.ticket? with
  | some t =>
    exact absurd hj (lined.not_waiting (lined.underway ⟨p, t, phase, ticket, rfl⟩))
  | none =>
    cases p with
    | queued e => exact ⟨e, phase⟩
    | spawned | finished => exact inLine.elim
    | validating | calling | delaying => cases ticket

/-- Who has not reached the line, or has left it, does not stand in it. -/
theorem Lined.not_mem_line (lined : r.Lined) {p : Phase} (phase : r.phase? id = some p)
    (out : ¬ p.InLine) : id ∉ r.pages.line := by
  intro hid
  obtain ⟨q, phase', inLine⟩ := lined.inside hid
  cases phase.symm.trans phase'
  exact out inLine

/-- An attempt goes on to another phase, and keeps its place in the line, takes it or leaves it. The
others keep theirs. -/
theorem Lined.of_setPhase (lined : r.Lined) {q p : Phase} (phase : r.phase? id = some q)
    (attempts : r'.attempts = (r.setPhase id p).attempts)
    (epoch : r'.resource.epoch = r.resource.epoch) (once : r'.pages.line.Nodup)
    (vacant : r'.pages.holder = none → r'.pages.waiting = [])
    (others : ∀ {j}, j ≠ id → (j ∈ r'.pages.line ↔ j ∈ r.pages.line))
    (own : id ∈ r'.pages.line ↔ p.InLine)
    (heads : ∀ {j}, j ≠ id → r.pages.holder = some j → r'.pages.holder = some j)
    (head : ∀ {t}, p.ticket? = some t → r'.pages.holder = some id)
    (since : ∀ {e}, p = .queued e → e ≤ r.resource.epoch) : r'.Lined where
  once := once
  vacant := vacant
  inside {j} hj := by
    rw [phase?_of_setPhase attempts phase]
    split
    · next he => exact ⟨p, rfl, own.1 (he ▸ hj)⟩
    · next hne => exact lined.inside ((others hne).1 hj)
  queued {j e} queued := by
    rw [phase?_of_setPhase attempts phase] at queued
    rw [epoch]
    split at queued
    · next he =>
      cases queued
      exact ⟨he ▸ own.2 trivial, since rfl⟩
    · next hne => exact ⟨(others hne).2 (lined.queued queued).1, (lined.queued queued).2⟩
  underway {j g} underway := by
    obtain ⟨p', t, phase', ticket, rfl⟩ := underway
    rw [phase?_of_setPhase attempts phase] at phase'
    split at phase'
    · next he =>
      cases phase'
      exact he ▸ head ticket
    · next hne => exact heads hne (lined.underway ⟨p', t, phase', ticket, rfl⟩)

/-- The one at the head of the line leaves it. -/
theorem Lined.leave (lined : r.Lined) {q : Phase} {ending : Ending} (phase : r.phase? id = some q)
    (holder : r.pages.holder = some id)
    (attempts : r'.attempts = (r.setPhase id (.finished ending)).attempts)
    (pages : r'.pages = r.pages.leave id) (epoch : r'.resource.epoch = r.resource.epoch) :
    r'.Lined := by
  have line : r'.pages.line = r.pages.waiting := by rw [pages, PageLock.line_leave holder]
  have before : r.pages.line = id :: r.pages.waiting := by rw [PageLock.line, holder]; rfl
  have once := lined.once
  rw [before, List.nodup_cons] at once
  refine lined.of_setPhase phase attempts epoch (line ▸ once.2) (fun vacant => ?_)
    (fun hne => ?_) (iff_of_false (line ▸ once.1) not_false) (fun hne head => ?_)
    (by simp [Phase.ticket?]) (by simp)
  · rw [pages, PageLock.leave, if_pos holder] at vacant ⊢
    show r.pages.waiting.tail = []
    rw [List.head?_eq_none_iff.1 vacant]
    rfl
  · rw [line, before, List.mem_cons, or_iff_right hne]
  · exact absurd (Option.some.inj (head.symm.trans holder)) hne

/-- An attempt goes to the end of the line. -/
theorem Lined.queue (lined : r.Lined) {holder : Nat} (phase : r.phase? id = some .spawned)
    (busy : r.pages.holder = some holder) :
    ({ r with pages := { r.pages with waiting := r.pages.waiting ++ [id] } }.setPhase id
      (.queued r.resource.epoch)).Lined := by
  have out : id ∉ r.pages.line := lined.not_mem_line phase not_false
  generalize hr' : LiveResource.setPhase _ id _ = r'
  have line : r'.pages.line = r.pages.line ++ [id] := by
    rw [← hr', PageLock.line, PageLock.line, List.append_assoc]
    rfl
  have holds : r'.pages.holder = r.pages.holder := hr' ▸ rfl
  refine lined.of_setPhase (p := .queued r.resource.epoch) phase (hr' ▸ rfl) (hr' ▸ rfl) ?_
    (fun vacant => absurd vacant (by simp [holds, busy])) (fun hne => ?_)
    (iff_of_true (by simp [line]) trivial) (fun _ head => holds.trans head)
    (by simp [Phase.ticket?]) ?_
  · rw [line]
    refine List.nodup_append.2 ⟨lined.once, by simp, fun j hj k hk => ?_⟩
    rw [List.mem_singleton.1 hk]
    exact fun he => out (he ▸ hj)
  · rw [line, List.mem_append, List.mem_singleton, or_iff_left hne]
  · rintro e ⟨⟩
    exact Nat.le_refl _

/-- The one at the head of the line makes its call. -/
theorem Lined.call (lined : r.Lined) {q : Phase} (phase : r.phase? id = some q)
    (turn : q = .spawned ∧ r.pages.holder = none ∨
      q = .queued r.resource.epoch ∧ r.pages.holder = some id) (resource : Resource)
    (epoch : resource.epoch = r.resource.epoch) (t : Ticket) :
    ({ r with pages := { r.pages with holder := some id }, resource }.setPhase id
      (.calling t)).Lined := by
  generalize hr' : LiveResource.setPhase _ id _ = r'
  have line : r'.pages.line = id :: r.pages.waiting := hr' ▸ rfl
  have holds : r'.pages.holder = some id := hr' ▸ rfl
  -- it was there before, or nobody was
  have before : r.pages.line = [] ∧ r.pages.waiting = [] ∨
      r.pages.line = id :: r.pages.waiting := by
    rcases turn with ⟨-, vacant⟩ | ⟨-, holder⟩
    · rw [PageLock.line, vacant, lined.vacant vacant]
      exact .inl ⟨rfl, rfl⟩
    · rw [PageLock.line, holder]
      exact .inr rfl
  refine lined.of_setPhase (p := .calling t) phase (hr' ▸ rfl) (hr' ▸ epoch) ?_
    (fun vacant => absurd vacant (by simp [holds])) (fun {j} hne => ?_)
    (iff_of_true (by simp [line]) trivial) (fun hne head => ?_) (fun _ => holds) (by simp)
  · rw [line]
    rcases before with ⟨-, none⟩ | same
    · simp [none]
    · exact same ▸ lined.once
  · rw [line]
    rcases before with ⟨none, none'⟩ | same
    · simp [none, none', hne]
    · rw [same]
  · rcases turn with ⟨-, vacant⟩ | ⟨-, holder⟩
    · cases vacant.symm.trans head
    · exact absurd (Option.some.inj (head.symm.trans holder)) hne

/-- The one who comes to an outcome holds the lock. -/
theorem Lined.of_comes (lined : r.Lined) {t : Ticket} {outcome : Outcome}
    (comes : r.Comes id signal t outcome) : r.pages.holder = some id :=
  lined.underway comes.underway

/-- **The line stays in order.** -/
theorem Lined.move (lined : r.Lined) (h : r.PageMove m id signal r' effects) : r'.Lined := by
  cases h with
  | still => exact lined
  | queue phase busy => exact lined.queue phase busy
  | drop phase holder => exact lined.leave phase holder rfl rfl rfl
  | call phase turn =>
    exact lined.call phase turn (r.resource.raised r.resource.config.params).beginLoading.notify rfl
      _
  | rest phase =>
    have holder := lined.underway ⟨_, _, phase, rfl, rfl⟩
    refine lined.of_setPhase phase rfl rfl lined.once lined.vacant (fun _ => Iff.rfl)
      (iff_of_true ?_ trivial) (fun _ head => head) (fun _ => holder) (by simp)
    show id ∈ r.pages.line
    rw [PageLock.line, holder]
    exact List.mem_cons_self
  | apply comes _ settles =>
    obtain ⟨q, phase, -⟩ := comes.phase
    have agrees := (Resource.Settled.of_settle settles).agrees
    exact lined.leave phase (lined.of_comes comes) rfl rfl agrees.epoch
  | discard comes =>
    obtain ⟨q, phase, -⟩ := comes.phase
    exact lined.leave phase (lined.of_comes comes) rfl rfl rfl

/-! ### Actions from outside -/

section External

variable {a : Action}

theorem pages_external (ha : a.External) : (r.act a).1.pages = r.pages := by
  cases a with
  | advance => exact ha.elim
  | update config =>
    simp only [act, LiveResource.update]
    cases r.resource.update config <;> rfl
  | listen kind once => cases once <;> rfl
  | _ => rfl

theorem epoch_le_external (ha : a.External) :
    r.resource.epoch ≤ (r.act a).1.resource.epoch := by
  cases a with
  | advance => exact ha.elim
  | update config =>
    simp only [act, LiveResource.update]
    cases hu : r.resource.update config with
    | error e => exact Nat.le_refl _
    | ok resource =>
      obtain ⟨-, -, -, epoch, -⟩ := Resource.update_ok hu
      exact epoch ▸ Nat.le_succ _
  | cancel | retire => exact Nat.le_succ _
  | listen kind once => cases once <;> exact Nat.le_refl _
  | spawn | reset => exact Nat.le_refl _

/-- Actions from outside leave the line alone. -/
theorem Lined.external (lined : r.Lined) (ha : a.External) : (r.act a).1.Lined where
  once := pages_external (r := r) ha ▸ lined.once
  vacant := pages_external (r := r) ha ▸ lined.vacant
  inside hid := by
    rw [pages_external ha] at hid
    obtain ⟨p, phase, inLine⟩ := lined.inside hid
    exact ⟨p, phase?_act_external ha phase, inLine⟩
  queued {id e} phase := by
    rcases phase?_external (r := r) ha id with same | ⟨-, new⟩
    · obtain ⟨mem, le⟩ := lined.queued (same.symm.trans phase)
      exact ⟨pages_external (r := r) ha ▸ mem, Nat.le_trans le (epoch_le_external ha)⟩
    · cases new.symm.trans phase
  underway h := (congrArg PageLock.holder (pages_external ha)).trans
    (lined.underway (h.of_external ha))

theorem Lined.after_external (lined : r.Lined) {actions : List Action}
    (ha : ∀ a ∈ actions, a.External) : (r.after actions).Lined := by
  induction actions generalizing r with
  | nil => exact lined
  | cons a rest ih =>
    rw [List.forall_mem_cons] at ha
    exact ih (lined.external ha.1) ha.2

theorem pages_after_external {actions : List Action} (ha : ∀ a ∈ actions, a.External) :
    (r.after actions).pages = r.pages := by
  induction actions generalizing r with
  | nil => rfl
  | cons a rest ih =>
    rw [List.forall_mem_cons] at ha
    exact (ih ha.2).trans (pages_external ha.1)

end External

/-! ### Whose turn it is -/

/-- It is the turn of an attempt that is waiting for it. -/
def OnTurn (r : LiveResource) (id : Nat) : Prop :=
  r.pages.holder = some id ∧ ∃ e, r.phase? id = some (.queued e)

/-- **Whose turn it is has been woken**, unless it was so before and nothing has come of it yet. -/
theorem Lined.rouses (lined : r.Lined) (h : r.PageMove m id signal r' effects) {k : Nat}
    (turn : r'.OnTurn k) :
    .wake k ∈ effects ∨ r.OnTurn k ∧ (k = id → signal ≠ .go) := by
  obtain ⟨holds, e, queued⟩ := turn
  -- the one at the head of the line has left it
  have left (holder : r.pages.holder = some id)
      (pages : r'.pages = r.pages.leave id) : .wake k ∈ wakes r.pages id := by
    rw [pages, PageLock.leave, if_pos holder] at holds
    simp [wakes, PageLock.heir?, holder, show r.pages.waiting.head? = some k from holds]
  -- another attempt has gone on
  have stays {q p : Phase} (phase : r.phase? id = some q)
      (attempts : r'.attempts = (r.setPhase id p).attempts) (head : r.pages.holder = some k)
      (hne : k ≠ id) : r.OnTurn k ∧ (k = id → signal ≠ .go) := by
    rw [phase?_of_setPhase attempts phase, if_neg hne] at queued
    exact ⟨⟨head, e, queued⟩, fun he => absurd he hne⟩
  have own {q p : Phase} (phase : r.phase? id = some q)
      (attempts : r'.attempts = (r.setPhase id p).attempts) (called : ∀ e, p ≠ .queued e) :
      k ≠ id := by
    rintro rfl
    rw [phase?_of_setPhase attempts phase, if_pos rfl] at queued
    exact called e (Option.some.inj queued)
  cases h with
  | still idle =>
    refine .inr ⟨⟨holds, e, queued⟩, ?_⟩
    rintro rfl rfl
    exact idle (by simpa [Awaits, queued] using holds)
  | queue phase busy =>
    refine .inr (stays phase rfl holds ?_)
    rintro rfl
    exact lined.not_mem_line phase not_false
      (by rw [PageLock.line, show r.pages.holder = some k from holds]; exact List.mem_cons_self)
  | drop phase holder => exact .inl (left holder rfl)
  | call phase => exact absurd (Option.some.inj holds).symm (own phase rfl (by simp))
  | rest phase => exact .inr (stays phase rfl holds (own phase rfl (by simp)))
  | apply comes => exact .inl (List.mem_cons_of_mem _ (left (lined.of_comes comes) rfl))
  | discard comes => exact .inl (left (lined.of_comes comes) rfl)

end LiveResource

end ReactiveResource
