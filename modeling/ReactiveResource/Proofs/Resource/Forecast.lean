import ReactiveResource.Proofs.Resource.Line

/-!
# The pages that are to come

What a paginated resource will show when all of its fetches have come to their end can be told in
advance: the pages that it shows now, the one that has been called for, and one for every fetch that
has yet to call. No move of any attempt changes this forecast. A change of config leaves what has
been called for, unless it is cancelled before, and what has not been started yet.

* `LiveResource.forecast`: the pages to be shown in the end;
* `LiveResource.Foresees`, `Foresees.move`: the forecast, as every move leaves it;
* `LiveResource.surplus`, `foresees_update`: the forecast when the config is replaced;
* `surplus_eq_nil_iff`: when a change of config leaves nothing.
-/

namespace ReactiveResource

/-- The page that a gateway gives for the call of a config. -/
def Config.page (c : Config) (f : Json → List Json) : List Json := f (c.callArgs c.params)

/-- An attempt in this phase has yet to call, and is not going to be dropped. -/
def Resource.expects (r : Resource) : Phase → Bool
  | .spawned => true
  | .queued epoch => epoch == r.epoch
  | _ => false

/-- An attempt in this phase has not been started. -/
def Phase.isSpawned : Phase → Bool
  | .spawned => true
  | _ => false

namespace LiveResource

variable {r r' : LiveResource} {m : Moment} {id : Nat} {signal : Signal} {effects : List Effect}
  {f : Json → List Json} {items : List Json} {config : Config}

/-! ### What is to come -/

/-- How many attempts have yet to call. -/
def due (r : LiveResource) : Nat := r.attempts.countP (r.resource.expects ·.phase)

/-- How many attempts have not been started. -/
def unstarted (r : LiveResource) : Nat := r.attempts.countP (·.phase.isSpawned)

/-- What the one at the head of the line has called for, if its outcome counts. -/
def inCall? (r : LiveResource) : Option Ticket :=
  ((r.pages.holder.bind r.phase?).bind Phase.ticket?).filter (r.resource.isCurrent ·.generation)

/-- The page that has been called for. -/
def inHand (f : Json → List Json) (r : LiveResource) : List Json :=
  r.inCall?.elim [] fun t => f t.args

/-- The pages that are shown, or will be when all attempts have come to their end. -/
def forecast (f : Json → List Json) (r : LiveResource) : List Json :=
  r.resource.pagesSoFar ++ r.inHand f ++ (List.replicate r.due (r.resource.config.page f)).flatten

/-- The forecast comes true when nothing is to come any more. -/
structure Foresees (f : Json → List Json) (items : List Json) (r : LiveResource) : Prop where
  forecast : r.forecast f = items
  shown : r.due = 0 → r.inCall? = none →
    r.resource.stale = false ∧ ∃ page, r.resource.data = some (.arr page)

theorem Foresees.data (h : r.Foresees f items) (due : r.due = 0) (settled : r.inCall? = none) :
    r.resource.data = some (.arr items) := by
  obtain ⟨fresh, page, data⟩ := h.shown due settled
  have forecast := h.forecast
  simp only [LiveResource.forecast, Resource.pagesSoFar, data, fresh, inHand, settled, due,
    Option.elim_none, List.replicate_zero, List.flatten_nil, List.append_nil, Bool.false_eq_true,
    if_false] at forecast
  rw [data, forecast]

theorem due_of_setPhase {q p : Phase} (phase : r.phase? id = some q)
    (attempts : r'.attempts = (r.setPhase id p).attempts)
    (epoch : r'.resource.epoch = r.resource.epoch) :
    r'.due + (if r.resource.expects q then 1 else 0)
      = r.due + (if r.resource.expects p then 1 else 0) := by
  have expects : r'.resource.expects = r.resource.expects := by
    funext q
    cases q <;> simp [Resource.expects, epoch]
  obtain ⟨before, a, later, split, rfl, modified⟩ :=
    List.exists_of_modify (fun a : Attempt => { a with phase := p }) (lt_length_of_phase? phase)
  have own : a.phase = q := by simpa [phase?, split] using phase
  have attempts : r'.attempts = before ++ { a with phase := p } :: later := attempts.trans modified
  rw [due, due, attempts, split, expects]
  simp only [List.countP_append, List.countP_cons, own]
  omega

theorem due_of_eq {q p : Phase} (phase : r.phase? id = some q)
    (attempts : r'.attempts = (r.setPhase id p).attempts)
    (epoch : r'.resource.epoch = r.resource.epoch)
    (same : r.resource.expects p = r.resource.expects q) : r'.due = r.due := by
  have h := due_of_setPhase phase attempts epoch
  rw [same] at h
  exact Nat.add_right_cancel h

theorem inCall?_of_holder {p : Phase} (holder : r.pages.holder = some id)
    (phase : r.phase? id = some p) :
    r.inCall? = p.ticket?.filter (r.resource.isCurrent ·.generation) := by
  simp [inCall?, holder, phase]

theorem inCall?_of_vacant (vacant : r.pages.holder = none) : r.inCall? = none := by
  simp [inCall?, vacant]

/-- The one who is at the head of the line next has not called. -/
theorem Lined.inCall?_of_leave (lined : r.Lined) {q : Phase} {ending : Ending}
    (phase : r.phase? id = some q) (holder : r.pages.holder = some id)
    (attempts : r'.attempts = (r.setPhase id (.finished ending)).attempts)
    (pages : r'.pages = r.pages.leave id) : r'.inCall? = none := by
  have next : r'.pages.holder = r.pages.waiting.head? := by
    rw [pages, PageLock.leave, if_pos holder]
  cases head : r.pages.waiting.head? with
  | none => exact inCall?_of_vacant (next.trans head)
  | some k =>
    have behind : k ∈ r.pages.waiting := List.mem_of_head? head
    have hne : k ≠ id := fun he => lined.not_waiting holder (he ▸ behind)
    obtain ⟨e, waits⟩ := lined.of_waiting behind
    have phase' : r'.phase? k = some (.queued e) := by
      rw [phase?_of_setPhase attempts phase, if_neg hne, waits]
    rw [inCall?_of_holder (next.trans head) phase']
    rfl

/-- An attempt whose generation counts has called for a page. -/
theorem Lined.inCall?_of_ticket (lined : r.Lined) {p : Phase} {t : Ticket}
    (phase : r.phase? id = some p) (ticket : p.ticket? = some t) :
    r.inCall? = (some t).filter (r.resource.isCurrent ·.generation) := by
  rw [inCall?_of_holder (lined.underway ⟨p, t, phase, ticket, rfl⟩) phase, ticket]

/-! ### Moves -/

theorem Foresees.of_eq (h : r.Foresees f items) (resource : r'.resource = r.resource)
    (inCall : r'.inCall? = r.inCall?) (due : r'.due = r.due) : r'.Foresees f items where
  forecast := by
    rw [← h.forecast, LiveResource.forecast, LiveResource.forecast, inHand, inHand, resource,
      inCall, due]
  shown due' settled := by
    rw [resource]
    exact h.shown (due ▸ due') (inCall ▸ settled)

/-- The page that has been called for is the next one of those that are due. -/
theorem Foresees.call (h : r.Foresees f items) {t : Ticket} (free : r.inCall? = none)
    (called : r'.inCall? = some t) (due : r.due = r'.due + 1)
    (args : t.args = r.resource.config.callArgs r.resource.config.params)
    (config : r'.resource.config = r.resource.config)
    (pages : r'.resource.pagesSoFar = r.resource.pagesSoFar) : r'.Foresees f items where
  forecast := by
    have page : f t.args = r.resource.config.page f := by rw [args, Config.page]
    rw [← h.forecast, LiveResource.forecast, LiveResource.forecast, inHand, inHand, free, called,
      pages, config, due, List.replicate_succ, List.flatten_cons, Option.elim_some, page]
    simp
  shown _ settled := by
    rw [called] at settled
    cases settled

/-- The page that has been called for is shown. -/
theorem Foresees.apply (h : r.Foresees f items) {t : Ticket} (called : r.inCall? = some t)
    (settled : r'.inCall? = none) (due : r'.due = r.due)
    (config : r'.resource.config.bare = r.resource.config.bare)
    (data : r'.resource.data = some (.arr (r.resource.pagesSoFar ++ f t.args)))
    (fresh : r'.resource.stale = false) : r'.Foresees f items where
  forecast := by
    have page : r'.resource.config.page f = r.resource.config.page f :=
      congrArg f (Config.callArgs_of_bare config)
    have pages : r'.resource.pagesSoFar = r.resource.pagesSoFar ++ f t.args := by
      simp only [Resource.pagesSoFar, data, fresh, Bool.false_eq_true, if_false]
    rw [← h.forecast, LiveResource.forecast, LiveResource.forecast, inHand, inHand, called, settled,
      pages, due, page, Option.elim_none, Option.elim_some, List.append_nil]
  shown _ _ := ⟨fresh, _, data⟩

/-- **No move changes the forecast**, where the gateway answers every call with the page for it. -/
theorem Foresees.move (h : r.Foresees f items) (serial : r.Serial) (lined : r.Lined)
    (fence : r.resource.fence ≤ r.resource.generation) (move : r.PageMove m id signal r' effects)
    (answered : ∀ t outcome, r.Comes id signal t outcome → outcome = .payload (.arr (f t.args))) :
    r'.Foresees f items := by
  have ordered := lined.move move
  cases move with
  | still => exact h
  | @queue holder phase busy =>
    have hne : holder ≠ id := by
      rintro rfl
      refine lined.not_mem_line phase not_false ?_
      rw [PageLock.line, busy]
      exact List.mem_cons_self
    obtain ⟨p, phase', -⟩ := lined.of_holder busy
    generalize hr' : LiveResource.setPhase _ id _ = r'
    have resource : r'.resource = r.resource := hr' ▸ rfl
    have attempts : r'.attempts = (r.setPhase id (.queued r.resource.epoch)).attempts := hr' ▸ rfl
    have busy' : r'.pages.holder = some holder := hr' ▸ busy
    have same : r'.phase? holder = some p := by
      rw [phase?_of_setPhase attempts phase, if_neg hne, phase']
    refine h.of_eq resource ?_
      (due_of_eq phase attempts (resource ▸ rfl) (by simp [Resource.expects]))
    rw [inCall?_of_holder busy phase', inCall?_of_holder busy' same, resource]
  | @drop epoch phase holder changed =>
    have settled : (r.ended id .displaced).inCall? = none :=
      lined.inCall?_of_leave phase holder rfl rfl
    refine h.of_eq rfl ?_ (due_of_eq phase rfl rfl (by simp [Resource.expects, Ne.symm changed]))
    rw [settled, inCall?_of_holder holder phase]
    rfl
  | @call q phase turn =>
    generalize hr' : LiveResource.setPhase _ id _ = r' at ordered ⊢
    have resource : r'.resource
        = (r.resource.raised r.resource.config.params).beginLoading.notify := hr' ▸ rfl
    have attempts : r'.attempts = (r.setPhase id (.calling (r.ticketFor id))).attempts := hr' ▸ rfl
    have phase' : r'.phase? id = some (.calling (r.ticketFor id)) := by
      rw [phase?_of_setPhase attempts phase, if_pos rfl]
    have current : r'.resource.isCurrent (r.ticketFor id).generation = true := by
      rw [resource]
      exact Resource.isCurrent_raised serial.unheld.alive fence r.resource.config.params
    refine h.call (t := r.ticketFor id) ?_ ?_ ?_ ?_ (resource ▸ rfl) (resource ▸ rfl)
    · rcases turn with ⟨-, vacant⟩ | ⟨rfl, holder⟩
      · exact inCall?_of_vacant vacant
      · rw [inCall?_of_holder holder phase]
        rfl
    · rw [ordered.inCall?_of_ticket phase' rfl, Option.filter_some, if_pos current]
    · have due := due_of_setPhase phase attempts (resource ▸ rfl)
      have expected : r.resource.expects q = true := by
        rcases turn with ⟨rfl, -⟩ | ⟨rfl, -⟩ <;> simp [Resource.expects]
      rw [if_pos expected, if_neg (by simp [Resource.expects])] at due
      exact due.symm
    · show r.resource.config.callArgs (r.paramsFor id) = _
      rw [serial.unheld.paramsFor]
  | @rest t reply _ phase =>
    refine h.of_eq rfl ?_ (due_of_eq phase rfl rfl rfl)
    rw [lined.inCall?_of_ticket phase rfl,
      ordered.inCall?_of_ticket (phase?_setPhase_self phase _) rfl]
    rfl
  | @apply _ t outcome _ _ _ comes current settles =>
    cases answered t outcome comes
    obtain ⟨q, phase, ticket⟩ := comes.phase
    have changes := Resource.Settled.of_settle settles
    have agrees := changes.agrees
    obtain ⟨data, -, fresh⟩ := changes.page (f t.args) rfl serial.paginated
    refine h.apply ?_ (lined.inCall?_of_leave phase (lined.of_comes comes) rfl rfl)
      (due_of_eq phase rfl agrees.epoch ?_) agrees.config data fresh
    · rw [lined.inCall?_of_ticket phase ticket, Option.filter_some, if_pos current]
    · cases q <;> first | rfl | cases ticket
  | @discard _ t _ comes stale =>
    obtain ⟨q, phase, ticket⟩ := comes.phase
    have settled : (r.ended id (.discarded t.generation)).inCall? = none :=
      lined.inCall?_of_leave phase (lined.of_comes comes) rfl rfl
    refine h.of_eq rfl ?_ (due_of_eq phase rfl rfl ?_)
    · rw [settled, lined.inCall?_of_ticket phase ticket, Option.filter_some,
        if_neg (by simp [stale])]
    · cases q <;> first | rfl | cases ticket

/-! ### The config is replaced -/

/-- What will be shown besides the page of a new config: the page that has been called for, and one
more for every attempt that has not been started. -/
def surplus (f : Json → List Json) (r : LiveResource) (config : Config) : List Json :=
  r.inHand f ++ (List.replicate r.unstarted (config.page f)).flatten

/-- Nothing is left over exactly if no page has been called for and none is still to be. -/
theorem surplus_eq_nil_iff :
    r.surplus f config = [] ↔ r.inHand f = [] ∧ (r.unstarted = 0 ∨ config.page f = []) := by
  rw [surplus, List.append_eq_nil_iff]
  cases r.unstarted with
  | zero => simp
  | succ n => simp [List.flatten_eq_nil_iff, List.mem_replicate]

theorem inCall?_cancel (r : LiveResource) : r.cancel.inCall? = none := by
  have stale (g : Nat) : r.cancel.resource.isCurrent g = false := by
    refine Bool.eq_false_iff.2 fun current => ?_
    obtain ⟨-, last, unfenced⟩ := Resource.isCurrent_iff.1 current
    exact absurd unfenced (by rw [last]; exact Nat.lt_irrefl _)
  simp [inCall?, stale]

/-- After a cancel no page has been called for. -/
theorem inHand_cancel (r : LiveResource) : r.cancel.inHand f = [] := by
  rw [inHand, inCall?_cancel]
  rfl

/-- Whoever has been waiting for his turn is dropped, and who has not been started is not. -/
theorem Lined.due_update (lined : r.Lined) (h : r.update config = .ok r') :
    r'.due = r.unstarted := by
  obtain ⟨resource, hu, rfl⟩ := update_ok h
  have epoch : resource.epoch = r.resource.epoch + 1 := (Resource.update_ok hu).2.2.2.1
  refine List.countP_congr fun a ha => ?_
  obtain ⟨id, hid⟩ := List.mem_iff_getElem?.1 ha
  cases phase : a.phase with
  | queued e =>
    have waits : r.phase? id = some (.queued e) := by simp [phase?, hid, phase]
    have le := (lined.queued waits).2
    simp only [Resource.expects, Phase.isSpawned, beq_iff_eq, epoch, Bool.false_eq_true, iff_false]
    omega
  | _ => rfl

theorem due_spawn (r : LiveResource) (override : Option Params) :
    (r.spawn override).1.due = r.due + 1 := by
  simp only [due, spawn, List.countP_append]
  rfl

theorem Lined.inCall?_spawn (lined : r.Lined) (override : Option Params) :
    (r.spawn override).1.inCall? = r.inCall? := by
  cases holder : r.pages.holder with
  | none =>
    rw [inCall?_of_vacant holder]
    exact inCall?_of_vacant (r := (r.spawn override).1) holder
  | some id =>
    obtain ⟨p, phase, -⟩ := lined.of_holder holder
    have phase' : (r.spawn override).1.phase? id = some p :=
      phase?_act_external (a := .spawn override) trivial phase
    rw [inCall?_of_holder holder phase, inCall?_of_holder (r := (r.spawn override).1) holder phase']
    rfl

end LiveResource

theorem Resource.pagesSoFar_update {r r' : Resource} {config : Config}
    (h : r.update config = .ok r') (unprimed : config.defaultData = none) :
    r'.pagesSoFar = [] := by
  rw [update] at h
  split at h
  · cases h
  · split at h
    · cases h
    · split at h
      · cases h
        simp only [notify, pagesSoFar]
        split <;> rfl
      · cases h
        simp [notify, pagesSoFar, clearResults, unprimed]

namespace LiveResource

variable {r r' : LiveResource} {f : Json → List Json} {config : Config}

/-- The first fetch of a new resource. -/
theorem foresees_fresh (f : Json → List Json) (name : String)
    (unprimed : config.defaultData = none) :
    ((fresh name config).spawn none).1.Foresees f (config.page f) where
  forecast := by
    have settled : ((fresh name config).spawn none).1.inCall? = none := inCall?_of_vacant rfl
    have due : ((fresh name config).spawn none).1.due = 1 := due_spawn _ _
    have pages : ((fresh name config).spawn none).1.resource.pagesSoFar = [] := by
      simp [spawn, fresh, ofResource, Resource.fresh, Resource.pagesSoFar, unprimed]
    rw [forecast, inHand, settled, due, pages]
    simp [spawn, fresh, ofResource, Resource.fresh]
  shown due := absurd ((due_spawn _ _).symm.trans due) (Nat.succ_ne_zero _)

/-- **What a change of config leaves.** With a new config and its fetch, its page is shown in the
end, after the surplus. -/
theorem Lined.foresees_update (lined : r.Lined) (f : Json → List Json)
    (unprimed : config.defaultData = none) (h : r.update config = .ok r') :
    (r'.spawn none).1.Foresees f (r.surplus f config ++ config.page f) where
  forecast := by
    have due : (r'.spawn none).1.due = r.unstarted + 1 := by rw [due_spawn, lined.due_update h]
    obtain ⟨resource, hu, rfl⟩ := update_ok h
    have ordered : ({ r with resource } : LiveResource).Lined := by
      have external := lined.external (a := .update config) trivial
      rwa [act, h] at external
    obtain ⟨-, -, same, -, generation, fence, retired, -⟩ := Resource.update_ok hu
    have inCall : (LiveResource.spawn { r with resource } none).1.inCall? = r.inCall? := by
      rw [ordered.inCall?_spawn, inCall?, inCall?]
      simp only [Resource.isCurrent, generation, fence, retired]
      rfl
    have pages : (LiveResource.spawn { r with resource } none).1.resource.pagesSoFar = [] :=
      Resource.pagesSoFar_update hu unprimed
    have page : (LiveResource.spawn { r with resource } none).1.resource.config = config := same
    rw [forecast, surplus, inHand, inHand, inCall, pages, due, page, List.replicate_succ',
      List.flatten_append]
    simp
  shown due := absurd ((due_spawn _ _).symm.trans due) (Nat.succ_ne_zero _)

end LiveResource

end ReactiveResource
