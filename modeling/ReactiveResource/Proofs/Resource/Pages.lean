import ReactiveResource.Proofs.Resource.Generations

/-!
# Pages in the order of the calls

Fetches of a paginated resource hold the page lock from their turn to their end. As long as nothing
is withdrawn and the config stays, they take their generations one after another, in the order in
which they have reached the lock, and every page finds its place in the data.

* `LiveResource.arrivals`, `calls`, `conclusions`, `wakings`: what is observed along a run;
* `LiveResource.Paging`: the invariant, which ties the lock to what has been observed;
* `PagesInOrder`, `pages_in_order`: the statement, for every run.
-/

namespace ReactiveResource

/-! ### What is observed -/

/-- Those who have reached the lock and have not left it, in order. -/
def PageLock.line (p : PageLock) : List Nat := p.holder.toList ++ p.waiting

/-- The attempt that is woken, if the effect tells of one. -/
def Effect.woken? : Effect → Option Nat
  | .wake id => some id
  | _ => none

namespace LiveResource

/-- The attempts that reach the page lock in an action. -/
def arrivals (r : LiveResource) (a : Action) : List Nat :=
  (r.act a).1.pages.line.filter fun id => !r.pages.line.contains id

/-- The attempts that call the gateway in an action. -/
def calls (r : LiveResource) (a : Action) : List Nat := (r.act a).2.filterMap Effect.caller?

/-- The attempts that are woken in an action. -/
def wakings (r : LiveResource) (a : Action) : List Nat := (r.act a).2.filterMap Effect.woken?

/-- The attempts that come to an outcome in an action, with their outcomes. -/
def conclusions (r : LiveResource) : Action → List (Nat × Outcome)
  | .advance _ id signal =>
    match r.phase? id, signal with
    | some (.calling t), .reply reply =>
      if (t.delay.filter (0 < ·.nanos)).isNone then [(id, .ofReply reply)] else []
    | some (.delaying _ reply), .elapsed => [(id, .ofReply reply)]
    | some (.validating _), .verdict (some message) =>
      if message = "" then [] else [(id, .invalid message)]
    | _, _ => []
  | _ => []

theorem conclusions_of_comes {r : LiveResource} {m : Moment} {id : Nat} {signal : Signal}
    {t : Ticket} {outcome : Outcome} (h : r.Comes id signal t outcome) :
    r.conclusions (.advance m id signal) = [(id, outcome)] := by
  cases h with
  | replied phase prompt => simp [conclusions, phase, prompt]
  | rested phase => simp [conclusions, phase]
  | refused phase refusal => simp [conclusions, phase, refusal]

theorem conclusions_of_not {r : LiveResource} {m : Moment} {id : Nat} {signal : Signal}
    (h : ∀ t outcome, ¬ r.Comes id signal t outcome) :
    r.conclusions (.advance m id signal) = [] := by
  simp only [conclusions]
  split
  · next t reply phase =>
    split
    · next prompt =>
      exact absurd (.replied phase (Option.isNone_iff_eq_none.1 prompt)) (h t _)
    · rfl
  · next t reply phase => exact absurd (.rested phase) (h t _)
  · next t message phase =>
    split
    · rfl
    · next refusal => exact absurd (.refused phase refusal) (h t _)
  · rfl

theorem Comes.awaits {r : LiveResource} {id : Nat} {signal : Signal} {t : Ticket}
    {outcome : Outcome} (h : r.Comes id signal t outcome) : r.Awaits id signal := by
  cases h with
  | replied phase => simp [Awaits, phase]
  | rested phase => simp [Awaits, phase]
  | refused phase => simp [Awaits, phase]

end LiveResource

/-! ### The data -/

/-- A page, or the failure of a call. -/
def Reply.IsPage : Reply → Prop
  | .ok (.arr _) | .err _ => True
  | .ok _ => False

/-- The page that an outcome brings. -/
def Outcome.page? : Outcome → Option (List Json)
  | .payload (.arr page) => some page
  | _ => none

/-- The items of an array, and none of anything else. -/
def itemsOf : Option Json → List Json
  | some (.arr items) => items
  | _ => []

/-- The data after some pages: the initial data as long as there are none, and else the items of
the initial data and of the pages. -/
def pagedData (initial : Option Json) (pages : List (List Json)) : Option Json :=
  if pages = [] then initial else some (.arr (itemsOf initial ++ pages.flatten))

theorem itemsOf_pagedData (initial : Option Json) (pages : List (List Json)) :
    itemsOf (pagedData initial pages) = itemsOf initial ++ pages.flatten := by
  rw [pagedData]
  split
  · next h => simp [h]
  · rfl

theorem pagedData_concat (initial : Option Json) (pages : List (List Json)) (page : List Json) :
    pagedData initial (pages ++ [page])
      = some (.arr (itemsOf (pagedData initial pages) ++ page)) := by
  rw [itemsOf_pagedData, pagedData, if_neg (by simp)]
  simp

theorem Resource.pagesSoFar_of_fresh {r : Resource} (h : r.stale = false) :
    r.pagesSoFar = itemsOf r.data := by
  rw [pagesSoFar, itemsOf.eq_def]
  split <;> simp_all

/-! ### What stays as it is -/

namespace Resource

/-- The resource has its first config but for listeners, and nothing has been withdrawn. -/
structure Calm (config : Config) (r : Resource) : Prop where
  config : r.config.bare = config.bare
  alive : r.retired = false
  fence : r.fence = 0
  epoch : r.epoch = 0

/-- The results are those of some pages. -/
structure Gathered (initial : Option Json) (pages : List (List Json)) (r : Resource) : Prop where
  fresh : r.stale = false
  data : r.data = pagedData initial pages
  exhausted : r.exhausted = true ↔ pages.getLast? = some []

section Calm

variable {config : Config} {r r' : Resource}

theorem Calm.of_agrees (h : r.Calm config) (agrees : r.Agrees r') : r'.Calm config :=
  ⟨agrees.config.trans h.config, agrees.retired.trans h.alive, agrees.fence.trans h.fence,
    agrees.epoch.trans h.epoch⟩

/-- A page that is applied is added at the end. -/
theorem settle_page (paginated : r.config.paginated = true) (now : Nat) (page : List Json) :
    (r.settle now (.payload (.arr page))).2.2.data = some (.arr (r.pagesSoFar ++ page)) ∧
      (r.settle now (.payload (.arr page))).2.2.exhausted = page.isEmpty ∧
      (r.settle now (.payload (.arr page))).2.2.stale = false :=
  (Settled.of_settle (r := r) rfl).page page rfl paginated

/-- A page is added at the end, and a failed call adds nothing. -/
theorem Gathered.settle {initial : Option Json} {pages : List (List Json)}
    (h : r.Gathered initial pages) (paginated : r.config.paginated = true) (now : Nat)
    {reply : Reply} (isPage : reply.IsPage) :
    (r.settle now (.ofReply reply)).2.2.Gathered initial
      (pages ++ (Outcome.ofReply reply).page?.toList) := by
  match reply, isPage with
  | .err e, _ => exact ⟨h.fresh, h.data.trans (by simp [Outcome.ofReply, Outcome.page?]),
      h.exhausted.trans (by simp [Outcome.ofReply, Outcome.page?])⟩
  | .ok (.arr page), _ =>
    obtain ⟨data, exhausted, fresh⟩ := settle_page paginated now page
    refine ⟨fresh, ?_, ?_⟩
    · rw [Outcome.ofReply, data, pagesSoFar_of_fresh h.fresh, h.data]
      exact (pagedData_concat _ _ _).symm
    · rw [Outcome.ofReply, exhausted]
      simp [Outcome.page?]

end Calm

end Resource

namespace LiveResource

/-! ### The invariant -/

/-- Who is at the page lock after a number of outcomes, and the calls that have not been settled. -/
inductive Round (r : LiveResource) (n : Nat) : List Nat → Prop
  /-- Nobody. -/
  | idle (vacant : r.pages.holder = none) (nobody : r.pages.waiting = [])
      (taken : r.resource.generation = n) : Round r n []
  /-- An attempt that is to take its generation. -/
  | due {id : Nat} (holder : r.pages.holder = some id) (phase : r.phase? id = some (.queued 0))
      (taken : r.resource.generation = n) : Round r n []
  /-- An attempt that waits for the reply to its call. -/
  | calling {id : Nat} {t : Ticket} (holder : r.pages.holder = some id)
      (phase : r.phase? id = some (.calling t)) (own : t.generation = n + 1)
      (taken : r.resource.generation = n + 1) : Round r n [id]
  /-- An attempt that has its reply and waits for the end of a delay. -/
  | delaying {id : Nat} {t : Ticket} {reply : Reply} (holder : r.pages.holder = some id)
      (phase : r.phase? id = some (.delaying t reply)) (isPage : reply.IsPage)
      (own : t.generation = n + 1) (taken : r.resource.generation = n + 1) : Round r n [id]

/-- The resource, and what has been observed of it: who has reached the lock, who has called, who
has been woken, and what outcomes there have been. -/
structure Paging (config : Config) (r : LiveResource) (arrived called woken : List Nat)
    (settled : List (Nat × Outcome)) : Prop where
  calm : r.resource.Calm config
  gathered : r.resource.Gathered config.defaultData (settled.filterMap (·.2.page?))
  place : arrived = settled.map (·.1) ++ r.pages.line
  once : arrived.Nodup
  round : ∃ unsettled, r.Round settled.length unsettled ∧ called = settled.map (·.1) ++ unsettled
  waits : ∀ id ∈ r.pages.waiting, r.phase? id = some (.queued 0)
  done : ∀ k id, (settled.map (·.1))[k]? = some id → r.Applied id (k + 1)
  new : ∀ id, id < r.attempts.length → id ∉ arrived → r.phase? id = some .spawned
  told : ∀ id, r.pages.holder = some id → r.phase? id = some (.queued 0) → id ∈ woken

theorem paging_fresh (name : String) (config : Config) :
    (fresh name config).Paging config [] [] [] [] where
  calm := ⟨rfl, rfl, rfl, rfl⟩
  gathered := ⟨rfl, rfl, by simp [fresh, ofResource, Resource.fresh]⟩
  place := rfl
  once := .nil
  round := ⟨[], .idle rfl rfl rfl, rfl⟩
  waits := nofun
  done := by simp
  new := by simp [fresh, ofResource]
  told := nofun

section Paging

variable {config : Config} {r : LiveResource} {A C W : List Nat} {S : List (Nat × Outcome)}

/-- The round goes on if nothing changes for those who are in it. -/
theorem Round.mono {r' : LiveResource} {n : Nat} {unsettled : List Nat} (h : r.Round n unsettled)
    (pages : r'.pages = r.pages) (generation : r'.resource.generation = r.resource.generation)
    (kept : ∀ {j p}, r.phase? j = some p → r'.phase? j = some p) : r'.Round n unsettled := by
  cases h with
  | idle vacant nobody taken =>
    exact .idle (pages ▸ vacant) (pages ▸ nobody) (generation.trans taken)
  | due holder phase taken =>
    exact .due (pages ▸ holder) (kept phase) (generation.trans taken)
  | calling holder phase own taken =>
    exact .calling (pages ▸ holder) (kept phase) own (generation.trans taken)
  | delaying holder phase isPage own taken =>
    exact .delaying (pages ▸ holder) (kept phase) isPage own (generation.trans taken)

/-- Where an attempt stands that is in a phase. -/
inductive Stands (r : LiveResource) (A : List Nat) (S : List (Nat × Outcome)) (id : Nat) :
    Phase → Prop
  | new (out : id ∉ A) : Stands r A S id .spawned
  | waiting (behind : id ∈ r.pages.waiting) : Stands r A S id (.queued 0)
  | due (holder : r.pages.holder = some id) (taken : r.resource.generation = S.length) :
      Stands r A S id (.queued 0)
  | calling {t : Ticket} (holder : r.pages.holder = some id) (own : t.generation = S.length + 1)
      (taken : r.resource.generation = S.length + 1) : Stands r A S id (.calling t)
  | delaying {t : Ticket} {reply : Reply} (holder : r.pages.holder = some id)
      (isPage : reply.IsPage) (own : t.generation = S.length + 1)
      (taken : r.resource.generation = S.length + 1) : Stands r A S id (.delaying t reply)
  | done {g : Nat} (settled : id ∈ S.map (·.1)) : Stands r A S id (.finished (.applied g))

theorem Paging.stands (h : r.Paging config A C W S) {id : Nat} {p : Phase}
    (phase : r.phase? id = some p) : r.Stands A S id p := by
  have same {q : Phase} (hq : r.phase? id = some q) : q = p :=
    Option.some.inj (hq.symm.trans phase)
  by_cases ha : id ∈ A
  · rw [h.place, PageLock.line, List.mem_append, List.mem_append, Option.mem_toList] at ha
    rcases ha with settled | holder | behind
    · obtain ⟨k, hk⟩ := List.mem_iff_getElem?.1 settled
      exact same (h.done k id hk) ▸ .done settled
    · obtain ⟨unsettled, round, -⟩ := h.round
      cases round with
      | idle vacant => rw [vacant] at holder; cases holder
      | due holder' phase' taken =>
        cases holder'.symm.trans holder
        exact same phase' ▸ .due holder taken
      | calling holder' phase' own taken =>
        cases holder'.symm.trans holder
        exact same phase' ▸ .calling holder own taken
      | delaying holder' phase' isPage own taken =>
        cases holder'.symm.trans holder
        exact same phase' ▸ .delaying holder isPage own taken
    · exact same (h.waits id behind) ▸ .waiting behind
  · exact same (h.new id (lt_length_of_phase? phase) ha) ▸ .new ha

/-! ### One move -/

theorem Paging.mem_of_holder (h : r.Paging config A C W S) {id : Nat}
    (holder : r.pages.holder = some id) : id ∈ A := by
  rw [h.place, PageLock.line, holder]
  simp

theorem Paging.mem_of_waiting (h : r.Paging config A C W S) {id : Nat}
    (behind : id ∈ r.pages.waiting) : id ∈ A := by
  rw [h.place, PageLock.line]
  simp [behind]

theorem Paging.mem_of_settled (h : r.Paging config A C W S) {id : Nat}
    (settled : id ∈ S.map (·.1)) : id ∈ A := by
  rw [h.place]
  exact List.mem_append_left _ settled

/-- The one who holds the lock neither waits for it nor has settled. -/
theorem Paging.not_mem_of_holder (h : r.Paging config A C W S) {id : Nat}
    (holder : r.pages.holder = some id) : id ∉ S.map (·.1) ∧ id ∉ r.pages.waiting := by
  have once := h.once
  rw [h.place, PageLock.line, holder, List.nodup_append] at once
  obtain ⟨-, line, apart⟩ := once
  exact ⟨fun hs => apart id hs id (by simp) rfl, (List.nodup_cons.1 line).1⟩

/-- Once the one who holds the lock has its generation, its call is the only one that has not been
settled. -/
theorem Paging.called_of_taken (h : r.Paging config A C W S) {id : Nat}
    (holder : r.pages.holder = some id) (taken : r.resource.generation = S.length + 1) :
    C = S.map (·.1) ++ [id] := by
  obtain ⟨unsettled, round, called⟩ := h.round
  cases round with
  | idle vacant => rw [holder] at vacant; cases vacant
  | due _ _ taken' => omega
  | calling holder' | delaying holder' => cases holder.symm.trans holder'; exact called

/-- Who has settled stays so while another attempt changes its phase. -/
theorem Paging.done_of_others (h : r.Paging config A C W S) {r' : LiveResource} {id : Nat}
    (out : id ∉ S.map (·.1)) (others : ∀ j, j ≠ id → r'.phase? j = r.phase? j) :
    ∀ k j, (S.map (·.1))[k]? = some j → r'.Applied j (k + 1) := by
  intro k j hk
  have hj : j ≠ id := fun e => out (e ▸ List.mem_of_getElem? hk)
  exact (others j hj).trans (h.done k j hk)

/-- Who is new stays so while another attempt changes its phase. -/
theorem Paging.new_of_others (h : r.Paging config A C W S) {r' : LiveResource} {id : Nat}
    {A' : List Nat} (length : r'.attempts.length = r.attempts.length)
    (others : ∀ j, j ≠ id → r'.phase? j = r.phase? j) (grows : A ⊆ A') (here : id ∈ A') :
    ∀ j, j < r'.attempts.length → j ∉ A' → r'.phase? j = some .spawned := by
  intro j hlt hj
  rw [others j fun e => hj (e ▸ here)]
  exact h.new j (length ▸ hlt) fun ha => hj (grows ha)

/-- An attempt joins those who wait for the lock. -/
theorem Paging.queue (h : r.Paging config A C W S) {id holder : Nat}
    (phase : r.phase? id = some .spawned) (busy : r.pages.holder = some holder) :
    ({ r with pages := { r.pages with waiting := r.pages.waiting ++ [id] } }.setPhase id
      (.queued r.resource.epoch)).Paging config (A ++ [id]) C W S := by
  rw [h.calm.epoch]
  have out : id ∉ A := by cases h.stands phase with | new out => exact out
  generalize hr' : LiveResource.setPhase _ id (.queued 0) = r'
  have own : r'.phase? id = some (.queued 0) := hr' ▸ phase?_setPhase_self (by exact phase) _
  have others (j : Nat) (hj : j ≠ id) : r'.phase? j = r.phase? j :=
    hr' ▸ phase?_setPhase_of_ne _ hj _
  have pages : r'.pages = { r.pages with waiting := r.pages.waiting ++ [id] } := hr' ▸ rfl
  have resource : r'.resource = r.resource := hr' ▸ rfl
  have length : r'.attempts.length = r.attempts.length := hr' ▸ length_setPhase _ id _
  have ne {j : Nat} (hj : j ∈ A) : j ≠ id := fun e => out (e ▸ hj)
  have apart (j : Nat) (hj : r.pages.holder = some j) : r'.phase? j = r.phase? j :=
    others j (ne (h.mem_of_holder hj))
  refine
    { calm := resource ▸ h.calm
      gathered := resource ▸ h.gathered
      place := ?place
      once := ?once
      round := ?round
      waits := ?waits
      done := h.done_of_others (fun hs => out (h.mem_of_settled hs)) others
      new := h.new_of_others length others (List.subset_append_left _ _) (by simp)
      told := ?told }
  case place =>
    rw [h.place, pages]
    simp [PageLock.line]
  case once =>
    refine List.nodup_append.2 ⟨h.once, by simp, fun j hj k hk => ?_⟩
    rw [List.mem_singleton.1 hk]
    exact ne hj
  case round =>
    obtain ⟨unsettled, round, called⟩ := h.round
    refine ⟨unsettled, ?_, called⟩
    have held {j : Nat} (hj : r.pages.holder = some j) : r'.pages.holder = some j := pages ▸ hj
    cases round with
    | idle vacant => rw [busy] at vacant; cases vacant
    | due holds phase' taken =>
      exact .due (held holds) ((apart _ holds).trans phase') (resource ▸ taken)
    | calling holds phase' own' taken =>
      exact .calling (held holds) ((apart _ holds).trans phase') own' (resource ▸ taken)
    | delaying holds phase' isPage own' taken =>
      exact .delaying (held holds) ((apart _ holds).trans phase') isPage own' (resource ▸ taken)
  case waits =>
    intro j hj
    rw [pages, List.mem_append, List.mem_singleton] at hj
    rcases hj with hj | rfl
    · exact (others j (ne (h.mem_of_waiting hj))).trans (h.waits j hj)
    · exact own
  case told =>
    intro j holds queued
    rw [pages] at holds
    rw [apart j holds] at queued
    exact h.told j holds queued

/-- The one who holds the lock makes its call. -/
theorem Paging.call (h : r.Paging config A C W S) {r₁ : LiveResource} {A' : List Nat} {id : Nat}
    {q : Phase} (phase : r.phase? id = some q) (attempts : r₁.attempts = r.attempts)
    (holder : r₁.pages.holder = some id) (waiting : r₁.pages.waiting = r.pages.waiting)
    (grows : A ⊆ A') (place : A' = S.map (·.1) ++ r₁.pages.line) (once : A'.Nodup)
    (idle : C = S.map (·.1)) (taken : r.resource.generation = S.length) (params : Params) :
    ({ r₁ with resource := (r.resource.raised params).beginLoading.notify }.setPhase id
      (.calling (r.ticketFor id))).Paging config A' (C ++ [id]) W S := by
  generalize hr' : LiveResource.setPhase _ id _ = r'
  have own : r'.phase? id = some (.calling (r.ticketFor id)) :=
    hr' ▸ phase?_setPhase_self (by rw [← phase]; exact phase?_congr attempts id) _
  have others (j : Nat) (hj : j ≠ id) : r'.phase? j = r.phase? j :=
    hr' ▸ (phase?_setPhase_of_ne _ hj _).trans (phase?_congr attempts j)
  have pages : r'.pages = r₁.pages := hr' ▸ rfl
  have resource : r'.resource = (r.resource.raised params).beginLoading.notify := hr' ▸ rfl
  have length : r'.attempts.length = r.attempts.length :=
    hr' ▸ (length_setPhase _ id _).trans (congrArg List.length attempts)
  have apart := once
  rw [place, PageLock.line, holder, List.nodup_append] at apart
  obtain ⟨-, line, apart⟩ := apart
  refine
    { calm := resource ▸ ⟨h.calm.config, h.calm.alive, h.calm.fence, h.calm.epoch⟩
      gathered := resource ▸ ⟨h.gathered.fresh, h.gathered.data, h.gathered.exhausted⟩
      place := pages ▸ place
      once := once
      round := ⟨[id], .calling (pages ▸ holder) own (congrArg (· + 1) taken) ?_, by rw [idle]⟩
      waits := ?waits
      done := h.done_of_others (fun hs => apart id hs id (by simp) rfl) others
      new := h.new_of_others length others grows (by simp [place, PageLock.line, holder])
      told := ?told }
  · rw [resource]
    exact congrArg (· + 1) taken
  case waits =>
    intro j hj
    rw [pages, waiting] at hj
    rw [others j fun e => (List.nodup_cons.1 line).1 (waiting ▸ e ▸ hj)]
    exact h.waits j hj
  case told =>
    intro j holds queued
    rw [pages, holder] at holds
    cases holds
    rw [own] at queued
    cases queued

/-- The reply to a call has come, and a delay begins. -/
theorem Paging.rest (h : r.Paging config A C W S) {id : Nat} {t : Ticket} {reply : Reply}
    (phase : r.phase? id = some (.calling t)) (isPage : reply.IsPage) :
    (r.setPhase id (.delaying t reply)).Paging config A C W S := by
  obtain ⟨holder, generation, taken⟩ : r.pages.holder = some id ∧ t.generation = S.length + 1 ∧
      r.resource.generation = S.length + 1 := by
    cases h.stands phase with
    | calling holder own taken => exact ⟨holder, own, taken⟩
  obtain ⟨out, behind⟩ := h.not_mem_of_holder holder
  have own := phase?_setPhase_self phase (.delaying t reply)
  have others (j : Nat) (hj : j ≠ id) := phase?_setPhase_of_ne r hj (.delaying t reply)
  refine
    { calm := h.calm
      gathered := h.gathered
      place := h.place
      once := h.once
      round := ?round
      waits := fun j hj => (others j fun e => behind (e ▸ hj)).trans (h.waits j hj)
      done := h.done_of_others out others
      new := h.new_of_others (length_setPhase r id _) others (List.Subset.refl A)
        (h.mem_of_holder holder)
      told := ?told }
  case round =>
    exact ⟨[id], .delaying holder own isPage generation taken, h.called_of_taken holder taken⟩
  case told =>
    intro j holds queued
    cases holder.symm.trans holds
    rw [own] at queued
    cases queued

/-- An outcome is applied, and the lock goes to the one who has waited longest. -/
theorem Paging.settle (h : r.Paging config A C W S) (paginated : r.resource.config.paginated = true)
    {id : Nat} {q : Phase} {reply : Reply} (phase : r.phase? id = some q)
    (holder : r.pages.holder = some id) (taken : r.resource.generation = S.length + 1)
    (isPage : reply.IsPage) (now : Nat) :
    ({ r with resource := (r.resource.settle now (.ofReply reply)).2.2 }.ended id
      (.applied r.resource.generation)).Paging config A C (W ++ r.pages.waiting.head?.toList)
        (S ++ [(id, Outcome.ofReply reply)]) := by
  have agrees := r.resource.settle_agrees now (.ofReply reply)
  have gathered := h.gathered.settle paginated now isPage
  generalize (r.resource.settle now (Outcome.ofReply reply)).2.2 = settled at agrees gathered ⊢
  generalize hr' : LiveResource.ended _ id _ = r'
  have own : r'.phase? id = some (.finished (.applied r.resource.generation)) :=
    hr' ▸ phase?_setPhase_self (r := r) phase _
  have others (j : Nat) (hj : j ≠ id) : r'.phase? j = r.phase? j :=
    hr' ▸ phase?_setPhase_of_ne r hj _
  have pages : r'.pages = { holder := r.pages.waiting.head?, waiting := r.pages.waiting.tail } :=
    hr' ▸ if_pos holder
  have resource : r'.resource = settled := hr' ▸ rfl
  have length : r'.attempts.length = r.attempts.length := hr' ▸ length_setPhase r id _
  obtain ⟨out, behind⟩ := h.not_mem_of_holder holder
  have waits (j : Nat) (hj : j ∈ r.pages.waiting) : r'.phase? j = some (.queued 0) :=
    (others j fun e => behind (e ▸ hj)).trans (h.waits j hj)
  have generation : r'.resource.generation = (S ++ [(id, Outcome.ofReply reply)]).length := by
    rw [resource, agrees.generation, taken]
    simp
  refine
    { calm := resource ▸ h.calm.of_agrees agrees
      gathered := ?gathered
      place := ?place
      once := h.once
      round := ⟨[], ?round, by rw [h.called_of_taken holder taken]; simp⟩
      waits := fun j hj => waits j ?behind
      done := ?done
      new := h.new_of_others length others (List.Subset.refl A) (h.mem_of_holder holder)
      told := ?told }
  case gathered =>
    rw [resource, List.filterMap_append]
    cases hp : (Outcome.ofReply reply).page? <;> simpa [hp, List.filterMap_cons] using gathered
  case place =>
    rw [h.place, PageLock.line, PageLock.line, holder, pages]
    cases r.pages.waiting <;> simp
  case round =>
    cases hw : r.pages.waiting with
    | nil =>
      rw [hw] at pages
      exact .idle (congrArg PageLock.holder pages) (congrArg PageLock.waiting pages) generation
    | cons next rest =>
      rw [hw] at pages
      exact .due (congrArg PageLock.holder pages) (waits next (by simp [hw])) generation
  case behind =>
    rw [pages] at hj
    exact List.mem_of_mem_tail hj
  case done =>
    intro k j hk
    rw [List.map_append, List.getElem?_append] at hk
    split at hk
    · exact h.done_of_others out others k j hk
    · next hlt =>
      obtain ⟨hk', rfl⟩ : k - (S.map (·.1)).length = 0 ∧ id = j := by
        simpa [List.getElem?_cons] using hk
      have last : k = S.length := by simp at hlt hk'; omega
      rw [Applied, own, taken, last]
  case told =>
    intro j holds _
    rw [pages] at holds
    exact List.mem_append_right _ (Option.mem_toList.2 holds)

/-- Those who have reached the lock between two of its states. -/
theorem newcomers_nil {p q : PageLock} (h : q.line ⊆ p.line) :
    q.line.filter (fun id => !p.line.contains id) = [] := by
  refine List.filter_eq_nil_iff.2 fun id hid => ?_
  simpa using h hid

theorem newcomers_concat {p q : PageLock} {id : Nat} (h : q.line = p.line ++ [id])
    (out : id ∉ p.line) : q.line.filter (fun id => !p.line.contains id) = [id] := by
  rw [h, List.filter_append, newcomers_nil (List.Subset.refl p.line)]
  simp [out]

theorem filterMap_woken?_wakes (p : PageLock) (id : Nat) :
    (wakes p id).filterMap Effect.woken? = (p.heir? id).toList := by
  rw [wakes]
  cases p.heir? id <;> rfl

/-- The one who takes its generation makes its call. -/
theorem Paging.take (h : r.Paging config A C W S) (paginated : r.resource.config.paginated = true)
    {m : Moment} {id : Nat} {r₁ : LiveResource} (turn : r.Turn m id r₁) :
    ({ r₁ with resource := (r.resource.raised (r.paramsFor id)).beginLoading.notify }.setPhase id
      (.calling (r.ticketFor id))).Paging config
        (A ++ r₁.pages.line.filter fun id => !r.pages.line.contains id) (C ++ [id]) W S := by
  obtain ⟨unsettled, round, called⟩ := h.round
  cases turn with
  | free _ _ single => rw [paginated] at single; cases single
  | first phase _ _ vacant =>
    have out : id ∉ A := by cases h.stands phase with | new out => exact out
    cases round with
    | due holder => rw [vacant] at holder; cases holder
    | calling holder => rw [vacant] at holder; cases holder
    | delaying holder => rw [vacant] at holder; cases holder
    | idle _ nobody taken =>
      have line : r.pages.line = [] := by simp [PageLock.line, vacant, nobody]
      have place : A = S.map (·.1) := by rw [h.place, line, List.append_nil]
      -- the lock was free, so that the attempt is the only one in line
      have here : ({ r.pages with holder := some id } : PageLock).line = [id] := by
        simp [PageLock.line, nobody]
      rw [newcomers_concat (by rw [here, line]; rfl) (by simp [line])]
      have attempts : ({ r with pages := { r.pages with holder := some id } } :
          LiveResource).attempts = r.attempts := rfl
      refine h.call phase attempts rfl rfl (List.subset_append_left _ _) ?_ ?_ ?_ taken _
      · rw [place, here]
      · exact List.nodup_append.2 ⟨h.once, by simp, fun j hj k hk e =>
          out (List.mem_singleton.1 hk ▸ e ▸ hj)⟩
      · rw [called, List.append_nil]
  | next phase holder _ =>
    rw [h.calm.epoch] at phase
    rw [newcomers_nil (List.Subset.refl _), List.append_nil]
    cases h.stands phase with
    | waiting behind => exact absurd behind (h.not_mem_of_holder holder).2
    | due _ taken =>
      refine h.call phase rfl holder rfl (List.Subset.refl A) h.place h.once ?_ taken _
      cases round with
      | idle | due => rw [called, List.append_nil]
      | calling _ _ _ taken' | delaying _ _ _ _ taken' => omega

/-- The one who comes to an outcome holds the lock, and its generation is the last one taken. -/
theorem Paging.of_comes (h : r.Paging config A C W S) {id : Nat} {signal : Signal} {t : Ticket}
    {outcome : Outcome} (comes : r.Comes id signal t outcome)
    (pages : ∀ reply, signal = .reply reply → reply.IsPage) :
    ∃ reply : Reply, outcome = .ofReply reply ∧ reply.IsPage ∧ r.pages.holder = some id ∧
      t.generation = r.resource.generation ∧ r.resource.generation = S.length + 1 := by
  cases comes with
  | @replied _ reply phase =>
    cases h.stands phase with
    | calling holder own taken =>
      exact ⟨reply, rfl, pages reply rfl, holder, own.trans taken.symm, taken⟩
  | @rested _ reply phase =>
    cases h.stands phase with
    | delaying holder isPage own taken =>
      exact ⟨reply, rfl, isPage, holder, own.trans taken.symm, taken⟩
  | refused phase => cases h.stands phase

/-- Nobody leaves without an outcome. -/
theorem Paging.not_leaves (h : r.Paging config A C W S) {m : Moment} {id : Nat} {p : Phase}
    {signal : Signal} {ending : Ending} (phase : r.phase? id = some p)
    (isOpen : ∀ p, config.precondition = some p → m.isOpen p.gate = true) :
    ¬ r.Leaves m id p signal ending := by
  intro leaves
  cases leaves with
  | ignored retired => rw [h.calm.alive] at retired; cases retired
  | skipped _ precondition closed =>
    rw [Config.precondition_of_bare h.calm.config] at precondition
    rw [isOpen _ precondition] at closed
    cases closed
  | displaced _ changed =>
    rw [h.calm.alive, h.calm.epoch] at changed
    cases h.stands phase <;> simp at changed
  | superseded => cases h.stands phase

/-- What one move preserves. -/
theorem Paging.move (h : r.Paging config A C W S) (paginated : config.paginated = true)
    (unvalidated : config.validator = none) {m : Moment} {id : Nat} {signal : Signal}
    (isOpen : ∀ p, config.precondition = some p → m.isOpen p.gate = true)
    (pages : ∀ reply, signal = .reply reply → reply.IsPage) {r' : LiveResource}
    {effects : List Effect} (move : r.Move m id signal r' effects) :
    r'.Paging config (A ++ r'.pages.line.filter fun id => !r.pages.line.contains id)
      (C ++ effects.filterMap Effect.caller?) (W ++ effects.filterMap Effect.woken?)
      (S ++ r.conclusions (.advance m id signal)) := by
  have paginated' := (Config.paginated_of_bare h.calm.config).trans paginated
  have unvalidated' := (Config.validator_of_bare h.calm.config).trans unvalidated
  have stays : r.pages.line.filter (fun id => !r.pages.line.contains id) = [] :=
    newcomers_nil (List.Subset.refl _)
  cases move with
  | still idle =>
    rw [conclusions_of_not fun t outcome comes => idle comes.awaits, stays]
    simpa using h
  | leave phase leaves => exact absurd leaves (h.not_leaves phase isOpen)
  | queue phase admits _ busy =>
    have out : id ∉ A := by cases h.stands phase with | new out => exact out
    rw [conclusions_of_not (not_comes_go r id), newcomers_concat (p := r.pages)
      (by rw [PageLock.line, PageLock.line, List.append_assoc]; rfl)
      (fun hid => out (h.place ▸ List.mem_append_right _ hid))]
    simpa using h.queue phase busy
  | refuse _ refuses _ =>
    obtain ⟨check, held, -⟩ := refuses
    rw [unvalidated'] at held
    cases held
  | ask _ held => rw [unvalidated'] at held; cases held
  | @call r₁ turn _ =>
    have line (resource : Resource) (p : Phase) :
        ({ r₁ with resource }.setPhase id p).pages.line = r₁.pages.line := rfl
    rw [conclusions_of_not (not_comes_go r id), line]
    simpa [List.filterMap_cons, Effect.caller?, Effect.woken?] using h.take paginated' turn
  | accept phase _ _ => cases h.stands phase
  | @rest t reply delay phase delayed =>
    have waits (t' : Ticket) (outcome : Outcome) : ¬ r.Comes id (.reply reply) t' outcome := by
      rintro ⟨phase', prompt⟩
      cases phase.symm.trans phase'
      rw [delayed] at prompt
      cases prompt
    rw [conclusions_of_not waits]
    have line : (r.setPhase id (.delaying t reply)).pages.line = r.pages.line := rfl
    rw [line, stays]
    simpa [Effect.caller?, Effect.woken?, List.filterMap_cons] using
      h.rest phase (pages reply rfl)
  | @apply _ t outcome event due settled comes _ settles =>
    -- the one who settles hands the lock to the first in line, whom it wakes
    obtain ⟨reply, rfl, isPage, holder, own, taken⟩ := h.of_comes comes pages
    obtain ⟨q, phase, -⟩ := comes.phase
    have next := h.settle paginated' phase holder taken isPage m.now
    rw [settles] at next
    rw [conclusions_of_comes comes, own, newcomers_nil ?_]
    · simpa [Effect.caller?, Effect.woken?, List.filterMap_cons, filterMap_caller?_wakes,
        filterMap_woken?_wakes, PageLock.heir?, holder] using next
    · intro j hj
      rw [pages_ended, PageLock.leave, if_pos holder, PageLock.line] at hj
      rw [PageLock.line]
      cases hw : r.pages.waiting <;> simp_all
  | discard comes stale =>
    -- the generation is the last one taken, and nothing has raised the fence
    obtain ⟨reply, rfl, -, holder, own, taken⟩ := h.of_comes comes pages
    have current : r.resource.isCurrent _ = true := Resource.isCurrent_iff.2
      ⟨h.calm.alive, own, by rw [h.calm.fence]; omega⟩
    rw [current] at stale
    cases stale

end Paging

/-! ### Whole runs -/

end LiveResource

/-- What may happen to a paginated resource while its pages are gathered: fetches are started and
listeners registered, the precondition holds whenever it is looked at, and every reply is a page or
a failure. -/
def Action.Feeds (config : Config) : Action → Prop
  | .spawn _ | .listen .. => True
  | .advance m _ signal => (∀ p, config.precondition = some p → m.isOpen p.gate = true) ∧
      ∀ reply, signal = .reply reply → reply.IsPage
  | _ => False

namespace LiveResource

section Run

variable {config : Config} {r : LiveResource} {A C W : List Nat} {S : List (Nat × Outcome)}

theorem Paging.spawn (h : r.Paging config A C W S) (override : Option Params) :
    (r.spawn override).1.Paging config A C W S := by
  have kept {j : Nat} {p : Phase} (hj : r.phase? j = some p) :
      (r.spawn override).1.phase? j = some p := by
    have := lt_length_of_phase? hj
    rw [phase?_spawn, if_neg (by omega), hj]
  refine
    { calm := h.calm
      gathered := h.gathered
      place := h.place
      once := h.once
      round := ?round
      waits := fun j hj => kept (h.waits j hj)
      done := fun k j hk => kept (h.done k j hk)
      new := ?new
      told := ?told }
  case round =>
    obtain ⟨unsettled, round, called⟩ := h.round
    exact ⟨unsettled, round.mono rfl rfl kept, called⟩
  case new =>
    intro j hlt hj
    rw [phase?_spawn]
    split
    · rfl
    · next hne =>
      refine h.new j ?_ hj
      simp [LiveResource.spawn] at hlt
      omega
  case told =>
    intro j holder queued
    change r.pages.holder = some j at holder
    obtain ⟨p, hp⟩ : ∃ p, r.phase? j = some p := by
      obtain ⟨unsettled, round, -⟩ := h.round
      cases round with
      | idle vacant => rw [vacant] at holder; cases holder
      | due holder' phase | calling holder' phase | delaying holder' phase =>
        cases holder'.symm.trans holder
        exact ⟨_, phase⟩
    exact h.told j holder (hp.trans ((kept hp).symm.trans queued))

theorem Paging.listen (h : r.Paging config A C W S) (kind : EventKind) (once : Bool)
    (listener : Listener) : (r.act (.listen kind once listener)).1.Paging config A C W S := by
  have next (resource : Resource) (agrees : r.resource.Agrees resource)
      (same : resource.stale = r.resource.stale ∧ resource.data = r.resource.data ∧
        resource.exhausted = r.resource.exhausted) :
      ({ r with resource } : LiveResource).Paging config A C W S := by
    obtain ⟨stale, data, exhausted⟩ := same
    refine ⟨h.calm.of_agrees agrees, ⟨stale.trans h.gathered.fresh, data.trans h.gathered.data,
      exhausted ▸ h.gathered.exhausted⟩, h.place, h.once, ?_, h.waits, h.done, h.new, h.told⟩
    obtain ⟨unsettled, round, called⟩ := h.round
    exact ⟨unsettled, round.mono rfl agrees.generation fun hj => hj, called⟩
  cases once with
  | true => exact next _ (r.resource.once_agrees kind listener) ⟨rfl, rfl, rfl⟩
  | false => exact next _ (r.resource.on_agrees kind listener) ⟨rfl, rfl, rfl⟩

/-- What one action preserves. -/
theorem Paging.act (h : r.Paging config A C W S) (paginated : config.paginated = true)
    (unvalidated : config.validator = none) {a : Action} (feeds : a.Feeds config) :
    (r.act a).1.Paging config (A ++ r.arrivals a) (C ++ r.calls a) (W ++ r.wakings a)
      (S ++ r.conclusions a) := by
  have fence : r.resource.fence ≤ r.resource.generation := by
    rw [h.calm.fence]
    exact Nat.zero_le _
  rcases act_cases r a fence with ha | ⟨m, id, signal, rfl, move⟩
  · have quiet : r.arrivals a = [] ∧ r.calls a = [] ∧ r.wakings a = [] ∧ r.conclusions a = [] := by
      rw [calls, wakings, effects_external ha]
      refine ⟨?_, rfl, rfl, ?_⟩
      · refine newcomers_nil ?_
        cases a with
        | spawn => exact List.Subset.refl _
        | listen kind once => cases once <;> exact List.Subset.refl _
        | advance => exact ha.elim
        | _ => exact feeds.elim
      · cases a <;> first | rfl | exact ha.elim
    rw [quiet.1, quiet.2.1, quiet.2.2.1, quiet.2.2.2]
    simp only [List.append_nil]
    cases a with
    | spawn override => exact h.spawn override
    | listen kind once listener => exact h.listen kind once listener
    | advance => exact ha.elim
    | _ => exact feeds.elim
  · have caller : r.calls (.advance m id signal)
        = (deeds (r.act (.advance m id signal)).2).filterMap Effect.caller? :=
      (filterMap_deeds (fun e he => by cases e <;> first | rfl | cases he) _).symm
    have woken : r.wakings (.advance m id signal)
        = (deeds (r.act (.advance m id signal)).2).filterMap Effect.woken? :=
      (filterMap_deeds (fun e he => by cases e <;> first | rfl | cases he) _).symm
    rw [caller, woken]
    exact h.move paginated unvalidated feeds.1 feeds.2 move

/-- What a whole run preserves. -/
theorem Paging.after (h : r.Paging config A C W S) (paginated : config.paginated = true)
    (unvalidated : config.validator = none) {actions : List Action}
    (feeds : ∀ a ∈ actions, a.Feeds config) :
    (r.after actions).Paging config (A ++ along arrivals r actions) (C ++ along calls r actions)
      (W ++ along wakings r actions) (S ++ along conclusions r actions) := by
  induction actions generalizing r A C W S with
  | nil => simpa [along] using h
  | cons a rest ih =>
    rw [List.forall_mem_cons] at feeds
    simpa [along] using ih (h.act paginated unvalidated feeds.1) feeds.2

end Run

/-! ### The statement -/

/-- Pages are gathered one at a time, in the order of the calls, and none is lost: what is known of
a resource after a run in which attempts have reached the lock, called, been woken and come to
outcomes in these orders. -/
structure PagesInOrder (initial : Option Json) (r : LiveResource) (arrived called woken : List Nat)
    (settled : List (Nat × Outcome)) : Prop where
  /-- At most one attempt has taken its generation and has not come to its end. -/
  single : ∀ i j g g', r.Underway i g → r.Underway j g' → i = j
  /-- Every attempt that has been given its turn reaches the lock, once. -/
  reached : arrived.Nodup ∧
    ∀ id p, r.phase? id = some p → (id ∈ arrived ↔ p ≠ .spawned)
  /-- Attempts call in the order in which they reach the lock. -/
  inOrder : called <+: arrived
  /-- They settle in that order, each one before the next one calls. -/
  inTurn : settled.map (·.1) <+: called ∧ called.length ≤ settled.length + 1
  /-- Their outcomes are applied, and they do not end otherwise. -/
  applied : (∀ k id, (settled.map (·.1))[k]? = some id → r.Applied id (k + 1)) ∧
    ∀ id ending, r.phase? id = some (.finished ending) → id ∈ settled.map (·.1)
  /-- The one who has waited and is given the lock is woken. -/
  woken : ∀ id epoch, r.pages.holder = some id → r.phase? id = some (.queued epoch) → id ∈ woken
  /-- If nobody waits for anything, every attempt has been applied. -/
  complete : (∀ id signal, ¬ r.Awaits id signal) → ∀ id < r.attempts.length, ∃ g, r.Applied id g
  data : r.resource.data = pagedData initial (settled.filterMap (·.2.page?))
  exhausted : r.resource.exhausted = true ↔ (settled.filterMap (·.2.page?)).getLast? = some []

section Statement

variable {config : Config} {r : LiveResource} {A C W : List Nat} {S : List (Nat × Outcome)}

/-- The one who is under way holds the lock. -/
theorem Paging.holder_of_underway (h : r.Paging config A C W S) {id g : Nat}
    (underway : r.Underway id g) : r.pages.holder = some id := by
  obtain ⟨p, t, phase, ticket, -⟩ := underway
  cases h.stands phase with
  | calling holder => exact holder
  | delaying holder => exact holder
  | _ => cases ticket

/-- Those who stand in front of the lock are waited for. -/
theorem Paging.all_applied (h : r.Paging config A C W S)
    (still : ∀ id signal, ¬ r.Awaits id signal) {id : Nat} (hlt : id < r.attempts.length) :
    ∃ g, r.Applied id g := by
  have ha : id ∈ A := by
    by_cases ha : id ∈ A
    · exact ha
    · exact absurd (by simp [Awaits, h.new id hlt ha]) (still id .go)
  rw [h.place, PageLock.line, List.mem_append] at ha
  rcases ha with settled | line
  · obtain ⟨k, hk⟩ := List.mem_iff_getElem?.1 settled
    exact ⟨k + 1, h.done k id hk⟩
  · obtain ⟨unsettled, round, -⟩ := h.round
    cases round with
    | idle vacant nobody => simp [vacant, nobody] at line
    | @due j holder phase => exact absurd (by simp [Awaits, phase, holder]) (still j .go)
    | @calling j t holder phase =>
      exact absurd (by simp [Awaits, phase]) (still j (.reply (.ok .null)))
    | @delaying j t reply holder phase => exact absurd (by simp [Awaits, phase]) (still j .elapsed)

theorem Paging.pagesInOrder (h : r.Paging config A C W S) :
    r.PagesInOrder config.defaultData A C W S where
  single i j g g' hi hj :=
    Option.some.inj ((h.holder_of_underway hi).symm.trans (h.holder_of_underway hj))
  reached := by
    refine ⟨h.once, fun id p phase => ?_⟩
    cases h.stands phase with
    | new out => simp [out]
    | waiting behind => simp [h.mem_of_waiting behind]
    | due holder => simp [h.mem_of_holder holder]
    | calling holder => simp [h.mem_of_holder holder]
    | delaying holder => simp [h.mem_of_holder holder]
    | done settled => simp [h.mem_of_settled settled]
  inOrder := by
    obtain ⟨unsettled, round, called⟩ := h.round
    rw [called, h.place, List.prefix_append_right_inj, PageLock.line]
    cases round with
    | idle => exact List.nil_prefix
    | due => exact List.nil_prefix
    | calling holder => rw [holder]; exact List.prefix_append _ _
    | delaying holder => rw [holder]; exact List.prefix_append _ _
  inTurn := by
    obtain ⟨unsettled, round, called⟩ := h.round
    refine ⟨called ▸ List.prefix_append _ _, ?_⟩
    cases round <;> simp [called]
  applied := by
    refine ⟨h.done, fun id ending phase => ?_⟩
    cases h.stands phase with
    | done settled => exact settled
  woken id epoch holder phase := by
    cases h.stands phase with
    | waiting behind => exact absurd behind (h.not_mem_of_holder holder).2
    | due => exact h.told id holder phase
  complete still id hlt := h.all_applied still hlt
  data := h.gathered.data
  exhausted := h.gathered.exhausted

/-- **Pages in the order of the calls.** Along every run of a new paginated resource without a
validator, in which nothing is withdrawn and the config stays, attempts go one at a time in the
order in which they reach the lock, all of them are applied, and the data is the initial data
followed by the pages in that order. -/
theorem pages_in_order (name : String) (config : Config) (paginated : config.paginated = true)
    (unvalidated : config.validator = none) (actions : List Action)
    (feeds : ∀ a ∈ actions, a.Feeds config) :
    ((fresh name config).after actions).PagesInOrder config.defaultData
      (along arrivals (fresh name config) actions) (along calls (fresh name config) actions)
      (along wakings (fresh name config) actions)
      (along conclusions (fresh name config) actions) := by
  have start := paging_fresh name config
  simpa using (start.after paginated unvalidated feeds).pagesInOrder

/-- Two pages, the second of them empty, though the second fetch was given its turn first. -/
theorem pages_in_order_two :
    let config : Config := { method := "list", paginated := true }
    let m : Moment := { now := 0, isOpen := fun _ => true }
    let run : List Action :=
      [.spawn none, .spawn none, .advance m 1 .go, .advance m 0 .go,
        .advance m 1 (.reply (.ok (.arr [.int 1]))), .advance m 0 .go,
        .advance m 0 (.reply (.ok (.arr [])))]
    (∀ a ∈ run, a.Feeds config) ∧
      ((fresh "tickets" config).after run).PagesInOrder none [1, 0] [1, 0] [0]
        [(1, .payload (.arr [.int 1])), (0, .payload (.arr []))] := by
  intro config m run
  have feeds : ∀ a ∈ run, a.Feeds config := by simp [run, Action.Feeds, config, Reply.IsPage]
  have pages := pages_in_order "tickets" config rfl rfl run feeds
  have arrived : along arrivals (fresh "tickets" config) run = [1, 0] := by decide +kernel
  have called : along calls (fresh "tickets" config) run = [1, 0] := by decide +kernel
  have woken : along wakings (fresh "tickets" config) run = [0] := by decide +kernel
  have settled : along conclusions (fresh "tickets" config) run
      = [(1, .payload (.arr [.int 1])), (0, .payload (.arr []))] := by
    simp [run, config, along, conclusions, act, fresh, ofResource, spawn, phase?, setPhase,
      advance, start, enter, take, place, receive, settle, finish, release, Outcome.ofReply,
      Resource.fresh, Resource.takeGeneration, Resource.beginLoading, Resource.notify,
      Resource.isCurrent, Resource.settle, Resource.withOutcome, Resource.applyPayload,
      Resource.takeListeners]
  rw [arrived, called, woken, settled] at pages
  exact ⟨feeds, pages⟩

end Statement

end LiveResource

end ReactiveResource
