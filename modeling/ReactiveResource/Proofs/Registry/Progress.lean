import ReactiveResource.Proofs.Registry.Convergence
import ReactiveResource.Proofs.Registry.Incidents

/-!
# No fetch is stuck

When nobody can run, every fetch that has not come to its end waits for something from outside, or
stands at a page lock behind one that does. When nothing is to come from outside either, all fetches
have come to their end, and have left neither the lock nor a resource that is loading behind.

* `Session.Pending`, `Session.Dormant`: what attempts wait for, and that there is nothing to wait
  for;
* `Session.Holds`, `LiveResource.AtRest`: how the attempts stand in both cases;
* `no_fetch_stuck`: the statement, for all worlds to which a registry may come.
-/

namespace ReactiveResource

/-- The attempt in this phase waits for a reply, for a verdict or for the end of a delay, which is
still to come. -/
inductive Session.Pending (s : Session) (handle id : Nat) : Phase → Prop
  | reply {t : Ticket} {n : Nat} {c : Gateway.Call} (made : s.Made handle id n c)
      (waiting : c.status = .waiting) : Pending s handle id (.calling t)
  | verdict {t : Ticket} {slot : Nat} (asked : s.slots[slot]? = some (some (handle, id))) :
      Pending s handle id (.validating t)
  | sleep {t : Ticket} {reply : Reply} {sleeper : Sleeper} (mem : sleeper ∈ s.sleepers)
      (own : sleeper.handle = handle ∧ sleeper.id = id) : Pending s handle id (.delaying t reply)

/-- Nobody can run, and no reply, no verdict and no end of a delay is to come. -/
structure Session.Dormant (s : Session) : Prop extends s.Quiet where
  released : ∀ x, some x ∉ s.slots

/-- What the attempts of a resource wait for when nobody can run. -/
structure Session.Holds (s : Session) (handle : Nat) (live : LiveResource) : Prop where
  each : ∀ {id p}, live.phase? id = some p → (∃ ending, p = .finished ending) ∨
    s.Pending handle id p ∨ ∃ e, p = .queued e ∧ id ∈ live.pages.waiting
  /-- The one who holds the page lock waits for something from outside. -/
  held : ∀ {id}, live.pages.holder = some id →
    ∃ p, live.phase? id = some p ∧ s.Pending handle id p
  vacant : live.pages.holder = none → live.pages.waiting = []

/-- All attempts have come to their end, and have left nothing behind. -/
structure LiveResource.AtRest (live : LiveResource) : Prop where
  finished : ∀ {id p}, live.phase? id = some p → ∃ ending, p = .finished ending
  pages : live.pages = {}
  idle : live.resource.state ≠ .loading
  params : live.resource.currentParams = none

namespace World

variable {α : Type} {w : World α} {definitions : List (String × Definition α)} {handle : Nat}
  {live : LiveResource}

/-- When nothing is to come from outside, nobody waits for it. -/
theorem not_pending {s : Session} (dormant : s.Dormant) {id : Nat} {p : Phase} :
    ¬ s.Pending handle id p := by
  intro pending
  cases pending with
  | reply made waiting => exact dormant.answered _ (List.mem_of_getElem? made.2) waiting
  | verdict asked => exact dormant.released _ (List.mem_of_getElem? asked)
  | sleep mem =>
    rw [dormant.sleepers] at mem
    cases mem

/-- Whoever waits for something from outside is going to be given it. -/
theorem pending_of_summons {s : Session} (idle : s.ready = []) {id : Nat} {p : Phase}
    (summons : s.Summons handle id [] p) :
    (∃ ending, p = .finished ending) ∨ s.Pending handle id p ∨ ∃ e, p = .queued e := by
  have nobody (job : Job) : job ∉ s.ready := by
    rw [idle]
    exact List.not_mem_nil
  cases p with
  | spawned => exact absurd summons (nobody _)
  | queued e => exact .inr (.inr ⟨e, rfl⟩)
  | validating t =>
    rcases summons with ⟨slot, asked⟩ | ⟨message, job⟩ | owed
    · exact .inr (.inl (.verdict asked))
    · exact absurd job (nobody _)
    · cases owed
  | calling t =>
    rcases summons with ⟨n, c, made, -, waiting | ⟨reply, job⟩⟩ | owed
    · exact .inr (.inl (.reply made waiting))
    · exact absurd job (nobody _)
    · cases owed
  | delaying t reply =>
    rcases summons.2 with ⟨sleeper, mem, own⟩ | job | ⟨delay, owed⟩
    · exact .inr (.inl (.sleep mem own))
    · exact absurd job (nobody _)
    · cases owed
  | finished ending => exact .inl ⟨ending, rfl⟩

theorem Attainable.holds (h : w.Attainable definitions) (idle : w.session.ready = [])
    (there : w.session.resources[handle]? = some live) : w.session.Holds handle live := by
  have guarded := h.born.guarded there
  -- the one whose turn it is could run
  have noTurn (id : Nat) : ¬ live.OnTurn id := by
    intro turn
    have job := h.roused handle live id there turn
    rw [idle] at job
    cases job
  have each {id : Nat} {p : Phase} (phase : live.phase? id = some p) :
      (∃ ending, p = .finished ending) ∨ w.session.Pending handle id p ∨
        ∃ e, p = .queued e ∧ id ∈ live.pages.waiting := by
    refine (pending_of_summons idle (h.attended.summons there phase)).imp_right
      (Or.imp_right ?_)
    rintro ⟨e, rfl⟩
    refine ⟨e, rfl, ?_⟩
    have mem := (guarded.queued phase).1
    rw [PageLock.line, List.mem_append, Option.mem_toList] at mem
    exact mem.resolve_left fun holder => noTurn id ⟨holder, e, phase⟩
  refine ⟨each, fun {id} holder => ?_, guarded.vacant⟩
  obtain ⟨p, phase, inLine⟩ := guarded.holds holder
  refine ⟨p, phase, ?_⟩
  rcases each phase with ⟨ending, rfl⟩ | pending | ⟨e, rfl, -⟩
  · exact inLine.elim
  · exact pending
  · exact absurd ⟨holder, e, phase⟩ (noTurn id)

theorem Attainable.atRest (h : w.Attainable definitions) (dormant : w.session.Dormant)
    (there : w.session.resources[handle]? = some live) : live.AtRest := by
  have holds := h.holds dormant.ready there
  have coherent := h.born.coherent there
  have vacant : live.pages.holder = none := by
    cases holder : live.pages.holder with
    | none => rfl
    | some id =>
      obtain ⟨p, -, pending⟩ := holds.held holder
      exact absurd pending (not_pending dormant)
  have finished {id : Nat} {p : Phase} (phase : live.phase? id = some p) :
      ∃ ending, p = .finished ending := by
    rcases holds.each phase with done | pending | ⟨e, -, mem⟩
    · exact done
    · exact absurd pending (not_pending dormant)
    · rw [holds.vacant vacant] at mem
      cases mem
  -- nobody is under way for whom the resource might wait
  have nobody {id : Nat} {p : Phase} {t : Ticket} (phase : live.phase? id = some p)
      (ticket : p.ticket? = some t) : False := by
    obtain ⟨ending, rfl⟩ := finished phase
    cases ticket
  refine ⟨finished, (h.born.guarded there).empty_of_vacant vacant, fun loading => ?_, ?_⟩
  · obtain ⟨id, ⟨p, t, phase, ticket, -⟩, -⟩ := coherent.awaited loading
    exact nobody phase ticket
  · cases params : live.resource.currentParams with
    | none => rfl
    | some ps =>
      obtain ⟨id, t, leads, -⟩ := (coherent.params ps).1 params
      obtain ⟨p, phase, ticket⟩ := leads.carries
      exact (nobody phase ticket).elim

/-- **No fetch is stuck.** Whenever nobody can run, each attempt that has not come to its end waits
for a reply, for a verdict, for the end of a delay or for the page lock, and the one who holds the
lock waits for one of the first three. If none of these is to come, all attempts have come to their
end, nobody holds the page lock or waits for it, and no resource is loading or shows parameters. -/
theorem no_fetch_stuck (h : w.Attainable definitions)
    (there : w.session.resources[handle]? = some live) :
    (w.session.ready = [] → w.session.Holds handle live) ∧
      (w.session.Dormant → live.AtRest) :=
  ⟨fun idle => h.holds idle there, fun dormant => h.atRest dormant there⟩

/-! ### Two pages -/

/-- The pages of a list. -/
def pageDefinitions : List (String × Definition Unit) :=
  [("pages", .fixed { method := "list", paginated := true })]

/-- The pages after some deeds. -/
def pagesWorld (deeds : List (Deed Unit)) : World Unit :=
  match Registry.attach {} "desk" () pageDefinitions with
  | .ok (session, registry) => World.after { session, registry } deeds
  | .error _ => { session := {}, registry := { id := "desk", owner := () } }

/-- Two pages are fetched: the first is called for, and the second waits for its turn. -/
def twoPages : List (Deed Unit) :=
  [.step (.fetch 0), .step (.fetch 0), .step (.turn 0), .step (.turn 0)]

/-- Both pages come. -/
def bothPages : List (Deed Unit) :=
  twoPages ++ [.step (.resolve 0 (.ok (.arr [.str "a"]))), .step (.turn 0), .step (.turn 0),
    .step (.resolve 1 (.ok (.arr [.str "b"]))), .step (.turn 0)]

/-- The second page waits behind the first as long as no reply has come, and both have come to their
end afterwards. -/
theorem second_page_behind :
    ∃ first last, (pagesWorld twoPages).session.resources[0]? = some first ∧
      first.pages = { holder := some 0, waiting := [1] } ∧
      (pagesWorld twoPages).session.Holds 0 first ∧
      (pagesWorld bothPages).session.resources[0]? = some last ∧
      last.attempts.length = 2 ∧ last.AtRest := by
  have attached : Registry.attach {} "desk" () pageDefinitions
      = .ok ((pagesWorld []).session, (pagesWorld []).registry) := rfl
  have start : (pagesWorld []).Attainable pageDefinitions := .attach ⟨rfl, rfl, rfl, rfl⟩ attached
  have attainable (deeds : List (Deed Unit)) : (pagesWorld deeds).Attainable pageDefinitions := by
    have moved := start.through (deeds.map .deed)
    rwa [through_deeds] at moved
  have dormant : (pagesWorld bothPages).session.Dormant := by
    have calls : (pagesWorld bothPages).session.script.calls.map (·.status)
        = [.resolved (.ok (.arr [.str "a"])), .resolved (.ok (.arr [.str "b"]))] := rfl
    refine ⟨⟨rfl, rfl, fun c mem => ?_⟩, fun x mem => ?_⟩
    · have status := List.mem_map_of_mem (f := Gateway.Call.status) mem
      rw [calls] at status
      intro waiting
      rw [waiting] at status
      simp at status
    · have none : (pagesWorld bothPages).session.slots = [] := rfl
      rw [none] at mem
      cases mem
  have waits : _ ∧ ((pagesWorld twoPages).session.Dormant → _) :=
    no_fetch_stuck (attainable twoPages) (show _[0]? = some _ from rfl)
  have ended : _ ∧ ((pagesWorld bothPages).session.Dormant → _) :=
    no_fetch_stuck (attainable bothPages) (show _[0]? = some _ from rfl)
  exact ⟨_, _, rfl, rfl, waits.1 rfl, rfl, rfl, ended.2 dormant⟩

end World

end ReactiveResource
