import ReactiveResource.Proofs.Registry.Incidents
import ReactiveResource.Proofs.Registry.Staleness
import ReactiveResource.Proofs.Resource.Retirement

/-!
# The end of a registry

A registry that is detached retires all its resources, and holds nothing afterwards. Fetches may be
anywhere on their way at that time, and handles on the resources may be kept: nothing comes of them
any more, whatever is done to them.

* `World.Spent`, `World.Spends`: nothing comes of a resource any more;
* `Attainable.spends`: this is so as soon as it is retired, by a registry or by hand;
* `Attainable.retired_detach`: a registry that is detached has retired all the resources it has had;
* `detach_final`: the statement, for every run before the end and every one after it.
-/

namespace ReactiveResource

open Keyed (value?)

namespace Session

variable {s : Session} {handle : Nat} {live : LiveResource}

/-- Resources that are retired one after another all are in the end. -/
theorem retired_retires (orderly : s.Orderly) (there : s.resources[handle]? = some live)
    {entries : Keyed Nat}
    (due : live.resource.retired = true ∨ ∃ name, (name, handle) ∈ entries) :
    ∃ live', (entries.foldl (fun s x => s.retire x.2) s).resources[handle]? = some live' ∧
      live'.resource.retired = true := by
  induction entries generalizing s live with
  | nil => exact ⟨live, there, due.resolve_right (by simp)⟩
  | cons x rest ih =>
    obtain ⟨other, h⟩ := x
    have beside := beside_retire s h
    have orderly' := beside.evolves.orderly orderly
    by_cases own : h = handle
    · subst own
      have retired : (s.retire h).resources[h]? = some live.retire := by
        rw [retire, there]
        exact resources_store_self s h _ there
      exact ih orderly' retired (.inl rfl)
    · obtain ⟨actions, -, there'⟩ := beside.evolves.old there
      refine ih orderly' there' (due.imp ?_ ?_)
      · exact (orderly handle live there).retired_after actions
      · rintro ⟨name, mem⟩
        refine ⟨name, (List.mem_cons.1 mem).resolve_left fun same => ?_⟩
        cases same
        exact own rfl

end Session

namespace World

variable {α : Type} {w : World α} {definitions : List (String × Definition α)} {handle : Nat}
  {live : LiveResource}

/-- From one world to a later one, nothing has come of a resource. -/
structure Spent (w : World α) (handle : Nat) (live : LiveResource) (later : World α) : Prop where
  retired : ∃ live', later.session.resources[handle]? = some live' ∧
    live'.resource.retired = true ∧ live'.resource.generation = live.resource.generation ∧
    live'.resource.state ≠ .loading ∧ ∀ id g, live'.Applied id g → live.Applied id g
  calls : later.session.callsOf handle = w.session.callsOf handle
  /-- No step that may come next applies an outcome or runs a listener for one. -/
  quiet : ∀ step g event due, ¬ later.session.Delivers step handle g event due

/-- The resource is retired, and nothing will ever come of it. -/
def Spends (w : World α) (handle : Nat) : Prop :=
  ∃ live, w.session.resources[handle]? = some live ∧ live.resource.retired = true ∧
    ∀ incidents, w.Spent handle live (w.through incidents)

/-! ### Retired for good -/

theorem Attainable.over_of_retired (h : w.Attainable definitions)
    (there : w.session.resources[handle]? = some live) (retired : live.resource.retired = true) :
    live.Over := by
  obtain ⟨name, config, actions, rfl⟩ := h.born handle live there
  exact LiveResource.over_of_retired name config actions retired

/-- No call is made for a resource that is over. -/
theorem callsOf_undergo (spent : live.Over) (there : w.session.resources[handle]? = some live)
    (i : Incident α) : (w.undergo i).session.callsOf handle = w.session.callsOf handle := by
  rcases w.step_or_beside i with ⟨step, rfl⟩ | beside
  · cases Session.affects w.session step there with
    | outside _ _ calls => exact calls
    | moves _ _ _ _ calls =>
      rw [(spent.silent _ _ _).1] at calls
      exact calls.trans (List.append_nil _)
  · rw [Session.callsOf, Session.callsOf, beside.callers]

theorem callsOf_through (spent : live.Over) (there : w.session.resources[handle]? = some live)
    (incidents : List (Incident α)) :
    (w.through incidents).session.callsOf handle = w.session.callsOf handle := by
  induction incidents generalizing w live with
  | nil => rfl
  | cons i rest ih =>
    obtain ⟨actions, -, there'⟩ := (w.evolves_undergo i).old there
    exact (ih (spent.after actions).1 there').trans (callsOf_undergo spent there i)

/-- **Retired for good.** -/
theorem Attainable.spends (h : w.Attainable definitions)
    (there : w.session.resources[handle]? = some live) (retired : live.resource.retired = true) :
    w.Spends handle := by
  have spent := h.over_of_retired there retired
  refine ⟨live, there, retired, fun incidents => ?_⟩
  obtain ⟨actions, -, there'⟩ := (w.evolves_through incidents).old there
  obtain ⟨spent', generation⟩ := spent.after actions
  have coherent := (h.through incidents).born.coherent there'
  refine ⟨⟨_, there', spent'.retired, generation, spent'.not_loading coherent,
    fun id g => spent.of_applied actions⟩, callsOf_through spent there incidents, ?_⟩
  rintro step g event due ⟨place, id, signal, x, -, -, hx, mem⟩
  cases hx.symm.trans there'
  exact (spent'.silent _ _ _).2 g event due mem

/-! ### The registry is detached -/

theorem Attainable.retired_of_detach (h : w.Attainable definitions) {name : String}
    (given : value? w.registry.resources name = some handle) :
    ∃ live, (w.undergo (.deed .detach)).session.resources[handle]? = some live ∧
      live.resource.retired = true := by
  have housed := h.housed_of_given given
  obtain ⟨live, there⟩ := housed.present given
  show ∃ live, (w.registry.detach w.session).1.resources[handle]? = some live ∧ _
  rw [Registry.detach, if_neg (by simp [housed.attached])]
  exact Session.retired_retires housed.orderly there (.inr ⟨name, Keyed.mem_of_value? given⟩)

/-- A resource that a name once had is still that of the name, or it has been retired. -/
theorem Attainable.given_or_retired (h : w.Attainable definitions) {name : String}
    (given : value? w.registry.resources name = some handle) (incidents : List (Incident α)) :
    value? (w.through incidents).registry.resources name = some handle ∨
      ∃ live, (w.through incidents).session.resources[handle]? = some live ∧
        live.resource.retired = true := by
  induction incidents generalizing w with
  | nil => exact .inl given
  | cons i rest ih =>
    by_cases last : i = .deed .detach
    · subst last
      obtain ⟨live, there, retired⟩ := h.retired_of_detach given
      have ended := h.undergo (.deed .detach)
      obtain ⟨actions, -, there'⟩ := ((w.undergo (.deed .detach)).evolves_through rest).old there
      exact .inr ⟨_, there', ((ended.over_of_retired there retired).after actions).1.retired⟩
    · exact ih (h.undergo i) (handle_undergo given last)

/-- **All resources are retired** that a registry has ever had. -/
theorem Attainable.retired_detach (h : w.Attainable definitions) {name : String}
    (given : value? w.registry.resources name = some handle) (incidents : List (Incident α)) :
    ∃ live, ((w.through incidents).undergo (.deed .detach)).session.resources[handle]? = some live ∧
      live.resource.retired = true := by
  have before := h.through incidents
  rcases h.given_or_retired given incidents with given | ⟨live, there, retired⟩
  · exact before.retired_of_detach given
  · obtain ⟨actions, -, there'⟩ := ((w.through incidents).evolves_undergo (.deed .detach)).old there
    exact ⟨_, there', ((before.over_of_retired there retired).after actions).1.retired⟩

/-- The registry has come to its end: it holds nothing, a change of the owner's state changes
nothing else, and nothing that is done to the registry reaches the session. -/
structure Inert (w : World α) : Prop where
  detached : w.registry.attached = false
  resources : w.registry.resources = []
  mutates : ∀ change, w.registry.mutateOwner w.session change
    = (w.session, { w.registry with owner := change w.registry.owner }, none)
  fires : ∀ name new old, w.fire name new old = w
  detaches : w.act .detach = w

theorem inert_of_empty (empty : w.registry.Empty) : w.Inert where
  detached := empty.detached
  resources := empty.resources
  mutates := Registry.mutateOwner_of_detached empty.detached
  fires name new old := by rw [fire, Registry.apply_of_detached empty.detached]
  detaches := by rw [act, Registry.detach_of_detached empty.detached]

theorem Attainable.empty_detach (h : w.Attainable definitions) :
    (w.undergo (.deed .detach)).registry.Empty := by
  rcases h.housed with housed | empty
  · exact Registry.empty_detach housed.attached
  · exact empty_undergo empty _

/-- **The end is final.** However a registry has been used before it is detached, all resources that
it has ever had are retired then, and nothing comes of them afterwards: no call, no generation, no
outcome and no event. The registry stays empty. The same holds of a resource that is retired by
hand. -/
theorem detach_final (h : w.Attainable definitions) (before : List (Incident α)) :
    (∀ name handle, value? w.registry.resources name = some handle →
      ((w.through before).undergo (.deed .detach)).Spends handle) ∧
    (∀ later, (((w.through before).undergo (.deed .detach)).through later).Inert) ∧
    ∀ handle live, (w.through before).session.resources[handle]? = some live →
      live.resource.retired = true → (w.through before).Spends handle := by
  have attainable := h.through before
  refine ⟨fun name handle given => ?_, fun later => ?_, fun handle live => attainable.spends⟩
  · obtain ⟨live, there, retired⟩ := h.retired_detach given before
    exact (attainable.undergo _).spends there retired
  · exact inert_of_empty (empty_through attainable.empty_detach later)

/-- Tickets that are being fetched when their registry is detached are spent, and the registry is
inert also when the reply has come. -/
theorem tickets_spent :
    ticketsUnderWay.Attainable tickets ∧
      value? ticketsUnderWay.registry.resources "tickets" = some 0 ∧
      (ticketsUnderWay.undergo (.deed .detach)).Spends 0 ∧
      ((ticketsUnderWay.undergo (.deed .detach)).through
        [.deed (.step (.resolve 0 (.ok .null))), .deed (.step (.turn 0))]).Inert := by
  have attainable : ticketsUnderWay.Attainable tickets :=
    (reachable_ticketsOf.after _).attainable
  have final := detach_final attainable []
  exact ⟨attainable, rfl, final.1 "tickets" 0 rfl, final.2.1 _⟩

end World

end ReactiveResource
