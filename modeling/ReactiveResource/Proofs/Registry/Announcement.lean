import ReactiveResource.Proofs.Registry.Incidents
import ReactiveResource.Proofs.Session.Vigilance

/-!
# What is announced

Whatever happens to a registry or in its session, the revision of a resource tells of every change
of it but one: an attempt that takes its generation and has to wait for a verdict on its parameters
tells nobody. Those who wait for a state sleep through no change of it all the same.

* `World.Asks`: an attempt asks for a verdict in an incident;
* `Attainable.vigilant_undergo`: nobody begins to sleep in vain;
* `announced_iff`: the statement, for all that may happen to a registry;
* `generation_taken_silently`: the change that is not announced, in a run.
-/

namespace ReactiveResource

namespace World

variable {α : Type} {w : World α} {definitions : List (String × Definition α)} {handle : Nat}
  {live live' : LiveResource}

/-- Nobody begins to sleep in vain. -/
theorem Attainable.vigilant_undergo (h : w.Attainable definitions)
    (vigilant : w.session.Vigilant) (i : Incident α) : (w.undergo i).session.Vigilant := by
  have orderly := h.attended.orderly
  rcases w.step_or_spans Session.spans_wakeful i with ⟨step, rfl⟩ | wakeful
  · exact vigilant.step orderly step
  · exact vigilant.wakeful orderly wakeful

theorem Attainable.vigilant_through (h : w.Attainable definitions)
    (vigilant : w.session.Vigilant) (incidents : List (Incident α)) :
    (w.through incidents).session.Vigilant := by
  induction incidents generalizing w with
  | nil => exact vigilant
  | cons i rest ih => exact ih (h.undergo i) (h.vigilant_undergo vigilant i)

/-! ### What an incident announces -/

/-- In the incident an attempt of the resource takes its generation and asks for a verdict. -/
def Asks (w : World α) (i : Incident α) (handle : Nat) : Prop :=
  ∃ step, i = .deed (.step step) ∧ w.session.Asks step handle

/-- The revision tells of all that an incident changes exactly if no attempt asks for a verdict. -/
theorem Attainable.announces_undergo_iff (h : w.Attainable definitions) {i : Incident α}
    (there : w.session.resources[handle]? = some live)
    (there' : (w.undergo i).session.resources[handle]? = some live') :
    live.resource.Announces live'.resource ↔ ¬ w.Asks i handle := by
  by_cases stepped : ∃ step, i = .deed (.step step)
  · obtain ⟨step, rfl⟩ := stepped
    rw [Session.announces_step_iff h.attended.orderly there there']
    refine not_congr ⟨fun asks => ⟨step, rfl, asks⟩, ?_⟩
    rintro ⟨step', same, asks⟩
    cases same
    exact asks
  · have beside := (w.step_or_beside i).resolve_left stepped
    obtain ⟨actions, external, left⟩ := beside.evolves.old there
    cases there'.symm.trans left
    refine iff_of_true (LiveResource.announces_after_external external) ?_
    rintro ⟨step, same, -⟩
    exact stepped ⟨step, same⟩

/-- When an attempt asks for a verdict, only the generation and the parameters change. -/
theorem Attainable.raised_of_asks (h : w.Attainable definitions) {i : Incident α}
    (there : w.session.resources[handle]? = some live)
    (there' : (w.undergo i).session.resources[handle]? = some live') (asks : w.Asks i handle) :
    ∃ params, live'.resource = live.resource.raised params := by
  obtain ⟨step, rfl, asks⟩ := asks
  obtain ⟨params, x, hx, raised⟩ := Session.raised_of_asks h.attended.orderly there asks
  cases there'.symm.trans hx
  exact ⟨params, raised⟩

/-- **What is announced.** Let a registry be attached where nothing has happened and nobody waits,
and let anything happen to it. In whatever happens next, the revision of a resource is raised if
anything that can be observed of it changes, unless an attempt of it takes its generation and asks
for a verdict: then the generation and the parameters change, and nothing is told. Nobody sleeps
while his resource is in the state that he waits for. -/
theorem announced_iff {s s' : Session} {id : String} {owner : α} {r : Registry α}
    (vacant : s.Vacant) (unwatched : s.waiters = [])
    (attached : Registry.attach s id owner definitions = .ok (s', r))
    (before : List (Incident α)) (run : World.through ⟨s', r⟩ before = w) :
    (∀ i handle live live', w.session.resources[handle]? = some live →
      (w.undergo i).session.resources[handle]? = some live' →
      (live.resource.Announces live'.resource ↔ ¬ w.Asks i handle) ∧
      (w.Asks i handle → ∃ params, live'.resource = live.resource.raised params)) ∧
    w.session.Vigilant := by
  have start : World.Attainable definitions ⟨s', r⟩ := .attach vacant attached
  have vigilant : s.Vigilant := fun n wt hn _ => by
    rw [unwatched] at hn
    cases hn
  have started : s'.Vigilant :=
    vigilant.wakeful vacant.attended.orderly (Session.spans_wakeful.attach attached)
  subst run
  have h := start.through before
  exact ⟨fun i handle live live' there there' =>
      ⟨h.announces_undergo_iff there there', h.raised_of_asks there there'⟩,
    start.vigilant_through started before⟩

/-! ### Parameters that wait for a verdict -/

/-- Tickets whose parameters are given to a validator that takes its time. -/
def checkedTickets : List (String × Definition Unit) :=
  [("tickets", .fixed { method := "list", validator := some .held })]

/-- These tickets after some deeds. -/
def checkedWorld (deeds : List (Deed Unit)) : World Unit :=
  match Registry.attach {} "desk" () checkedTickets with
  | .ok (session, registry) => World.after { session, registry } deeds
  | .error _ => { session := {}, registry := { id := "desk", owner := () } }

theorem attach_checkedTickets : Registry.attach {} "desk" () checkedTickets
    = .ok ((checkedWorld []).session, (checkedWorld []).registry) := rfl

/-- A fetch that takes its generation and then waits for a verdict changes what can be observed
without raising the revision. Nobody can run afterwards, so that nothing follows by which others
would be told. -/
theorem generation_taken_silently :
    (checkedWorld [.step (.fetch 0)]).Attainable checkedTickets ∧
      ∃ live live', (checkedWorld [.step (.fetch 0)]).session.resources[0]? = some live ∧
        (checkedWorld [.step (.fetch 0), .step (.turn 0)]).session.resources[0]? = some live' ∧
        live.resource.generation = 0 ∧ live'.resource.generation = 1 ∧
        live.resource.currentParams = none ∧ live'.resource.currentParams = some [] ∧
        live'.resource.revision = live.resource.revision ∧
        ¬ live.resource.Announces live'.resource ∧
        (checkedWorld [.step (.fetch 0), .step (.turn 0)]).session.ready = [] := by
  have start : (checkedWorld []).Attainable checkedTickets :=
    .attach ⟨rfl, rfl, rfl, rfl⟩ attach_checkedTickets
  refine ⟨start.undergo (.deed (.step (.fetch 0))), _, _, rfl, rfl, rfl, rfl, rfl, rfl, rfl, ?_,
    rfl⟩
  exact Resource.not_announces_raised _ []

/-- The tickets when their parameters have been accepted, and the fetch is about to go on. -/
def acceptedTickets : World Unit :=
  checkedWorld [.step (.fetch 0), .step (.turn 0), .step (.release 0 none)]

/-- When the parameters have been accepted, the fetch goes on, and this is told. -/
theorem loading_announced :
    ∃ live live', acceptedTickets.session.resources[0]? = some live ∧
      (acceptedTickets.undergo (.deed (.step (.turn 0)))).session.resources[0]? = some live' ∧
      live.resource.state = .idle ∧ live'.resource.state = .loading ∧
      live.resource.Announces live'.resource ∧ acceptedTickets.session.Vigilant := by
  have final := announced_iff ⟨rfl, rfl, rfl, rfl⟩ rfl attach_checkedTickets
    [.deed (.step (.fetch 0)), .deed (.step (.turn 0)), .deed (.step (.release 0 none))]
    (w := acceptedTickets) rfl
  obtain ⟨announces, asking⟩ := final.1 (.deed (.step (.turn 0))) 0 _ _ rfl rfl
  refine ⟨_, _, rfl, rfl, rfl, rfl, announces.2 fun asks => ?_, final.2⟩
  obtain ⟨params, raised⟩ := asking asks
  have loading : Lifecycle.loading = .idle := congrArg Resource.state raised
  cases loading

end World

end ReactiveResource
