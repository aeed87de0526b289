import ReactiveResource.Proofs.Registry.Run
import ReactiveResource.Proofs.Session.Completion

/-!
# Late outcomes after a watcher has fired

When a derived config takes the place of another, the current fetch of the resource is cancelled
first, so that an outcome for the former config cannot come late. This depends on what the watcher
remembers: one whose resource has been withdrawn remembers nothing, and cancels nothing when it
fires again.

* `World.Replaces`: a watcher fires with another config for a resource that is there;
* `World.DropsLate`: no outcome of an earlier generation is applied after that;
* `dropsLate_iff`: when this is so;
* `late_outcome_applied`: a run in which it is not.
-/

namespace ReactiveResource

/-- Who fires has derived another config than the one it remembers. -/
theorem Bridge.changed_of_mem_evaluate {α : Type} {b : Bridge α} {owner : α} {f : WatcherFire}
    (h : f ∈ (b.evaluate owner).2) : configChanged f.old f.new = true := by
  obtain ⟨w, -, hw⟩ := List.mem_filterMap.1 h
  unfold fireOf at hw
  extract_lets new at hw
  split at hw
  · next changed =>
    cases hw
    exact changed
  · cases hw

namespace World

variable {α : Type}

/-- The watchers that fire when the owner's state is changed. -/
def fires (w : World α) (change : α → α) : List WatcherFire :=
  (w.registry.bridge.evaluate (change w.registry.owner)).2

/-- While the owner's state is changed, when some watchers that fire have been dealt with. -/
def midway (w : World α) (change : α → α) (dealt : List WatcherFire) :
    Session × Registry α × Option ConfigError :=
  dealt.foldl Registry.respond
    (w.session.report (fireReport (w.fires change)),
      { w.registry with
        owner := change w.registry.owner
        bridge := (w.registry.bridge.evaluate (change w.registry.owner)).1 },
      none)

theorem act_mutate {w : World α} (attached : w.registry.attached = true) (change : α → α) :
    (w.act (.mutate change)).session = (w.midway change (w.fires change)).1 := by
  show (Registry.mutateOwner w.session w.registry change).1 = _
  unfold Registry.mutateOwner
  simp only
  rw [if_neg (by simp [attached])]
  rfl

/-- While the owner's state is changed, a watcher fires with a config that is not refused, for a
resource that is there. -/
structure Replaces (w : World α) (change : α → α) (f : WatcherFire) (config : Config)
    (handle : Nat) (live : LiveResource) : Prop where
  attached : w.registry.attached = true
  new : f.new = some config
  turn : ∃ before later s r, w.fires change = before ++ f :: later ∧
    Keyed.value? (w.midway change before).2.1.resources f.name = some handle ∧
    (w.midway change before).1.resources[handle]? = some live ∧
    (w.midway change before).2.1.apply (w.midway change before).1 f.name f.new f.old = .ok (s, r)

/-- Whatever happens from now on, no outcome is applied that belongs to a generation taken before
the resource was in this state. -/
def DropsLate (w : World α) (handle : Nat) (live : LiveResource) : Prop :=
  ∀ deeds later, (w.after deeds).session.resources[handle]? = some later →
    ∀ id g, later.Applied id g → g ≤ live.resource.generation → live.Applied id g

section Replaces

variable {w : World α} {change : α → α} {f : WatcherFire} {config : Config} {handle : Nat}
  {live : LiveResource}

/-- What the change makes of the resource comes from outside, and begins with a cancellation if the
watcher remembers a config. -/
theorem Replaces.evolves (h : w.Replaces change f config handle live) :
    ∃ actions, (∀ a ∈ actions, a.External) ∧
      (w.act (.mutate change)).session.resources[handle]? = some (live.after actions) ∧
      (f.old.isSome → ∃ rest, actions = .cancel :: rest) := by
  obtain ⟨before, later, s, r, split, hv, hr, applied⟩ := h.turn
  have fired : f ∈ w.fires change := by
    rw [split]
    exact List.mem_append_right _ List.mem_cons_self
  have changed : configChanged f.old f.new = true := Bridge.changed_of_mem_evaluate fired
  have attached : (w.midway change before).2.1.attached = true :=
    (Registry.attached_responds _ before).trans h.attached
  rw [act_mutate h.attached, split, midway, List.foldl_append, List.foldl_cons]
  change ∃ actions, _ ∧ (later.foldl Registry.respond
    (Registry.respond (w.midway change before) f)).1.resources[handle]? = _ ∧ _
  generalize w.midway change before = state at hv hr applied attached ⊢
  obtain ⟨s₀, r₀, failed⟩ := state
  have responded : Registry.respond (s₀, r₀, failed) f = (s, r, failed) := by
    simp only [Registry.respond, applied]
  rw [responded]
  have rest := (Session.spans_beside.responds (s, r, failed) later).evolves
  rw [h.new] at applied changed
  generalize f.old = old at applied changed ⊢
  cases Registry.apply_ok applied with
  | idle moot =>
    rcases moot attached with ⟨⟨⟩, -⟩ | ⟨_, hv', hr'⟩
    cases hv.symm.trans hv'
    cases hr.symm.trans hr'
  | make _ vacant => cases hv.symm.trans vacant
  | replace _ given there _ taken =>
    cases hv.symm.trans given
    cases hr.symm.trans there
    have updated := (Session.beside_update taken).evolves
    cases old with
    | none =>
      obtain ⟨actions, external, hs⟩ := (updated.trans rest).old hr
      exact ⟨actions, external, hs, by simp⟩
    | some old =>
      -- the watcher fires because the config it remembers is another one
      have differs : (!old.structurallyEq config) = true := changed
      simp only [Option.any_some, differs, if_true] at updated
      obtain ⟨actions, external, hs⟩ := (updated.trans rest).old (Session.resources_cancel hr)
      refine ⟨.cancel :: actions, ?_, hs, fun _ => ⟨actions, rfl⟩⟩
      exact List.forall_mem_cons.2 ⟨trivial, external⟩

/-- Steps of the session are deeds. -/
theorem after_steps (w : World α) (steps : List Session.Step) :
    (w.after (steps.map .step)).session = w.session.after steps := by
  induction steps generalizing w with
  | nil => rfl
  | cons step rest ih => exact ih (w.act (.step step))

theorem Replaces.orderly (h : w.Replaces change f config handle live)
    (attended : w.session.Attended) : live.Orderly := by
  obtain ⟨before, -, -, -, -, -, hr, -⟩ := h.turn
  have begun : w.session.Beside (w.midway change before).1 :=
    (Session.beside_report _ _).trans (Session.spans_beside.responds (_, _, _) before)
  exact (attended.beside begun).orderly handle live hr

/-- **Late outcomes after a change of config.** No outcome of an earlier generation is applied after
the change exactly if no attempt with a current generation is under way when the change is over;
this is so whenever the watcher remembers a config. -/
theorem dropsLate_iff {definitions : List (String × Definition α)}
    (reachable : w.Reachable definitions) (replaces : w.Replaces change f config handle live) :
    ((w.act (.mutate change)).DropsLate handle live ↔
        ∀ updated, (w.act (.mutate change)).session.resources[handle]? = some updated →
          ∀ id g, updated.Underway id g → updated.resource.isCurrent g = false) ∧
      (f.old.isSome → (w.act (.mutate change)).DropsLate handle live) := by
  obtain ⟨actions, external, hr, cancels⟩ := replaces.evolves
  have attended := (reachable.act (.mutate change)).attended
  have orderly := attended.orderly _ _ hr
  have generation := LiveResource.generation_after_external (r := live) external
  have dropped (none : ∀ id g, (live.after actions).Underway id g → g ≤ live.resource.generation →
      (live.after actions).resource.isCurrent g = false) :
      (w.act (.mutate change)).DropsLate handle live := by
    intro deeds later hl id g applied taken
    obtain ⟨more, -, hl'⟩ := (evolves_after _ deeds).old hr
    cases hl.symm.trans hl'
    rcases orderly.of_applied more applied with before | new | ⟨underway, current⟩
    · exact (LiveResource.of_phase?_after_external external before).resolve_right nofun
    · omega
    · rw [none id g underway taken] at current
      cases current
  refine ⟨⟨fun drops updated hu id g underway => ?_,
    fun none => dropped fun id g underway _ => none _ hr id g underway⟩,
    fun remembers => dropped fun id g _ taken => ?_⟩
  · cases hr.symm.trans hu
    cases current : (live.after actions).resource.isCurrent g with
    | false => rfl
    | true =>
      obtain ⟨steps, later, hl, applied⟩ := attended.exists_applied hr underway current
      have taken : g ≤ live.resource.generation := by
        rw [← generation]
        exact Nat.le_of_eq (Resource.isCurrent_iff.1 current).2.1
      -- it had been applied before the change, and is under way after it
      have before := drops (steps.map .step) later (by rw [after_steps, hl]) id g applied taken
      exact absurd underway (LiveResource.Applied.not_underway
        (LiveResource.phase?_after_external external before) g)
  · -- the cancellation has fenced off all generations taken before it
    obtain ⟨rest, rfl⟩ := cancels remembers
    have fenced := ((replaces.orderly reachable.attended).act .cancel).fence_le_after rest
    have cancelled : (live.act .cancel).1.resource.fence = live.resource.generation := rfl
    cases current : (live.after (.cancel :: rest)).resource.isCurrent g with
    | false => rfl
    | true =>
      have beyond := (Resource.isCurrent_iff.1 current).2.2
      rw [LiveResource.after_cons] at beyond
      omega

end Replaces

/-! ### A team and its tickets -/

/-- The tickets of a team; without a team they are not wanted. -/
def tickets : List (String × Definition String) :=
  [("tickets", .derived fun team =>
    if team = "" then none else some { method := "list", params := [("team", .str team)] })]

/-- The tickets of the first team. -/
def ticketsOf (team : String) : World String :=
  match Registry.attach {} "desk" team tickets with
  | .ok (session, registry) => { session, registry }
  | .error _ => { session := {}, registry := { id := "desk", owner := team } }

theorem reachable_ticketsOf : (ticketsOf "a").Reachable tickets := by
  have attached : Registry.attach {} "desk" "a" tickets
      = .ok ((ticketsOf "a").session, (ticketsOf "a").registry) := rfl
  exact .attach ⟨rfl, rfl, rfl, rfl⟩ attached

/-- The tickets of the first team are being fetched. -/
def ticketsUnderWay : World String :=
  (ticketsOf "a").after [.step (.fetch 0), .step (.turn 0)]

/-- The fetch is under way when there is another team, and its outcome is dropped. -/
theorem late_outcome_dropped :
    let config : Config := { method := "list", params := [("team", .str "b")] }
    let fire : WatcherFire :=
      { name := "tickets", new := some config
        old := some { method := "list", params := [("team", .str "a")] } }
    let live := ticketsUnderWay.session.resources[0]?.getD default
    ticketsUnderWay.Reachable tickets ∧
      ticketsUnderWay.Replaces (fun _ => "b") fire config 0 live ∧
      (ticketsUnderWay.act (.mutate fun _ => "b")).DropsLate 0 live := by
  intro config fire live
  have reachable : ticketsUnderWay.Reachable tickets := reachable_ticketsOf.after _
  have replaces : ticketsUnderWay.Replaces (fun _ => "b") fire config 0 live := by
    have hv : Keyed.value? (ticketsUnderWay.midway (fun _ => "b") []).2.1.resources "tickets"
        = some 0 := rfl
    have hr : (ticketsUnderWay.midway (fun _ => "b") []).1.resources[0]? = some live := rfl
    obtain ⟨s, r, applied⟩ : ∃ s r, (ticketsUnderWay.midway (fun _ => "b") []).2.1.apply
        (ticketsUnderWay.midway (fun _ => "b") []).1 "tickets" (some config) fire.old
          = .ok (s, r) :=
      Registry.exists_apply_ok hv hr (by decide +kernel) rfl
    exact ⟨rfl, rfl, [], [], s, r, rfl, hv, hr, applied⟩
  exact ⟨reachable, replaces, (dropsLate_iff reachable replaces).2 rfl⟩

/-- The team is taken away while nothing is under way, and the tickets are fetched by hand. -/
def ticketsByHand : World String :=
  (ticketsOf "a").after [.mutate fun _ => "", .step (.fetch 0), .step (.turn 0)]

/-- The fetch is under way when there is another team, and its outcome is applied after that. -/
theorem late_outcome_applied :
    let config : Config := { method := "list", params := [("team", .str "b")] }
    let fire : WatcherFire := { name := "tickets", new := some config, old := none }
    let live := ticketsByHand.session.resources[0]?.getD default
    ticketsByHand.Reachable tickets ∧
      ticketsByHand.Replaces (fun _ => "b") fire config 0 live ∧
      live.resource.config.structurallyEq config = false ∧
      ¬ (ticketsByHand.act (.mutate fun _ => "b")).DropsLate 0 live := by
  intro config fire live
  refine ⟨reachable_ticketsOf.after _, ?_, by decide +kernel, fun drops => ?_⟩
  · have hv : Keyed.value? (ticketsByHand.midway (fun _ => "b") []).2.1.resources "tickets"
        = some 0 := rfl
    have hr : (ticketsByHand.midway (fun _ => "b") []).1.resources[0]? = some live := rfl
    obtain ⟨s, r, applied⟩ : ∃ s r, (ticketsByHand.midway (fun _ => "b") []).2.1.apply
        (ticketsByHand.midway (fun _ => "b") []).1 "tickets" (some config) fire.old = .ok (s, r) :=
      Registry.exists_apply_ok hv hr (by decide +kernel) rfl
    exact ⟨rfl, rfl, [], [], s, r, rfl, hv, hr, applied⟩
  · have applied := drops [.step (.resolve 0 (.ok .null)), .step (.turn 0)] _ rfl 0 1 rfl
      (Nat.le_refl 1)
    cases applied

end World

end ReactiveResource
