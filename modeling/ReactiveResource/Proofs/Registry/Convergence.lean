import ReactiveResource.Proofs.Registry.Tracking

/-!
# Derived resources converge

The owner's state may change at any time, while fetches for earlier states wait for their turn, for
a reply or for the end of a delay. When all has come to rest, a derived resource shows the reply to
the call of the config that is derived from the owner's state now, whatever the order in which
things have happened.

* `Deed.Passive`: nobody but the registry operates on a resource;
* `World.Tracks`, `Tracks.after`: what every such run preserves;
* `Session.Quiet`, `Session.AnsweredBy`: all has come to rest, and how the gateway has answered;
* `reactive_convergence`: what a resource shows then.
-/

namespace ReactiveResource

open Keyed (value?)

/-- Everything has come to rest: nobody can run, no delay is left, and every call has its reply. -/
structure Session.Quiet (s : Session) : Prop where
  ready : s.ready = []
  sleepers : s.sleepers = []
  answered : ∀ c ∈ s.script.calls, c.status ≠ .waiting

/-- Every reply was a function of the method and the arguments of its call. -/
def Session.AnsweredBy (s : Session) (f : String → Json → Reply) : Prop :=
  ∀ c ∈ s.script.calls, ∀ reply, c.status.reply? = some reply → reply = f c.method c.params

/-- The attempt is the last one whose outcome has been applied: outcomes are applied by ascending
generation. -/
def LiveResource.LastApplied (r : LiveResource) (id : Nat) : Prop :=
  ∃ g, r.Applied id g ∧ ∀ j h, r.Applied j h → h ≤ g

/-- The owner's state is changed, or something happens that is no operation on a resource. -/
def Deed.Passive {α : Type} : Deed α → Prop
  | .step taken => taken.Passive
  | .mutate _ => True
  | .detach => False

namespace World

variable {α : Type} {w : World α} {name : String} {derive : α → Option Config}

/-- The watcher of the name and its resource track the config that the owner's state says. -/
def Tracks (w : World α) (name : String) (derive : α → Option Config) : Prop :=
  Registry.Tracks w.session w.registry name derive (derive w.registry.owner)

/-! ### Runs -/

theorem Tracks.step (h : w.Tracks name derive) (attended : w.session.Attended)
    {step : Session.Step} (passive : step.Passive) : (w.act (.step step)).Tracks name derive := by
  obtain ⟨regular, last, named, follows, agrees⟩ := h
  refine ⟨regular.step attended passive, last, named, ?_,
    fun c hc accepts => agrees c hc ⟨accepts.named, ?_⟩⟩
  · cases follows with
    | unmade vacant unwanted => exact .unmade vacant unwanted
    | made given there plain newest =>
      obtain ⟨live', there', plain', config, newest'⟩ :=
        attended.newest_step regular.silent passive there plain
      refine .made given there' plain' fun c hc => ?_
      obtain ⟨same, newest⟩ := newest c hc
      exact ⟨config.trans same, newest' newest⟩
  · -- the method of the resource is what it was before the step
    intro handle live given there
    obtain ⟨live', there', -, config, -⟩ :=
      attended.newest_step regular.silent passive there (follows.plain given there)
    exact (accepts.method handle live' given there').trans (Config.method_of_bare config)

/-- What one deed preserves. -/
theorem Tracks.act (h : w.Tracks name derive) (eager : ∀ owner c, derive owner = some c → c.Eager)
    (attended : w.session.Attended) {d : Deed α} (passive : d.Passive) :
    (w.act d).Tracks name derive := by
  cases d with
  | step step => exact h.step attended passive
  | mutate change =>
    obtain ⟨tracks, owner⟩ := Registry.Tracks.mutate h eager change
    show Registry.Tracks _ _ name derive
      (derive (w.registry.mutateOwner w.session change).2.1.owner)
    rw [owner]
    exact tracks
  | detach => exact passive.elim

/-- **Every run keeps track.** -/
theorem Tracks.after (h : w.Tracks name derive)
    (eager : ∀ owner c, derive owner = some c → c.Eager)
    {definitions : List (String × Definition α)} (reachable : w.Reachable definitions)
    {deeds : List (Deed α)} (passive : ∀ d ∈ deeds, d.Passive) :
    (w.after deeds).Tracks name derive := by
  induction deeds generalizing w with
  | nil => exact h
  | cons d rest ih =>
    rw [List.forall_mem_cons] at passive
    exact ih (h.act eager reachable.attended passive.1) (reachable.act d) passive.2

/-! ### At rest -/

/-- At rest nobody waits for anything but his turn at a page lock. -/
theorem idle_of_quiet {s : Session} (attended : s.Attended) (quiet : s.Quiet) {handle id : Nat}
    {live : LiveResource} {p : Phase} (there : s.resources[handle]? = some live)
    (unheld : live.Unheld) (phase : live.phase? id = some p) :
    (∃ e, p = .queued e) ∨ ∃ ending, p = .finished ending := by
  have idle (job : Job) : job ∉ s.ready := by
    rw [quiet.ready]
    nofun
  have summons := attended.summons there phase
  cases p with
  | spawned => exact absurd summons (idle _)
  | queued e => exact .inl ⟨e, rfl⟩
  | validating t => exact absurd phase (unheld.unchecked _ _)
  | calling t =>
    obtain ⟨n, c, made, -, waiting | ⟨reply, hj⟩⟩ := summons.resolve_right nofun
    · exact absurd waiting (quiet.answered c (List.mem_of_getElem? made.2))
    · exact absurd hj (idle _)
  | delaying t reply =>
    obtain ⟨-, ⟨sleeper, hs, -⟩ | hj | ⟨delay, owed⟩⟩ := summons
    · rw [quiet.sleepers] at hs
      cases hs
    · exact absurd hj (idle _)
    · cases owed
  | finished ending => exact .inr ⟨ending, rfl⟩

/-- At rest the newest fetch has come to its end, and its reply is shown. -/
theorem shown_of_quiet {s : Session} (attended : s.Attended) (quiet : s.Quiet) {handle : Nat}
    {live : LiveResource} (there : s.resources[handle]? = some live) (plain : live.Plain)
    (newest : live.Newest (s.Asked handle)) :
    ∃ id reply, live.Applied id live.resource.generation ∧
      s.Asked handle id live.resource.config.method
        (live.resource.config.callArgs live.resource.config.params) reply ∧
      live.resource.Shows reply := by
  cases newest with
  | pending phase =>
    rcases idle_of_quiet attended quiet there plain.unheld phase with ⟨e, h⟩ | ⟨ending, h⟩ <;>
      cases h
  | underway phase ticket =>
    rcases idle_of_quiet attended quiet there plain.unheld phase with ⟨e, rfl⟩ | ⟨ending, rfl⟩ <;>
      cases ticket
  | done applied answered shown => exact ⟨_, _, applied, answered, shown⟩

/-- **Reactive convergence.** A derived resource whose configs fetch by themselves and are held up
by nothing shows, when all has come to rest, what the gateway says to the call of the config that is
derived now. -/
theorem reactive_convergence {definitions : List (String × Definition α)}
    (names : (definitions.map (·.1)).Nodup) (mem : (name, .derived derive) ∈ definitions)
    (eager : ∀ owner c, derive owner = some c → c.Eager)
    (silent : ∀ x ∈ definitions, x.2.Silent)
    {s s' : Session} {id : String} {owner : α} {r : Registry α} (vacant : s.Vacant)
    (runtime : s.hasRuntime = true)
    (attached : Registry.attach s id owner definitions = .ok (s', r))
    {deeds : List (Deed α)} (passive : ∀ d ∈ deeds, d.Passive)
    (final : World.after { session := s', registry := r } deeds = w)
    {f : String → Json → Reply}
    (respects : ∀ method a b, (a == b) = true → (f method a).Same (f method b))
    (answered : w.session.AnsweredBy f) (quiet : w.session.Quiet)
    {c : Config} (wanted : derive w.registry.owner = some c)
    (accepted : Registry.Accepts w.session w.registry name c) :
    ∃ handle live id n call reply, value? w.registry.resources name = some handle ∧
      w.session.resources[handle]? = some live ∧ live.LastApplied id ∧
      w.session.Made handle id n call ∧ call.method = c.method ∧
      (call.params == c.callArgs c.params) = true ∧ live.resource.Shows reply ∧
      reply.Same (f c.method (c.callArgs c.params)) := by
  have reachable : World.Reachable definitions { session := s', registry := r } :=
    .attach vacant attached
  obtain ⟨start, hr⟩ := Registry.tracks_attach names mem silent eager vacant runtime attached
  have begun : World.Tracks { session := s', registry := r } name derive := by
    show Registry.Tracks s' r name derive (derive r.owner)
    rw [hr]
    exact start
  have attended : w.session.Attended := final ▸ (reachable.after deeds).attended
  obtain ⟨-, last, -, follows, agrees⟩ : w.Tracks name derive :=
    final ▸ begun.after eager reachable passive
  -- the resource follows what the watcher remembers, which is the same config
  obtain ⟨known, rfl, same⟩ := agrees c wanted accepted
  cases follows with
  | unmade _ unwanted => cases unwanted
  | @made handle live given there plain newest =>
    obtain ⟨config, newest⟩ := newest known rfl
    obtain ⟨id, reply, applied, ⟨n, call, made, method, args, replied⟩, shown⟩ :=
      shown_of_quiet attended quiet there plain newest
    have method : call.method = c.method :=
      (method.trans (Config.method_of_bare config)).trans (Config.method_of_structurallyEq same)
    have args : (call.params == c.callArgs c.params) = true := by
      rw [args, Config.callArgs_of_bare config]
      exact Config.callArgs_congr same
    refine ⟨handle, live, id, n, call, reply, given, there, ⟨_, applied, fun j g hj => ?_⟩, made,
      method, args, shown, ?_⟩
    · exact (attended.orderly handle live there).bounded hj.generationOf?
    · rw [answered call (List.mem_of_getElem? made.2) reply replied, method]
      exact respects _ _ _ args

/-! ### A team whose tickets are fetched by themselves -/

/-- The tickets of a team are fetched by themselves; without a team they are not wanted. -/
def teamTickets : List (String × Definition String) :=
  [("tickets", .derived fun team =>
    if team = "" then none
    else some { method := "list", params := [("team", .str team)], auto := true })]

/-- There is another team while the tickets of the first are being fetched, and the reply for the
first team comes last. -/
def teamChanges : List (Deed String) :=
  [.step (.turn 0), .mutate fun _ => "b", .step (.turn 0),
    .step (.resolve 1 (.ok (.obj [("team", .str "b")]))), .step (.turn 0),
    .step (.resolve 0 (.ok (.obj [("team", .str "a")]))), .step (.turn 0)]

/-- The tickets after a list of deeds, with a first team. -/
def ticketsAfter (deeds : List (Deed String)) : World String :=
  match Registry.attach {} "desk" "a" teamTickets with
  | .ok (session, registry) => World.after { session, registry } deeds
  | .error _ => { session := {}, registry := { id := "desk", owner := "a" } }

/-- The tickets of the second team are shown. -/
theorem second_team_shown :
    (ticketsAfter teamChanges).registry.owner = "b" ∧
      ∃ handle live id n call reply,
        value? (ticketsAfter teamChanges).registry.resources "tickets" = some handle ∧
        (ticketsAfter teamChanges).session.resources[handle]? = some live ∧
        live.LastApplied id ∧ (ticketsAfter teamChanges).session.Made handle id n call ∧
        call.method = "list" ∧ (call.params == .obj [("team", .str "b")]) = true ∧
        live.resource.Shows reply ∧ reply.Same (.ok (.obj [("team", .str "b")])) := by
  have attached : Registry.attach {} "desk" "a" teamTickets
      = .ok ((ticketsAfter []).session, (ticketsAfter []).registry) := rfl
  have eager (team : String) (c : Config)
      (derived : (if team = "" then none
        else some { method := "list", params := [("team", .str team)], auto := true }) = some c) :
      c.Eager ∧ c.listeners.Silent := by
    split at derived
    · cases derived
    · cases derived
      exact ⟨⟨rfl, rfl, rfl, rfl⟩, .nil⟩
  have silent : ∀ x ∈ teamTickets, x.2.Silent := by
    intro x hx
    cases List.mem_singleton.1 hx
    exact fun team c derived => (eager team c derived).2
  have respects (method : String) (a b : Json) (same : (a == b) = true) :
      (Gateway.repeatParams method a).Same (Gateway.repeatParams method b) := same
  have calls : (ticketsAfter teamChanges).session.script.calls
      = [{ method := "list", params := .obj [("team", .str "a")]
           status := .resolved (.ok (.obj [("team", .str "a")])) },
        { method := "list", params := .obj [("team", .str "b")]
          status := .resolved (.ok (.obj [("team", .str "b")])) }] := rfl
  have answered : (ticketsAfter teamChanges).session.AnsweredBy Gateway.repeatParams := by
    intro c hc reply replied
    rw [calls] at hc
    simp only [List.mem_cons, List.not_mem_nil, or_false] at hc
    rcases hc with rfl | rfl <;> cases replied <;> rfl
  have quiet : (ticketsAfter teamChanges).session.Quiet := by
    refine ⟨rfl, rfl, fun c hc => ?_⟩
    rw [calls] at hc
    simp only [List.mem_cons, List.not_mem_nil, or_false] at hc
    rcases hc with rfl | rfl <;> nofun
  refine ⟨rfl, reactive_convergence (by decide) List.mem_cons_self
    (fun team c derived => (eager team c derived).1) silent ⟨rfl, rfl, rfl, rfl⟩ rfl attached ?_ rfl
    respects answered quiet rfl ⟨by decide +kernel, ?_⟩⟩
  · intro d hd
    simp only [teamChanges, List.mem_cons, List.not_mem_nil, or_false] at hd
    rcases hd with rfl | rfl | rfl | rfl | rfl | rfl | rfl <;> trivial
  · rintro handle live ⟨⟩ ⟨⟩
    rfl

end World

end ReactiveResource
