import ReactiveResource.Proofs.Config.Equality
import ReactiveResource.Proofs.Registry.Separation

/-!
# Watchers and the configs that resources follow

A derived resource follows a config: its newest fetch makes the call of that config. Its watcher
remembers the config, and when it fires the resource follows the next one, whatever the fetches for
the config before are doing.

* `Registry.Follows`: the newest fetch of a resource belongs to a config;
* `Registry.Tracks`: that config is the one which the watcher remembers, and it is the one derived
  now unless that is refused;
* `Follows.apply`, `Tracks.mutate`: a watcher fires, the owner's state is changed;
* `Registry.Begun`, `tracks_attach`: the beginning.
-/

namespace ReactiveResource

/-- Configs of this kind fetch by themselves, and nothing holds their fetches up. -/
structure Config.Eager (c : Config) : Prop where
  auto : c.auto = true
  unguarded : c.Unguarded

/-- No listener of a config of the definition operates on a resource. -/
def Definition.Silent {α : Type} : Definition α → Prop
  | .fixed config => config.listeners.Silent
  | .derived derive => ∀ owner config, derive owner = some config → config.listeners.Silent

namespace Registry

open Keyed (value?)

variable {α : Type} {s s' : Session} {r r' : Registry α} {name : String}
  {derive : α → Option Config} {m : Option Config}

/-! ### The resource of a name -/

/-- The resource of a name, if there is one, makes the call of a config with every fetch, and its
newest fetch has done so or is going to. Without a config nothing is said of the newest fetch. -/
inductive Follows (s : Session) (r : Registry α) (name : String) (m : Option Config) : Prop
  | unmade (vacant : value? r.resources name = none) (unwanted : m = none)
  | made {handle : Nat} {live : LiveResource} (given : value? r.resources name = some handle)
      (there : s.resources[handle]? = some live) (plain : live.Plain)
      (newest : ∀ c, m = some c →
        live.resource.config.bare = c.bare ∧ live.Newest (s.Asked handle))

/-- The config would not be refused: it has a method, which is that of the resource if there is
one. -/
structure Accepts (s : Session) (r : Registry α) (name : String) (c : Config) : Prop where
  named : Text.isBlank c.method = false
  method : ∀ handle live, value? r.resources name = some handle →
    s.resources[handle]? = some live → c.method = live.resource.method

theorem Follows.keep (h : Follows s r name m) (retains : s.Retains s')
    (handle : value? r'.resources name = value? r.resources name)
    (resource : ∀ {h}, value? r.resources name = some h → s'.resources[h]? = s.resources[h]?) :
    Follows s' r' name m := by
  cases h with
  | unmade vacant unwanted => exact .unmade (handle.trans vacant) unwanted
  | made given there plain newest =>
    refine .made (handle.trans given) ((resource given).trans there) plain fun c hc => ?_
    obtain ⟨config, newest⟩ := newest c hc
    exact ⟨config, newest.mono fun _ _ _ _ => retains.asked⟩

theorem Follows.aside (h : Follows s r name m) (aside : Aside name s r s' r') :
    Follows s' r' name m := h.keep aside.beside.retains aside.handle aside.resource

theorem Accepts.of_aside (aside : Aside name s r s' r') {c : Config}
    (h : Accepts s' r' name c) : Accepts s r name c where
  named := h.named
  method handle live hv hl := h.method handle live (aside.handle.trans hv)
    ((aside.resource hv).trans hl)

/-- A config that is acceptable is accepted. -/
theorem Accepts.exists_apply_ok {c : Config} (accepts : Accepts s r name c)
    (follows : Follows s r name m) (old : Option Config) :
    ∃ s' r', r.apply s name (some c) old = .ok (s', r') := by
  cases follows with
  | unmade vacant => exact exists_apply_ok_of_vacant vacant accepts.named
  | made given there =>
    exact Registry.exists_apply_ok given there accepts.named (accepts.method _ _ given there)

theorem Follows.plain (h : Follows s r name m) {handle : Nat} {live : LiveResource}
    (given : value? r.resources name = some handle) (there : s.resources[handle]? = some live) :
    live.Plain := by
  cases h with
  | unmade vacant =>
    rw [vacant] at given
    cases given
  | made given' there' plain =>
    cases given.symm.trans given'
    cases there.symm.trans there'
    exact plain

/-- A first config makes a resource and starts its first fetch. -/
theorem Regular.follows_create (h : Regular s r) {config : Config} (eager : config.Eager)
    {handle : Nat} (made : s.create name config = .ok (s', handle)) :
    Follows (s'.fetch handle) { r with resources := Keyed.put r.resources name handle } name
      (some config) := by
  have there := Session.resources_create made
  have runtime := (Session.beside_create made).runtime.trans h.runtime
  refine .made (Keyed.value?_put_self _ _ _) (Session.resources_fetch runtime there)
    (LiveResource.Plain.of_fresh eager.unguarded).spawn fun c hc => ?_
  cases hc
  exact ⟨rfl, LiveResource.newest_spawn _ _⟩

/-- Another config is taken over by the resource, with a fetch that is its newest. -/
theorem follows_update {handle : Nat} {live : LiveResource} {config : Config}
    (runtime : s.hasRuntime = true) (given : value? r.resources name = some handle)
    (there : s.resources[handle]? = some live) (plain : live.Plain) (eager : config.Eager)
    (updated : s.update handle config = .ok s') : Follows s' r name (some config) := by
  obtain ⟨resource, hu, rfl⟩ := Session.update_ok there updated
  have updated : live.update config = .ok { live with resource } := by
    rw [LiveResource.update, hu]
    rfl
  obtain ⟨plain', same⟩ := plain.update eager.unguarded updated
  have acted : (live.act (.update config)).1 = { live with resource } := by
    simp only [LiveResource.act, updated]
    rfl
  have alive : resource.retired = false := plain'.alive
  rw [if_pos (by simp [eager.auto, alive]), acted]
  refine .made given (Session.resources_fetch ?_ (Session.resources_store_self s handle _ there))
    plain'.spawn fun c hc => ?_
  · rw [Session.hasRuntime_store, runtime]
  · cases hc
    exact ⟨congrArg Config.bare same, LiveResource.newest_spawn _ _⟩

/-- **A config that is accepted is followed.** Whatever the resource followed before, its newest
fetch belongs to the new config. -/
theorem Follows.apply (follows : Follows s r name m) (regular : Regular s r)
    {new old : Option Config} (eager : ∀ c, new = some c → c.Eager)
    (applied : r.apply s name new old = .ok (s', r')) : Follows s' r' name new := by
  cases apply_ok applied with
  | idle moot =>
    rcases moot regular.attached with ⟨rfl, vacant⟩ | ⟨handle, given, gone⟩
    · exact .unmade vacant rfl
    · obtain ⟨live, there⟩ := regular.present given
      rw [gone] at there
      cases there
  | withdraw entries _ given =>
    -- without a config only the fetches that may still come are cut off
    obtain ⟨live, there⟩ := regular.present given
    exact .made given (Session.resources_cancel (s := s.report entries) there)
      (follows.plain given there).cancel (by simp)
  | @make config _ _ _ _ _ made =>
    have eager := eager config rfl
    rw [if_pos eager.auto]
    exact regular.follows_create eager made
  | @replace config _ handle _ _ _ given there _ taken =>
    have plain := follows.plain given there
    split at taken
    · have runtime := (Session.beside_cancel s handle).runtime.trans regular.runtime
      exact follows_update runtime given (Session.resources_cancel there) plain.cancel
        (eager config rfl) taken
    · exact follows_update regular.runtime given there plain (eager config rfl) taken

/-! ### The watcher of a name -/

/-- The one watcher of a name remembers the config that the resource follows. It agrees with the
config that is wanted, unless that would be refused. -/
structure Tracks (s : Session) (r : Registry α) (name : String) (derive : α → Option Config)
    (wanted : Option Config) : Prop where
  regular : Regular s r
  watcher : ∃ last, r.bridge.named name = [{ name, derive, last }] ∧ Follows s r name last ∧
    ∀ c, wanted = some c → Accepts s r name c →
      ∃ known, last = some known ∧ known.structurallyEq c = true

theorem Tracks.aside {wanted : Option Config} (h : Tracks s r name derive wanted)
    (aside : Aside name s r s' r') : Tracks s' r' name derive wanted := by
  obtain ⟨last, named, follows, agrees⟩ := h.watcher
  exact ⟨aside.regular, last, aside.watchers.trans named, follows.aside aside,
    fun c hc accepts => agrees c hc (.of_aside aside accepts)⟩

/-- The watcher of the name fires: the config is accepted and followed, or the watcher is given back
the former one. -/
theorem Follows.respond {old : Option Config} (follows : Follows s r name old)
    (regular : Regular s r) {new : Option Config}
    (named : r.bridge.named name = [{ name, derive, last := new }])
    (eager : ∀ c, new = some c → c.Eager)
    (silent : ∀ c, new = some c → c.listeners.Silent) (failed : Option ConfigError) :
    Tracks (respond (s, r, failed) { name, new, old }).1
        (respond (s, r, failed) { name, new, old }).2.1 name derive new ∧
      (respond (s, r, failed) { name, new, old }).2.1.owner = r.owner := by
  rw [Registry.respond]
  simp only
  split
  · next s' r' applied =>
    have concerns := regular.apply silent applied
    refine ⟨⟨concerns.regular, new, ?_, follows.apply regular eager applied, ?_⟩, concerns.owner⟩
    · rw [concerns.bridge, named]
    · exact fun c hc _ => ⟨c, hc, c.structurallyEq_refl⟩
  · next e refused =>
    have restored : Regular (s.report [.error ("Registry " ++ r.id ++ ": " ++ e.message)])
        { r with bridge := r.bridge.restore name old } :=
      regular.beside (Session.beside_report s _) (regular.silent.of_resources rfl)
        (regular.derives.restore name old) rfl rfl
    refine ⟨⟨restored, old, Bridge.named_restore_self named old, ?_, ?_⟩, rfl⟩
    · exact follows.keep (Session.beside_report s _).retains rfl fun _ => rfl
    · rintro c rfl accepts
      have accepts : Accepts s r name c := ⟨accepts.named, accepts.method⟩
      obtain ⟨s', r', applied⟩ := accepts.exists_apply_ok follows old
      rw [refused] at applied
      cases applied

/-- All watchers that fire for an owner have been dealt with, that of the name among them if its
config has changed. -/
theorem Follows.responds {last : Option Config} (follows : Follows s r name last)
    (regular : Regular s r) {owner : α} {fires : List WatcherFire}
    (named : r.bridge.named name = [{ name, derive, last }].map (Bridge.refresh owner))
    (fired : fires.filter (fun f => f.name = name)
      = [{ name, derive, last }].filterMap (Bridge.fireOf owner))
    (eager : ∀ c, derive owner = some c → c.Eager)
    (silent : ∀ f ∈ fires, ∀ c, f.new = some c → c.listeners.Silent) (failed : Option ConfigError) :
    Tracks (fires.foldl Registry.respond (s, r, failed)).1
        (fires.foldl Registry.respond (s, r, failed)).2.1 name derive (derive owner) ∧
      (fires.foldl Registry.respond (s, r, failed)).2.1.owner = r.owner := by
  cases changed : configChanged last (derive owner) with
  | false =>
    -- no watcher of this name fires
    have others : ∀ f ∈ fires, f.name ≠ name := by
      have none : fires.filter (fun f => f.name = name) = [] := by
        rw [fired]
        simp [Bridge.fireOf, changed]
      simpa using List.filter_eq_nil_iff.1 none
    have aside := regular.aside_responds others silent failed
    refine ⟨Tracks.aside ⟨regular, last, ?_, follows, fun c hc _ => ?_⟩ aside, aside.owner⟩
    · rw [named]
      simp [Bridge.refresh, changed]
    · rw [hc] at changed
      cases last with
      | none => cases changed
      | some known => exact ⟨known, rfl, by simpa [configChanged] using changed⟩
  | true =>
    have own : fires.filter (fun f => f.name = name)
        = [{ name, new := derive owner, old := last }] := by
      rw [fired]
      simp [Bridge.fireOf, changed]
    -- one watcher of this name fires, between others
    obtain ⟨before, after, rfl, hbefore, -, hafter⟩ := List.filter_eq_cons_iff.1 own
    have hbefore : ∀ f ∈ before, f.name ≠ name := by simpa using hbefore
    have hafter : ∀ f ∈ after, f.name ≠ name := by simpa using List.filter_eq_nil_iff.1 hafter
    rw [List.foldl_append, List.foldl_cons]
    have first := regular.aside_responds hbefore
      (fun f hf => silent f (List.mem_append_left _ hf)) failed
    generalize before.foldl Registry.respond (s, r, failed) = state at first ⊢
    obtain ⟨s', r', failed'⟩ := state
    have first : Aside name s r s' r' := first
    have remembered : r'.bridge.named name = [{ name, derive, last := derive owner }] := by
      rw [first.watchers, named]
      simp [Bridge.refresh, changed]
    have answered := (follows.aside first).respond first.regular remembered eager
      (fun c hc => silent _ (List.mem_append_right _ List.mem_cons_self) c hc) failed'
    generalize Registry.respond (s', r', failed') _ = state at answered ⊢
    have rest := answered.1.regular.aside_responds hafter
      (fun f hf => silent f (List.mem_append_right _ (List.mem_cons_of_mem _ hf))) state.2.2
    exact ⟨answered.1.aside rest, rest.owner.trans (answered.2.trans first.owner)⟩

/-- **A change of the owner.** The resource follows the config that is derived after it, unless that
is refused. -/
theorem Tracks.mutate (h : Tracks s r name derive (derive r.owner))
    (eager : ∀ owner c, derive owner = some c → c.Eager) (change : α → α) :
    Tracks (r.mutateOwner s change).1 (r.mutateOwner s change).2.1 name derive
        (derive (change r.owner)) ∧
      (r.mutateOwner s change).2.1.owner = change r.owner := by
  obtain ⟨last, named, follows, -⟩ := h.watcher
  unfold mutateOwner
  simp only
  rw [if_neg (by simp [h.regular.attached])]
  have evaluated : Regular (s.report (fireReport (r.bridge.evaluate (change r.owner)).2))
      { r with owner := change r.owner, bridge := (r.bridge.evaluate (change r.owner)).1 } :=
    h.regular.beside (Session.beside_report s _) (h.regular.silent.of_resources rfl)
      (h.regular.derives.evaluate _) rfl rfl
  have follows : Follows (s.report (fireReport (r.bridge.evaluate (change r.owner)).2))
      { r with owner := change r.owner, bridge := (r.bridge.evaluate (change r.owner)).1 } name
      last := follows.keep (Session.beside_report s _).retains rfl fun _ => rfl
  exact follows.responds evaluated (named ▸ r.bridge.named_evaluate (change r.owner) name)
    (named ▸ r.bridge.fires_named (change r.owner) name) (eager _)
    (fun f hf c hc => h.regular.derives.fires hf hc) none

/-! ### The beginning -/

/-- The definition of another name leaves a name alone. -/
theorem Regular.aside_declare (h : Regular s r) {definition : String × Definition α}
    (hne : definition.1 ≠ name) (silent : definition.2.Silent) {state : Session × Registry α}
    (declared : declare (s, r) definition = .ok state) : Aside name s r state.1 state.2 := by
  obtain ⟨other, config | derive⟩ := definition
  · obtain ⟨s', r'⟩ := state
    obtain ⟨handle, made, rfl⟩ := define_ok declared
    exact (h.concerns_create silent made).aside hne
  · cases declared
    exact ⟨h.beside (.refl s) h.silent (h.derives.register silent) rfl rfl, .refl s, rfl,
      Bridge.named_register_of_ne hne derive, rfl, fun _ => rfl⟩

theorem Regular.aside_declares (h : Regular s r) {definitions : List (String × Definition α)}
    (hne : ∀ x ∈ definitions, x.1 ≠ name) (silent : ∀ x ∈ definitions, x.2.Silent)
    {state : Session × Registry α} (declared : definitions.foldlM declare (s, r) = .ok state) :
    Aside name s r state.1 state.2 :=
  foldlM_ok (P := fun state => Aside name s r state.1 state.2)
    (fun _ x _ hx before declared =>
      before.trans (before.regular.aside_declare (hne x hx) (silent x hx) declared))
    (.refl h name) declared

/-- The watcher of a name stands alone when all definitions have been taken in. -/
theorem Regular.declares (h : Regular s r) (unnamed : r.bridge.named name = [])
    (vacant : value? r.resources name = none) {definitions : List (String × Definition α)}
    (names : (definitions.map (·.1)).Nodup) (mem : (name, .derived derive) ∈ definitions)
    (silent : ∀ x ∈ definitions, x.2.Silent) {state : Session × Registry α}
    (declared : definitions.foldlM declare (s, r) = .ok state) :
    Regular state.1 state.2 ∧ state.2.bridge.named name = [{ name, derive }] ∧
      value? state.2.resources name = none ∧ state.2.owner = r.owner := by
  obtain ⟨before, after, rfl⟩ := List.append_of_mem mem
  simp only [List.map_append, List.map_cons, List.nodup_append, List.nodup_cons] at names
  obtain ⟨-, ⟨hafter, -⟩, hbefore⟩ := names
  simp only [List.forall_mem_append, List.forall_mem_cons] at silent
  obtain ⟨middle, first, rest⟩ := foldlM_append_ok declared
  obtain ⟨next, own, rest⟩ := foldlM_cons_ok rest
  have first := h.aside_declares (fun x hx => hbefore _ (List.mem_map_of_mem hx) _
    List.mem_cons_self) silent.1 first
  cases own
  have here : Regular middle.1
      { middle.2 with bridge := middle.2.bridge.register name derive } :=
    first.regular.beside (.refl _) first.regular.silent
      (first.regular.derives.register silent.2.1) rfl rfl
  have last := here.aside_declares (fun x hx e => hafter (List.mem_map.2 ⟨x, hx, e⟩))
    silent.2.2 rest
  refine ⟨last.regular, ?_, (last.handle.trans first.handle).trans vacant,
    last.owner.trans first.owner⟩
  rw [last.watchers, Bridge.named_register_self, first.watchers, unnamed]
  rfl

/-- The first config of another name leaves a name alone. -/
theorem Regular.aside_introduce (h : Regular s r) {f : WatcherFire} (hne : f.name ≠ name)
    (silent : ∀ c, f.new = some c → c.listeners.Silent) {state : Session × Registry α}
    (introduced : introduce (s, r) f = .ok state) : Aside name s r state.1 state.2 := by
  rw [introduce] at introduced
  split at introduced
  · next c new =>
    obtain ⟨s', r'⟩ := state
    obtain ⟨handle, made, rfl⟩ := define_ok introduced
    exact (h.concerns_create (silent c new) made).aside hne
  · cases introduced
    exact .refl h name

theorem Regular.aside_introduces (h : Regular s r) {fires : List WatcherFire}
    (hne : ∀ f ∈ fires, f.name ≠ name)
    (silent : ∀ f ∈ fires, ∀ c, f.new = some c → c.listeners.Silent)
    {state : Session × Registry α} (introduced : fires.foldlM introduce (s, r) = .ok state) :
    Aside name s r state.1 state.2 :=
  foldlM_ok (P := fun state => Aside name s r state.1 state.2)
    (fun _ f _ hf before introduced =>
      before.trans (before.regular.aside_introduce (hne f hf) (silent f hf) introduced))
    (.refl h name) introduced

/-- The first config of the name, if there is one, makes its resource. -/
theorem Regular.introduces (h : Regular s r) (vacant : value? r.resources name = none) {owner : α}
    {fires : List WatcherFire}
    (fired : fires.filter (fun f => f.name = name)
      = [{ name, derive }].filterMap (Bridge.fireOf owner))
    (silent : ∀ f ∈ fires, ∀ c, f.new = some c → c.listeners.Silent)
    {state : Session × Registry α} (introduced : fires.foldlM introduce (s, r) = .ok state) :
    Regular state.1 state.2 ∧ state.2.bridge.named name = r.bridge.named name ∧
      state.2.owner = r.owner ∧
      (derive owner = none → value? state.2.resources name = none) ∧
      ∀ c, derive owner = some c → ∃ handle, value? state.2.resources name = some handle ∧
        state.1.resources[handle]? = some (.fresh name c) := by
  cases derived : derive owner with
  | none =>
    have others : ∀ f ∈ fires, f.name ≠ name := by
      have none : fires.filter (fun f => f.name = name) = [] := by
        rw [fired]
        simp [Bridge.fireOf, derived, configChanged]
      simpa using List.filter_eq_nil_iff.1 none
    have aside := h.aside_introduces others silent introduced
    refine ⟨aside.regular, aside.watchers, aside.owner, fun _ => aside.handle.trans vacant, ?_⟩
    simp
  | some c =>
    have own : fires.filter (fun f => f.name = name) = [{ name, new := some c, old := none }] := by
      rw [fired]
      simp [Bridge.fireOf, derived, configChanged]
    obtain ⟨before, after, rfl, hbefore, -, hafter⟩ := List.filter_eq_cons_iff.1 own
    have hbefore : ∀ f ∈ before, f.name ≠ name := by simpa using hbefore
    have hafter : ∀ f ∈ after, f.name ≠ name := by simpa using List.filter_eq_nil_iff.1 hafter
    simp only [List.forall_mem_append, List.forall_mem_cons] at silent
    obtain ⟨middle, first, rest⟩ := foldlM_append_ok introduced
    obtain ⟨⟨s', r'⟩, made, rest⟩ := foldlM_cons_ok rest
    have first := h.aside_introduces hbefore silent.1 first
    obtain ⟨handle, created, rfl⟩ := define_ok made
    have concerns := first.regular.concerns_create (silent.2.1 c rfl) created
    have last := concerns.regular.aside_introduces hafter silent.2.2 rest
    have given := Keyed.value?_put_self middle.2.resources name handle
    refine ⟨last.regular, last.watchers.trans first.watchers, last.owner.trans first.owner, nofun,
      ?_⟩
    rintro _ ⟨⟩
    exact ⟨handle, last.handle.trans given,
      (last.resource given).trans (Session.resources_create created)⟩

/-- A resource that is told to fetch does so, if its config fetches by itself and there is a
runtime. -/
theorem resources_autoFetch (s : Session) (i handle : Nat) :
    (autoFetch s i).resources[handle]? = s.resources[handle]?.map fun live =>
      if i = handle ∧ s.hasRuntime = true ∧ live.resource.config.auto = true
        then (live.spawn none).1 else live := by
  rw [autoFetch]
  by_cases hi : i = handle
  · subst hi
    cases there : s.resources[i]? with
    | none => exact there
    | some live =>
      simp only [Option.map_some, true_and]
      split
      · next auto =>
        cases runtime : s.hasRuntime with
        | true => simpa [auto] using Session.resources_fetch runtime there
        | false =>
          simp only [Session.fetch, runtime, there]
          exact there
      · next plain => simpa [plain] using there
  · simp only [hi, false_and, if_false, Option.map_id']
    split
    · split
      · exact Session.sameBut_fetch s i handle (Ne.symm hi)
      · rfl
    · rfl

theorem Regular.autoFetches (h : Regular s r) (entries : List (String × Nat)) :
    Regular (entries.foldl (fun s x => autoFetch s x.2) s) r := by
  induction entries generalizing s with
  | nil => exact h
  | cons x rest ih =>
    have silent : (autoFetch s x.2).Silent := by
      rw [autoFetch]
      split
      · split
        · exact h.silent.fetch
        · exact h.silent
      · exact h.silent
    exact ih (h.beside (Session.spans_beside.autoFetch s x.2) silent h.derives rfl rfl)

/-- When all resources have been told to fetch, those that do so have started one fetch. -/
theorem resources_autoFetches {entries : List (String × Nat)} (once : (entries.map (·.2)).Nodup)
    (s : Session) (handle : Nat) :
    (entries.foldl (fun s x => autoFetch s x.2) s).resources[handle]?
      = s.resources[handle]?.map fun live =>
        if handle ∈ entries.map (·.2) ∧ s.hasRuntime = true ∧ live.resource.config.auto = true
        then (live.spawn none).1 else live := by
  induction entries generalizing s with
  | nil => simp
  | cons x rest ih =>
    rw [List.map_cons, List.nodup_cons] at once
    have runtime := (Session.spans_beside.autoFetch s x.2).runtime
    rw [List.foldl_cons, ih once.2, resources_autoFetch, runtime, Option.map_map, List.map_cons]
    congr 1
    funext live
    by_cases hx : x.2 = handle
    · subst hx
      simp [once.1]
    · simp only [Function.comp_apply, hx, false_and, if_false, List.mem_cons, Ne.symm hx, false_or]

/-- A value that is set stands among the others, one of which may have gone. -/
theorem values_put {β : Type} (entries : Keyed β) (key : String) (v : β) :
    ∃ before later, (Keyed.put entries key v).map (·.2) = before ++ v :: later ∧
      (before ++ later).Sublist (entries.map (·.2)) := by
  induction entries with
  | nil => exact ⟨[], [], rfl, .refl []⟩
  | cons x rest ih =>
    obtain ⟨k, w⟩ := x
    simp only [Keyed.put]
    split
    · exact ⟨[], w :: rest.map (·.2), rfl, .refl _⟩
    · split
      · exact ⟨[], rest.map (·.2), rfl, .cons w (.refl _)⟩
      · obtain ⟨before, later, same, less⟩ := ih
        exact ⟨w :: before, later, congrArg (w :: ·) same, less.cons_cons w⟩

/-- Every resource of the registry stands there once. -/
structure Apart (s : Session) (r : Registry α) : Prop where
  once : (r.resources.map (·.2)).Nodup
  known : ∀ h ∈ r.resources.map (·.2), h < s.resources.length

theorem Apart.beside (h : Apart s r) (beside : s.Beside s')
    (resources : r'.resources = r.resources) : Apart s' r' where
  once := resources ▸ h.once
  known i hi := by
    obtain ⟨actions, -, there⟩ :=
      beside.evolves.old (List.getElem?_eq_getElem (h.known i (resources ▸ hi)))
    exact (List.getElem?_eq_some_iff.1 there).1

theorem Apart.define (h : Apart s r) {config : Config}
    (defined : define s r name config = .ok (s', r')) : Apart s' r' := by
  obtain ⟨handle, made, rfl⟩ := define_ok defined
  have kept := h.beside (Session.beside_create made) rfl
  obtain ⟨before, later, same, less⟩ := values_put r.resources name handle
  refine ⟨?_, fun i hi => ?_⟩
  · rw [same, List.perm_middle.nodup_iff, List.nodup_cons]
    refine ⟨fun mem => ?_, h.once.sublist less⟩
    exact absurd (h.known handle (less.mem mem))
      (Nat.not_lt.2 (List.getElem?_eq_none_iff.1 (Session.new_of_create made)))
  · rw [same, List.mem_append, List.mem_cons, or_left_comm] at hi
    rcases hi with rfl | hi
    · exact (List.getElem?_eq_some_iff.1 (Session.resources_create made)).1
    · exact kept.known i (less.mem (List.mem_append.2 hi))

theorem Apart.declare (h : Apart s r) {x : String × Definition α} {state : Session × Registry α}
    (declared : declare (s, r) x = .ok state) : Apart state.1 state.2 := by
  obtain ⟨other, config | derive⟩ := x
  · exact h.define declared
  · cases declared
    exact ⟨h.once, h.known⟩

theorem Apart.introduce (h : Apart s r) {f : WatcherFire} {state : Session × Registry α}
    (introduced : introduce (s, r) f = .ok state) : Apart state.1 state.2 := by
  rw [Registry.introduce] at introduced
  split at introduced
  · exact h.define introduced
  · cases introduced
    exact h

/-- Every resource of a registry that has just been attached stands there once. -/
theorem apart_attach {definitions : List (String × Definition α)} {id : String} {owner : α}
    (attached : attach s id owner definitions = .ok (s', r')) : Apart s' r' := by
  obtain ⟨declared, introduced, entries, hd, hi, rfl, rfl⟩ := attach_ok attached
  have first : Apart declared.1 declared.2 := foldlM_ok (P := fun state => Apart state.1 state.2)
    (fun _ _ _ _ before declared => before.declare declared)
    (show Apart s ({ id, owner } : Registry α) from ⟨.nil, nofun⟩) hd
  have evaluated : Apart (declared.1.report (fireReport (declared.2.bridge.evaluate owner).2))
      { declared.2 with bridge := (declared.2.bridge.evaluate owner).1 } :=
    first.beside (Session.beside_report _ _) rfl
  have second : Apart introduced.1 introduced.2 :=
    foldlM_ok (P := fun state => Apart state.1 state.2)
      (fun _ _ _ _ before introduced => before.introduce introduced) evaluated hi
  refine second.beside ((Session.beside_report _ entries).trans ?_) rfl
  exact Session.spans_beside.foldl
    (fun s (x : String × Nat) => Session.spans_beside.autoFetch s x.2) _ _

/-- A registry that has just been attached, as a derived definition finds it. -/
structure Begun (s : Session) (r : Registry α) (name : String) (derive : α → Option Config)
    (owner : α) : Prop where
  regular : Regular s r
  owned : r.owner = owner
  watcher : r.bridge.named name = [{ name, derive, last := derive owner }]
  absent : derive owner = none → value? r.resources name = none
  made : ∀ {c}, derive owner = some c → c.auto = true →
    ∃ handle, value? r.resources name = some handle ∧
      s.resources[handle]? = some ((LiveResource.fresh name c).spawn none).1

/-- Every derived definition has its watcher, and its first config has made a resource and started
one fetch. -/
theorem begun_attach {definitions : List (String × Definition α)}
    (names : (definitions.map (·.1)).Nodup) (mem : (name, .derived derive) ∈ definitions)
    (silent : ∀ x ∈ definitions, x.2.Silent) (vacant : s.Vacant) (runtime : s.hasRuntime = true)
    {id : String} {owner : α} (attached : attach s id owner definitions = .ok (s', r')) :
    Begun s' r' name derive owner := by
  obtain ⟨declared, introduced, entries, hd, hi, rfl, rfl⟩ := attach_ok attached
  have start : Regular s ({ id, owner } : Registry α) := by
    refine ⟨runtime, rfl, ?_, List.forall_mem_nil _, nofun, nofun⟩
    intro h live hl
    rw [vacant.resources] at hl
    cases hl
  obtain ⟨regular, named, unmade, hr⟩ := start.declares rfl rfl names mem silent hd
  have evaluated : Regular
      (declared.1.report (fireReport (declared.2.bridge.evaluate owner).2))
      { declared.2 with bridge := (declared.2.bridge.evaluate owner).1 } :=
    regular.beside (Session.beside_report _ _) (regular.silent.of_resources rfl)
      (regular.derives.evaluate owner) rfl rfl
  have fired := declared.2.bridge.fires_named owner name
  have refreshed := declared.2.bridge.named_evaluate owner name
  rw [named] at fired refreshed
  obtain ⟨regular', named', owner', absent, made⟩ := evaluated.introduces unmade fired
    (fun f hf c hc => regular.derives.fires hf hc) hi
  have reported := regular'.report entries
  refine
    { regular := reported.autoFetches _
      owned := owner'.trans hr
      watcher := ?_
      absent, made := fun {c} derived auto => ?_ }
  · rw [named', refreshed]
    cases derived : derive owner <;> simp [Bridge.refresh, derived, configChanged]
  · obtain ⟨handle, given, there⟩ := made c derived
    have mem : handle ∈ introduced.2.resources.map (·.2) :=
      List.mem_map_of_mem (Keyed.mem_of_value? given)
    refine ⟨handle, given, ?_⟩
    have there : (introduced.1.report entries).resources[handle]? = some (.fresh name c) := there
    rw [resources_autoFetches (apart_attach attached).once, there, Option.map_some,
      if_pos ⟨mem, reported.runtime, auto⟩]

/-- **A registry that is attached tracks every derived resource.** -/
theorem tracks_attach {definitions : List (String × Definition α)}
    (names : (definitions.map (·.1)).Nodup) (mem : (name, .derived derive) ∈ definitions)
    (silent : ∀ x ∈ definitions, x.2.Silent) (eager : ∀ owner c, derive owner = some c → c.Eager)
    (vacant : s.Vacant) (runtime : s.hasRuntime = true) {id : String} {owner : α}
    (attached : attach s id owner definitions = .ok (s', r')) :
    Tracks s' r' name derive (derive owner) ∧ r'.owner = owner := by
  have begun : Begun s' r' name derive owner :=
    begun_attach names mem silent vacant runtime attached
  refine ⟨⟨begun.regular, derive owner, begun.watcher, ?_, fun c hc _ => ⟨c, hc,
    c.structurallyEq_refl⟩⟩, begun.owned⟩
  cases derived : derive owner with
  | none => exact .unmade (begun.absent derived) rfl
  | some c =>
    have eager := eager owner c derived
    obtain ⟨handle, given, there⟩ := begun.made derived eager.auto
    refine .made given there (LiveResource.Plain.of_fresh eager.unguarded).spawn fun d hd => ?_
    cases hd
    exact ⟨rfl, LiveResource.newest_spawn _ none⟩

end Registry

end ReactiveResource
