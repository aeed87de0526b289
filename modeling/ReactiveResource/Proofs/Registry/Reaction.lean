import Mathlib.Data.List.Basic
import ReactiveResource.Proofs.Registry.Separation
import ReactiveResource.Proofs.Session.Routine

/-!
# What a change of the owner does to a name

When the owner's state is changed, each derived name reacts for itself: to what its watcher
remembers and to the config that is derived now, and to nothing else. Whether listeners operate on
resources does not matter, since none is run.

* `Registry.refusal?`: why a config would be refused for a name;
* `Registry.Reacts`: what becomes of the resource of a name and of what its watcher remembers;
* `Registry.Housed`, `Registry.Spares`: every name has a resource of its own, and an operation
  leaves the resource of a name alone;
* `Housed.reacts_mutate`, `Housed.failed_mutate`: each name reacts, and the first refusal is
  returned.
-/

namespace ReactiveResource

/-- The resource with one more fetch, if its config fetches by itself and there is a runtime. -/
def LiveResource.launched (r : LiveResource) (runtime : Bool) : LiveResource :=
  if runtime && r.resource.config.auto && !r.resource.retired then (r.spawn none).1 else r

theorem LiveResource.resource_launched (r : LiveResource) (runtime : Bool) :
    (r.launched runtime).resource = r.resource := by
  unfold launched
  split <;> rfl

namespace Session

variable {s s' : Session} {handle : Nat} {r : LiveResource}

theorem resources_fetch_if (hr : s.resources[handle]? = some r) :
    (s.fetch handle).resources[handle]? = some (if s.hasRuntime then (r.spawn none).1 else r) := by
  cases runtime : s.hasRuntime with
  | true => exact resources_fetch runtime hr
  | false =>
    rw [fetch, runtime]
    simp only [Bool.false_eq_true, if_false, hr]
    exact hr

/-- A fetch is started if the resource wants one. -/
theorem resources_launch (hr : s.resources[handle]? = some r) {wanted : Bool}
    (h : wanted = (r.resource.config.auto && !r.resource.retired)) :
    (if wanted then s.fetch handle else s).resources[handle]?
      = some (r.launched s.hasRuntime) := by
  subst h
  unfold LiveResource.launched
  rw [Bool.and_assoc]
  cases r.resource.config.auto && !r.resource.retired with
  | true => simpa using resources_fetch_if hr
  | false => simpa using hr

/-- An update that is accepted, with the fetch that comes of it. -/
theorem resources_update {config : Config} (hr : s.resources[handle]? = some r)
    (h : s.update handle config = .ok s') :
    ∃ r', r.update config = .ok r' ∧ s'.resources[handle]? = some (r'.launched s.hasRuntime) := by
  obtain ⟨resource, hu, rfl⟩ := update_ok hr h
  have acted : (r.act (.update config)).1 = { r with resource } := by
    simp only [LiveResource.act, LiveResource.update, hu]
    rfl
  have there := s.resources_store_self handle { r with resource } hr
  refine ⟨{ r with resource }, by rw [LiveResource.update, hu]; rfl, ?_⟩
  rw [acted, resources_launch there, hasRuntime_store]
  rw [(Resource.update_ok hu).2.2.1]

end Session

/-- Those that fire are watchers, in the order in which they have been registered. -/
theorem Bridge.names_fires {α : Type} (b : Bridge α) (owner : α) :
    ((b.evaluate owner).2.map (·.name)).Sublist b.names := by
  unfold evaluate names
  induction b.watchers with
  | nil => exact List.Sublist.refl []
  | cons w rest ih =>
    cases hf : fireOf owner w with
    | none =>
      rw [List.filterMap_cons_none hf]
      exact ih.cons _
    | some f =>
      rw [List.filterMap_cons_some hf, List.map_cons, (name_of_fireOf hf).1]
      exact ih.cons_cons _

/-- The config that the watcher of a name remembers, if it does. -/
def Bridge.remembered? {α : Type} (b : Bridge α) (name : String) : Option Config :=
  (b.named name).head?.bind (·.last)

namespace Registry

open Keyed (value?)

variable {α : Type} {s s' s'' : Session} {r r' r'' : Registry α} {name other : String}
  {derive : α → Option Config} {new old : Option Config}

/-! ### The reaction of a name -/

/-- The resource of a name with its fetches, if there is one. -/
def live? (s : Session) (r : Registry α) (name : String) : Option LiveResource :=
  (value? r.resources name).bind fun handle => s.resources[handle]?

/-- Why a config would be refused for a name: it has another method than the resource, or no method
if there is no resource yet. -/
def refusal? (name : String) (live : Option LiveResource) (c : Config) : Option ConfigError :=
  match live with
  | some live =>
    if c.method = live.resource.method then none
    else some (.methodChanged name live.resource.method c.method)
  | none => if Text.isBlank c.method then some (.missingMethod name) else none

/-- What becomes of the resource of a name, and of the config that its watcher remembers, when a
config is derived for it. -/
inductive Reacts (runtime : Bool) (name : String) (new : Option Config)
    (live : Option LiveResource) (last : Option Config) :
    Option LiveResource → Option Config → Prop
  /-- It is the config that the watcher remembers. -/
  | still (same : configChanged last new = false) : Reacts runtime name new live last live last
  /-- The config is refused. -/
  | refuse {c : Config} {e : ConfigError} (derived : new = some c)
      (refused : refusal? name live c = some e) : Reacts runtime name new live last live last
  /-- The resource is withdrawn. -/
  | withdraw (changed : configChanged last new = true) (unwanted : new = none) :
      Reacts runtime name new live last (live.map .cancel) none
  /-- The config makes the resource. -/
  | make {c : Config} (changed : configChanged last new = true) (derived : new = some c)
      (vacant : live = none) (accepted : refusal? name live c = none) :
      Reacts runtime name new live last
        (some ((LiveResource.fresh name c).launched runtime)) (some c)
  /-- The config takes the place of another; the current fetch is cancelled first if the watcher
  remembers a config. -/
  | replace {c : Config} {former latter : LiveResource} (changed : configChanged last new = true)
      (derived : new = some c) (there : live = some former) (accepted : refusal? name live c = none)
      (updated : (if last.isSome then former.cancel else former).update c = .ok latter) :
      Reacts runtime name new live last (some (latter.launched runtime)) (some c)

/-! ### Names and resources -/

/-- The registry is attached, and every name has a resource of its own, which has a method. -/
structure Housed (s : Session) (r : Registry α) : Prop where
  orderly : s.Orderly
  attached : r.attached = true
  present : ∀ {n h}, value? r.resources n = some h → ∃ live, s.resources[h]? = some live
  distinct : ∀ {m n h}, value? r.resources m = some h → value? r.resources n = some h → m = n
  named : ∀ {n h live}, value? r.resources n = some h → s.resources[h]? = some live →
    Text.isBlank live.resource.method = false

theorem live?_of_given {handle : Nat} (given : value? r.resources name = some handle) :
    live? s r name = s.resources[handle]? := by
  rw [live?, given]
  rfl

theorem live?_of_vacant (vacant : value? r.resources name = none) : live? s r name = none := by
  rw [live?, vacant]
  rfl

/-- Whatever happens in the session, names keep their resources. -/
theorem Housed.evolves {P : Action → Prop} (h : Housed s r) (evolves : s.Evolves P s')
    (resources : r'.resources = r.resources) (attached : r'.attached = r.attached) :
    Housed s' r' where
  orderly := evolves.orderly h.orderly
  attached := attached.trans h.attached
  present hv := by
    obtain ⟨live, hl⟩ := h.present (resources ▸ hv)
    obtain ⟨actions, -, hl'⟩ := evolves.old hl
    exact ⟨_, hl'⟩
  distinct hm hn := by
    rw [resources] at hm hn
    exact h.distinct hm hn
  named hv hl' := by
    obtain ⟨live, hl⟩ := h.present (resources ▸ hv)
    rw [evolves.method h.orderly hl hl']
    exact h.named (resources ▸ hv) hl

/-- No name has had a resource that is new. -/
theorem Housed.ne_new (h : Housed s r) {other : String} {config : Config} {handle : Nat}
    (made : s.create name config = .ok (s', handle)) : value? r.resources other ≠ some handle := by
  intro hv
  obtain ⟨live, hl⟩ := h.present hv
  cases (Session.new_of_create made).symm.trans hl

/-- One name is given a new resource. -/
theorem Housed.define (h : Housed s r) {config : Config} {handle : Nat}
    (made : s.create name config = .ok (s', handle)) :
    Housed s' { r with resources := Keyed.put r.resources name handle } := by
  have kept := h.evolves (Session.beside_create made).evolves rfl rfl
  have here := Session.resources_create made
  refine ⟨kept.orderly, h.attached, fun hv => ?_,
    Keyed.distinct_put h.distinct fun _ => h.ne_new made, fun hv hl => ?_⟩
  · rcases Keyed.value?_put_eq_some hv with ⟨-, rfl⟩ | ⟨-, hv⟩
    · exact ⟨_, here⟩
    · exact kept.present hv
  · rcases Keyed.value?_put_eq_some hv with ⟨-, rfl⟩ | ⟨-, hv⟩
    · cases here.symm.trans hl
      exact (Session.create_ok made).1
    · exact kept.named hv hl

/-- The names keep resources of their own when another config is derived for one. -/
theorem Housed.apply (h : Housed s r) (applied : r.apply s name new old = .ok (s', r')) :
    Housed s' r' := by
  have evolves := (Session.spans_beside.apply applied).evolves
  cases apply_ok applied with
  | idle => exact h
  | withdraw => exact h.evolves evolves rfl rfl
  | @make config _ created handle _ _ made =>
    have first := h.define made
    split
    · exact first.evolves (Session.beside_fetch created handle).evolves rfl rfl
    · exact first
  | replace => exact h.evolves evolves rfl rfl

/-- An operation leaves the watchers and the resource of a name alone. -/
structure Spares (name : String) (s : Session) (r : Registry α) (s' : Session) (r' : Registry α) :
    Prop where
  watchers : r'.bridge.named name = r.bridge.named name
  handle : value? r'.resources name = value? r.resources name
  live : live? s' r' name = live? s r name

theorem Spares.refl (name : String) (s : Session) (r : Registry α) : Spares name s r s r :=
  ⟨rfl, rfl, rfl⟩

theorem Spares.trans (h : Spares name s r s' r') (h' : Spares name s' r' s'' r'') :
    Spares name s r s'' r'' :=
  ⟨h'.watchers.trans h.watchers, h'.handle.trans h.handle, h'.live.trans h.live⟩

/-- An operation on the resource of another name. -/
theorem spares_of_sameBut {handle : Nat} (same : s.SameBut handle s')
    (elsewhere : value? r.resources name ≠ some handle) (watchers : r'.bridge = r.bridge)
    (kept : value? r'.resources name = value? r.resources name) : Spares name s r s' r' := by
  refine ⟨by rw [watchers], kept, ?_⟩
  cases hv : value? r.resources name with
  | none => rw [live?_of_vacant hv, live?_of_vacant (kept.trans hv)]
  | some i =>
    rw [live?_of_given hv, live?_of_given (kept.trans hv)]
    exact same i fun hi => elsewhere (hi ▸ hv)

/-- A config that is derived for another name leaves a name alone. -/
theorem Housed.spares_apply (h : Housed s r) (hne : other ≠ name)
    (applied : r.apply s other new old = .ok (s', r')) : Spares name s r s' r' := by
  have elsewhere {handle : Nat} (given : value? r.resources other = some handle) :
      value? r.resources name ≠ some handle := fun hv => hne (h.distinct given hv)
  cases apply_ok applied with
  | idle => exact .refl name s r
  | @withdraw _ handle entries _ given =>
    exact spares_of_sameBut (Session.sameBut_cancel (s.report entries) handle) (elsewhere given)
      rfl rfl
  | @make config _ created handle _ _ made =>
    have beyond : value? r.resources name ≠ some handle := h.ne_new made
    have kept := Keyed.value?_put_of_ne r.resources handle hne
    have created := Session.sameBut_create made
    split
    · exact spares_of_sameBut (created.trans (Session.sameBut_fetch _ handle)) beyond rfl kept
    · exact spares_of_sameBut created beyond rfl kept
  | @replace config _ handle _ _ _ given _ _ taken =>
    split at taken
    · have sameBut := (Session.sameBut_cancel s handle).trans (Session.sameBut_update taken)
      exact spares_of_sameBut sameBut (elsewhere given) rfl rfl
    · exact spares_of_sameBut (Session.sameBut_update taken) (elsewhere given) rfl rfl

/-! ### A watcher fires -/

theorem refusal?_of_vacant {c : Config} (named : Text.isBlank c.method = false) :
    refusal? name none c = none := by simp [refusal?, named]

theorem refusal?_of_method {live : LiveResource} {c : Config}
    (method : c.method = live.resource.method) : refusal? name (some live) c = none := by
  simp [refusal?, method]

/-- What would be refused stays the same, whatever happens in the session. -/
theorem Housed.refusal?_evolves {P : Action → Prop} (h : Housed s r) (evolves : s.Evolves P s')
    (c : Config) : refusal? name (live? s' r name) c = refusal? name (live? s r name) c := by
  cases given : value? r.resources name with
  | none => rw [live?_of_vacant given, live?_of_vacant given]
  | some handle =>
    obtain ⟨live, there⟩ := h.present given
    obtain ⟨live', there'⟩ := (h.evolves evolves rfl rfl).present given
    rw [live?_of_given given, live?_of_given given, there, there', refusal?, refusal?,
      evolves.method h.orderly there there']

/-- A config that is accepted is not refused. -/
theorem Housed.refusal?_of_ok (h : Housed s r) (applied : r.apply s name new old = .ok (s', r')) :
    new.bind (refusal? name (live? s r name)) = none := by
  cases apply_ok applied with
  | idle moot =>
    rcases moot h.attached with ⟨rfl, -⟩ | ⟨handle, given, gone⟩
    · rfl
    · obtain ⟨live, there⟩ := h.present given
      cases gone.symm.trans there
  | withdraw => rfl
  | make _ vacant made =>
    rw [live?_of_vacant vacant]
    exact refusal?_of_vacant (Session.create_ok made).1
  | replace _ given there method =>
    rw [live?_of_given given, there]
    exact refusal?_of_method method

/-- An error says why the config is refused. -/
theorem Housed.refusal?_of_error (h : Housed s r) {e : ConfigError}
    (failed : r.apply s name new old = .error e) :
    new.bind (refusal? name (live? s r name)) = some e := by
  rw [Registry.apply, if_neg (by simp [h.attached])] at failed
  cases hv : value? r.resources name with
  | none =>
    rw [hv] at failed
    cases new with
    | none => cases failed
    | some c =>
      rw [live?_of_vacant hv]
      simp only [Session.create, Resource.create] at failed
      cases blank : Text.isBlank c.method with
      | true =>
        rw [blank] at failed
        cases failed
        simp [refusal?, blank]
      | false =>
        rw [blank] at failed
        cases failed
  | some handle =>
    rw [hv] at failed
    cases new with
    | none => cases failed
    | some c =>
      obtain ⟨live, there⟩ := h.present hv
      rw [live?_of_given hv, there]
      by_cases method : c.method = live.resource.method
      · -- then it would have been accepted
        obtain ⟨s', r', applied⟩ : ∃ s' r', r.apply s name (some c) old = .ok (s', r') :=
          exists_apply_ok hv there (method ▸ h.named hv there) method
        rw [Registry.apply, if_neg (by simp [h.attached]), hv] at applied
        cases failed.symm.trans applied
      · simp only [there, if_pos method] at failed
        cases failed
        simp [refusal?, method]

/-- The config that a watcher derives for its name takes effect. -/
theorem Housed.reacts_apply (h : Housed s r) (changed : configChanged old new = true)
    (applied : r.apply s name new old = .ok (s', r')) :
    Reacts s.hasRuntime name new (live? s r name) old (live? s' r' name) new := by
  have accepted := h.refusal?_of_ok applied
  cases apply_ok applied with
  | idle moot =>
    rcases moot h.attached with ⟨rfl, vacant⟩ | ⟨handle, given, gone⟩
    · rw [live?_of_vacant vacant]
      exact .withdraw changed rfl
    · obtain ⟨live, there⟩ := h.present given
      cases gone.symm.trans there
  | withdraw entries _ given =>
    obtain ⟨live, there⟩ := h.present given
    have there' : (s.report entries).resources[_]? = some live := there
    rw [live?_of_given given, live?_of_given given, there, Session.resources_cancel there']
    exact .withdraw changed rfl
  | @make config _ created handle _ vacant made =>
    rw [live?_of_vacant vacant] at accepted ⊢
    have there := Session.resources_create made
    have runtime : created.hasRuntime = s.hasRuntime := (Session.beside_create made).runtime
    rw [live?_of_given (Keyed.value?_put_self _ _ _), Session.resources_launch there
      (by simp [LiveResource.fresh, LiveResource.ofResource, Resource.fresh]), runtime]
    exact .make changed rfl rfl accepted
  | @replace config _ handle live _ _ given there _ taken =>
    rw [live?_of_given given, there] at accepted ⊢
    rw [live?_of_given given]
    cases old with
    | none =>
      obtain ⟨latter, updated, there'⟩ := Session.resources_update there taken
      rw [there']
      exact .replace changed rfl rfl accepted updated
    | some known =>
      have differs : (!known.structurallyEq config) = true := changed
      simp only [Option.any_some, differs, if_true] at taken
      obtain ⟨latter, updated, there'⟩ :=
        Session.resources_update (Session.resources_cancel there) taken
      rw [there', (Session.beside_cancel s handle).runtime]
      exact .replace changed rfl rfl accepted updated

/-- A name keeps the resource that it has, whichever name a config is derived for. -/
theorem handle_apply {handle : Nat} (given : value? r.resources name = some handle)
    (applied : r.apply s other new old = .ok (s', r')) :
    value? r'.resources name = some handle := by
  cases apply_ok applied with
  | make _ vacant =>
    by_cases hne : other = name
    · subst hne
      cases given.symm.trans vacant
    · exact (Keyed.value?_put_of_ne _ _ hne).trans given
  | _ => exact given

section Respond

variable {f : WatcherFire} {failed : Option ConfigError}

theorem Housed.respond (h : Housed s r) (failed : Option ConfigError) (f : WatcherFire) :
    Housed (respond (s, r, failed) f).1 (respond (s, r, failed) f).2.1 := by
  rw [Registry.respond]
  split
  · next applied => exact h.apply applied
  · exact h.evolves (Session.beside_report s _).evolves rfl rfl

theorem Housed.spares_respond (h : Housed s r) (failed : Option ConfigError) (hne : f.name ≠ name) :
    Spares name s r (Registry.respond (s, r, failed) f).1
      (Registry.respond (s, r, failed) f).2.1 := by
  rw [Registry.respond]
  split
  · next applied => exact h.spares_apply hne applied
  · exact ⟨Bridge.named_restore_of_ne hne _, rfl, rfl⟩

/-- The first refusal is kept. -/
theorem Housed.failed_respond (h : Housed s r) (failed : Option ConfigError) (f : WatcherFire) :
    (Registry.respond (s, r, failed) f).2.2
      = failed.or (f.new.bind (refusal? f.name (live? s r f.name))) := by
  rw [Registry.respond]
  split
  · next applied => rw [h.refusal?_of_ok applied, Option.or_none]
  · next refused =>
    rw [h.refusal?_of_error refused]
    cases failed <;> rfl

/-- The watcher of the name fires. -/
theorem Housed.reacts_respond (h : Housed s r) (changed : configChanged old new = true)
    (named : r.bridge.named name = [{ name, derive, last := new }]) (failed : Option ConfigError) :
    ∃ last, (Registry.respond (s, r, failed) { name, new, old }).2.1.bridge.named name
        = [{ name, derive, last }] ∧
      Reacts s.hasRuntime name new (live? s r name) old
        (live? (Registry.respond (s, r, failed) { name, new, old }).1
          (Registry.respond (s, r, failed) { name, new, old }).2.1 name) last := by
  rw [Registry.respond]
  split
  · next s' r' applied =>
    have bridge : r'.bridge = r.bridge := by rw [registry_apply applied]
    exact ⟨new, by rw [bridge, named], h.reacts_apply changed applied⟩
  · next e refused =>
    obtain ⟨c, derived, refused⟩ := Option.bind_eq_some_iff.1 (h.refusal?_of_error refused)
    exact ⟨old, Bridge.named_restore_self named old, .refuse derived refused⟩

theorem handle_respond {handle : Nat} (given : value? r.resources name = some handle)
    (failed : Option ConfigError) (f : WatcherFire) :
    value? (respond (s, r, failed) f).2.1.resources name = some handle := by
  rw [respond]
  split
  · next applied => exact handle_apply given applied
  · exact given

end Respond

/-! ### All watchers that fire -/

section Responds

variable {fires : List WatcherFire}

theorem Housed.responds (h : Housed s r) (failed : Option ConfigError) (fires : List WatcherFire) :
    Housed (fires.foldl Registry.respond (s, r, failed)).1
      (fires.foldl Registry.respond (s, r, failed)).2.1 := by
  induction fires generalizing s r failed with
  | nil => exact h
  | cons f rest ih => exact ih (h.respond failed f) _

theorem Housed.spares_responds (h : Housed s r) (hne : ∀ f ∈ fires, f.name ≠ name)
    (failed : Option ConfigError) :
    Spares name s r (fires.foldl Registry.respond (s, r, failed)).1
      (fires.foldl Registry.respond (s, r, failed)).2.1 := by
  induction fires generalizing s r failed with
  | nil => exact .refl name s r
  | cons f rest ih =>
    rw [List.forall_mem_cons] at hne
    exact (h.spares_respond failed hne.1).trans (ih (h.respond failed f) hne.2 _)

theorem handle_responds {handle : Nat} (given : value? r.resources name = some handle)
    (failed : Option ConfigError) (fires : List WatcherFire) :
    value? (fires.foldl respond (s, r, failed)).2.1.resources name = some handle := by
  induction fires generalizing s r failed with
  | nil => exact given
  | cons f rest ih => exact ih (handle_respond given failed f) _

/-- Why the config of a watcher that fires would be refused. -/
def refusalOf (s : Session) (r : Registry α) (f : WatcherFire) : Option ConfigError :=
  f.new.bind (refusal? f.name (live? s r f.name))

/-- The first refusal is returned, no matter what the watchers before it have done. -/
theorem Housed.failed_responds (h : Housed s r) (names : (fires.map (·.name)).Nodup)
    (failed : Option ConfigError) :
    (fires.foldl Registry.respond (s, r, failed)).2.2
      = failed.or (fires.filterMap (refusalOf s r)).head? := by
  induction fires generalizing s r failed with
  | nil => simp
  | cons f rest ih =>
    rw [List.map_cons, List.nodup_cons] at names
    have first := h.failed_respond failed f
    -- the others have other names, and are refused for the same reasons as before
    have same : rest.filterMap (refusalOf (Registry.respond (s, r, failed) f).1
        (Registry.respond (s, r, failed) f).2.1) = rest.filterMap (refusalOf s r) := by
      refine List.filterMap_congr fun g hg => ?_
      have hne : f.name ≠ g.name := fun he => names.1 (he ▸ List.mem_map_of_mem hg)
      rw [refusalOf, refusalOf, (h.spares_respond failed hne).live]
    rw [List.foldl_cons, ih (h.respond failed f) names.2, same, first]
    rw [Option.or_assoc, List.filterMap_cons, refusalOf]
    cases f.new.bind (refusal? f.name (live? s r f.name)) <;> rfl

/-- The watcher of a name fires if what it derives has changed, between the watchers of others. -/
theorem Housed.reacts_responds {last : Option Config} (h : Housed s r) {owner : α}
    (named : r.bridge.named name = [{ name, derive, last }].map (Bridge.refresh owner))
    (fired : fires.filter (fun f => f.name = name)
      = [{ name, derive, last }].filterMap (Bridge.fireOf owner)) (failed : Option ConfigError) :
    ∃ last', (fires.foldl Registry.respond (s, r, failed)).2.1.bridge.named name
        = [{ name, derive, last := last' }] ∧
      Reacts s.hasRuntime name (derive owner) (live? s r name) last
        (live? (fires.foldl Registry.respond (s, r, failed)).1
          (fires.foldl Registry.respond (s, r, failed)).2.1 name) last' := by
  cases changed : configChanged last (derive owner) with
  | false =>
    have others : ∀ f ∈ fires, f.name ≠ name := by
      have none : fires.filter (fun f => f.name = name) = [] := by
        rw [fired]
        simp [Bridge.fireOf, changed]
      simpa using List.filter_eq_nil_iff.1 none
    have spares := h.spares_responds others failed
    refine ⟨last, ?_, spares.live ▸ .still changed⟩
    rw [spares.watchers, named]
    simp [Bridge.refresh, changed]
  | true =>
    have own : fires.filter (fun f => f.name = name)
        = [{ name, new := derive owner, old := last }] := by
      rw [fired]
      simp [Bridge.fireOf, changed]
    obtain ⟨before, later, rfl, hbefore, -, hlater⟩ := List.filter_eq_cons_iff.1 own
    have hbefore : ∀ f ∈ before, f.name ≠ name := by simpa using hbefore
    have hlater : ∀ f ∈ later, f.name ≠ name := by simpa using List.filter_eq_nil_iff.1 hlater
    rw [List.foldl_append, List.foldl_cons]
    have first := h.spares_responds hbefore failed
    have housed := h.responds failed before
    have runtime : (before.foldl Registry.respond (s, r, failed)).1.hasRuntime = s.hasRuntime :=
      (Session.spans_beside.responds (s, r, failed) before).runtime
    generalize before.foldl Registry.respond (s, r, failed) = state at first housed runtime ⊢
    obtain ⟨s', r', failed'⟩ := state
    have first : Spares name s r s' r' := first
    have housed : Housed s' r' := housed
    have remembered : r'.bridge.named name = [{ name, derive, last := derive owner }] := by
      rw [first.watchers, named]
      simp [Bridge.refresh, changed]
    obtain ⟨last', kept, reacts⟩ := housed.reacts_respond changed remembered failed'
    have answered := housed.respond failed' { name, new := derive owner, old := last }
    rw [first.live] at reacts
    generalize Registry.respond (s', r', failed') _ = state at kept reacts answered ⊢
    have rest := answered.spares_responds hlater state.2.2
    exact ⟨last', rest.watchers.trans kept, by rw [rest.live, ← runtime]; exact reacts⟩

end Responds

/-! ### The owner's state is changed -/

/-- The watchers have been evaluated for a state of the owner. -/
def evaluated (r : Registry α) (owner : α) : Registry α :=
  { r with owner, bridge := (r.bridge.evaluate owner).1 }

theorem mutateOwner_of_attached (attached : r.attached = true) (change : α → α) :
    r.mutateOwner s change = (r.bridge.evaluate (change r.owner)).2.foldl respond
      (s.report (fireReport (r.bridge.evaluate (change r.owner)).2),
        r.evaluated (change r.owner), none) := by
  rw [mutateOwner, if_neg (by simp [attached])]
  rfl

section Mutate

variable {last : Option Config}

theorem Housed.evaluated (h : Housed s r) (entries : List LogEntry) (owner : α) :
    Housed (s.report entries) (r.evaluated owner) :=
  h.evolves (Session.beside_report s entries).evolves rfl rfl

theorem Housed.mutate (h : Housed s r) (change : α → α) :
    Housed (r.mutateOwner s change).1 (r.mutateOwner s change).2.1 := by
  rw [mutateOwner_of_attached h.attached]
  exact (h.evaluated _ _).responds none _

theorem Regular.mutate (h : Regular s r) (change : α → α) :
    Regular (r.mutateOwner s change).1 (r.mutateOwner s change).2.1 := by
  rw [mutateOwner_of_attached h.attached]
  have evaluated : Regular (s.report (fireReport (r.bridge.evaluate (change r.owner)).2))
      (r.evaluated (change r.owner)) :=
    h.beside (Session.beside_report s _) (h.silent.of_resources rfl) (h.derives.evaluate _) rfl rfl
  exact evaluated.responds (fun f hf c hc => h.derives.fires hf hc) none

/-- **A name reacts for itself.** -/
theorem Housed.reacts_mutate (h : Housed s r)
    (named : r.bridge.named name = [{ name, derive, last }]) (change : α → α) :
    ∃ last', (r.mutateOwner s change).2.1.bridge.named name
        = [{ name, derive, last := last' }] ∧
      Reacts s.hasRuntime name (derive (change r.owner)) (live? s r name) last
        (live? (r.mutateOwner s change).1 (r.mutateOwner s change).2.1 name) last' := by
  rw [mutateOwner_of_attached h.attached]
  exact (h.evaluated (fireReport (r.bridge.evaluate (change r.owner)).2) _).reacts_responds
    (named ▸ r.bridge.named_evaluate (change r.owner) name)
    (named ▸ r.bridge.fires_named (change r.owner) name) none

/-- A name without a watcher is left alone. -/
theorem Housed.spares_mutate (h : Housed s r) (unwatched : r.bridge.named name = [])
    (change : α → α) :
    Spares name s r (r.mutateOwner s change).1 (r.mutateOwner s change).2.1 := by
  have others : ∀ f ∈ (r.bridge.evaluate (change r.owner)).2, f.name ≠ name := by
    have none := r.bridge.fires_named (change r.owner) name
    rw [unwatched] at none
    simpa using List.filter_eq_nil_iff.1 none
  rw [mutateOwner_of_attached h.attached]
  have begun : Spares name s r (s.report (fireReport (r.bridge.evaluate (change r.owner)).2))
      (r.evaluated (change r.owner)) := by
    refine ⟨?_, rfl, rfl⟩
    rw [Registry.evaluated, r.bridge.named_evaluate, unwatched]
    rfl
  exact begun.trans ((h.evaluated _ _).spares_responds others none)

theorem handle_mutate {handle : Nat} (attached : r.attached = true)
    (given : value? r.resources name = some handle) (change : α → α) :
    value? (r.mutateOwner s change).2.1.resources name = some handle := by
  rw [mutateOwner_of_attached attached]
  exact handle_responds (r := r.evaluated _) given none _

theorem owner_mutate (r : Registry α) (s : Session) (change : α → α) :
    (r.mutateOwner s change).2.1.owner = change r.owner := by
  have responds (state : Session × Registry α × Option ConfigError) (fires : List WatcherFire) :
      (fires.foldl respond state).2.1.owner = state.2.1.owner := by
    induction fires generalizing state with
    | nil => rfl
    | cons f rest ih =>
      refine (ih _).trans ?_
      obtain ⟨s, r, failed⟩ := state
      obtain ⟨name, new, old⟩ := f
      rw [respond]
      simp only
      split
      · next applied => rw [registry_apply applied]
      · rfl
  rw [mutateOwner]
  simp only
  split
  · rfl
  · exact responds _ _

/-- **The first refusal is returned.** -/
theorem Housed.failed_mutate (h : Housed s r) (names : r.bridge.names.Nodup) (change : α → α) :
    (r.mutateOwner s change).2.2
      = ((r.bridge.evaluate (change r.owner)).2.filterMap (refusalOf s r)).head? := by
  have distinct : ((r.bridge.evaluate (change r.owner)).2.map (·.name)).Nodup :=
    names.sublist (Bridge.names_fires r.bridge (change r.owner))
  rw [mutateOwner_of_attached h.attached, (h.evaluated _ _).failed_responds distinct]
  rfl

end Mutate

end Registry

end ReactiveResource
