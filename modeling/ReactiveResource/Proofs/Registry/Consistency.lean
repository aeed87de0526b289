import Mathlib.Data.List.Nodup
import ReactiveResource.Proofs.Config.Equality
import ReactiveResource.Proofs.Registry.Reaction

/-!
# Watchers, owner and resources stay consistent

What a watcher remembers is the config of its resource. It is brought up to date before the watcher
fires and is taken back when the config is refused, so that it stays so whatever happens, as long as
nobody but the registry updates a resource.

* `watched`: the derived definitions, in order;
* `Registry.Heeded`: watchers and resources agree, as every deed leaves them (`heeded_after`);
* `World.Consistent`, `mutate_consistent`: what a change of the owner does to all definitions.
-/

namespace ReactiveResource

open Keyed (value?)

/-- The derived definitions, in order. -/
def watched {α : Type} (definitions : List (String × Definition α)) :
    List (String × (α → Option Config)) :=
  definitions.filterMap fun
    | (name, .derived derive) => some (name, derive)
    | (_, .fixed _) => none

section Watched

variable {α : Type} {definitions : List (String × Definition α)} {name : String}
  {derive : α → Option Config}

theorem mem_watched :
    (name, derive) ∈ watched definitions ↔ (name, .derived derive) ∈ definitions := by
  simp only [watched, List.mem_filterMap]
  constructor
  · rintro ⟨⟨other, fixed | derived⟩, mem, h⟩
    · cases h
    · cases h
      exact mem
  · exact fun mem => ⟨_, mem, rfl⟩

theorem names_watched (definitions : List (String × Definition α)) :
    ((watched definitions).map (·.1)).Sublist (definitions.map (·.1)) := by
  induction definitions with
  | nil => exact .refl []
  | cons x rest ih =>
    obtain ⟨name, fixed | derive⟩ := x
    · exact ih.cons name
    · exact ih.cons_cons name

end Watched

/-- Listeners make no difference to whether configs agree. -/
theorem Config.structurallyEq_of_bare {c c' d d' : Config} (hc : c.bare = c'.bare)
    (hd : d.bare = d'.bare) : c.structurallyEq d = c'.structurallyEq d' := by
  show c.bare.structurallyEq d.bare = c'.bare.structurallyEq d'.bare
  rw [hc, hd]

namespace Bridge

variable {α : Type} {b : Bridge α} {name : String} {derive : α → Option Config}

/-- The watchers as they have been registered. -/
def declared (b : Bridge α) : List (String × (α → Option Config)) :=
  b.watchers.map fun w => (w.name, w.derive)

theorem names_declared (b : Bridge α) : b.declared.map (·.1) = b.names := by
  simp [declared, names, Function.comp_def]

theorem declared_register (b : Bridge α) (name : String) (derive : α → Option Config) :
    (b.register name derive).declared = b.declared ++ [(name, derive)] := by
  simp [declared, register]

theorem declared_evaluate (b : Bridge α) (owner : α) :
    (b.evaluate owner).1.declared = b.declared := by
  simp [declared, evaluate, Function.comp_def, name_refresh, derive_refresh]

theorem declared_restore (b : Bridge α) (name : String) (config : Option Config) :
    (b.restore name config).declared = b.declared := by
  unfold declared restore
  induction b.watchers with
  | nil => rfl
  | cons w rest ih =>
    simp only [restoreIn] at ih ⊢
    split
    · rfl
    · simp only [List.map_cons, ih]

/-- A watcher is the only one of its name. -/
theorem named_of_mem (names : b.names.Nodup) {w : Watcher α} (mem : w ∈ b.watchers) :
    b.named w.name = [w] := by
  unfold Bridge.names at names
  unfold named
  generalize b.watchers = watchers at names mem
  induction watchers with
  | nil => cases mem
  | cons v rest ih =>
    rw [List.map_cons, List.nodup_cons] at names
    rcases List.mem_cons.1 mem with rfl | mem
    · rw [List.filter_cons, if_pos (by simp), List.filter_eq_nil_iff.2]
      intro v hv
      have hne : v.name ≠ w.name := fun he => names.1 (he ▸ List.mem_map_of_mem hv)
      simpa using hne
    · have hne : v.name ≠ w.name := fun he => names.1 (he ▸ List.mem_map_of_mem mem)
      rw [List.filter_cons, if_neg (by simpa using hne), ih names.2 mem]

theorem named_of_declared (names : b.names.Nodup) (mem : (name, derive) ∈ b.declared) :
    ∃ last, b.named name = [{ name, derive, last }] := by
  obtain ⟨w, hw, he⟩ := List.mem_map.1 mem
  cases he
  exact ⟨w.last, named_of_mem names hw⟩

/-- A name has one watcher at most. -/
theorem named_cases (names : b.names.Nodup) (name : String) :
    b.named name = [] ∨ ∃ derive last, b.named name = [{ name, derive, last }] := by
  cases h : b.named name with
  | nil => exact .inl rfl
  | cons w rest =>
    have mem : w ∈ b.named name := h ▸ List.mem_cons_self
    obtain ⟨hw, hn⟩ := List.mem_filter.1 mem
    have hn : w.name = name := by simpa using hn
    subst hn
    rw [named_of_mem names hw] at h
    exact .inr ⟨w.derive, w.last, h.symm⟩

theorem remembered?_of_named {w : Watcher α} (named : b.named name = [w]) :
    b.remembered? name = w.last := by
  rw [remembered?, named]
  rfl

theorem remembered?_of_unwatched (unwatched : b.named name = []) : b.remembered? name = none := by
  rw [remembered?, unwatched]
  rfl

/-- After the first evaluation those fire that remember a config. -/
theorem remembered?_evaluate (names : b.names.Nodup) (blank : ∀ w ∈ b.watchers, w.last = none)
    (owner : α) :
    (∀ f ∈ (b.evaluate owner).2, (b.evaluate owner).1.remembered? f.name = f.new) ∧
      ∀ {name m}, (b.evaluate owner).1.remembered? name = some m →
        ∃ f ∈ (b.evaluate owner).2, f.name = name := by
  -- a watcher that has remembered nothing remembers what it derives
  have first {w : Watcher α} (hw : w ∈ b.watchers) :
      (b.evaluate owner).1.remembered? w.name = w.derive owner := by
    have named : (b.evaluate owner).1.named w.name = [refresh owner w] := by
      rw [named_evaluate, named_of_mem names hw]
      rfl
    rw [Bridge.remembered?_of_named named, refresh, blank w hw]
    cases w.derive owner <;> simp [configChanged, blank w hw]
  refine ⟨fun f hf => ?_, fun {name m} hm => ?_⟩
  · obtain ⟨w, hw, fired⟩ := List.mem_filterMap.1 hf
    obtain ⟨name, new⟩ := name_of_fireOf fired
    rw [name, first hw, new]
  · rcases named_cases names name with none | ⟨derive, last, named⟩
    · have unwatched : (b.evaluate owner).1.named name = [] := by
        rw [named_evaluate, none]
        rfl
      rw [Bridge.remembered?_of_unwatched unwatched] at hm
      cases hm
    · have mem : (⟨name, derive, last⟩ : Watcher α) ∈ b.named name := by simp [named]
      have hw := (List.mem_filter.1 mem).1
      have derived : derive owner = some m := (first hw).symm.trans hm
      have none : last = none := blank _ hw
      subst none
      refine ⟨⟨name, some m, none⟩, List.mem_filterMap.2 ⟨_, hw, ?_⟩, rfl⟩
      simp [fireOf, derived, configChanged]

end Bridge

namespace Registry

variable {α : Type} {s s' : Session} {r r' : Registry α} {name : String}
  {derive : α → Option Config}

theorem declared_respond (state : Session × Registry α × Option ConfigError) (f : WatcherFire) :
    (respond state f).2.1.bridge.declared = state.2.1.bridge.declared := by
  obtain ⟨s, r, failed⟩ := state
  obtain ⟨name, new, old⟩ := f
  rw [respond]
  simp only
  split
  · next applied => rw [registry_apply applied]
  · exact r.bridge.declared_restore name old

/-- Watchers are neither added nor lost while they fire. -/
theorem declared_responds (state : Session × Registry α × Option ConfigError)
    (fires : List WatcherFire) :
    (fires.foldl respond state).2.1.bridge.declared = state.2.1.bridge.declared := by
  induction fires generalizing state with
  | nil => rfl
  | cons f rest ih => exact (ih _).trans (declared_respond state f)

theorem declared_mutate (attached : r.attached = true) (change : α → α) :
    (r.mutateOwner s change).2.1.bridge.declared = r.bridge.declared := by
  rw [mutateOwner_of_attached attached, declared_responds]
  exact r.bridge.declared_evaluate (change r.owner)

/-! ### What every deed leaves -/

/-- The watchers are those of the derived definitions, and the fixed definitions have resources. -/
structure Enrolled (definitions : List (String × Definition α)) (s : Session) (r : Registry α) :
    Prop where
  housed : Housed s r
  declared : r.bridge.declared = watched definitions
  fixed : ∀ {name config}, (name, .fixed config) ∈ definitions →
    ∃ handle, value? r.resources name = some handle

/-- The config that a watcher remembers is that of its resource. -/
structure Heeded (definitions : List (String × Definition α)) (s : Session) (r : Registry α) :
    Prop where
  enrolled : Enrolled definitions s r
  remembered : ∀ {name m}, r.bridge.remembered? name = some m →
    ∃ live, live? s r name = some live ∧ live.resource.config.bare = m.bare

section Heeded

variable {definitions : List (String × Definition α)} {live : Option LiveResource}
  {last new : Option Config}

theorem Enrolled.names (h : Enrolled definitions s r) (names : (definitions.map (·.1)).Nodup) :
    r.bridge.names.Nodup := by
  rw [← Bridge.names_declared, h.declared]
  exact names.sublist (names_watched definitions)

theorem Enrolled.named (h : Enrolled definitions s r) (names : (definitions.map (·.1)).Nodup)
    (mem : (name, .derived derive) ∈ definitions) :
    ∃ last, r.bridge.named name = [{ name, derive, last }] :=
  Bridge.named_of_declared (h.names names) (h.declared ▸ mem_watched.2 mem)

/-- A fixed definition has no watcher. -/
theorem Enrolled.unwatched (h : Enrolled definitions s r) (names : (definitions.map (·.1)).Nodup)
    {config : Config} (mem : (name, .fixed config) ∈ definitions) : r.bridge.named name = [] := by
  refine (Bridge.named_cases (h.names names) name).resolve_right ?_
  rintro ⟨derive, last, named⟩
  have own : (name, derive) ∈ r.bridge.declared := by
    have mem : (⟨name, derive, last⟩ : Watcher α) ∈ r.bridge.named name := by simp [named]
    exact List.mem_map.2 ⟨_, (List.mem_filter.1 mem).1, rfl⟩
  rw [h.declared, mem_watched] at own
  have same := List.inj_on_of_nodup_map names mem own rfl
  cases same

/-- The config that is remembered after a reaction is that of the resource, if it was so before. -/
theorem Reacts.remembered {runtime : Bool} {last' : Option Config}
    {live' : Option LiveResource} (h : Reacts runtime name new live last live' last')
    (before : ∀ m, last = some m → ∃ l, live = some l ∧ l.resource.config.bare = m.bare) :
    ∀ m, last' = some m → ∃ l, live' = some l ∧ l.resource.config.bare = m.bare := by
  cases h with
  | still | refuse => exact before
  | withdraw => rintro m ⟨⟩
  | make =>
    rintro m ⟨⟩
    exact ⟨_, rfl, by rw [LiveResource.resource_launched]; rfl⟩
  | replace _ _ _ _ updated =>
    rintro m ⟨⟩
    obtain ⟨resource, hu, rfl⟩ := LiveResource.update_ok updated
    exact ⟨_, rfl, by rw [LiveResource.resource_launched, (Resource.update_ok hu).2.2.1]⟩

/-- What a change of the owner preserves. -/
theorem Heeded.mutate (h : Heeded definitions s r) (names : (definitions.map (·.1)).Nodup)
    (change : α → α) :
    Heeded definitions (r.mutateOwner s change).1 (r.mutateOwner s change).2.1 where
  enrolled :=
    { housed := h.enrolled.housed.mutate change
      declared := (declared_mutate h.enrolled.housed.attached change).trans h.enrolled.declared
      fixed := fun mem => by
        obtain ⟨handle, given⟩ := h.enrolled.fixed mem
        exact ⟨handle, handle_mutate h.enrolled.housed.attached given change⟩ }
  remembered {name m} hm := by
    have housed := h.enrolled.housed
    rcases Bridge.named_cases (h.enrolled.names names) name with none | ⟨derive, last, named⟩
    · have unwatched := (housed.spares_mutate none change).watchers.trans none
      rw [Bridge.remembered?_of_unwatched unwatched] at hm
      cases hm
    · obtain ⟨last', named', reacts⟩ := housed.reacts_mutate named change
      rw [Bridge.remembered?_of_named named'] at hm
      refine reacts.remembered (fun m hm => ?_) m hm
      exact h.remembered ((Bridge.remembered?_of_named named).trans hm)

/-- What any step preserves but an update. -/
theorem Heeded.evolves (h : Heeded definitions s r) (evolves : s.Evolves Action.Routine s') :
    Heeded definitions s' r where
  enrolled := ⟨h.enrolled.housed.evolves evolves rfl rfl, h.enrolled.declared, h.enrolled.fixed⟩
  remembered hm := by
    obtain ⟨live, there, same⟩ := h.remembered hm
    obtain ⟨handle, given, hl⟩ := Option.bind_eq_some_iff.1 there
    obtain ⟨actions, -, hl'⟩ := evolves.old hl
    refine ⟨_, (live?_of_given given).trans hl', ?_⟩
    exact (evolves.config h.enrolled.housed.orderly hl hl').trans same

/-! ### The beginning -/

theorem enrolled_start (orderly : s.Orderly) (id : String) (owner : α) :
    Enrolled [] s ({ id, owner } : Registry α) :=
  ⟨⟨orderly, rfl, nofun, nofun, nofun⟩, rfl, nofun⟩

/-- One more name has a resource. -/
theorem Enrolled.define (h : Enrolled definitions s r) {config : Config}
    (defined : define s r name config = .ok (s', r')) :
    Enrolled definitions s' r' ∧ live? s' r' name = some (.fresh name config) ∧
      ∀ other, name ≠ other → live? s' r' other = live? s r other := by
  obtain ⟨handle, made, rfl⟩ := define_ok defined
  have housed := h.housed.define made
  have given := Keyed.value?_put_self r.resources name handle
  refine ⟨⟨housed, h.declared, fun {other config} mem => ?_⟩, ?_, fun other hne => ?_⟩
  · obtain ⟨i, hi⟩ := h.fixed mem
    by_cases hne : name = other
    · exact ⟨handle, hne ▸ given⟩
    · exact ⟨i, (Keyed.value?_put_of_ne _ _ hne).trans hi⟩
  · exact (live?_of_given given).trans (Session.resources_create made)
  · have elsewhere : value? r.resources other ≠ some handle := fun hv =>
      hne (housed.distinct given ((Keyed.value?_put_of_ne _ _ hne).trans hv))
    have spares : Spares other s r s' { r with resources := Keyed.put r.resources name handle } :=
      spares_of_sameBut (Session.sameBut_create made) elsewhere rfl (Keyed.value?_put_of_ne _ _ hne)
    exact spares.live

/-- One more definition is taken in, and no watcher remembers anything yet. -/
theorem Enrolled.declare (h : Enrolled definitions s r)
    (blank : ∀ w ∈ r.bridge.watchers, w.last = none) {x : String × Definition α}
    {state : Session × Registry α} (declared : declare (s, r) x = .ok state) :
    Enrolled (definitions ++ [x]) state.1 state.2 ∧
      ∀ w ∈ state.2.bridge.watchers, w.last = none := by
  obtain ⟨name, config | derive⟩ := x
  · obtain ⟨s', r'⟩ := state
    have kept := (h.define declared).1
    obtain ⟨handle, made, rfl⟩ := define_ok declared
    refine ⟨⟨kept.housed, ?_, fun mem => ?_⟩, blank⟩
    · rw [kept.declared]
      simp [watched]
    · rcases List.mem_append.1 mem with mem | mem
      · exact kept.fixed mem
      · cases List.mem_singleton.1 mem
        exact ⟨handle, Keyed.value?_put_self _ _ _⟩
  · cases declared
    refine ⟨⟨h.housed.evolves (.refl (fun _ => True) s) rfl rfl, ?_, fun mem => ?_⟩, ?_⟩
    · rw [Bridge.declared_register, h.declared]
      simp [watched]
    · exact h.fixed ((List.mem_append.1 mem).resolve_right (by simp))
    · intro w hw
      rcases List.mem_append.1 hw with hw | hw
      · exact blank w hw
      · cases List.mem_singleton.1 hw
        rfl

/-- All definitions have been taken in. -/
theorem Enrolled.declares {before : List (String × Definition α)} (h : Enrolled before s r)
    (blank : ∀ w ∈ r.bridge.watchers, w.last = none) {state : Session × Registry α}
    (declared : definitions.foldlM Registry.declare (s, r) = .ok state) :
    Enrolled (before ++ definitions) state.1 state.2 ∧
      ∀ w ∈ state.2.bridge.watchers, w.last = none := by
  induction definitions generalizing before s r with
  | nil =>
    cases declared
    exact ⟨by simpa using h, blank⟩
  | cons x rest ih =>
    obtain ⟨middle, first, later⟩ := foldlM_cons_ok declared
    obtain ⟨h, blank⟩ := h.declare blank first
    simpa using ih h blank later

/-- The first configs that the watchers have derived make their resources. -/
theorem Enrolled.introduces (h : Enrolled definitions s r) {fires : List WatcherFire}
    (known : ∀ f ∈ fires, r.bridge.remembered? f.name = f.new)
    (due : ∀ {name m}, r.bridge.remembered? name = some m → (∃ f ∈ fires, f.name = name) ∨
      ∃ live, live? s r name = some live ∧ live.resource.config.bare = m.bare)
    {state : Session × Registry α} (introduced : fires.foldlM introduce (s, r) = .ok state) :
    Heeded definitions state.1 state.2 := by
  induction fires generalizing s r with
  | nil =>
    cases introduced
    exact ⟨h, fun hm => (due hm).resolve_left (by simp)⟩
  | cons f rest ih =>
    rw [List.forall_mem_cons] at known
    obtain ⟨⟨s', r'⟩, first, later⟩ := foldlM_cons_ok introduced
    rw [introduce] at first
    cases new : f.new with
    | none =>
      rw [new] at first
      cases first
      refine ih h known.2 (fun {name m} hm => ?_) later
      rcases due hm with ⟨g, hg, rfl⟩ | done
      · rcases List.mem_cons.1 hg with rfl | hg
        · rw [known.1, new] at hm
          cases hm
        · exact .inl ⟨g, hg, rfl⟩
      · exact .inr done
    | some c =>
      rw [new] at first
      obtain ⟨kept, here, elsewhere⟩ := h.define first
      have bridge : r'.bridge = r.bridge := by
        obtain ⟨handle, -, rfl⟩ := define_ok first
        rfl
      refine ih kept (fun g hg => bridge ▸ known.2 g hg) (fun {name m} hm => ?_) later
      rw [bridge] at hm
      by_cases hne : f.name = name
      · -- the resource has just been made with the config that is remembered
        subst hne
        rw [known.1, new, Option.some.injEq] at hm
        subst hm
        exact .inr ⟨_, here, rfl⟩
      · rcases due hm with ⟨g, hg, rfl⟩ | done
        · exact .inl ⟨g, (List.mem_cons.1 hg).resolve_left fun he => hne (he ▸ rfl), rfl⟩
        · exact .inr (by rwa [elsewhere name hne])

theorem routine_autoFetch (s : Session) (handle : Nat) :
    s.Evolves Action.Routine (autoFetch s handle) := by
  rw [autoFetch]
  split
  · split
    · exact Session.routine_fetch s handle
    · exact .refl _ s
  · exact .refl _ s

/-- **A registry that is attached heeds its definitions.** -/
theorem heeded_attach (names : (definitions.map (·.1)).Nodup) (orderly : s.Orderly) {id : String}
    {owner : α} (attached : attach s id owner definitions = .ok (s', r')) :
    Heeded definitions s' r' := by
  obtain ⟨declared, introduced, entries, hd, hi, rfl, rfl⟩ := attach_ok attached
  obtain ⟨enrolled, blank⟩ := (enrolled_start orderly id owner).declares
    (fun w hw => absurd hw List.not_mem_nil) hd
  have enrolled : Enrolled definitions declared.1 declared.2 := by simpa using enrolled
  obtain ⟨known, due⟩ := Bridge.remembered?_evaluate (enrolled.names names) blank owner
  have evaluated : Enrolled definitions
      (declared.1.report (fireReport (declared.2.bridge.evaluate owner).2))
      { declared.2 with bridge := (declared.2.bridge.evaluate owner).1 } :=
    ⟨enrolled.housed.evolves (Session.beside_report _ _).evolves rfl rfl,
      (declared.2.bridge.declared_evaluate owner).trans enrolled.declared, enrolled.fixed⟩
  have heeded := evaluated.introduces known (fun hm => .inl (due hm)) hi
  have reported : Heeded definitions (introduced.1.report entries) introduced.2 :=
    heeded.evolves (.of_resources rfl)
  refine reported.evolves ?_
  generalize introduced.1.report entries = s₀
  induction introduced.2.resources generalizing s₀ with
  | nil => exact .refl _ s₀
  | cons x rest ih => exact (routine_autoFetch s₀ x.2).trans (ih _)

/-! ### What a change finds -/

/-- What is derived again is what has been remembered. -/
theorem known_of_unchanged {c : Config} (same : configChanged last (some c) = false) :
    ∃ m, last = some m ∧ m.structurallyEq c = true := by
  cases last with
  | none => cases same
  | some m => exact ⟨m, rfl, by simpa [configChanged] using same⟩

section Reacts

variable {runtime : Bool} {c : Config} {live' : Option LiveResource} {last' : Option Config}

/-- The watcher remembers the config that is derived, unless it is refused. -/
theorem Reacts.agrees (h : Reacts runtime name (some c) live last live' last') :
    (∃ m, last' = some m ∧ m.structurallyEq c = true) ∨
      ∃ e, refusal? name live c = some e ∧ live' = live := by
  cases h with
  | still same => exact .inl (known_of_unchanged same)
  | refuse derived refused =>
    cases derived
    exact .inr ⟨_, refused, rfl⟩
  | withdraw _ unwanted => cases unwanted
  | make _ derived | replace _ derived =>
    cases derived
    exact .inl ⟨_, rfl, Config.structurallyEq_refl _⟩

theorem Reacts.of_refused (h : Reacts runtime name (some c) live last live' last') {e : ConfigError}
    (refused : refusal? name live c = some e) : live' = live ∧ last' = last := by
  cases h with
  | still | refuse => exact ⟨rfl, rfl⟩
  | withdraw _ unwanted => cases unwanted
  | make _ derived _ accepted | replace _ derived _ accepted =>
    cases derived
    cases refused.symm.trans accepted

theorem Reacts.of_unchanged (h : Reacts runtime name new live last live' last')
    (same : configChanged last new = false) : live' = live := by
  cases h with
  | still | refuse => rfl
  | withdraw changed | make changed | replace changed => cases same.symm.trans changed

end Reacts

/-- A config that agrees with the one remembered is not refused. -/
theorem Heeded.refusal?_of_known (h : Heeded definitions s r)
    (known : configChanged (r.bridge.remembered? name) new = false) :
    new.bind (refusal? name (live? s r name)) = none := by
  cases new with
  | none => rfl
  | some c =>
    obtain ⟨m, hm, same⟩ := known_of_unchanged known
    obtain ⟨live, there, bare⟩ := h.remembered hm
    rw [there]
    refine refusal?_of_method ?_
    exact (Config.method_of_structurallyEq same).symm.trans (Config.method_of_bare bare).symm

/-- The first refusal, by the order of the definitions. -/
theorem Heeded.failed_mutate (h : Heeded definitions s r) (names : (definitions.map (·.1)).Nodup)
    (change : α → α) :
    (r.mutateOwner s change).2.2
      = ((watched definitions).filterMap fun x =>
          (x.2 (change r.owner)).bind (refusal? x.1 (live? s r x.1))).head? := by
  have distinct := h.enrolled.names names
  rw [h.enrolled.housed.failed_mutate distinct, ← h.enrolled.declared]
  simp only [Bridge.evaluate, Bridge.declared, List.filterMap_filterMap, List.filterMap_map]
  refine congrArg List.head? (List.filterMap_congr fun w hw => ?_)
  -- a watcher that does not fire remembers what it derives, which is not refused
  cases changed : configChanged w.last (w.derive (change r.owner)) with
  | true => simp [Bridge.fireOf, changed, refusalOf]
  | false =>
    have remembered := Bridge.remembered?_of_named (Bridge.named_of_mem distinct hw)
    simp [Bridge.fireOf, changed, h.refusal?_of_known (remembered ▸ changed)]

end Heeded

end Registry

/-- The deed changes the owner's state, or is a step of the session that is no update. -/
def Deed.Routine {α : Type} : Deed α → Prop
  | .step taken => taken.Routine
  | .mutate _ => True
  | .detach => False

namespace World

open Registry (refusal? Reacts Heeded known_of_unchanged)

variable {α : Type} {w : World α} {definitions : List (String × Definition α)}

/-- The resource of a name with its fetches, if there is one. -/
def live? (w : World α) (name : String) : Option LiveResource :=
  Registry.live? w.session w.registry name

/-- The config that the watcher of a name remembers, if it does. -/
def remembered? (w : World α) (name : String) : Option Config :=
  w.registry.bridge.remembered? name

/-- What a change of the owner does to all definitions. -/
structure Consistent (definitions : List (String × Definition α)) (w : World α) (change : α → α) :
    Prop where
  owner : (w.act (.mutate change)).registry.owner = change w.registry.owner
  /-- A config that is acceptable is that of the resource. -/
  accepted : ∀ {name derive c}, (name, .derived derive) ∈ definitions →
    derive (change w.registry.owner) = some c → refusal? name (w.live? name) c = none →
    ∃ live, (w.act (.mutate change)).live? name = some live ∧
      live.resource.config.structurallyEq c = true
  /-- One that is not leaves everything as it is, but for the error. -/
  refused : ∀ {name derive c e}, (name, .derived derive) ∈ definitions →
    derive (change w.registry.owner) = some c → refusal? name (w.live? name) c = some e →
    (w.registry.mutateOwner w.session change).2.2.isSome = true ∧
      (w.act (.mutate change)).live? name = w.live? name ∧
      (w.act (.mutate change)).remembered? name = w.remembered? name
  remembered : ∀ {name m}, (w.act (.mutate change)).remembered? name = some m →
    ∃ live, (w.act (.mutate change)).live? name = some live ∧
      m.structurallyEq live.resource.config = true
  /-- What is derived again changes nothing. -/
  untouched : ∀ {name derive}, (name, .derived derive) ∈ definitions →
    configChanged (w.remembered? name) (derive (change w.registry.owner)) = false →
    (w.act (.mutate change)).live? name = w.live? name
  fixed : ∀ {name config}, (name, .fixed config) ∈ definitions →
    ∃ live, w.live? name = some live ∧ (w.act (.mutate change)).live? name = some live
  /-- The error is that of the first config that is refused, by the order of the definitions. -/
  failed : (w.registry.mutateOwner w.session change).2.2
    = ((watched definitions).filterMap fun x =>
        (x.2 (change w.registry.owner)).bind (refusal? x.1 (w.live? x.1))).head?
  /-- No matter which others are refused, each name reacts for itself. -/
  reacts : ∀ {name derive}, (name, .derived derive) ∈ definitions →
    Reacts w.session.hasRuntime name (derive (change w.registry.owner)) (w.live? name)
      (w.remembered? name) ((w.act (.mutate change)).live? name)
      ((w.act (.mutate change)).remembered? name)

/-! ### Runs -/

/-- What one deed preserves. -/
theorem heeded_act (names : (definitions.map (·.1)).Nodup)
    (h : Heeded definitions w.session w.registry) {d : Deed α} (routine : d.Routine) :
    Heeded definitions (w.act d).session (w.act d).registry := by
  cases d with
  | step step => exact h.evolves (Session.evolves_routine w.session routine)
  | mutate change => exact h.mutate names change
  | detach => exact routine.elim

theorem heeded_after (names : (definitions.map (·.1)).Nodup)
    (h : Heeded definitions w.session w.registry) {deeds : List (Deed α)}
    (routine : ∀ d ∈ deeds, d.Routine) :
    Heeded definitions (w.after deeds).session (w.after deeds).registry := by
  induction deeds generalizing w with
  | nil => exact h
  | cons d rest ih =>
    rw [List.forall_mem_cons] at routine
    exact ih (heeded_act names h routine.1) routine.2

theorem consistent_of_heeded (names : (definitions.map (·.1)).Nodup)
    (h : Heeded definitions w.session w.registry) (change : α → α) :
    w.Consistent definitions change := by
  have housed := h.enrolled.housed
  have latter := h.mutate names change
  have failed := h.failed_mutate names change
  have reacts {name : String} {derive : α → Option Config}
      (mem : (name, .derived derive) ∈ definitions) :
      Reacts w.session.hasRuntime name (derive (change w.registry.owner)) (w.live? name)
        (w.remembered? name) ((w.act (.mutate change)).live? name)
        ((w.act (.mutate change)).remembered? name) := by
    obtain ⟨last, named⟩ := h.enrolled.named names mem
    obtain ⟨last', named', reacts⟩ := housed.reacts_mutate named change
    rw [remembered?, remembered?, Bridge.remembered?_of_named named]
    show Reacts _ _ _ _ _ _ (Bridge.remembered? (w.registry.mutateOwner w.session change).2.1.bridge
      name)
    rw [Bridge.remembered?_of_named named']
    exact reacts
  refine
    { owner := Registry.owner_mutate w.registry w.session change
      accepted := fun mem derived accepts => ?_
      refused := fun {name derive c e} mem derived refused => ⟨?_, ?_⟩
      remembered := fun hm => ?_
      untouched := fun mem same => (reacts mem).of_unchanged same
      fixed := fun mem => ?_
      failed, reacts }
  · have reacts := reacts mem
    rw [derived] at reacts
    obtain ⟨m, hm, agrees⟩ | ⟨e, refused, -⟩ := reacts.agrees
    · obtain ⟨live, there, bare⟩ := latter.remembered hm
      exact ⟨live, there, (Config.structurallyEq_of_bare bare rfl).trans agrees⟩
    · cases refused.symm.trans accepts
  · rw [failed, List.isSome_head?]
    have reason : (derive (change w.registry.owner)).bind (refusal? name (w.live? name)) = some e :=
      derived ▸ refused
    exact List.ne_nil_of_mem (List.mem_filterMap.2 ⟨_, mem_watched.2 mem, reason⟩)
  · have reacts := reacts mem
    rw [derived] at reacts
    exact reacts.of_refused refused
  · obtain ⟨live, there, bare⟩ := latter.remembered hm
    exact ⟨live, there,
      (Config.structurallyEq_of_bare rfl bare).trans (Config.structurallyEq_refl _)⟩
  · obtain ⟨handle, given⟩ := h.enrolled.fixed mem
    obtain ⟨live, there⟩ := housed.present given
    have spares := housed.spares_mutate (h.enrolled.unwatched names mem) change
    have here : w.live? _ = some live := (Registry.live?_of_given given).trans there
    exact ⟨live, here, spares.live.trans here⟩

/-- **Watchers, owner and resources stay consistent.** However the owner's state has been changed
before, and whatever has happened in the session but updates by hand, a change of the owner brings
every derived resource to the config that is derived now, or leaves it as it is if that is refused;
it leaves all others alone. -/
theorem mutate_consistent (names : (definitions.map (·.1)).Nodup) {s s' : Session}
    (orderly : s.Orderly) {id : String} {owner : α} {r : Registry α}
    (attached : Registry.attach s id owner definitions = .ok (s', r)) {deeds : List (Deed α)}
    (routine : ∀ d ∈ deeds, d.Routine)
    (final : World.after { session := s', registry := r } deeds = w) (change : α → α) :
    w.Consistent definitions change := by
  have start : Heeded definitions s' r := Registry.heeded_attach names orderly attached
  have kept := heeded_after (w := { session := s', registry := r }) names start routine
  rw [final] at kept
  exact consistent_of_heeded names kept change

/-! ### A desk and its team -/

/-- The tickets of a team, between a clock and a page that has another method for every team. -/
def deskDefinitions : List (String × Definition String) :=
  [("clock", .fixed { method := "now" }), ("page", .derived fun team => some { method := team }),
    ("tickets", .derived fun team =>
      if team = "" then none else some { method := "list", params := [("team", .str team)] })]

/-- The desk after some deeds, with a first team. -/
def deskAfter (deeds : List (Deed String)) : World String :=
  match Registry.attach {} "desk" "a" deskDefinitions with
  | .ok (session, registry) => World.after { session, registry } deeds
  | .error _ => { session := {}, registry := { id := "desk", owner := "a" } }

/-- While the tickets are being fetched there is another team, for which the page is refused. -/
theorem desk_consistent :
    let desk := deskAfter [.step (.fetch 2), .step (.turn 0)]
    desk.Consistent deskDefinitions (fun _ => "b") ∧
      (desk.registry.mutateOwner desk.session fun _ => "b").2.2
        = some (.methodChanged "page" "a" "b") := by
  intro desk
  have attached : Registry.attach {} "desk" "a" deskDefinitions
      = .ok ((deskAfter []).session, (deskAfter []).registry) := rfl
  have routine : ∀ d ∈ ([.step (.fetch 2), .step (.turn 0)] : List (Deed String)), d.Routine := by
    simp [Deed.Routine, Session.Step.Routine]
  have vacant : Session.Vacant {} := ⟨rfl, rfl, rfl, rfl⟩
  have consistent : desk.Consistent deskDefinitions fun _ => "b" :=
    mutate_consistent (by decide) vacant.attended.orderly attached routine rfl _
  exact ⟨consistent, consistent.failed.trans rfl⟩

end World

end ReactiveResource
