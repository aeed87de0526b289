import Mathlib.Data.List.Induction
import ReactiveResource.Proofs.Registry.Consistency
import ReactiveResource.Proofs.Registry.Tracking

/-!
# Attaching is all or nothing

A registry is attached in three passes: the fixed definitions become resources, then those derived
ones that yield a config for the first owner, and then the resources that fetch by themselves start
a fetch. A config without a method ends the first or the second pass, when no fetch has been started
yet.

* `fixedConfigs`, `derivedConfigs`, `chosen?`: what the definitions come to, and the config that a
  name ends up with;
* `Session.furnish`, `Registry.defines_eq`: resources made one after another;
* `Registry.attach_eq`: the whole of it;
* `Registry.Stops`, `attach_error_iff`: a session in which it has failed;
* `Registry.Attached`, `attach_all_or_nothing`: the statement.
-/

namespace ReactiveResource

open Keyed (value?)

section Definitions

variable {α : Type}

/-- The fixed configs of some definitions, in order. -/
def fixedConfigs (definitions : List (String × Definition α)) : List (String × Config) :=
  definitions.filterMap fun
    | (name, .fixed config) => some (name, config)
    | (_, .derived _) => none

/-- The configs that some definitions derive for an owner, in order. -/
def derivedConfigs (owner : α) (definitions : List (String × Definition α)) :
    List (String × Config) :=
  (watched definitions).filterMap fun (name, derive) => (derive owner).map (name, ·)

/-- The resources that some definitions ask for, in the order in which they are made. -/
def wantedConfigs (owner : α) (definitions : List (String × Definition α)) :
    List (String × Config) :=
  fixedConfigs definitions ++ derivedConfigs owner definitions

/-- The config that a name ends up with: the last that is derived for it, or else its last fixed
one. -/
def chosen? (owner : α) (definitions : List (String × Definition α)) (name : String) :
    Option Config :=
  (value? (derivedConfigs owner definitions).reverse name).or
    (value? (fixedConfigs definitions).reverse name)

/-- The name of the first entry whose config has no method. -/
def firstBlank? (entries : List (String × Config)) : Option String :=
  (entries.find? fun x => Text.isBlank x.2.method).map (·.1)

theorem firstBlank?_cons (x : String × Config) (rest : List (String × Config)) :
    firstBlank? (x :: rest)
      = if Text.isBlank x.2.method then some x.1 else firstBlank? rest := by
  rw [firstBlank?, List.find?_cons]
  cases Text.isBlank x.2.method <;> rfl

theorem firstBlank?_append (xs ys : List (String × Config)) :
    firstBlank? (xs ++ ys) = (firstBlank? xs).or (firstBlank? ys) := by
  rw [firstBlank?, List.find?_append, Option.map_or]
  rfl

theorem firstBlank?_isSome {entries : List (String × Config)} :
    (firstBlank? entries).isSome = true
      ↔ ∃ name config, (name, config) ∈ entries ∧ Text.isBlank config.method = true := by
  simp [firstBlank?, List.find?_isSome]

theorem mem_fixedConfigs {definitions : List (String × Definition α)} {name : String}
    {config : Config} :
    (name, config) ∈ fixedConfigs definitions ↔ (name, .fixed config) ∈ definitions := by
  simp only [fixedConfigs, List.mem_filterMap]
  constructor
  · rintro ⟨⟨other, fixed | derived⟩, mem, h⟩
    · cases h
      exact mem
    · cases h
  · exact fun mem => ⟨_, mem, rfl⟩

theorem mem_derivedConfigs {definitions : List (String × Definition α)} {owner : α} {name : String}
    {config : Config} :
    (name, config) ∈ derivedConfigs owner definitions
      ↔ ∃ derive, (name, .derived derive) ∈ definitions ∧ derive owner = some config := by
  simp only [derivedConfigs, List.mem_filterMap, Option.map_eq_some_iff]
  constructor
  · rintro ⟨⟨other, derive⟩, mem, c, yields, same⟩
    cases same
    exact ⟨derive, mem_watched.1 mem, yields⟩
  · rintro ⟨derive, mem, yields⟩
    exact ⟨(name, derive), mem_watched.2 mem, config, yields, rfl⟩

theorem mem_wantedConfigs {definitions : List (String × Definition α)} {owner : α} {name : String}
    {config : Config} :
    (name, config) ∈ wantedConfigs owner definitions ↔ (name, .fixed config) ∈ definitions ∨
      ∃ derive, (name, .derived derive) ∈ definitions ∧ derive owner = some config := by
  rw [wantedConfigs, List.mem_append, mem_fixedConfigs, mem_derivedConfigs]

theorem value?_wantedConfigs (owner : α) (definitions : List (String × Definition α))
    (name : String) :
    value? (wantedConfigs owner definitions).reverse name = chosen? owner definitions name := by
  rw [wantedConfigs, List.reverse_append, Keyed.value?_append]
  rfl

end Definitions

/-! ### Resources made one after another -/

/-- The handles that resources made from a handle on are given, by name. -/
def handlesFrom (first : Nat) (entries : List (String × Config)) : List (String × Nat) :=
  (entries.zipIdx first).map fun (x, handle) => (x.1, handle)

theorem handlesFrom_append (first : Nat) (xs ys : List (String × Config)) :
    handlesFrom first (xs ++ ys) = handlesFrom first xs ++ handlesFrom (first + xs.length) ys := by
  simp [handlesFrom, List.zipIdx_append]

namespace Session

/-- The session with new resources behind the others. -/
def furnish (s : Session) (entries : List (String × Config)) : Session :=
  { s with
    resources := s.resources ++ entries.map fun x => .fresh x.1 x.2
    named := Keyed.overlay s.named (handlesFrom s.resources.length entries) }

theorem furnish_nil (s : Session) : s.furnish [] = s := by
  simp [furnish, handlesFrom, Keyed.overlay]

/-- The new resources have no fetches. -/
theorem attempts_furnish {s : Session} {entries : List (String × Config)} {handle : Nat}
    {live : LiveResource} (new : s.resources.length ≤ handle)
    (there : (s.furnish entries).resources[handle]? = some live) : live.attempts = [] := by
  rw [furnish, List.getElem?_append_right new, List.getElem?_map, Option.map_eq_some_iff] at there
  obtain ⟨x, -, rfl⟩ := there
  rfl

theorem furnish_append (s : Session) (xs ys : List (String × Config)) :
    s.furnish (xs ++ ys) = (s.furnish xs).furnish ys := by
  simp [furnish, handlesFrom_append, Keyed.overlay]

theorem furnish_report_furnish (s : Session) (xs ys : List (String × Config))
    (entries : List LogEntry) :
    ((s.furnish xs).report entries).furnish ys = (s.furnish (xs ++ ys)).report entries := by
  rw [s.furnish_append]
  rfl

/-- A resource is made if its config has a method. -/
theorem create_eq (s : Session) (name : String) (config : Config) :
    s.create name config = if Text.isBlank config.method then .error (.missingMethod name)
      else .ok (s.furnish [(name, config)], s.resources.length) := by
  rw [create, Resource.create]
  cases Text.isBlank config.method <;> rfl

end Session

namespace Registry

variable {α : Type} {s s' : Session} {r r' : Registry α} {owner : α}
  {definitions : List (String × Definition α)}

/-- The registry with the handles that new resources are given. -/
def enlist (r : Registry α) (first : Nat) (entries : List (String × Config)) : Registry α :=
  { r with resources := Keyed.overlay r.resources (handlesFrom first entries) }

theorem enlist_append (r : Registry α) (first : Nat) (xs ys : List (String × Config)) :
    r.enlist first (xs ++ ys) = (r.enlist first xs).enlist (first + xs.length) ys := by
  simp [enlist, handlesFrom_append, Keyed.overlay]

theorem bridge_enlist (r : Registry α) (first : Nat) (entries : List (String × Config)) :
    (r.enlist first entries).bridge = r.bridge := rfl

/-- One more resource. -/
def defineEntry (state : Session × Registry α) (x : String × Config) :
    Except ConfigError (Session × Registry α) :=
  define state.1 state.2 x.1 x.2

theorem defineEntry_eq (s : Session) (r : Registry α) (x : String × Config) :
    defineEntry (s, r) x = if Text.isBlank x.2.method then .error (.missingMethod x.1)
      else .ok (s.furnish [x], r.enlist s.resources.length [x]) := by
  rw [defineEntry, define, Session.create_eq]
  cases Text.isBlank x.2.method <;> rfl

/-- **Resources are made up to the first config without a method.** -/
theorem defines_eq (s : Session) (r : Registry α) (entries : List (String × Config)) :
    entries.foldlM defineEntry (s, r) =
      match firstBlank? entries with
      | some name => .error (.missingMethod name)
      | none => .ok (s.furnish entries, r.enlist s.resources.length entries) := by
  induction entries generalizing s r with
  | nil =>
    rw [s.furnish_nil]
    rfl
  | cons x rest ih =>
    rw [List.foldlM_cons, defineEntry_eq, firstBlank?_cons]
    cases Text.isBlank x.2.method with
    | true => rfl
    | false =>
      have length : (s.furnish [x]).resources.length = s.resources.length + [x].length := by
        simp [Session.furnish]
      rw [← List.singleton_append (x := x) (l := rest), s.furnish_append, r.enlist_append, ← length]
      exact ih _ _

/-- The registry with watchers for some derived definitions. -/
def watch (r : Registry α) (entries : List (String × (α → Option Config))) : Registry α :=
  let watchers := entries.map fun x => { name := x.1, derive := x.2 }
  { r with bridge := { watchers := r.bridge.watchers ++ watchers } }

/-- The first pass makes the fixed resources. -/
theorem declares_eq (s : Session) (r : Registry α) (definitions : List (String × Definition α)) :
    definitions.foldlM declare (s, r)
      = (fixedConfigs definitions).foldlM defineEntry (s, r.watch (watched definitions)) := by
  induction definitions generalizing s r with
  | nil =>
    simp [watch, watched, fixedConfigs]
  | cons x rest ih =>
    obtain ⟨name, config | derive⟩ := x
    · have fixed : fixedConfigs ((name, Definition.fixed config) :: rest)
          = (name, config) :: fixedConfigs rest := rfl
      have others : watched ((name, Definition.fixed config) :: rest) = watched rest := rfl
      have same : declare (s, r) (name, .fixed config) = defineEntry (s, r) (name, config) := rfl
      rw [fixed, others, List.foldlM_cons, List.foldlM_cons, same, defineEntry_eq, defineEntry_eq]
      cases Text.isBlank config.method with
      | true => rfl
      | false => exact ih _ _
    · have watched' : r.watch (watched ((name, Definition.derived derive) :: rest))
          = { r with bridge := r.bridge.register name derive }.watch (watched rest) := by
        simp [watch, watched, Bridge.register]
      rw [watched']
      exact ih _ _

/-- The second pass makes those that are derived. -/
theorem introduces_eq (s : Session) (r : Registry α) (fires : List WatcherFire) :
    fires.foldlM introduce (s, r)
      = (fires.filterMap fun f => f.new.map (f.name, ·)).foldlM defineEntry (s, r) := by
  induction fires generalizing s r with
  | nil => rfl
  | cons f rest ih =>
    obtain ⟨name, new, old⟩ := f
    cases new with
    | none => exact ih s r
    | some config =>
      have same : introduce (s, r) { name, new := some config, old }
          = defineEntry (s, r) (name, config) := rfl
      rw [List.foldlM_cons, List.filterMap_cons, Option.map_some, List.foldlM_cons, same,
        defineEntry_eq]
      cases Text.isBlank config.method with
      | true => rfl
      | false => exact ih _ _

/-- New watchers fire for the configs that they derive. -/
theorem fires_watch (unwatched : r.bridge.watchers = []) (owner : α)
    (definitions : List (String × Definition α)) :
    ((r.watch (watched definitions)).bridge.evaluate owner).2.filterMap
        (fun f => f.new.map (f.name, ·)) = derivedConfigs owner definitions := by
  simp only [watch, unwatched, List.nil_append, Bridge.evaluate, List.filterMap_map,
    List.filterMap_filterMap, derivedConfigs]
  congr 1
  funext x
  cases derived : x.2 owner <;> simp [Bridge.fireOf, derived, configChanged]

/-- **What attaching a registry comes to.** -/
theorem attach_eq (s : Session) (id : String) (owner : α)
    (definitions : List (String × Definition α)) :
    (∃ name, firstBlank? (wantedConfigs owner definitions) = some name ∧
      attach s id owner definitions = .error (.missingMethod name)) ∨
    firstBlank? (wantedConfigs owner definitions) = none ∧ ∃ log bridge,
      let r := enlist { id, owner, bridge } s.resources.length (wantedConfigs owner definitions)
      attach s id owner definitions
        = .ok (r.resources.foldl (fun s x => autoFetch s x.2)
            { s.furnish (wantedConfigs owner definitions) with log }, r) := by
  rw [wantedConfigs, firstBlank?_append, attach, declares_eq, defines_eq]
  cases fixed : firstBlank? (fixedConfigs definitions) with
  | some name => exact .inl ⟨name, rfl, rfl⟩
  | none =>
    have fires := fires_watch (r := { id, owner }) rfl owner definitions
    simp only [bind, Except.bind]
    rw [introduces_eq, bridge_enlist, fires, defines_eq]
    cases derived : firstBlank? (derivedConfigs owner definitions) with
    | some name => exact .inl ⟨name, rfl, rfl⟩
    | none =>
      have length (entries : List LogEntry) :
          ((s.furnish (fixedConfigs definitions)).report entries).resources.length
            = s.resources.length + (fixedConfigs definitions).length := by
        simp [Session.furnish, Session.report]
      simp only [length, s.furnish_append, enlist_append]
      exact .inr ⟨rfl, _, ((watch { id, owner } (watched definitions)).bridge.evaluate owner).1,
        rfl⟩

/-! ### Fetches that are started -/

/-- The fetch that a resource starts when it is told to. -/
def starts? (s : Session) (handle : Nat) : Option Job :=
  s.resources[handle]?.bind fun live =>
    if s.hasRuntime && live.resource.config.auto then
      some (.attempt handle live.attempts.length .go)
    else none

/-- A resource that is told to fetch may put its fetch in the queue, and that is all. -/
theorem autoFetch_eq (s : Session) (handle : Nat) :
    ∃ resources log, autoFetch s handle
      = { s with resources, log, ready := s.ready ++ (starts? s handle).toList } := by
  rw [autoFetch, starts?]
  cases there : s.resources[handle]? with
  | none => exact ⟨s.resources, s.log, by simp⟩
  | some live =>
    cases auto : live.resource.config.auto with
    | false => exact ⟨s.resources, s.log, by simp [auto]⟩
    | true =>
      simp only [if_true, Session.fetch, Session.spawn, there, Option.bind_some, auto,
        Bool.and_true]
      cases runtime : s.hasRuntime with
      | false =>
        refine ⟨s.resources,
          s.log ++ [.warn ("No async runtime, skipping fetch of " ++ live.label)], ?_⟩
        simp [Session.report, runtime]
      | true =>
        refine ⟨s.resources.set handle (live.spawn none).1, s.log, ?_⟩
        have same : s.resources[handle]?.map (·.resource.revision)
            = some (live.spawn none).1.resource.revision := by
          rw [there]
          rfl
        simp [Session.enqueue, Session.store, same, runtime]
        rfl

/-- What other resources start does not depend on one that is told to fetch. -/
theorem starts?_autoFetch {i handle : Nat} (hne : i ≠ handle) (s : Session) :
    starts? (autoFetch s i) handle = starts? s handle := by
  rw [starts?, starts?, resources_autoFetch, (Session.spans_beside.autoFetch s i).runtime]
  simp [hne]

theorem autoFetches_eq {entries : List (String × Nat)} (once : (entries.map (·.2)).Nodup)
    (s : Session) :
    ∃ resources log, entries.foldl (fun s x => autoFetch s x.2) s
      = { s with resources, log
                 ready := s.ready ++ entries.filterMap fun x => starts? s x.2 } := by
  induction entries generalizing s with
  | nil => exact ⟨s.resources, s.log, by simp⟩
  | cons x rest ih =>
    rw [List.map_cons, List.nodup_cons] at once
    obtain ⟨resources, log, first⟩ := autoFetch_eq s x.2
    obtain ⟨resources', log', others⟩ := ih once.2 (autoFetch s x.2)
    refine ⟨resources', log', ?_⟩
    have same : rest.filterMap (fun y => starts? (autoFetch s x.2) y.2)
        = rest.filterMap fun y => starts? s y.2 :=
      List.filterMap_congr fun y hy =>
        starts?_autoFetch (fun he : x.2 = y.2 => once.1 (he ▸ List.mem_map_of_mem hy)) s
    rw [List.foldl_cons, others, same, first, List.filterMap_cons]
    cases starts? s x.2 <;> simp

/-! ### Failure -/

/-- A session in which attaching a registry fails, with the error: what stands before one
definition, or one derived config, has been taken in, and that one is refused. -/
inductive Stops (s : Session) (id : String) (owner : α)
    (definitions : List (String × Definition α)) : Session → ConfigError → Prop
  | declaring {before later : List (String × Definition α)} {x : String × Definition α}
      {state : Session × Registry α} {e : ConfigError} (split : definitions = before ++ x :: later)
      (taken : before.foldlM declare (s, { id, owner }) = .ok state)
      (refused : declare state x = .error e) : Stops s id owner definitions state.1 e
  | introducing {declared state : Session × Registry α} {before later : List WatcherFire}
      {f : WatcherFire} {e : ConfigError}
      (all : definitions.foldlM declare (s, { id, owner }) = .ok declared)
      (split : (declared.2.bridge.evaluate owner).2 = before ++ f :: later)
      (taken : before.foldlM introduce
          (declared.1.report (fireReport (declared.2.bridge.evaluate owner).2),
            { declared.2 with bridge := (declared.2.bridge.evaluate owner).1 }) = .ok state)
      (refused : introduce state f = .error e) : Stops s id owner definitions state.1 e

theorem attach_error_iff {id : String} {e : ConfigError} :
    attach s id owner definitions = .error e ↔
      ∃ stopped, Stops s id owner definitions stopped e := by
  have passes : attach s id owner definitions = .error e ↔
      definitions.foldlM declare (s, { id, owner }) = .error e ∨
        ∃ declared : Session × Registry α,
          definitions.foldlM declare (s, { id, owner }) = .ok declared ∧
          (declared.2.bridge.evaluate owner).2.foldlM introduce
            (declared.1.report (fireReport (declared.2.bridge.evaluate owner).2),
              { declared.2 with bridge := (declared.2.bridge.evaluate owner).1 }) = .error e := by
    rw [attach]
    cases definitions.foldlM declare (s, ({ id, owner } : Registry α)) with
    | error e' => simp [bind, Except.bind]
    | ok declared =>
      simp only [bind, Except.bind, reduceCtorEq, false_or, Except.ok.injEq, exists_eq_left']
      cases (declared.2.bridge.evaluate owner).2.foldlM introduce
        (declared.1.report (fireReport (declared.2.bridge.evaluate owner).2),
          { declared.2 with bridge := (declared.2.bridge.evaluate owner).1 }) with
      | error e' => simp
      | ok introduced => simp [pure, Except.pure]
  rw [passes]
  constructor
  · rintro (failed | ⟨declared, all, failed⟩)
    · obtain ⟨before, x, later, state, split, taken, refused⟩ := foldlM_error_iff.1 failed
      exact ⟨state.1, .declaring split taken refused⟩
    · obtain ⟨before, f, later, state, split, taken, refused⟩ := foldlM_error_iff.1 failed
      exact ⟨state.1, .introducing all split taken refused⟩
  · rintro ⟨stopped, ⟨split, taken, refused⟩ | ⟨all, split, taken, refused⟩⟩
    · exact .inl (foldlM_error_iff.2 ⟨_, _, _, _, split, taken, refused⟩)
    · exact .inr ⟨_, all, foldlM_error_iff.2 ⟨_, _, _, _, split, taken, refused⟩⟩

theorem session_of_defines {entries : List (String × Config)} {state : Session × Registry α}
    (h : entries.foldlM defineEntry (s, r) = .ok state) : state.1 = s.furnish entries := by
  rw [defines_eq] at h
  cases blank : firstBlank? entries with
  | some name =>
    rw [blank] at h
    cases h
  | none =>
    rw [blank] at h
    cases h
    rfl

/-- Until it fails, resources have been made, and that is all. -/
theorem Stops.furnished {id : String} {stopped : Session} {e : ConfigError}
    (h : Stops s id owner definitions stopped e) :
    ∃ made entries, stopped = (s.furnish made).report entries := by
  cases h with
  | @declaring before _ _ _ _ _ taken =>
    rw [declares_eq] at taken
    exact ⟨fixedConfigs before, [], by simp [session_of_defines taken, Session.report]⟩
  | introducing all _ taken _ =>
    rw [declares_eq] at all
    rw [introduces_eq] at taken
    have built := session_of_defines taken
    rw [session_of_defines all, Session.furnish_report_furnish] at built
    exact ⟨_, _, built⟩

/-! ### Success -/

theorem exists_of_handlesFrom {entries : List (String × Config)} {first handle : Nat}
    {name : String} (h : value? (handlesFrom first entries).reverse name = some handle) :
    ∃ config, value? entries.reverse name = some config ∧ first ≤ handle ∧
      entries[handle - first]? = some (name, config) := by
  induction entries using List.reverseRecOn with
  | nil => cases h
  | append_singleton rest x ih =>
    have last : handlesFrom (first + rest.length) [x] = [(x.1, first + rest.length)] := rfl
    rw [handlesFrom_append, last, List.reverse_append, List.reverse_singleton,
      List.singleton_append, value?] at h
    rw [List.reverse_append, List.reverse_singleton, List.singleton_append, value?]
    split at h
    · next same =>
      cases h
      refine ⟨x.2, if_pos same, Nat.le_add_right _ _, ?_⟩
      rw [Nat.add_sub_cancel_left, List.getElem?_concat_length, ← same]
    · next other =>
      obtain ⟨config, found, le, there⟩ := ih h
      exact ⟨config, (if_neg other).trans found, le, getElem?_append_of_some there _⟩

theorem keys_handlesFrom (first : Nat) (entries : List (String × Config)) :
    Keyed.keys (handlesFrom first entries) = Keyed.keys entries := by
  have names : entries.map (·.1) = ((entries.zipIdx first).map Prod.fst).map (·.1) := by
    rw [List.zipIdx_map_fst]
  simp only [Keyed.keys, handlesFrom, names, List.map_map]
  rfl

section Enlist

variable {id name : String} {bridge : Bridge α} {first : Nat} {entries : List (String × Config)}

theorem value?_enlist : value? (enlist { id, owner, bridge } first entries).resources name
    = value? (handlesFrom first entries).reverse name := by
  rw [enlist, Keyed.value?_overlay]
  exact Option.or_none

/-- A name has a handle exactly if a resource of the name has been made. -/
theorem mem_keys_enlist : name ∈ Keyed.keys (enlist { id, owner, bridge } first entries).resources
    ↔ ∃ config, (name, config) ∈ entries := by
  have same : Keyed.keys (handlesFrom first entries).reverse = (Keyed.keys entries).reverse := by
    rw [← keys_handlesFrom first entries]
    exact List.map_reverse
  rw [Keyed.mem_keys, value?_enlist, ← Keyed.mem_keys, same, List.mem_reverse]
  simp [Keyed.keys]

/-- Behind the handle of a name stands the resource that has been made for it last. -/
theorem made_of_enlist {handle : Nat}
    (given : value? (enlist { id, owner, bridge } s.resources.length entries).resources name
      = some handle) :
    ∃ config, value? entries.reverse name = some config ∧ s.resources.length ≤ handle ∧
      (s.furnish entries).resources[handle]? = some (.fresh name config) := by
  rw [value?_enlist] at given
  obtain ⟨config, found, le, there⟩ := exists_of_handlesFrom given
  refine ⟨config, found, le, ?_⟩
  rw [Session.furnish, List.getElem?_append_right le, List.getElem?_map, there]
  rfl

end Enlist

/-- The registry that has been attached to a session. -/
structure Attached (s : Session) (owner : α) (definitions : List (String × Definition α))
    (s' : Session) (r : Registry α) : Prop where
  /-- The names are those of the fixed definitions and of the derived ones that yield a config. -/
  names (name : String) : name ∈ Keyed.keys r.resources ↔
    (∃ config, (name, .fixed config) ∈ definitions) ∨
      ∃ derive, (name, .derived derive) ∈ definitions ∧ (derive owner).isSome = true
  /-- A name has one resource. -/
  ascending : (Keyed.keys r.resources).Pairwise (· < ·)
  /-- A resource has the config that is chosen for its name, and if that fetches by itself, one
  fetch. -/
  chosen {name : String} {handle : Nat} : value? r.resources name = some handle →
    ∃ config, chosen? owner definitions name = some config ∧ s.resources.length ≤ handle ∧
      s'.resources[handle]? = some (if s.hasRuntime = true ∧ config.auto = true
        then ((LiveResource.fresh name config).spawn none).1 else .fresh name config)
  /-- Those that have been overwritten have no fetch. -/
  overwritten {handle : Nat} {live : LiveResource} : s.resources.length ≤ handle →
    s'.resources[handle]? = some live → handle ∉ r.resources.map (·.2) → live.attempts = []
  /-- Resources that were there before are left alone. -/
  older {handle : Nat} : handle < s.resources.length →
    s'.resources[handle]? = s.resources[handle]?
  /-- The fetches, and nobody else, have been put in the queue. -/
  ready : s'.ready = s.ready ++ (r.resources.filter fun x =>
    s.hasRuntime && (chosen? owner definitions x.1).any (·.auto)).map fun x =>
      .attempt x.2 0 .go
  /-- Nothing else in the session has changed. -/
  frame : ∃ resources named ready log, s' = { s with resources, named, ready, log }

/-- **A registry that is attached has what its definitions ask for.** -/
theorem attached_of_ok {id : String} (h : attach s id owner definitions = .ok (s', r')) :
    Attached s owner definitions s' r' := by
  have once : (r'.resources.map (·.2)).Nodup := (apart_attach h).once
  obtain ⟨name, -, failed⟩ | ⟨-, log, bridge, made⟩ := attach_eq s id owner definitions
  · rw [failed] at h
    cases h
  rw [made] at h
  cases h
  generalize hr : enlist { id, owner, bridge } s.resources.length (wantedConfigs owner definitions)
    = r at once ⊢
  have given {name : String} {handle : Nat} (given : value? r.resources name = some handle) :
      ∃ config, chosen? owner definitions name = some config ∧ s.resources.length ≤ handle ∧
        (s.furnish (wantedConfigs owner definitions)).resources[handle]?
          = some (.fresh name config) := by
    rw [← value?_wantedConfigs]
    exact made_of_enlist (hr ▸ given)
  have ascending : (Keyed.keys r.resources).Pairwise (· < ·) :=
    hr ▸ Keyed.ascending_overlay .nil _
  have mine {name : String} {handle : Nat} (mem : (name, handle) ∈ r.resources) :=
    given (Keyed.value?_of_mem ascending mem)
  have built (handle : Nat) :
      ({ s.furnish (wantedConfigs owner definitions) with log } : Session).resources[handle]?
        = (s.furnish (wantedConfigs owner definitions)).resources[handle]? := rfl
  refine
    { names := fun name => ?_, ascending, chosen := fun {name handle} there => ?_
      overwritten := fun {handle live} le there old => ?_, older := fun {handle} lt => ?_
      ready := ?_, frame := ?_ }
  · rw [← hr, mem_keys_enlist]
    simp only [mem_wantedConfigs, exists_or, Option.isSome_iff_exists]
    refine or_congr_right ⟨?_, ?_⟩
    · exact fun ⟨config, derive, mem, yields⟩ => ⟨derive, mem, config, yields⟩
    · exact fun ⟨derive, mem, config, yields⟩ => ⟨config, derive, mem, yields⟩
  · obtain ⟨config, chosen, le, there'⟩ := given there
    have mem : handle ∈ r.resources.map (·.2) := List.mem_map_of_mem (Keyed.mem_of_value? there)
    refine ⟨config, chosen, le, ?_⟩
    rw [resources_autoFetches once, built handle, there', Option.map_some,
      if_congr (and_iff_right mem) rfl rfl]
    rfl
  · rw [resources_autoFetches once] at there
    simp only [old, false_and, if_false, Option.map_id'] at there
    exact Session.attempts_furnish le there
  · have new : handle ∉ r.resources.map (·.2) := by
      intro listed
      obtain ⟨⟨name, i⟩, mem, rfl⟩ := List.mem_map.1 listed
      obtain ⟨-, -, le, -⟩ := mine mem
      exact Nat.not_lt.2 le lt
    rw [resources_autoFetches once]
    simp only [new, false_and, if_false, Option.map_id']
    exact List.getElem?_append_left lt
  · obtain ⟨resources, log', run⟩ := autoFetches_eq once
      { s.furnish (wantedConfigs owner definitions) with log }
    rw [run]
    refine congrArg (s.ready ++ ·) ?_
    rw [← List.filterMap_eq_map, List.filterMap_filter]
    refine List.filterMap_congr fun ⟨name, handle⟩ mem => ?_
    obtain ⟨config, chosen, -, there⟩ := mine mem
    rw [starts?, built handle, there, chosen]
    rfl
  · obtain ⟨resources, log', run⟩ := autoFetches_eq once
      { s.furnish (wantedConfigs owner definitions) with log }
    rw [run]
    exact ⟨_, _, _, _, rfl⟩

/-- Resources have been made in a session, and nothing else has happened: no fetch has been started
and no call has been made. -/
structure Unfetched (s stopped : Session) : Prop where
  made : ∃ new, stopped.resources = s.resources ++ new ∧ ∀ live ∈ new, live.attempts = []
  frame : ∃ resources named log, stopped = { s with resources, named, log }

theorem unfetched_furnish (s : Session) (made : List (String × Config)) (entries : List LogEntry) :
    Unfetched s ((s.furnish made).report entries) where
  made := by
    refine ⟨made.map fun x => .fresh x.1 x.2, rfl, fun live mem => ?_⟩
    obtain ⟨x, -, rfl⟩ := List.mem_map.1 mem
    rfl
  frame := ⟨_, _, _, rfl⟩

/-- **Attaching is all or nothing.** It fails exactly if a fixed definition, or a derived one that
yields a config for the first owner, has no method. The error is that of the first such fixed
definition, or else of the first such derived one, and until then no fetch has been started. When it
succeeds, every name has the last of the configs that are derived for it, or else its last fixed
one, and one fetch if that fetches by itself; resources that have been overwritten have none. -/
theorem attach_all_or_nothing (s : Session) (id : String) (owner : α)
    (definitions : List (String × Definition α)) :
    ((∃ e, attach s id owner definitions = .error e) ↔ ∃ name config,
      Text.isBlank config.method = true ∧ ((name, .fixed config) ∈ definitions ∨
        ∃ derive, (name, .derived derive) ∈ definitions ∧ derive owner = some config)) ∧
    (∀ e, attach s id owner definitions = .error e → ∃ name, e = .missingMethod name ∧
      (firstBlank? (fixedConfigs definitions)).or (firstBlank? (derivedConfigs owner definitions))
        = some name) ∧
    (∀ e, attach s id owner definitions = .error e
      ↔ ∃ stopped, Stops s id owner definitions stopped e) ∧
    (∀ stopped e, Stops s id owner definitions stopped e → Unfetched s stopped) ∧
    ∀ s' r, attach s id owner definitions = .ok (s', r) → Attached s owner definitions s' r := by
  have wanted : (firstBlank? (wantedConfigs owner definitions)).isSome = true ↔ ∃ name config,
      Text.isBlank config.method = true ∧ ((name, .fixed config) ∈ definitions ∨
        ∃ derive, (name, .derived derive) ∈ definitions ∧ derive owner = some config) := by
    simp only [firstBlank?_isSome, mem_wantedConfigs, and_comm]
  refine ⟨?_, fun e failed => ?_, fun e => attach_error_iff, fun stopped e stops => ?_,
    fun s' r => attached_of_ok⟩
  · rw [← wanted]
    obtain ⟨name, blank, failed⟩ | ⟨none, log, bridge, made⟩ := attach_eq s id owner definitions
    · simp [blank, failed]
    · simp [none, made]
  · rw [← firstBlank?_append]
    obtain ⟨name, blank, failed'⟩ | ⟨-, log, bridge, made⟩ := attach_eq s id owner definitions
    · rw [failed'] at failed
      cases failed
      exact ⟨name, rfl, blank⟩
    · rw [made] at failed
      cases failed
  · obtain ⟨made, entries, rfl⟩ := stops.furnished
    exact unfetched_furnish s made entries

/-! ### Tickets that are defined twice -/

/-- Tickets with a fixed config and with one for a team, and a clock between them. -/
def twiceDefined : List (String × Definition String) :=
  [("tickets", .fixed { method := "list", auto := true }), ("clock", .fixed { method := "now" }),
    ("tickets", .derived fun team => some { method := team, auto := true })]

/-- The session and the registry when they have been attached for a team. -/
def twiceAttached (team : String) : Session × Registry String :=
  match attach {} "desk" team twiceDefined with
  | .ok state => state
  | .error _ => ({}, { id := "desk", owner := team })

/-- The config for the team takes the place of the fixed one, which fetches nothing. Without the
name of a team nothing is fetched at all. -/
theorem tickets_attached_once :
    Attached {} "support" twiceDefined (twiceAttached "support").1 (twiceAttached "support").2 ∧
      (twiceAttached "support").1.ready = [.attempt 2 0 .go] ∧
      chosen? "support" twiceDefined "tickets" = some { method := "support", auto := true } ∧
      attach {} "desk" " " twiceDefined = .error (.missingMethod "tickets") ∧
      ∃ stopped, Stops {} "desk" " " twiceDefined stopped (.missingMethod "tickets") ∧
        Unfetched {} stopped := by
  have accepted : attach {} "desk" "support" twiceDefined
      = .ok ((twiceAttached "support").1, (twiceAttached "support").2) := rfl
  have attached := (attach_all_or_nothing {} "desk" "support" twiceDefined).2.2.2.2 _ _ accepted
  obtain ⟨fails, first, stops, unfetched, -⟩ := attach_all_or_nothing {} "desk" " " twiceDefined
  obtain ⟨e, failed⟩ := fails.2
    ⟨"tickets", { method := " ", auto := true }, rfl, .inr ⟨_, .tail _ (.tail _ (.head _)), rfl⟩⟩
  obtain ⟨name, rfl, blank⟩ := first e failed
  cases blank
  obtain ⟨stopped, stopping⟩ := (stops _).1 failed
  exact ⟨attached, attached.ready.trans rfl, rfl, failed, stopped, stopping,
    unfetched _ _ stopping⟩

end Registry

end ReactiveResource
