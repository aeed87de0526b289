import ReactiveResource.Proofs.Registry.Run
import ReactiveResource.Proofs.Session.Silence

/-!
# Resources of a registry do not interfere

Every name of a registry has a resource of its own. A watcher that fires concerns the resource of
its name; the watchers and the resources of other names are left alone, whether its config is
accepted or refused.

* `Bridge.named`: the watchers of a name, through every operation on the watchers;
* `Registry.Regular`: names have resources of their own, and no listener operates on any;
* `Registry.Concerns`: an operation concerns the resource of one name;
* `Registry.Aside`, `aside_responds`: what other watchers leave as it is.
-/

namespace ReactiveResource

namespace Bridge

variable {α : Type} {b : Bridge α} {owner : α} {name other : String}

/-- The watchers of a name. -/
def named (b : Bridge α) (name : String) : List (Watcher α) :=
  b.watchers.filter fun w => w.name = name

theorem named_register_self (b : Bridge α) (name : String) (derive : α → Option Config) :
    (b.register name derive).named name = b.named name ++ [({ name, derive } : Watcher α)] := by
  simp [named, register]

theorem named_register_of_ne (h : other ≠ name) (derive : α → Option Config) :
    (b.register other derive).named name = b.named name := by
  simp [named, register, h]

theorem name_refresh (owner : α) (w : Watcher α) : (refresh owner w).name = w.name := by
  unfold refresh
  simp only
  split <;> rfl

theorem derive_refresh (owner : α) (w : Watcher α) : (refresh owner w).derive = w.derive := by
  unfold refresh
  simp only
  split <;> rfl

theorem named_evaluate (b : Bridge α) (owner : α) (name : String) :
    (b.evaluate owner).1.named name = (b.named name).map (refresh owner) := by
  simp only [named, evaluate, List.filter_map, Function.comp_def, name_refresh]

theorem name_of_fireOf {w : Watcher α} {f : WatcherFire} (h : fireOf owner w = some f) :
    f.name = w.name ∧ f.new = w.derive owner := by
  unfold fireOf at h
  extract_lets new at h
  split at h
  · cases h
    exact ⟨rfl, rfl⟩
  · cases h

/-- Those that fire under a name are the watchers of that name. -/
theorem fires_named (b : Bridge α) (owner : α) (name : String) :
    (b.evaluate owner).2.filter (fun f => f.name = name)
      = (b.named name).filterMap (fireOf owner) := by
  unfold evaluate named
  induction b.watchers with
  | nil => rfl
  | cons w rest ih =>
    cases hf : fireOf owner w with
    | none =>
      rw [List.filterMap_cons_none hf, ih, List.filter_cons]
      split
      · rw [List.filterMap_cons_none hf]
      · rfl
    | some f =>
      rw [List.filterMap_cons_some hf, List.filter_cons, List.filter_cons, (name_of_fireOf hf).1]
      split
      · rw [List.filterMap_cons_some hf, ih]
      · exact ih

theorem named_restore_of_ne (h : other ≠ name) (config : Option Config) :
    (b.restore other config).named name = b.named name := by
  unfold restore named
  induction b.watchers with
  | nil => rfl
  | cons w rest ih =>
    simp only [restoreIn] at ih ⊢
    split
    · next hw => simp [hw, h]
    · simp only [List.filter_cons, ih]

theorem named_restore_self {w : Watcher α} (h : b.named name = [w]) (config : Option Config) :
    (b.restore name config).named name = [{ w with last := config }] := by
  obtain ⟨watchers⟩ := b
  simp only [named, restore] at h ⊢
  induction watchers with
  | nil => cases h
  | cons v rest ih =>
    simp only [restoreIn]
    by_cases hv : v.name = name
    · subst hv
      simp only [List.filter_cons, decide_true, if_true, List.cons.injEq] at h ⊢
      obtain ⟨rfl, none⟩ := h
      exact ⟨rfl, none⟩
    · simp only [List.filter_cons, hv, decide_false, if_false, Bool.false_eq_true] at h ⊢
      exact ih h

/-- No listener of a derived config operates on a resource. -/
def Silent (b : Bridge α) : Prop :=
  ∀ w ∈ b.watchers, ∀ owner config, w.derive owner = some config → config.listeners.Silent

theorem Silent.register (h : b.Silent) {derive : α → Option Config}
    (new : ∀ owner config, derive owner = some config → config.listeners.Silent) :
    (b.register name derive).Silent := by
  intro w hw
  rcases List.mem_append.1 hw with hw | hw
  · exact h w hw
  · cases List.mem_singleton.1 hw
    exact new

theorem Silent.evaluate (h : b.Silent) (owner : α) : (b.evaluate owner).1.Silent := by
  intro w hw
  obtain ⟨v, hv, rfl⟩ := List.mem_map.1 hw
  rw [derive_refresh]
  exact h v hv

theorem Silent.restore (h : b.Silent) (name : String) (config : Option Config) :
    (b.restore name config).Silent := by
  have derives (ws : List (Watcher α)) :
      ∀ w ∈ restoreIn name config ws, ∃ v ∈ ws, v.derive = w.derive := by
    induction ws with
    | nil => exact List.forall_mem_nil _
    | cons v rest ih =>
      intro w hw
      rw [restoreIn] at hw
      split at hw
      · rcases List.mem_cons.1 hw with rfl | hw
        · exact ⟨v, List.mem_cons_self, rfl⟩
        · exact ⟨w, List.mem_cons_of_mem v hw, rfl⟩
      · rcases List.mem_cons.1 hw with rfl | hw
        · exact ⟨w, List.mem_cons_self, rfl⟩
        · obtain ⟨v', hv', he⟩ := ih w hw
          exact ⟨v', List.mem_cons_of_mem v hv', he⟩
  intro w hw
  obtain ⟨v, hv, he⟩ := derives _ w hw
  exact he ▸ h v hv

theorem Silent.fires (h : b.Silent) {f : WatcherFire} (hf : f ∈ (b.evaluate owner).2)
    {config : Config} (new : f.new = some config) : config.listeners.Silent := by
  obtain ⟨w, hw, fired⟩ := List.mem_filterMap.1 hf
  rw [(name_of_fireOf fired).2] at new
  exact h w hw owner config new

end Bridge

namespace Registry

open Keyed (value?)

variable {α : Type} {s s' s'' : Session} {r r' r'' : Registry α} {name other : String}

/-! ### Regular registries -/

/-- The registry is attached to a session with a runtime, every name has a resource of its own, and
no listener operates on a resource. -/
structure Regular (s : Session) (r : Registry α) : Prop where
  runtime : s.hasRuntime = true
  attached : r.attached = true
  silent : s.Silent
  derives : r.bridge.Silent
  present : ∀ {n h}, value? r.resources n = some h → ∃ live, s.resources[h]? = some live
  distinct : ∀ {m n h}, value? r.resources m = some h → value? r.resources n = some h → m = n

/-- Operations that let no attempt move, on a registry that has no other resources after them. -/
theorem Regular.beside (h : Regular s r) (beside : s.Beside s') (silent : s'.Silent)
    (derives : r'.bridge.Silent) (resources : r'.resources = r.resources)
    (attached : r'.attached = r.attached) : Regular s' r' where
  runtime := beside.runtime.trans h.runtime
  attached := attached.trans h.attached
  silent := silent
  derives := derives
  present hv := by
    obtain ⟨live, hl⟩ := h.present (resources ▸ hv)
    obtain ⟨actions, -, hl'⟩ := beside.evolves.old hl
    exact ⟨_, hl'⟩
  distinct hm hn := by
    rw [resources] at hm hn
    exact h.distinct hm hn

/-- One name is given a new resource. -/
theorem Regular.define (h : Regular s r) {config : Config} (silent : config.listeners.Silent)
    {handle : Nat} (made : s.create name config = .ok (s', handle)) :
    Regular s' { r with resources := Keyed.put r.resources name handle } := by
  have kept : Regular s' r :=
    h.beside (Session.beside_create made) (h.silent.create silent made) h.derives rfl rfl
  refine ⟨kept.runtime, h.attached, kept.silent, h.derives, fun hv => ?_,
    Keyed.distinct_put h.distinct fun n hv => ?_⟩
  · rcases Keyed.value?_put_eq_some hv with ⟨-, rfl⟩ | ⟨-, hv⟩
    · exact ⟨_, Session.resources_create made⟩
    · exact kept.present hv
  · obtain ⟨live, hl⟩ := h.present hv
    cases (Session.new_of_create made).symm.trans hl

/-! ### Operations that concern one name -/

/-- An operation concerns the resource of one name: no other resource has changed, and no other name
has another resource. -/
structure Concerns (name : String) (s : Session) (r : Registry α) (s' : Session) (r' : Registry α) :
    Prop where
  regular : Regular s' r'
  beside : s.Beside s'
  owner : r'.owner = r.owner
  bridge : r'.bridge = r.bridge
  others : ∀ {n}, n ≠ name → value? r'.resources n = value? r.resources n
  elsewhere : ∀ {i}, value? r'.resources name ≠ some i → s'.resources[i]? = s.resources[i]?

theorem Regular.concerns_self (h : Regular s r) (name : String) : Concerns name s r s r where
  regular := h
  beside := .refl s
  owner := rfl
  bridge := rfl
  others _ := rfl
  elsewhere _ := rfl

/-- An operation on the resource that a name has. -/
theorem Regular.concerns (h : Regular s r) {handle : Nat}
    (hv : value? r.resources name = some handle) (beside : s.Beside s')
    (same : s.SameBut handle s') (silent : s'.Silent) : Concerns name s r s' r where
  regular := h.beside beside silent h.derives rfl rfl
  beside := beside
  owner := rfl
  bridge := rfl
  others _ := rfl
  elsewhere hi := same _ fun e => hi (e ▸ hv)

theorem Regular.concerns_create (h : Regular s r) {config : Config}
    (silent : config.listeners.Silent) {handle : Nat}
    (made : s.create name config = .ok (s', handle)) :
    Concerns name s r s' { r with resources := Keyed.put r.resources name handle } where
  regular := h.define silent made
  beside := Session.beside_create made
  owner := rfl
  bridge := rfl
  others hn := Keyed.value?_put_of_ne _ _ (Ne.symm hn)
  elsewhere hi := Session.sameBut_create made _ fun e =>
    hi (e ▸ Keyed.value?_put_self _ _ _)

theorem Concerns.trans (h : Concerns name s r s' r') (h' : Concerns name s' r' s'' r'')
    (kept : value? r''.resources name = value? r'.resources name) :
    Concerns name s r s'' r'' where
  regular := h'.regular
  beside := h.beside.trans h'.beside
  owner := h'.owner.trans h.owner
  bridge := h'.bridge.trans h.bridge
  others hn := (h'.others hn).trans (h.others hn)
  elsewhere hi := (h'.elsewhere hi).trans (h.elsewhere fun e => hi (kept.trans e))

/-- A derived config that has changed concerns the resource of its name. -/
theorem Regular.apply (h : Regular s r) {new old : Option Config}
    (silent : ∀ config, new = some config → config.listeners.Silent)
    (applied : r.apply s name new old = .ok (s', r')) : Concerns name s r s' r' := by
  cases apply_ok applied with
  | idle => exact h.concerns_self name
  | @withdraw _ handle entries _ given =>
    have reported : (s.report entries).Silent := h.silent.of_resources rfl
    exact h.concerns given
      ((Session.beside_report s entries).trans (Session.beside_cancel _ handle))
      (Session.sameBut_cancel (s.report entries) handle) reported.cancel
  | @make config _ created handle _ _ made =>
    have first := h.concerns_create (silent config rfl) made
    split
    · refine first.trans (first.regular.concerns (Keyed.value?_put_self _ _ _)
        (Session.beside_fetch created handle) (Session.sameBut_fetch created handle) ?_) rfl
      exact first.regular.silent.fetch
    · exact first
  | @replace config _ handle _ _ _ given _ _ taken =>
    split at taken
    · exact h.concerns given
        ((Session.beside_cancel s handle).trans (Session.beside_update taken))
        ((Session.sameBut_cancel s handle).trans (Session.sameBut_update taken))
        (h.silent.cancel.update (silent config rfl) taken)
    · exact h.concerns given (Session.beside_update taken) (Session.sameBut_update taken)
        (h.silent.update (silent config rfl) taken)

/-! ### What is left alone -/

/-- The watchers of a name and its resource are as they were. -/
structure Aside (name : String) (s : Session) (r : Registry α) (s' : Session) (r' : Registry α) :
    Prop where
  regular : Regular s' r'
  beside : s.Beside s'
  owner : r'.owner = r.owner
  watchers : r'.bridge.named name = r.bridge.named name
  handle : value? r'.resources name = value? r.resources name
  resource : ∀ {h}, value? r.resources name = some h → s'.resources[h]? = s.resources[h]?

theorem Aside.refl (h : Regular s r) (name : String) : Aside name s r s r :=
  ⟨h, .refl s, rfl, rfl, rfl, fun _ => rfl⟩

theorem Aside.trans (h : Aside name s r s' r') (h' : Aside name s' r' s'' r'') :
    Aside name s r s'' r'' where
  regular := h'.regular
  beside := h.beside.trans h'.beside
  owner := h'.owner.trans h.owner
  watchers := h'.watchers.trans h.watchers
  handle := h'.handle.trans h.handle
  resource hv := (h'.resource (h.handle.trans hv)).trans (h.resource hv)

/-- What concerns another name leaves a name alone. -/
theorem Concerns.aside (h : Concerns other s r s' r') (hne : other ≠ name) :
    Aside name s r s' r' where
  regular := h.regular
  beside := h.beside
  owner := h.owner
  watchers := by rw [h.bridge]
  handle := h.others (Ne.symm hne)
  resource hv := h.elsewhere fun hv' =>
    hne (h.regular.distinct hv' ((h.others (Ne.symm hne)).trans hv))

theorem Regular.report (h : Regular s r) (entries : List LogEntry) : Regular (s.report entries) r :=
  h.beside (Session.beside_report s entries) (h.silent.of_resources rfl) h.derives rfl rfl

/-- A step in which nobody operates on a resource. -/
theorem Regular.step (h : Regular s r) (attended : s.Attended) {step : Session.Step}
    (passive : step.Passive) : Regular (s.step step) r where
  runtime := (attended.retains_step passive).runtime.trans h.runtime
  attached := h.attached
  silent := h.silent.step attended.orderly passive
  derives := h.derives
  present hv := by
    obtain ⟨live, hl⟩ := h.present hv
    obtain ⟨actions, -, hl'⟩ := (Session.evolves_step s step).old hl
    exact ⟨_, hl'⟩
  distinct := h.distinct

theorem Regular.respond (h : Regular s r) {f : WatcherFire}
    (silent : ∀ config, f.new = some config → config.listeners.Silent)
    (failed : Option ConfigError) :
    Regular (Registry.respond (s, r, failed) f).1 (Registry.respond (s, r, failed) f).2.1 := by
  rw [Registry.respond]
  split
  · next applied => exact (h.apply silent applied).regular
  · exact h.beside (Session.beside_report s _) (h.silent.of_resources rfl)
      (h.derives.restore _ _) rfl rfl

theorem Regular.responds (h : Regular s r) {fires : List WatcherFire}
    (silent : ∀ f ∈ fires, ∀ config, f.new = some config → config.listeners.Silent)
    (failed : Option ConfigError) :
    Regular (fires.foldl Registry.respond (s, r, failed)).1
      (fires.foldl Registry.respond (s, r, failed)).2.1 := by
  induction fires generalizing s r failed with
  | nil => exact h
  | cons f rest ih =>
    rw [List.forall_mem_cons] at silent
    exact ih (h.respond silent.1 failed) silent.2 _

/-- A watcher of another name that fires leaves a name alone. -/
theorem Regular.aside_respond (h : Regular s r) {f : WatcherFire} (hne : f.name ≠ name)
    (silent : ∀ config, f.new = some config → config.listeners.Silent)
    (failed : Option ConfigError) :
    Aside name s r (Registry.respond (s, r, failed) f).1
      (Registry.respond (s, r, failed) f).2.1 := by
  rw [Registry.respond]
  split
  · next applied => exact (h.apply silent applied).aside hne
  · exact ⟨h.beside (Session.beside_report s _) (h.silent.of_resources rfl)
      (h.derives.restore _ _) rfl rfl, Session.beside_report s _, rfl,
      Bridge.named_restore_of_ne hne _, rfl, fun _ => rfl⟩

/-- **Watchers of other names leave a name alone.** -/
theorem Regular.aside_responds (h : Regular s r) {fires : List WatcherFire}
    (hne : ∀ f ∈ fires, f.name ≠ name)
    (silent : ∀ f ∈ fires, ∀ config, f.new = some config → config.listeners.Silent)
    (failed : Option ConfigError) :
    Aside name s r (fires.foldl Registry.respond (s, r, failed)).1
      (fires.foldl Registry.respond (s, r, failed)).2.1 := by
  induction fires generalizing s r failed with
  | nil => exact .refl h name
  | cons f rest ih =>
    rw [List.forall_mem_cons] at hne silent
    have first := h.aside_respond hne.1 silent.1 failed
    exact first.trans (ih first.regular hne.2 silent.2 _)

end Registry

end ReactiveResource
