import ReactiveResource.Proofs.Registry.Consistency
import ReactiveResource.Proofs.Registry.Convergence
import ReactiveResource.Proofs.Session.Rousing

/-!
# Pages left over from former configs

A derived resource that is paginated starts its pages afresh with every config that is accepted. It
shows the page of the present config in the end, but not always that alone: fetches that have not
been started bring the page once more, and a page that has been called for comes in front unless the
call is cancelled, which it is not if the watcher remembers no config.

* `Config.Paged`: configs that fetch their pages by themselves;
* `Registry.surplus`, `World.leftover`: the pages that a change of config leaves, and those that
  are left at the end of a run;
* `Registry.Unencumbered`, `surplus_eq_nil_iff`, `leftover_eq_nil_iff`: when nothing is left over;
* `World.Gathers`, `Gathers.after`: the pages to come, as every run leaves them;
* `pages_at_rest`: what a resource shows when all has come to rest.
-/

namespace ReactiveResource

open Keyed (value?)

/-- Configs of this kind fetch by themselves, page by page from none on, and nothing holds their
fetches up but the page lock. -/
structure Config.Paged (c : Config) : Prop where
  auto : c.auto = true
  paginated : c.paginated = true
  unprimed : c.defaultData = none
  unheld : c.Unheld

/-- Arrays that are equal have equally many items. -/
theorem Json.length_of_sameItems {as bs : List Json} (h : sameItems as bs = true) :
    as.length = bs.length := by
  induction as generalizing bs with
  | nil => cases bs <;> simp_all [sameItems]
  | cons a as ih =>
    cases bs with
    | nil => simp [sameItems] at h
    | cons b bs =>
      simp only [sameItems, Bool.and_eq_true] at h
      simp [ih h.2]

/-- What has been started afresh with the page of a config is that page if nothing is left over. -/
theorem Json.append_same_iff {as bs cs : List Json} (h : (Json.arr bs == .arr cs) = true) :
    (Json.arr (as ++ bs) == .arr cs) = true ↔ as = [] := by
  have items {xs ys : List Json} (h : (Json.arr xs == .arr ys) = true) : xs.length = ys.length :=
    length_of_sameItems (by rwa [show (Json.arr xs == .arr ys) = same (.arr xs) (.arr ys) from rfl,
      same] at h)
  constructor
  · intro h'
    have length := (items h').trans (items h).symm
    rw [List.length_append] at length
    exact List.length_eq_zero_iff.1 (by omega)
  · rintro rfl
    exact h

namespace LiveResource

theorem serial_fresh {c : Config} (paged : c.Paged) (name : String) :
    ((fresh name c).spawn none).1.Serial :=
  ⟨(Unheld.of_fresh paged.unheld).spawn, paged.paginated⟩

variable {r r' : LiveResource}

theorem Serial.cancel (serial : r.Serial) : r.cancel.Serial :=
  ⟨serial.unheld.cancel, serial.paginated⟩

/-- A new config and its fetch. -/
theorem Serial.update (serial : r.Serial) {c : Config} (paged : c.Paged)
    (h : r.update c = .ok r') : r'.launched true = (r'.spawn none).1 ∧ (r'.spawn none).1.Serial ∧
      r'.resource.config = c := by
  obtain ⟨unheld, same⟩ := serial.unheld.update paged.unheld h
  refine ⟨?_, ⟨unheld.spawn, ?_⟩, same⟩
  · rw [launched, if_pos (by simp [same, paged.auto, unheld.alive])]
  · exact (congrArg Config.paginated same).trans paged.paginated

end LiveResource

namespace Registry

variable {α : Type} {s s' : Session} {r r' : Registry α} {name : String}
  {derive : α → Option Config} {f : Json → List Json} {last last' new : Option Config}
  {left : List Json}

/-! ### What a change of config leaves -/

/-- The config that a name takes over: it has changed, and is not refused. -/
def renewal? (name : String) (live : Option LiveResource) (last new : Option Config) :
    Option Config :=
  new.filter fun c => configChanged last (some c) && (refusal? name live c).isNone

/-- What will be shown besides the page of a config that is taken over. The current fetch is
cancelled first if the watcher remembers a config. -/
def surplus (f : Json → List Json) (live : Option LiveResource) (last : Option Config)
    (c : Config) : List Json :=
  live.elim [] fun live => (if last.isSome then live.cancel else live).surplus f c

/-- What is left over when a config is derived for a name. -/
def leaves (f : Json → List Json) (name : String) (live : Option LiveResource)
    (last new : Option Config) (left : List Json) : List Json :=
  (renewal? name live last new).elim left (surplus f live last)

section Leaves

variable {live : Option LiveResource}

theorem leaves_of_unchanged (same : configChanged last new = false) :
    leaves f name live last new left = left := by
  cases new with
  | none => rfl
  | some c =>
    rw [leaves, renewal?, Option.filter_some, if_neg (by simp [same])]
    rfl

theorem leaves_of_refused {c : Config} {e : ConfigError} (refused : refusal? name live c = some e) :
    leaves f name live last (some c) left = left := by
  rw [leaves, renewal?, Option.filter_some, if_neg (by simp [refused])]
  rfl

theorem leaves_of_accepted {c : Config} (changed : configChanged last (some c) = true)
    (accepted : refusal? name live c = none) :
    leaves f name live last (some c) left = surplus f live last c := by
  rw [leaves, renewal?, Option.filter_some, if_pos (by simp [changed, accepted])]
  rfl

end Leaves

/-- A config is taken over with nothing under way that brings more than its page: every fetch has
been started, unless the page is empty, and the page that has been called for is empty, unless the
call is cancelled first because the watcher remembers a config. -/
structure Unencumbered (f : Json → List Json) (live : Option LiveResource) (last : Option Config)
    (c : Config) : Prop where
  started : ∀ l, live = some l → l.unstarted = 0 ∨ c.page f = []
  called : ∀ l, live = some l → last = none → l.inHand f = []

theorem surplus_eq_nil_iff (f : Json → List Json) (live : Option LiveResource)
    (last : Option Config) (c : Config) :
    surplus f live last c = [] ↔ Unencumbered f live last c := by
  have unfolded : Unencumbered f live last c ↔ ∀ l, live = some l →
      (last = none → l.inHand f = []) ∧ (l.unstarted = 0 ∨ c.page f = []) :=
    ⟨fun h l there => ⟨h.called l there, h.started l there⟩,
      fun h => ⟨fun l there => (h l there).2, fun l there => (h l there).1⟩⟩
  rw [unfolded]
  cases live with
  | none => simp [surplus]
  | some live =>
    have cancelled : live.cancel.unstarted = live.unstarted := rfl
    cases last with
    | none => simp [surplus, LiveResource.surplus_eq_nil_iff]
    | some m =>
      simp [surplus, LiveResource.surplus_eq_nil_iff, LiveResource.inHand_cancel, cancelled]

/-! ### The pages of a name -/

/-- The pages of a name, if it has a resource, are going to be those that are left over and then the
page of the config, as long as the watcher remembers it. -/
inductive Collects (f : Json → List Json) (s : Session) (r : Registry α) (name : String)
    (last : Option Config) (left : List Json) : Prop
  | unmade (vacant : value? r.resources name = none)
  | made {handle : Nat} {live : LiveResource} (given : value? r.resources name = some handle)
      (rouses : s.Rouses handle live) (serial : live.Serial)
      (foresees : last ≠ none → live.Foresees f (left ++ live.resource.config.page f))

theorem live?_of_rouses {handle : Nat} {live : LiveResource}
    (given : value? r.resources name = some handle) (rouses : s.Rouses handle live) :
    live? s r name = some live := (live?_of_given given).trans rouses.there

/-- A config that is derived for a resource: the pages to come are those of the former config, or
start afresh. -/
theorem Reacts.collects {live live' : LiveResource}
    (h : Reacts true name new (some live) last (some live') last')
    (paged : ∀ c, new = some c → c.Paged) (lined : live.Lined) (serial : live.Serial)
    (foresees : last ≠ none → live.Foresees f (left ++ live.resource.config.page f)) :
    live'.Serial ∧ (last' ≠ none → live'.Foresees f
      (leaves f name (some live) last new left ++ live'.resource.config.page f)) := by
  generalize after : some live' = latter at h
  cases h with
  | still same =>
    cases after
    rw [leaves_of_unchanged same]
    exact ⟨serial, foresees⟩
  | refuse derived refused =>
    cases after
    rw [derived, leaves_of_refused refused]
    exact ⟨serial, foresees⟩
  | withdraw =>
    cases after
    exact ⟨serial.cancel, by simp⟩
  | make _ _ vacant => cases vacant
  | @replace c former latter changed derived there accepted updated =>
    cases there
    cases after
    subst derived
    rw [leaves_of_accepted changed accepted, surplus, Option.elim_some]
    have paged := paged c rfl
    have begun (first : LiveResource) (lined : first.Lined) (serial : first.Serial)
        (updated : first.update c = .ok latter) : (latter.launched true).Serial ∧
          (some c ≠ none → (latter.launched true).Foresees f
            (first.surplus f c ++ (latter.launched true).resource.config.page f)) := by
      obtain ⟨launched, serial', same⟩ := serial.update paged updated
      rw [LiveResource.resource_launched, launched, same]
      exact ⟨serial', fun _ => lined.foresees_update f paged.unprimed updated⟩
    cases last with
    | none => exact begun live lined serial updated
    | some m =>
      exact begun live.cancel (lined.external (a := .cancel) trivial) serial.cancel updated

/-- A config that makes the resource, and its first fetch. -/
theorem Reacts.made (f : Json → List Json) (left : List Json) {live' : LiveResource}
    (h : Reacts true name new none last (some live') last')
    (paged : ∀ c, new = some c → c.Paged) :
    ∃ c, new = some c ∧ live' = ((LiveResource.fresh name c).spawn none).1 ∧
      leaves f name none last new left = [] := by
  generalize after : some live' = latter at h
  cases h with
  | still | refuse | withdraw => cases after
  | replace _ _ there => cases there
  | @make c changed derived _ accepted =>
    cases after
    subst derived
    refine ⟨c, rfl, if_pos ?_, leaves_of_accepted changed accepted⟩
    simp [LiveResource.fresh, LiveResource.ofResource, Resource.fresh, (paged c rfl).auto]

/-- **The pages of a name when the owner's state is changed.** -/
theorem Collects.mutate (collects : Collects f s r name last left) (housed : Housed s r)
    (runtime : s.hasRuntime = true) (named : r.bridge.named name = [{ name, derive, last }])
    (paged : ∀ owner c, derive owner = some c → c.Paged) (change : α → α) :
    ∃ last', (r.mutateOwner s change).2.1.bridge.named name = [{ name, derive, last := last' }] ∧
      Collects f (r.mutateOwner s change).1 (r.mutateOwner s change).2.1 name last'
        (leaves f name (live? s r name) last (derive (change r.owner)) left) ∧
      ∀ c, derive (change r.owner) = some c →
        refusal? name (live? (r.mutateOwner s change).1 (r.mutateOwner s change).2.1 name) c
          = none →
        ∃ m, last' = some m ∧ m.structurallyEq c = true := by
  obtain ⟨last', named', reacts⟩ := housed.reacts_mutate named change
  rw [runtime] at reacts
  refine ⟨last', named', ?_, fun c derived accepted => ?_⟩
  · have housed' := housed.mutate change
    have beside := Session.spans_beside.mutateOwner s r change
    cases collects with
    | made given rouses serial foresees =>
      have given' := handle_mutate (s := s) housed.attached given change
      obtain ⟨live', there'⟩ := housed'.present given'
      have rouses' := rouses.beside beside there'
      rw [live?_of_rouses given rouses, live?_of_rouses given' rouses'] at reacts
      rw [live?_of_rouses given rouses]
      obtain ⟨serial', foresees'⟩ := reacts.collects (paged _) rouses.lined serial foresees
      exact .made given' rouses' serial' foresees'
    | unmade vacant =>
      rw [live?_of_vacant vacant] at reacts ⊢
      cases given' : value? (r.mutateOwner s change).2.1.resources name with
      | none => exact .unmade given'
      | some handle =>
        obtain ⟨live', there'⟩ := housed'.present given'
        rw [live?_of_given given', there'] at reacts
        obtain ⟨c, derived, rfl, nothing⟩ := reacts.made f left (paged _)
        have paged := paged _ c derived
        rw [nothing]
        exact .made given' (Session.rouses_fresh there') (LiveResource.serial_fresh paged name)
          fun _ => LiveResource.foresees_fresh f name paged.unprimed
  · rw [derived] at reacts
    refine reacts.agrees.resolve_right ?_
    rintro ⟨e, refused, same⟩
    rw [same] at accepted
    cases refused.symm.trans accepted

end Registry

/-- Calls stay on record with their replies, and so does how they are answered. -/
theorem Session.Retains.answeredBy {s s' : Session} (h : s.Retains s') {f : String → Json → Reply}
    (answered : s'.AnsweredBy f) : s.AnsweredBy f := by
  intro c hc reply replied
  obtain ⟨n, hn⟩ := List.mem_iff_getElem?.1 hc
  obtain ⟨c', hn', method, params, kept⟩ := h.calls n c hn
  rw [← method, ← params]
  exact answered c' (List.mem_of_getElem? hn') reply (kept reply replied)

theorem Deed.Passive.routine {α : Type} {d : Deed α} (passive : d.Passive) : d.Routine := by
  cases d with
  | mutate | detach => exact passive
  | step taken => cases taken <;> trivial

namespace World

open Registry (Regular Heeded Collects Unencumbered leaves refusal? renewal? surplus)

variable {α : Type} {w : World α} {definitions : List (String × Definition α)} {name : String}
  {derive : α → Option Config} {f : Json → List Json} {left : List Json}

/-! ### Runs -/

/-- The pages that are left over after a deed: those from before, unless the name takes over another
config. -/
def leavesOver (f : Json → List Json) (name : String) (derive : α → Option Config) (w : World α)
    (left : List Json) : Deed α → List Json
  | .mutate change =>
    leaves f name (w.live? name) (w.remembered? name) (derive (change w.registry.owner)) left
  | _ => left

/-- The pages that are left over after some deeds. -/
def leftover (f : Json → List Json) (name : String) (derive : α → Option Config) :
    World α → List Json → List (Deed α) → List Json
  | _, left, [] => left
  | w, left, d :: rest =>
    leftover f name derive (w.act d) (w.leavesOver f name derive left d) rest

/-- The config that the name takes over by a deed. -/
def taken? (name : String) (derive : α → Option Config) (w : World α) : Deed α → Option Config
  | .mutate change =>
    renewal? name (w.live? name) (w.remembered? name) (derive (change w.registry.owner))
  | _ => none

/-- The last config that the name takes over by some deeds, with the world before it does. -/
def lastTaken? (name : String) (derive : α → Option Config) :
    World α → List (Deed α) → Option (World α × Config)
  | _, [] => none
  | w, d :: rest =>
    (lastTaken? name derive (w.act d) rest).or ((w.taken? name derive d).map (w, ·))

theorem leavesOver_eq (w : World α) (left : List Json) (d : Deed α) :
    w.leavesOver f name derive left d
      = (w.taken? name derive d).elim left (surplus f (w.live? name) (w.remembered? name)) := by
  cases d <;> rfl

/-- What is left over in the end was left over by the last config that was taken over. -/
theorem leftover_eq (w : World α) (left : List Json) (deeds : List (Deed α)) :
    leftover f name derive w left deeds
      = (lastTaken? name derive w deeds).elim left fun (before, c) =>
          surplus f (before.live? name) (before.remembered? name) c := by
  induction deeds generalizing w left with
  | nil => rfl
  | cons d rest ih =>
    rw [leftover, ih, leavesOver_eq, lastTaken?]
    cases lastTaken? name derive (w.act d) rest with
    | some last => rfl
    | none => cases w.taken? name derive d <;> rfl

/-- Nothing is left over in the end exactly if the last config was taken over with nothing under way
that brings more than its page. -/
theorem leftover_eq_nil_iff (f : Json → List Json) (name : String) (derive : α → Option Config)
    (w : World α) (deeds : List (Deed α)) :
    leftover f name derive w [] deeds = [] ↔
      ∀ before c, lastTaken? name derive w deeds = some (before, c) →
        Unencumbered f (before.live? name) (before.remembered? name) c := by
  rw [leftover_eq]
  cases lastTaken? name derive w deeds with
  | none => simp
  | some last =>
    rw [Option.elim_some, Registry.surplus_eq_nil_iff]
    constructor
    · rintro h before c ⟨⟩
      exact h
    · exact fun h => h last.1 last.2 rfl

/-- The pages of a derived definition are going to be those that are left over, and then the page of
the config that is derived now, unless that is refused. -/
structure Gathers (definitions : List (String × Definition α)) (f : Json → List Json)
    (name : String) (derive : α → Option Config) (w : World α) (left : List Json) : Prop where
  regular : Regular w.session w.registry
  heeded : Heeded definitions w.session w.registry
  collects : Collects f w.session w.registry name (w.remembered? name) left
  agrees : ∀ c, derive w.registry.owner = some c → refusal? name (w.live? name) c = none →
    ∃ m, w.remembered? name = some m ∧ m.structurallyEq c = true

theorem Gathers.mutate (h : w.Gathers definitions f name derive left)
    (names : (definitions.map (·.1)).Nodup) (mem : (name, .derived derive) ∈ definitions)
    (paged : ∀ owner c, derive owner = some c → c.Paged) (change : α → α) :
    (w.act (.mutate change)).Gathers definitions f name derive
      (w.leavesOver f name derive left (.mutate change)) := by
  obtain ⟨last, named⟩ := h.heeded.enrolled.named names mem
  have remembered : w.remembered? name = last := Bridge.remembered?_of_named named
  obtain ⟨last', named', collects, agrees⟩ := (remembered ▸ h.collects).mutate
    h.heeded.enrolled.housed h.regular.runtime named paged change
  have remembered' : (w.act (.mutate change)).remembered? name = last' :=
    Bridge.remembered?_of_named named'
  refine
    { regular := h.regular.mutate change
      heeded := h.heeded.mutate names change
      collects := ?_
      agrees := fun c derived accepted => ?_ }
  · rw [remembered', leavesOver, remembered]
    exact collects
  · rw [remembered']
    refine agrees c ?_ accepted
    rw [← derived]
    exact congrArg derive (Registry.owner_mutate w.registry w.session change).symm

theorem Gathers.step (h : w.Gathers definitions f name derive left)
    (names : (definitions.map (·.1)).Nodup) (attended : w.session.Attended)
    (answered : w.session.AnsweredBy fun _ args => .ok (.arr (f args))) {step : Session.Step}
    (passive : step.Passive) : (w.act (.step step)).Gathers definitions f name derive left := by
  have heeded := heeded_act names h.heeded (d := .step step)
    (Deed.Passive.routine (d := .step step) passive)
  have housed := h.heeded.enrolled.housed
  refine
    { regular := h.regular.step attended passive
      heeded := heeded
      collects := ?_
      agrees := fun c derived accepted => h.agrees c derived ?_ }
  · cases h.collects with
    | unmade vacant => exact .unmade vacant
    | @made handle live given rouses serial foresees =>
      obtain ⟨live', rouses', serial', config, foresees'⟩ :=
        rouses.foresees_step serial attended h.regular.silent passive (f := f)
          fun id method args reply ⟨n, c, made, _, same, replied⟩ => by
            rw [answered c (List.mem_of_getElem? made.2) reply replied, same]
      refine .made given rouses' serial' fun remembered => ?_
      have page : live'.resource.config.page f = live.resource.config.page f :=
        congrArg f (Config.callArgs_of_bare config)
      rw [page]
      exact foresees' _ (foresees remembered)
  · rw [live?, ← housed.refusal?_evolves (Session.evolves_step w.session step)]
    exact accepted

theorem retains_act (attended : w.session.Attended) {d : Deed α} (passive : d.Passive) :
    w.session.Retains (w.act d).session := by
  cases d with
  | step step => exact attended.retains_step passive
  | mutate change => exact (Session.spans_beside.mutateOwner w.session w.registry change).retains
  | detach => exact passive.elim

theorem Reachable.retains_after (reachable : w.Reachable definitions) {deeds : List (Deed α)}
    (passive : ∀ d ∈ deeds, d.Passive) : w.session.Retains (w.after deeds).session := by
  induction deeds generalizing w with
  | nil => exact .refl _
  | cons d rest ih =>
    rw [List.forall_mem_cons] at passive
    exact (retains_act reachable.attended passive.1).trans (ih (reachable.act d) passive.2)

/-- **The pages to come, as every run leaves them.** -/
theorem Gathers.after (h : w.Gathers definitions f name derive left)
    (names : (definitions.map (·.1)).Nodup) (mem : (name, .derived derive) ∈ definitions)
    (paged : ∀ owner c, derive owner = some c → c.Paged) (reachable : w.Reachable definitions)
    {deeds : List (Deed α)} (passive : ∀ d ∈ deeds, d.Passive)
    (answered : (w.after deeds).session.AnsweredBy fun _ args => .ok (.arr (f args))) :
    (w.after deeds).Gathers definitions f name derive (leftover f name derive w left deeds) := by
  induction deeds generalizing w left with
  | nil => exact h
  | cons d rest ih =>
    have before := (reachable.retains_after passive).answeredBy answered
    rw [List.forall_mem_cons] at passive
    refine ih ?_ (reachable.act d) passive.2 answered
    cases d with
    | step step => exact h.step names reachable.attended before passive.1
    | mutate change => exact h.mutate names mem paged change
    | detach => exact passive.1.elim

/-- When a registry has been attached, nothing is left over. -/
theorem gathers_attach (names : (definitions.map (·.1)).Nodup)
    (mem : (name, .derived derive) ∈ definitions)
    (paged : ∀ owner c, derive owner = some c → c.Paged) (silent : ∀ x ∈ definitions, x.2.Silent)
    {s s' : Session} {id : String} {owner : α} {r : Registry α} (vacant : s.Vacant)
    (runtime : s.hasRuntime = true)
    (attached : Registry.attach s id owner definitions = .ok (s', r)) :
    World.Gathers definitions f name derive { session := s', registry := r } [] := by
  have begun : Registry.Begun s' r name derive owner :=
    Registry.begun_attach names mem silent vacant runtime attached
  have remembered : World.remembered? { session := s', registry := r } name = derive owner :=
    Bridge.remembered?_of_named begun.watcher
  refine
    { regular := begun.regular
      heeded := Registry.heeded_attach names vacant.attended.orderly attached
      collects := ?_
      agrees := fun c derived _ => ?_ }
  · cases derived : derive owner with
    | none => exact .unmade (begun.absent derived)
    | some c =>
      have paged := paged owner c derived
      obtain ⟨handle, given, there⟩ := begun.made derived paged.auto
      exact .made given (Session.rouses_fresh there) (LiveResource.serial_fresh paged name)
        fun _ => LiveResource.foresees_fresh f name paged.unprimed
  · rw [remembered, ← begun.owned]
    exact ⟨c, derived, c.structurallyEq_refl⟩

/-! ### At rest -/

/-- At rest nobody stands in the line for the page lock, and nothing is to come. -/
theorem settled_of_quiet {s : Session} (attended : s.Attended) (quiet : s.Quiet) {handle : Nat}
    {live : LiveResource} (rouses : s.Rouses handle live) (serial : live.Serial) :
    live.due = 0 ∧ live.inCall? = none := by
  have idle {id : Nat} {p : Phase} (phase : live.phase? id = some p) :=
    idle_of_quiet attended quiet rouses.there serial.unheld phase
  have vacant : live.pages.holder = none := by
    cases holder : live.pages.holder with
    | none => rfl
    | some k =>
      obtain ⟨p, phase, inLine⟩ := rouses.lined.of_holder holder
      rcases idle phase with ⟨e, rfl⟩ | ⟨ending, rfl⟩
      · have woken := rouses.woken ⟨holder, e, phase⟩
        rw [quiet.ready] at woken
        cases woken
      · exact inLine.elim
  refine ⟨List.countP_eq_zero.2 fun a ha => ?_, LiveResource.inCall?_of_vacant vacant⟩
  obtain ⟨id, hid⟩ := List.mem_iff_getElem?.1 ha
  have phase : live.phase? id = some a.phase := by rw [LiveResource.phase?, hid]; rfl
  rcases idle phase with ⟨e, queued⟩ | ⟨ending, finished⟩
  · have mem := (rouses.lined.queued (phase.trans (congrArg some queued))).1
    rw [PageLock.line, vacant, rouses.lined.vacant vacant] at mem
    cases mem
  · simp [finished, Resource.expects]

/-- **Pages at rest.** A derived resource whose configs fetch their pages by themselves shows, when
all has come to rest, the pages that are left over from former configs and then the page of the
config that is derived now. This is that one page exactly if nothing is left over, which is to say
that the last config was taken over with nothing under way that brings more than its page. -/
theorem pages_at_rest (names : (definitions.map (·.1)).Nodup)
    (mem : (name, .derived derive) ∈ definitions)
    (paged : ∀ owner c, derive owner = some c → c.Paged) (silent : ∀ x ∈ definitions, x.2.Silent)
    {s s' : Session} {id : String} {owner : α} {r : Registry α} (vacant : s.Vacant)
    (runtime : s.hasRuntime = true)
    (attached : Registry.attach s id owner definitions = .ok (s', r))
    {deeds : List (Deed α)} (passive : ∀ d ∈ deeds, d.Passive)
    (final : World.after { session := s', registry := r } deeds = w)
    (respects : ∀ a b, (a == b) = true → (Json.arr (f a) == .arr (f b)) = true)
    (answered : w.session.AnsweredBy fun _ args => .ok (.arr (f args))) (quiet : w.session.Quiet)
    {c : Config} (wanted : derive w.registry.owner = some c)
    (accepted : refusal? name (w.live? name) c = none) :
    ∃ live items, w.live? name = some live ∧ live.resource.config.structurallyEq c = true ∧
      live.resource.data = some (.arr items) ∧
      items = leftover f name derive { session := s', registry := r } [] deeds
        ++ live.resource.config.page f ∧
      ((Json.arr items == .arr (c.page f)) = true ↔
        leftover f name derive { session := s', registry := r } [] deeds = []) ∧
      (leftover f name derive { session := s', registry := r } [] deeds = [] ↔
        ∀ before c', lastTaken? name derive { session := s', registry := r } deeds
            = some (before, c') →
          Unencumbered f (before.live? name) (before.remembered? name) c') := by
  have reachable : World.Reachable definitions { session := s', registry := r } :=
    .attach vacant attached
  have begun : World.Gathers definitions f name derive { session := s', registry := r } [] :=
    gathers_attach names mem paged silent vacant runtime attached
  have attended : w.session.Attended := final ▸ (reachable.after deeds).attended
  subst final
  have gathers := begun.after names mem paged reachable passive answered
  have condition := leftover_eq_nil_iff f name derive { session := s', registry := r } deeds
  generalize leftover f name derive { session := s', registry := r } [] deeds = left
    at gathers condition ⊢
  -- the watcher remembers the config that is wanted, and the resource has it
  obtain ⟨m, remembered, same⟩ := gathers.agrees c wanted accepted
  obtain ⟨live, there, bare⟩ := gathers.heeded.remembered remembered
  have agrees : live.resource.config.structurallyEq c = true :=
    (Config.structurallyEq_of_bare bare rfl).trans same
  cases gathers.collects with
  | unmade vacant =>
    rw [Registry.live?_of_vacant vacant] at there
    cases there
  | @made handle live' given rouses serial foresees =>
    cases (Registry.live?_of_rouses given rouses).symm.trans there
    obtain ⟨due, settled⟩ := settled_of_quiet attended quiet rouses serial
    have page : (Json.arr (live.resource.config.page f) == .arr (c.page f)) = true :=
      respects _ _ (Config.callArgs_congr agrees)
    exact ⟨live, _, there, agrees, (foresees (by simp [remembered])).data due settled, rfl,
      Json.append_same_iff page, condition⟩

/-! ### A team whose pages are fetched by themselves -/

/-- The pages of a team. -/
def pagesOf (team : String) : Config :=
  { method := "list", params := [("team", .str team)], auto := true, paginated := true }

/-- Without a team the pages are not wanted. -/
def teamPages : List (String × Definition String) :=
  [("pages", .derived fun team => if team = "" then none else some (pagesOf team))]

theorem pagesOf_of_derived {team : String} {c : Config}
    (h : (if team = "" then none else some (pagesOf team)) = some c) :
    c.Paged ∧ c.listeners.Silent := by
  split at h
  · cases h
  · cases h
    exact ⟨⟨rfl, rfl, rfl, rfl, rfl⟩, .nil⟩

/-- A page with one item, which says what has been called for. -/
def echo (args : Json) : List Json := [args]

theorem echo_respects (a b : Json) (same : (a == b) = true) :
    (Json.arr (echo a) == .arr (echo b)) = true := by
  have same : Json.same a b = true := same
  show Json.same (.arr [a]) (.arr [b]) = true
  simp [Json.same, Json.sameItems, same]

/-- The page of a team. -/
def pageOf (team : String) : Json := .obj [("team", .str team)]

/-- The call for the page of a team, with its reply. -/
def pageCall (team : String) : Gateway.Call :=
  { method := "list", params := pageOf team, status := .resolved (.ok (.arr [pageOf team])) }

theorem answered_of_pageCalls {s : Session} {teams : List String}
    (calls : s.script.calls = teams.map pageCall) :
    (s.AnsweredBy fun _ args => .ok (.arr (echo args))) ∧
      ∀ c ∈ s.script.calls, c.status ≠ .waiting := by
  rw [Session.AnsweredBy, calls]
  constructor
  · intro c hc reply replied
    obtain ⟨team, -, rfl⟩ := List.mem_map.1 hc
    cases replied
    rfl
  · intro c hc
    obtain ⟨team, -, rfl⟩ := List.mem_map.1 hc
    nofun

/-- A first team and its pages, after some deeds. -/
def pagesAfter (deeds : List (Deed String)) : World String :=
  match Registry.attach {} "desk" "a" teamPages with
  | .ok (session, registry) => World.after { session, registry } deeds
  | .error _ => { session := {}, registry := { id := "desk", owner := "a" } }

/-- There is another team while the page of the first is being fetched. -/
def nextTeam : List (Deed String) :=
  [.step (.turn 0), .mutate fun _ => "b", .step (.turn 0),
    .step (.resolve 0 (.ok (.arr [pageOf "a"]))), .step (.turn 0), .step (.turn 0),
    .step (.resolve 1 (.ok (.arr [pageOf "b"]))), .step (.turn 0)]

/-- The page of the next team is shown, and nothing else. -/
theorem next_page_alone :
    ∃ live items, (pagesAfter nextTeam).live? "pages" = some live ∧
      live.resource.config.structurallyEq (pagesOf "b") = true ∧
      live.resource.data = some (.arr items) ∧
      (Json.arr items == .arr [pageOf "b"]) = true := by
  have attached : Registry.attach {} "desk" "a" teamPages
      = .ok ((pagesAfter []).session, (pagesAfter []).registry) := rfl
  have silent : ∀ x ∈ teamPages, x.2.Silent := by
    intro x hx
    cases List.mem_singleton.1 hx
    exact fun team c derived => (pagesOf_of_derived derived).2
  have passive : ∀ d ∈ nextTeam, d.Passive := by
    simp [nextTeam, Deed.Passive, Session.Step.Passive]
  have calls : (pagesAfter nextTeam).session.script.calls = ["a", "b"].map pageCall := rfl
  obtain ⟨answered, resolved⟩ := answered_of_pageCalls calls
  obtain ⟨live, items, there, agrees, data, -, alone, -⟩ :=
    pages_at_rest (by decide) List.mem_cons_self
      (fun team c derived => (pagesOf_of_derived derived).1) silent ⟨rfl, rfl, rfl, rfl⟩ rfl
      attached passive rfl echo_respects answered ⟨rfl, rfl, resolved⟩ (c := pagesOf "b") rfl rfl
  exact ⟨live, items, there, agrees, data, alone.2 rfl⟩

/-- There is another team before the fetch of the first has been started. -/
def hurriedTeam : List (Deed String) :=
  [.mutate fun _ => "b", .step (.turn 0), .step (.turn 0),
    .step (.resolve 0 (.ok (.arr [pageOf "b"]))), .step (.turn 0), .step (.turn 0),
    .step (.resolve 1 (.ok (.arr [pageOf "b"]))), .step (.turn 0)]

/-- The fetch for the first team fetches the page of the next one, and so does the fetch for that:
the page is shown twice. -/
theorem page_shown_twice :
    (∀ d ∈ hurriedTeam, d.Passive) ∧ (pagesAfter hurriedTeam).registry.owner = "b" ∧
      (pagesAfter hurriedTeam).session.Quiet ∧
      ((pagesAfter hurriedTeam).session.AnsweredBy fun _ args => .ok (.arr (echo args))) ∧
      refusal? "pages" ((pagesAfter hurriedTeam).live? "pages") (pagesOf "b") = none ∧
      ∃ live, (pagesAfter hurriedTeam).live? "pages" = some live ∧
        live.resource.data = some (.arr [pageOf "b", pageOf "b"]) ∧
        (Json.arr [pageOf "b", pageOf "b"] == .arr ((pagesOf "b").page echo)) = false := by
  have calls : (pagesAfter hurriedTeam).session.script.calls = ["b", "b"].map pageCall := rfl
  obtain ⟨answered, resolved⟩ := answered_of_pageCalls calls
  exact ⟨by simp [hurriedTeam, Deed.Passive, Session.Step.Passive], rfl, ⟨rfl, rfl, resolved⟩,
    answered, rfl, _, rfl, rfl, by decide +kernel⟩

/-- While there is no team, the page of the first is called for, and kept with that of the next. -/
example : ((pagesAfter
    [.mutate fun _ => "", .step (.turn 0), .mutate fun _ => "b", .step (.turn 0),
      .step (.resolve 0 (.ok (.arr [pageOf "a"]))), .step (.turn 0), .step (.turn 0),
      .step (.resolve 1 (.ok (.arr [pageOf "b"]))), .step (.turn 0)]).live? "pages").bind
      (·.resource.data) = some (.arr [pageOf "a", pageOf "b"]) := rfl

end World

end ReactiveResource
