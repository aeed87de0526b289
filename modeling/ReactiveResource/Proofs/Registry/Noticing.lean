import ReactiveResource.Proofs.Registry.Consistency
import ReactiveResource.Proofs.Registry.Restoration

/-!
# Changes are noticed

Watchers are evaluated again and again, and are given back a config now and then. What they do is
told by the notices of it: those that fire say so, and so do those that are given a config. The last
notice of a name is what its watcher goes by. It fires if, and only if, what it derives is not like
that, so that no change of the owner goes unnoticed and none is noticed twice.

* `Bridge.ofDerivations`: the watchers of a list of names;
* `Bridge.Turn`, `turn`, `after`, `notices`: evaluations and restorations, and what is told of them;
* `Bridge.lastTold`, `named_after`: what a watcher remembers is the last that was told of its name;
* `fires_after`: what fires, and what is said of it;
* `silent_after`: a watcher that derives the same again and again;
* `changes_noticed`: a change test by equality.
-/

namespace ReactiveResource

open Config (Alike alike_equivalence)

namespace Bridge

variable {α : Type} {b : Bridge α} {name : String} {derive : α → Option Config}
  {last known : Option Config}

/-- The watchers of the names, in order; none has derived anything yet. -/
def ofDerivations (derivations : List (String × (α → Option Config))) : Bridge α :=
  derivations.foldl (fun b x => b.register x.1 x.2) {}

theorem watchers_ofDerivations (derivations : List (String × (α → Option Config))) :
    (ofDerivations derivations).watchers
      = derivations.map fun x => ({ name := x.1, derive := x.2 } : Watcher α) := by
  have registered (b : Bridge α) : (derivations.foldl (fun b x => b.register x.1 x.2) b).watchers
      = b.watchers ++ derivations.map fun x => ({ name := x.1, derive := x.2 } : Watcher α) := by
    induction derivations generalizing b with
    | nil => exact (List.append_nil _).symm
    | cons x rest ih =>
      rw [List.foldl_cons, ih]
      simp [register]
  exact registered {}

/-- If the names are different, each has one watcher, which remembers nothing. -/
theorem named_ofDerivations {derivations : List (String × (α → Option Config))}
    (names : (derivations.map (·.1)).Nodup) (mem : (name, derive) ∈ derivations) :
    (ofDerivations derivations).named name = [{ name, derive }] := by
  have distinct : (ofDerivations derivations).names.Nodup := by
    rw [Bridge.names, watchers_ofDerivations, List.map_map]
    exact names
  refine named_of_mem distinct (w := { name, derive }) ?_
  rw [watchers_ofDerivations]
  exact List.mem_map_of_mem mem

/-! ### Turns and what is told of them -/

/-- What happens to watchers: they are evaluated for an owner, or the watcher of a name is given a
config to remember. -/
inductive Turn (α : Type) where
  | evaluate (owner : α)
  | restore (name : String) (config : Option Config)

/-- What is told of watchers: that one has fired, or that one has been given a config. -/
inductive Notice where
  | fired (fire : WatcherFire)
  | restored (name : String) (config : Option Config)

/-- The watchers after a turn, and what is told of it. -/
def turn (b : Bridge α) : Turn α → Bridge α × List Notice
  | .evaluate owner => ((b.evaluate owner).1, (b.evaluate owner).2.map .fired)
  | .restore name config => (b.restore name config, [.restored name config])

/-- The watchers after the turns. -/
def after (b : Bridge α) (turns : List (Turn α)) : Bridge α :=
  turns.foldl (fun b t => (b.turn t).1) b

/-- What is told of the turns, the earliest first. -/
def notices : Bridge α → List (Turn α) → List Notice
  | _, [] => []
  | b, t :: turns => (b.turn t).2 ++ notices (b.turn t).1 turns

theorem after_append (b : Bridge α) (turns more : List (Turn α)) :
    b.after (turns ++ more) = (b.after turns).after more :=
  List.foldl_append ..

/-- The config that a notice tells of a name, if the notice is of that name. -/
def Notice.tells? (name : String) : Notice → Option (Option Config)
  | .fired f => if f.name = name then some f.new else none
  | .restored other config => if other = name then some config else none

/-- The config that is told last of a name, or the one known before. -/
def lastTold (name : String) (known : Option Config) (notices : List Notice) : Option Config :=
  notices.foldl (fun known n => (n.tells? name).getD known) known

theorem lastTold_append (name : String) (known : Option Config) (notices more : List Notice) :
    lastTold name known (notices ++ more) = lastTold name (lastTold name known notices) more :=
  List.foldl_append ..

/-- Of several that fire, those of the name are told of it. -/
theorem lastTold_fired (name : String) (known : Option Config) (fires : List WatcherFire) :
    lastTold name known (fires.map .fired)
      = (fires.filter fun f => f.name = name).foldl (fun _ f => f.new) known := by
  rw [lastTold, List.foldl_map, List.foldl_filter]
  congr 1
  funext known f
  by_cases named : f.name = name <;> simp [Notice.tells?, named]

/-! ### What a watcher remembers -/

/-- What fires under a name, when it has one watcher. -/
theorem fires_of_named (named : b.named name = [{ name, derive, last }]) (owner : α) :
    (b.evaluate owner).2.filter (fun f => f.name = name)
      = if configChanged last (derive owner) then [{ name, new := derive owner, old := last }]
        else [] := by
  rw [fires_named, named, List.filterMap_cons, List.filterMap_nil, fireOf]
  cases configChanged last (derive owner) <;> rfl

/-- After a turn a watcher remembers what has been told of its name. -/
theorem named_turn (named : b.named name = [{ name, derive, last }]) (t : Turn α) :
    (b.turn t).1.named name = [{ name, derive, last := lastTold name last (b.turn t).2 }] := by
  cases t with
  | evaluate owner =>
    show (b.evaluate owner).1.named name = [{ name, derive, last := lastTold name last _ }]
    rw [named_evaluate, named, turn, lastTold_fired, fires_of_named named, List.map_singleton,
      refresh]
    cases configChanged last (derive owner) <;> rfl
  | restore other config =>
    show (b.restore other config).named name = [{ name, derive, last := lastTold name last _ }]
    by_cases same : other = name
    · subst same
      rw [named_restore_self named]
      simp [turn, lastTold, Notice.tells?]
    · rw [named_restore_of_ne same, named]
      simp [turn, lastTold, Notice.tells?, same]

/-- A watcher remembers the config that was told last of its name. -/
theorem named_after (named : b.named name = [{ name, derive, last }]) (turns : List (Turn α)) :
    (b.after turns).named name
      = [{ name, derive, last := lastTold name last (b.notices turns) }] := by
  induction turns generalizing b last with
  | nil => exact named
  | cons t turns ih =>
    rw [notices, lastTold_append]
    exact ih (named_turn named t)

theorem declared_after (b : Bridge α) (turns : List (Turn α)) :
    (b.after turns).declared = b.declared := by
  induction turns generalizing b with
  | nil => rfl
  | cons t turns ih =>
    refine (ih _).trans ?_
    cases t with
    | evaluate owner => exact b.declared_evaluate owner
    | restore name config => exact b.declared_restore name config

/-- What is to be said of a name and an owner, if it is known what was told last of each name. -/
def news (owner : α) (known : String → Option Config) (x : String × (α → Option Config)) :
    Option WatcherFire :=
  if Alike (known x.1) (x.2 owner) then none
  else some { name := x.1, new := x.2 owner, old := known x.1 }

theorem fireOf_eq_news {w : Watcher α} {known : String → Option Config}
    (remembers : w.last = known w.name) (owner : α) :
    fireOf owner w = news owner known (w.name, w.derive) := by
  rw [fireOf, news, ← remembers]
  by_cases alike : Alike w.last (w.derive owner)
  · rw [if_pos alike, if_neg (by simp [configChanged_eq_false_iff.2 alike])]
  · rw [if_neg alike, if_pos (configChanged_iff.2 alike)]

/-- Those fire of whom there is something to be said. -/
theorem fires_eq_news (known : String → Option Config)
    (remembers : ∀ w ∈ b.watchers, w.last = known w.name) (owner : α) :
    (b.evaluate owner).2 = b.declared.filterMap (news owner known) := by
  rw [declared, List.filterMap_map]
  exact List.filterMap_congr fun w hw => fireOf_eq_news (remembers w hw) owner

theorem fires_after {derivations : List (String × (α → Option Config))}
    (names : (derivations.map (·.1)).Nodup) (turns : List (Turn α)) (owner : α) :
    (((ofDerivations derivations).after turns).evaluate owner).2
      = derivations.filterMap (news owner fun name =>
          lastTold name none ((ofDerivations derivations).notices turns)) := by
  have declared : ((ofDerivations derivations).after turns).declared = derivations := by
    rw [declared_after, Bridge.declared, watchers_ofDerivations]
    simp [Function.comp_def]
  let known name := lastTold name none ((ofDerivations derivations).notices turns)
  have remembers : ∀ w ∈ ((ofDerivations derivations).after turns).watchers,
      w.last = known w.name := by
    intro w hw
    have mem : (w.name, w.derive) ∈ derivations := declared ▸ List.mem_map_of_mem hw
    have named := named_after (named_ofDerivations names mem) turns
    have listed : w ∈ ((ofDerivations derivations).after turns).named w.name :=
      List.mem_filter.2 ⟨hw, by simp⟩
    rw [named, List.mem_singleton] at listed
    exact congrArg Watcher.last listed
  rw [fires_eq_news known remembers, declared]

/-! ### Watchers that derive the same again -/

/-- A turn that gives the watcher of the name no config, and for which it derives what is like the
one given. -/
def Turn.Keeps (name : String) (derive : α → Option Config) (config : Option Config) :
    Turn α → Prop
  | .evaluate owner => Alike config (derive owner)
  | .restore other _ => other ≠ name

/-- What a watcher remembers after an evaluation is like what it has derived. -/
theorem alike_lastTold_evaluate (named : b.named name = [{ name, derive, last }]) (owner : α) :
    Alike (lastTold name last (b.turn (.evaluate owner)).2) (derive owner) := by
  rw [turn, lastTold_fired, fires_of_named named]
  cases changed : configChanged last (derive owner) with
  | true => exact alike_equivalence.refl _
  | false => exact configChanged_eq_false_iff.1 changed

/-- As long as it derives what is like that, and is given no config, it does not change its mind. -/
theorem alike_lastTold {config : Option Config} (named : b.named name = [{ name, derive, last }])
    (alike : Alike last config) (turns : List (Turn α))
    (keeps : ∀ t ∈ turns, t.Keeps name derive config) :
    Alike (lastTold name last (b.notices turns)) config := by
  induction turns generalizing b last with
  | nil => exact alike
  | cons t turns ih =>
    obtain ⟨here, keeps⟩ := List.forall_mem_cons.1 keeps
    rw [notices, lastTold_append]
    refine ih (named_turn named t) ?_ keeps
    cases t with
    | evaluate owner =>
      exact alike_equivalence.trans (alike_lastTold_evaluate named owner)
        (alike_equivalence.symm here)
    | restore other _ =>
      have other : other ≠ name := here
      simpa [turn, lastTold, Notice.tells?, other] using alike

/-- A watcher that derives the same again and again does not fire after the first time. -/
theorem silent_after (named : b.named name = [{ name, derive, last }]) {owner owner' : α}
    {between : List (Turn α)} (keeps : ∀ t ∈ between, t.Keeps name derive (derive owner))
    (same : Alike (derive owner) (derive owner')) :
    ∀ f ∈ ((b.after (.evaluate owner :: between)).evaluate owner').2, f.name ≠ name := by
  intro f mem here
  have first := named_turn named (.evaluate owner)
  have known : Alike _ (derive owner') := alike_equivalence.trans
    (alike_lastTold first (alike_lastTold_evaluate named owner) between keeps) same
  have fires := fires_of_named (named_after first between) owner'
  rw [if_neg (by simp [configChanged_eq_false_iff.2 known])] at fires
  exact List.filter_eq_nil_iff.1 fires f mem (by simpa using here)

/-- **Changes are noticed, and nothing else is.** Values are compared part by part, an integer never
being a double and the two zeros being one; configs are compared by everything but what is attached
to them, and those that agree make the same calls. With watchers of different names, those fire
whose configs do not agree with what was told last of their names, be it that they fired or that
they were given a config, and they say which two differ. A watcher that derives configs that agree
at two evaluations, and is given none in between, fires at the second one only if it has derived
another one in between; so it never fires at both of two that follow each other. -/
theorem changes_noticed :
    (Equivalence fun v w : Json => (v == w) = true)
      ∧ (∀ v w : Json, (v == w) = true ↔ v.normal = w.normal)
      ∧ (∀ n x, (Json.int n == .float x) = false)
      ∧ (Json.float .zero == .float Binary64.zero.neg) = true
      ∧ (Equivalence fun c d : Config => c.structurallyEq d = true)
      ∧ (∀ c d : Config, c.structurallyEq d = true ↔ c.essence = d.essence)
      ∧ (∀ (c d : Config) (p q : Option Precondition) (v w : Option Validator) (l m : Listeners),
        Config.structurallyEq { c with precondition := p, validator := v, listeners := l }
          { d with precondition := q, validator := w, listeners := m } = c.structurallyEq d)
      ∧ (∀ c d : Config, c.structurallyEq d = true →
        ∀ params, (c.callArgs params == d.callArgs params) = true)
      ∧ ∀ derivations : List (String × (α → Option Config)), (derivations.map (·.1)).Nodup →
        (∀ turns owner, (((ofDerivations derivations).after turns).evaluate owner).2
          = derivations.filterMap (news owner fun name =>
              lastTold name none ((ofDerivations derivations).notices turns)))
        ∧ ∀ name derive, (name, derive) ∈ derivations → ∀ turns owner between owner',
          (∀ config, .restore name config ∉ between) → Alike (derive owner) (derive owner') →
          (∃ f ∈ (((ofDerivations derivations).after
            (turns ++ .evaluate owner :: between)).evaluate owner').2, f.name = name) →
          ∃ other, .evaluate other ∈ between ∧ ¬ Alike (derive owner) (derive other) := by
  refine ⟨Json.beq_equivalence, fun v w => Json.beq_iff_normal, fun n x => rfl, by decide,
    Config.structurallyEq_equivalence, fun c d => Config.structurallyEq_iff,
    fun c d p q v w l m => rfl, fun c d agree params => Config.callArgs_congr_params agree rfl,
    fun derivations names => ⟨fires_after names, ?_⟩⟩
  intro name derive mem turns owner between owner' unrestored same ⟨f, fires, here⟩
  by_contra other
  have keeps : ∀ t ∈ between, t.Keeps name derive (derive owner) := by
    intro t ht
    cases t with
    | evaluate owner'' =>
      show Alike (derive owner) (derive owner'')
      by_contra differs
      exact other ⟨owner'', ht, differs⟩
    | restore restored config =>
      show restored ≠ name
      rintro rfl
      exact unrestored config ht
  have named := named_after (named_ofDerivations names mem) turns
  rw [after_append] at fires
  exact silent_after named keeps same f fires here

/-! ### A zero of another sign -/

/-- The sites of a team, from a place that is a zero of either sign; without a team, none. -/
def teamSites : Option String × Bool → Option Config := fun (team, negative) => team.map fun t =>
  { method := "press.api.site.all", auto := true
    params :=
      [("start", .arr [.float (if negative then Binary64.zero.neg else .zero)]), ("team", .str t)] }

/-- Bare servers, whatever the owner. -/
def allServers : Option String × Bool → Option Config :=
  fun _ => some (.ofMethod "press.api.servers")

/-- Two teams are shown, and the config of the first one is given back, which makes no difference to
the servers. The first team is then no news, wherever its sites begin, and the second one is. If
nothing is given back, the first team is news because the second one was shown after it. -/
theorem zeros_not_told_apart :
    let watchers := ofDerivations [("sites", teamSites), ("servers", allServers)]
    let turns : List (Turn (Option String × Bool)) :=
      [.evaluate (some "t1", false), .evaluate (some "t2", false),
        .restore "sites" (teamSites (some "t1", false))]
    ((watchers.after turns).evaluate (some "t1", true)).2 = []
      ∧ ((watchers.after turns).evaluate (some "t2", true)).2
        = [{ name := "sites", new := teamSites (some "t2", true)
             old := teamSites (some "t1", false) }]
      ∧ ∃ other, .evaluate other ∈ [Turn.evaluate (some "t2", false)]
        ∧ ¬ Alike (teamSites (some "t1", false)) (teamSites other) := by
  intro watchers turns
  obtain ⟨-, -, -, -, -, -, -, -, noticed⟩ := @changes_noticed (Option String × Bool)
  obtain ⟨fires, again⟩ := noticed [("sites", teamSites), ("servers", allServers)] (by decide)
  refine ⟨?_, ?_, again "sites" teamSites List.mem_cons_self [] _ _ (some "t1", true) ?_ ?_ ?_⟩
  · rw [fires]
    rfl
  · rw [fires]
    rfl
  · simp
  · decide +kernel
  · rw [fires]
    exact ⟨_, List.mem_singleton_self _, rfl⟩

end Bridge

end ReactiveResource
