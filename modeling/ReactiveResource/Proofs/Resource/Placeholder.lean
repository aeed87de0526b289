import ReactiveResource.Proofs.Resource.Pages

/-!
# Data and placeholders

A resource shows its data, whether the last page was empty, and whether the data is a placeholder
that was kept from a former config. Only three things renew what is shown: a payload that is
applied, a reset, and an update that is accepted. A placeholder stays as it is until one of them
puts something in its place, and no page is added to it.

* `Shown`, `Resource.shown`: what is shown;
* `Shown.initial`, `Shown.reconfigured`, `Shown.received`: what is shown after a reset, an update
  and a payload;
* `LiveResource.Renews`, `shown_act`: an action renews what is shown, and nothing else changes it;
* `LiveResource.Keeps`, `shown_of_keepsThrough`: what leaves a placeholder in its place;
* `data_touched_only`: the statement, for every run.
-/

namespace ReactiveResource

/-- What a resource shows: the data, whether the last page was empty, and whether the data is kept
from a former config. -/
structure Shown where
  data : Option Json
  exhausted : Bool
  stale : Bool

namespace Shown

/-- What a config shows as long as nothing has come. -/
def initial (c : Config) : Shown := { data := c.defaultData, exhausted := false, stale := false }

/-- The data is a placeholder. -/
def placeholder (v : Json) : Shown := { data := some v, exhausted := false, stale := true }

/-- What is shown after the config has been replaced: the data as a placeholder, if the new config
says so and there is any. -/
def reconfigured (s : Shown) (c : Config) : Shown :=
  match c.keepData, s.data with
  | true, some v => placeholder v
  | _, _ => initial c

/-- What is shown after a payload has come. A page is added to those before it, but not to a
placeholder. -/
def received (s : Shown) (paginated : Bool) : Json → Shown
  | .arr page =>
    if paginated then
      { data := some (.arr ((if s.stale then [] else itemsOf s.data) ++ page))
        exhausted := page.isEmpty, stale := false }
    else { data := some (.arr page), exhausted := false, stale := false }
  | payload => { data := some payload, exhausted := false, stale := false }

theorem stale_received (s : Shown) (paginated : Bool) (payload : Json) :
    (s.received paginated payload).stale = false := by
  cases payload with
  | arr page => cases paginated <;> rfl
  | _ => rfl

/-- A page takes the place of a placeholder. -/
theorem received_of_stale {s : Shown} (stale : s.stale = true) (page : List Json) :
    s.received true (.arr page)
      = { data := some (.arr page), exhausted := page.isEmpty, stale := false } := by
  simp [received, stale]

/-- After an update the data is a placeholder exactly if it has been kept. -/
theorem stale_reconfigured (s : Shown) (c : Config) :
    (s.reconfigured c).stale = true ↔ c.keepData = true ∧ s.data.isSome = true := by
  rw [reconfigured]
  cases c.keepData <;> cases s.data <;> simp [placeholder, initial]

/-- A placeholder is data. -/
theorem isSome_of_reconfigured {s : Shown} {c : Config} (h : (s.reconfigured c).stale = true) :
    (s.reconfigured c).data.isSome = true := by
  obtain ⟨keeps, there⟩ := (s.stale_reconfigured c).1 h
  obtain ⟨v, there⟩ := Option.isSome_iff_exists.1 there
  simp [reconfigured, keeps, there, placeholder]

end Shown

namespace Resource

/-- What the resource shows. -/
def shown (r : Resource) : Shown := { data := r.data, exhausted := r.exhausted, stale := r.stale }

theorem pagesSoFar_eq (r : Resource) :
    r.pagesSoFar = if r.stale then [] else itemsOf r.data := by
  rw [pagesSoFar, itemsOf.eq_def]
  cases r.stale <;> split <;> simp_all

/-- A payload renews what is shown, and no other outcome does. -/
theorem shown_settle (r : Resource) (now : Nat) (outcome : Outcome) :
    (r.settle now outcome).2.2.shown
      = match outcome with
        | .payload v => r.shown.received r.config.paginated v
        | _ => r.shown := by
  have settled : r.Settled now outcome (r.settle now outcome).2.2 := .of_settle rfl
  cases outcome with
  | payload v =>
    cases v with
    | arr page =>
      by_cases paginated : r.config.paginated = true
      · obtain ⟨data, exhausted, stale⟩ := settled.page page rfl paginated
        rw [shown, data, exhausted, stale, pagesSoFar_eq]
        simp only [Shown.received, paginated, shown, if_true]
        rfl
      · obtain ⟨data, exhausted, stale⟩ := settled.value _ rfl fun h => absurd h paginated
        rw [shown, data, exhausted, stale]
        simp [Shown.received, paginated]
    | _ => rfl
  | _ => rfl

theorem shown_update {r r' : Resource} {config : Config} (h : r.update config = .ok r') :
    r'.shown = r.shown.reconfigured config := by
  rw [update] at h
  split at h
  · cases h
  · split at h
    · cases h
    · rw [Shown.reconfigured]
      cases keeps : config.keepData <;> cases there : r.data <;> rw [keeps, there] at h <;>
        cases h <;> simp [shown, there, notify, clearResults, Shown.placeholder, Shown.initial]

end Resource

namespace LiveResource

/-- The action renews what is shown, which is this afterwards: a payload is applied, the resource is
reset, or an update is accepted. -/
inductive Renews (r : LiveResource) : Action → Shown → Prop
  | payload {m : Moment} {id : Nat} {signal : Signal} {t : Ticket} {v : Json}
      (comes : r.Comes id signal t (.payload v))
      (current : r.resource.isCurrent t.generation = true) :
      Renews r (.advance m id signal) (r.resource.shown.received r.resource.config.paginated v)
  | reset : Renews r .reset (.initial r.resource.config)
  | update {config : Config} {resource : Resource}
      (accepted : r.resource.update config = .ok resource) :
      Renews r (.update config) (r.resource.shown.reconfigured config)

/-- The action leaves a placeholder in its place: it renews nothing, or is an update that keeps the
data. -/
def Keeps (r : LiveResource) (a : Action) : Prop :=
  ∀ s, r.Renews a s → ∃ config, a = .update config ∧ config.keepData = true

/-- All actions of a run leave a placeholder in its place. -/
def KeepsThrough : LiveResource → List Action → Prop
  | _, [] => True
  | r, a :: rest => r.Keeps a ∧ (r.act a).1.KeepsThrough rest

section Act

variable {r r' : LiveResource} {m : Moment} {id : Nat} {signal : Signal} {effects : List Effect}

theorem Renews.shown {a : Action} {s : Shown} (h : r.Renews a s) :
    (r.act a).1.resource.shown = s := by
  cases h with
  | @payload m id _ t v comes current =>
    obtain ⟨left, -⟩ := advance_of_comes (m := m) comes
    obtain ⟨settled, -⟩ := settle_of_current r m id current (.payload v)
    rw [act, left, settled]
    exact r.resource.shown_settle m.now (.payload v)
  | reset => rfl
  | @update config resource accepted =>
    simp only [act, LiveResource.update, accepted]
    exact Resource.shown_update accepted

/-- A move renews what is shown only by a payload that is applied. -/
theorem Move.shown (h : r.Move m id signal r' effects)
    (same : ∀ s, ¬ r.Renews (.advance m id signal) s) :
    r'.resource.shown = r.resource.shown := by
  cases h with
  | @refuse _ message _ _ _ _ _ settles =>
    have settled := (r.resource.raised (r.paramsFor id)).shown_settle m.now (.invalid message)
    rw [settles] at settled
    exact settled
  | @apply _ t outcome _ _ _ comes current settles =>
    have settled := r.resource.shown_settle m.now outcome
    rw [settles] at settled
    cases outcome with
    | payload v => exact absurd (.payload comes current) (same _)
    | _ => exact settled
  | _ => rfl

/-- **Nothing else changes what is shown.** -/
theorem shown_act (orderly : r.Orderly) {a : Action} (same : ∀ s, ¬ r.Renews a s) :
    (r.act a).1.resource.shown = r.resource.shown := by
  rcases act_cases r a orderly.fence_le with ha | ⟨m, id, signal, rfl, move⟩
  · cases a with
    | advance => exact ha.elim
    | reset => exact absurd .reset (same _)
    | update config =>
      cases accepted : r.resource.update config with
      | ok resource => exact absurd (.update accepted) (same _)
      | error e =>
        simp only [act, LiveResource.update, accepted]
        rfl
    | listen kind once listener => cases once <;> rfl
    | _ => rfl
  · exact move.shown same

/-- What is shown is a placeholder exactly after an update that has kept it. -/
theorem Renews.stale_iff {a : Action} {s : Shown} (h : r.Renews a s) :
    s.stale = true ↔ ∃ config, a = .update config ∧ config.keepData = true ∧
      r.resource.data.isSome = true := by
  cases h with
  | payload => simp [Shown.stale_received]
  | reset => simp [Shown.initial]
  | update => simp [Shown.stale_reconfigured, Resource.shown]

theorem Renews.isSome_of_stale {a : Action} {s : Shown} (h : r.Renews a s)
    (stale : s.stale = true) : s.data.isSome = true := by
  cases h with
  | payload => rw [Shown.stale_received] at stale; cases stale
  | reset => cases stale
  | update => exact Shown.isSome_of_reconfigured stale

theorem shown_of_keeps (orderly : r.Orderly) {a : Action} (keeps : r.Keeps a) {v : Json}
    (shown : r.resource.shown = .placeholder v) :
    (r.act a).1.resource.shown = .placeholder v := by
  by_cases renews : ∃ s, r.Renews a s
  · obtain ⟨s, renews⟩ := renews
    obtain ⟨config, rfl, keep⟩ := keeps s renews
    rw [renews.shown]
    cases renews
    rw [shown, Shown.reconfigured, keep]
    rfl
  · exact (shown_act orderly fun s h => renews ⟨s, h⟩).trans shown

end Act

/-! ### Runs -/

section Run

variable {r : LiveResource}

/-- A placeholder stays as it is as long as nothing takes its place. -/
theorem shown_of_keepsThrough (orderly : r.Orderly) {actions : List Action}
    (keeps : r.KeepsThrough actions) {v : Json} (shown : r.resource.shown = .placeholder v) :
    (r.after actions).resource.shown = .placeholder v := by
  induction actions generalizing r with
  | nil => exact shown
  | cons a rest ih => exact ih (orderly.act a) keeps.2 (shown_of_keeps orderly keeps.1 shown)

/-- A placeholder is data, after every run. -/
theorem isSome_of_stale (name : String) (config : Config) (actions : List Action)
    (stale : ((fresh name config).after actions).resource.stale = true) :
    ((fresh name config).after actions).resource.data.isSome = true := by
  have kept : ((fresh name config).after actions).Orderly ∧
      (((fresh name config).after actions).resource.shown.stale = true →
        ((fresh name config).after actions).resource.shown.data.isSome = true) := by
    refine after_induction (motive := fun r => r.Orderly ∧
      (r.resource.shown.stale = true → r.resource.shown.data.isSome = true))
      ⟨orderly_fresh name config, nofun⟩ (fun r a ⟨orderly, ih⟩ => ⟨orderly.act a, ?_⟩) actions
    by_cases renews : ∃ s, r.Renews a s
    · obtain ⟨s, renews⟩ := renews
      rw [renews.shown]
      exact renews.isSome_of_stale
    · rwa [shown_act orderly fun s h => renews ⟨s, h⟩]
  exact kept.2 stale

/-- **Only payloads, resets and updates touch the data.** In every run of a new resource, a payload
that is applied, a reset and an update that is accepted renew what is shown, and nothing else does.
Data that an update has kept stays, as a placeholder, until something takes its place, which is no
placeholder then. A placeholder is data, and a page is not added to it. -/
theorem data_touched_only (name : String) (config : Config) :
    (∀ before a s, ((fresh name config).after before).Renews a s →
      ((fresh name config).after (before ++ [a])).resource.shown = s) ∧
    (∀ before a, (∀ s, ¬ ((fresh name config).after before).Renews a s) →
      ((fresh name config).after (before ++ [a])).resource.shown
        = ((fresh name config).after before).resource.shown) ∧
    (∀ before kept resource v since,
      ((fresh name config).after before).resource.data = some v → kept.keepData = true →
      ((fresh name config).after before).resource.update kept = .ok resource →
      ((fresh name config).after (before ++ [.update kept])).KeepsThrough since →
      ((fresh name config).after (before ++ [.update kept] ++ since)).resource.shown
        = .placeholder v) ∧
    (∀ before a s, ((fresh name config).after before).Renews a s →
      ¬ ((fresh name config).after before).Keeps a → s.stale = false) ∧
    (∀ before, ((fresh name config).after before).resource.stale = true →
      ((fresh name config).after before).resource.data.isSome = true) ∧
    ∀ before m id signal t page,
      ((fresh name config).after before).resource.stale = true →
      ((fresh name config).after before).resource.config.paginated = true →
      ((fresh name config).after before).Comes id signal t (.payload (.arr page)) →
      ((fresh name config).after before).resource.isCurrent t.generation = true →
      ((fresh name config).after (before ++ [.advance m id signal])).resource.shown
        = { data := some (.arr page), exhausted := page.isEmpty, stale := false } := by
  have orderly (before : List Action) : ((fresh name config).after before).Orderly :=
    (orderly_fresh name config).after before
  refine ⟨fun before a s renews => ?_, fun before a same => ?_, ?_, ?_,
    isSome_of_stale name config, ?_⟩
  · rw [after_concat]
    exact renews.shown
  · rw [after_concat]
    exact shown_act (orderly before) same
  · intro before kept resource v since there keep accepted keeps
    rw [after_append]
    refine shown_of_keepsThrough (orderly _) keeps ?_
    rw [after_concat, (Renews.update accepted).shown]
    simp [Resource.shown, Shown.reconfigured, keep, there]
  · intro before a s renews other
    refine Bool.eq_false_iff.2 fun stale => other fun s' renews' => ?_
    obtain ⟨config, same, keep, -⟩ := renews.stale_iff.1 stale
    exact ⟨config, same, keep⟩
  · intro before m id signal t page stale paginated comes current
    rw [after_concat, (Renews.payload comes current).shown, paginated]
    exact Shown.received_of_stale stale page

/-! ### Tickets that are kept -/

/-- Tickets that stay in sight when others are asked for. -/
def keptTickets : Config := { method := "list", paginated := true, keepData := true }

/-- The surroundings of their fetches. -/
def ticketsMoment : Moment := { now := 0, isOpen := fun _ => true }

/-- The first tickets have come. -/
def ticketsCome : List Action :=
  [.spawn none, .advance ticketsMoment 0 .go,
    .advance ticketsMoment 0 (.reply (.ok (.arr [.str "first"])))]

/-- A fetch fails, others are asked for again, and another fetch is under way. -/
def ticketsAwaited : List Action :=
  [.spawn none, .advance ticketsMoment 1 .go,
    .advance ticketsMoment 1 (.reply (.err (.ofMessage "gone"))), .update keptTickets, .spawn none,
    .advance ticketsMoment 2 .go]

/-- The first tickets stay in sight while others are awaited, and their page takes the place of
those that were kept. -/
theorem tickets_kept :
    ((fresh "tickets" keptTickets).after
        (ticketsCome ++ [.update keptTickets] ++ ticketsAwaited)).resource.shown
        = .placeholder (.arr [.str "first"]) ∧
      ((fresh "tickets" keptTickets).after (ticketsCome ++ [.update keptTickets] ++ ticketsAwaited
          ++ [.advance ticketsMoment 2 (.reply (.ok (.arr [.str "second"])))])).resource.shown
        = { data := some (.arr [.str "second"]), exhausted := false, stale := false } := by
  have touched := data_touched_only "tickets" keptTickets
  have idle {r : LiveResource} {m : Moment} {id : Nat} {signal : Signal}
      (other : ∀ t v, ¬ r.Comes id signal t (.payload v)) : r.Keeps (.advance m id signal) := by
    rintro s ⟨comes, -⟩
    exact absurd comes (other _ _)
  have kept : ((fresh "tickets" keptTickets).after
      (ticketsCome ++ [.update keptTickets])).KeepsThrough ticketsAwaited := by
    refine ⟨nofun, idle fun t _ => not_comes_go _ _ t _, idle ?_,
      fun s _ => ⟨keptTickets, rfl, rfl⟩, nofun, idle fun t _ => not_comes_go _ _ t _, trivial⟩
    intro t v comes
    generalize hr : Signal.reply (.err (.ofMessage "gone")) = signal,
      ho : Outcome.payload v = outcome at comes
    cases comes <;> cases hr
    cases ho
  obtain ⟨resource, accepted⟩ : ∃ resource,
      ((fresh "tickets" keptTickets).after ticketsCome).resource.update keptTickets
        = .ok resource := Resource.exists_update_ok_iff.2 ⟨by decide, rfl⟩
  have shown :=
    touched.2.2.1 ticketsCome keptTickets resource _ ticketsAwaited rfl rfl accepted kept
  refine ⟨shown, ?_⟩
  have phase : ((fresh "tickets" keptTickets).after
      (ticketsCome ++ [.update keptTickets] ++ ticketsAwaited)).phase? 2
        = some (.calling { generation := 3, params := [], method := "list", args := .obj []
                           delay := none }) := rfl
  have comes : ((fresh "tickets" keptTickets).after
      (ticketsCome ++ [.update keptTickets] ++ ticketsAwaited)).Comes 2
        (.reply (.ok (.arr [.str "second"]))) _ (.payload (.arr [.str "second"])) :=
    .replied phase rfl
  exact touched.2.2.2.2.2 _ ticketsMoment 2 _ _ [.str "second"] (congrArg Shown.stale shown) rfl
    comes rfl

end Run

end LiveResource

end ReactiveResource
