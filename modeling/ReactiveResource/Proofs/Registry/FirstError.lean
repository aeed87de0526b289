import ReactiveResource.Proofs.Registry.Incidents
import ReactiveResource.Proofs.Resource.ErrorText
import ReactiveResource.Proofs.Text.Order

/-!
# The first error of a registry

A registry keeps its resources by ascending name. Of their errors it tells the one of the least
name, and as no error is empty, it tells one whenever there is one.

* `Registry.Ascending`, `World.ascending_through`: the order of the names;
* `Registry.mem_all`: the resources that are listed are those that are found;
* `Keyed.find?_filterMap_eq_some_iff`: the first of what entries say, by their keys;
* `error_text_never_empty`: the errors of resources, of failed responses and of registries.
-/

namespace ReactiveResource

open Keyed (value?)

/-- What entries by ascending keys say first is what the least key says that says anything. -/
theorem Keyed.find?_filterMap_eq_some_iff {α β : Type} {entries : Keyed α} {f : α → Option β}
    {p : β → Bool} (ascending : (keys entries).Pairwise (· < ·))
    (all : ∀ k v b, (k, v) ∈ entries → f v = some b → p b = true) {b : β} :
    (entries.filterMap (f ·.2)).find? p = some b ↔
      ∃ k v, (k, v) ∈ entries ∧ f v = some b ∧
        ∀ k' v', (k', v') ∈ entries → (f v').isSome = true → k' = k ∨ k < k' := by
  induction entries with
  | nil => simp
  | cons entry rest ih =>
    obtain ⟨k, v⟩ := entry
    have first : ∀ l ∈ keys rest, k < l := (List.pairwise_cons.1 ascending).1
    have later := ih (List.pairwise_cons.1 ascending).2
      fun k v b mem => all k v b (List.mem_cons_of_mem _ mem)
    cases said : f v with
    | none =>
      have skipped : ((k, v) :: rest).filterMap (f ·.2) = rest.filterMap (f ·.2) :=
        List.filterMap_cons_none said
      rw [skipped, later]
      constructor
      · rintro ⟨l, w, mem, saying, least⟩
        refine ⟨l, w, List.mem_cons_of_mem _ mem, saying, fun k' v' mem' heard => ?_⟩
        rcases List.mem_cons.1 mem' with same | mem'
        · cases same
          rw [said] at heard
          cases heard
        · exact least k' v' mem' heard
      · rintro ⟨l, w, mem, saying, least⟩
        rcases List.mem_cons.1 mem with same | mem
        · cases same
          cases said.symm.trans saying
        · exact ⟨l, w, mem, saying, fun k' v' mem' =>
            least k' v' (List.mem_cons_of_mem _ mem')⟩
    | some c =>
      have heads : ((k, v) :: rest).filterMap (f ·.2) = c :: rest.filterMap (f ·.2) :=
        List.filterMap_cons_some said
      rw [heads, List.find?_cons_of_pos (all k v c List.mem_cons_self said), Option.some.injEq]
      constructor
      · rintro rfl
        refine ⟨k, v, List.mem_cons_self, said, fun k' v' mem' _ => ?_⟩
        rcases List.mem_cons.1 mem' with same | mem'
        · cases same
          exact .inl rfl
        · exact .inr (first k' (List.mem_map_of_mem mem'))
      · rintro ⟨l, w, mem, saying, least⟩
        rcases List.mem_cons.1 mem with same | mem
        · cases same
          exact Option.some.inj (said.symm.trans saying)
        · have before : k < l := first l (List.mem_map_of_mem mem)
          rcases least k v List.mem_cons_self (by rw [said]; rfl) with rfl | after
          · exact absurd before (String.lt_irrefl k)
          · exact absurd after (String.lt_asymm before)

namespace Registry

variable {α : Type} {s s' : Session} {r r' : Registry α}

/-! ### Names in order -/

/-- The resources are kept by ascending name. -/
def Ascending (r : Registry α) : Prop := (Keyed.keys r.resources).Pairwise (· < ·)

theorem Ascending.define (h : r.Ascending) {name : String} {config : Config}
    (made : define s r name config = .ok (s', r')) : r'.Ascending := by
  obtain ⟨handle, -, rfl⟩ := define_ok made
  exact Keyed.ascending_put h name handle

theorem Ascending.apply (h : r.Ascending) {name : String} {new old : Option Config}
    (applied : r.apply s name new old = .ok (s', r')) : r'.Ascending := by
  cases apply_ok applied with
  | make => exact Keyed.ascending_put h name _
  | _ => exact h

theorem Ascending.responds {state : Session × Registry α × Option ConfigError}
    (h : state.2.1.Ascending) (fires : List WatcherFire) :
    (fires.foldl respond state).2.1.Ascending := by
  induction fires generalizing state with
  | nil => exact h
  | cons f rest ih =>
    refine ih ?_
    obtain ⟨s, r, failed⟩ := state
    rw [respond]
    split
    · next applied => exact Ascending.apply h applied
    · exact h

theorem Ascending.mutate (h : r.Ascending) (change : α → α) :
    (r.mutateOwner s change).2.1.Ascending := by
  cases attached : r.attached with
  | true =>
    rw [mutateOwner_of_attached attached]
    refine Ascending.responds ?_ _
    exact h
  | false =>
    rw [mutateOwner_of_detached attached]
    exact h

theorem Ascending.detach (h : r.Ascending) (s : Session) : (r.detach s).2.Ascending := by
  rw [Registry.detach]
  split
  · exact h
  · exact List.Pairwise.nil

theorem ascending_attach {id : String} {owner : α} {definitions : List (String × Definition α)}
    (attached : attach s id owner definitions = .ok (s', r')) : r'.Ascending := by
  obtain ⟨declared, introduced, -, hd, hi, rfl, -⟩ := attach_ok attached
  have start : ({ id, owner } : Registry α).Ascending := List.Pairwise.nil
  have first : declared.2.Ascending := by
    refine foldlM_ok (P := fun state : Session × Registry α => state.2.Ascending)
      (fun state x state' _ ascending h => ?_) (s := (s, _)) start hd
    obtain ⟨name, config | derive⟩ := x
    · exact Ascending.define ascending h
    · cases h
      exact ascending
  have evaluated : ({ declared.2 with bridge := (declared.2.bridge.evaluate owner).1 } :
      Registry α).Ascending := first
  refine foldlM_ok (P := fun state : Session × Registry α => state.2.Ascending)
    (fun state f state' _ ascending h => ?_) (s := (_, _)) evaluated hi
  rw [introduce] at h
  split at h
  · exact Ascending.define ascending h
  · cases h
    exact ascending

/-! ### The resources of a registry -/

/-- The resources that are listed are those that are found. -/
theorem mem_all (ascending : r.Ascending) {name : String} {resource : Resource} :
    (name, resource) ∈ r.all s ↔ r.find? s name = some resource := by
  rw [all, List.mem_filterMap, find?, Option.bind_eq_some_iff]
  constructor
  · rintro ⟨⟨n, handle⟩, mem, there⟩
    obtain ⟨live, found, same⟩ := Option.map_eq_some_iff.1 there
    cases same
    exact ⟨handle, Keyed.value?_of_mem ascending mem, by rw [found]; rfl⟩
  · rintro ⟨handle, given, there⟩
    obtain ⟨live, found, rfl⟩ := Option.map_eq_some_iff.1 there
    exact ⟨(name, handle), Keyed.mem_of_value? given, by simp [found]⟩

theorem ascending_all (ascending : r.Ascending) (s : Session) :
    (Keyed.keys (r.all s)).Pairwise (· < ·) := by
  have sub : (Keyed.keys (r.all s)).Sublist (Keyed.keys r.resources) := by
    rw [all]
    induction r.resources with
    | nil => exact .slnil
    | cons entry rest ih =>
      obtain ⟨name, handle⟩ := entry
      cases there : s.resources[handle]? with
      | none =>
        rw [List.filterMap_cons_none (by simp [there])]
        exact ih.cons name
      | some live =>
        rw [List.filterMap_cons_some (b := (name, live.resource)) (by simp [there])]
        exact ih.cons_cons name
  exact ascending.sublist sub

/-- The error is that of the resource with the least name, octet by octet, of those that have an
error. -/
def Foremost (s : Session) (r : Registry α) (error : String) : Prop :=
  ∃ name resource, r.find? s name = some resource ∧ resource.error = some error ∧
    ∀ other resource', r.find? s other = some resource' → resource'.error.isSome = true →
      other = name ∨ Text.octets name < Text.octets other

/-- If no error is empty, the first one is that of the least name. -/
theorem firstError_eq_some_iff (ascending : r.Ascending)
    (legible : ∀ name resource, r.find? s name = some resource → resource.error ≠ some "")
    {error : String} : r.firstError s = some error ↔ r.Foremost s error := by
  have all (name : String) (resource : Resource) (e : String)
      (mem : (name, resource) ∈ r.all s) (told : resource.error = some e) :
      decide (e ≠ "") = true := by
    refine decide_eq_true fun empty => ?_
    exact legible name resource ((mem_all ascending).1 mem) (empty ▸ told)
  rw [firstError, Keyed.find?_filterMap_eq_some_iff (ascending_all ascending s) all]
  simp only [mem_all ascending, Foremost, Text.octets_lt_octets_iff]

/-- If no error is empty, there is a first one whenever there is one. -/
theorem isSome_firstError_iff (ascending : r.Ascending)
    (legible : ∀ name resource, r.find? s name = some resource → resource.error ≠ some "") :
    (r.firstError s).isSome = true ↔
      ∃ name resource, r.find? s name = some resource ∧ resource.error.isSome = true := by
  constructor
  · intro told
    obtain ⟨error, first⟩ := Option.isSome_iff_exists.1 told
    obtain ⟨name, resource, found, failed, -⟩ :=
      (firstError_eq_some_iff ascending legible).1 first
    exact ⟨name, resource, found, by rw [failed]; rfl⟩
  · rintro ⟨name, resource, found, failed⟩
    obtain ⟨error, failed⟩ := Option.isSome_iff_exists.1 failed
    rw [firstError, List.find?_isSome]
    refine ⟨error, List.mem_filterMap.2 ⟨_, (mem_all ascending).2 found, failed⟩, ?_⟩
    exact decide_eq_true fun empty => legible name resource found (empty ▸ failed)

end Registry

namespace World

variable {α : Type} {w : World α} {definitions : List (String × Definition α)}

theorem ascending_undergo (h : w.registry.Ascending) (i : Incident α) :
    (w.undergo i).registry.Ascending := by
  cases i with
  | fire name new old =>
    show (w.fire name new old).registry.Ascending
    rcases w.fire_cases name new old with same | ⟨s, r, applied, fired⟩
    · rw [same]
      exact h
    · rw [fired]
      exact h.apply applied
  | deed d =>
    cases d with
    | step => exact h
    | mutate change => exact h.mutate change
    | detach => exact h.detach w.session

/-- The names stay in order, whatever happens. -/
theorem ascending_through (h : w.registry.Ascending) (incidents : List (Incident α)) :
    (w.through incidents).registry.Ascending := by
  induction incidents generalizing w with
  | nil => exact h
  | cons i rest ih => exact ih (ascending_undergo h i)

/-- The resources that a registry finds are legible. -/
theorem legible_of_born (born : w.session.Born) {name : String} {resource : Resource}
    (found : w.registry.find? w.session name = some resource) : resource.Legible := by
  obtain ⟨handle, -, there⟩ := Option.bind_eq_some_iff.1 found
  obtain ⟨live, here, rfl⟩ := Option.map_eq_some_iff.1 there
  obtain ⟨name, config, actions, rfl⟩ := born handle live here
  exact LiveResource.legible_after name config actions

/-- **The text of an error is never empty.** A resource has no error or a text, after every run, and
where a call has failed it is that of its messages. A failed response has messages, none of them
empty. So a registry that has been attached, in whatever has happened to it since, has a first error
exactly if one of its resources has an error, and it is the error of the least name, octet by
octet. -/
theorem error_text_never_empty :
    (∀ name config actions,
      ((LiveResource.fresh name config).after actions).resource.error ≠ some "" ∧
      ∀ e, ((LiveResource.fresh name config).after actions).resource.remoteError = some e →
        ((LiveResource.fresh name config).after actions).resource.error = some e.joined) ∧
    (∀ method status body, (Gateway.errorOfBody method status body).messages ≠ [] ∧
      ∀ message ∈ (Gateway.errorOfBody method status body).messages, message ≠ "") ∧
    ∀ {α : Type} {s s' : Session} {id : String} {owner : α}
      {definitions : List (String × Definition α)} {r : Registry α},
      s.Born → Registry.attach s id owner definitions = .ok (s', r) →
      ∀ incidents, let w := World.through { session := s', registry := r } incidents
        ((w.registry.firstError w.session).isSome = true ↔ ∃ name resource,
          w.registry.find? w.session name = some resource ∧ resource.error.isSome = true) ∧
        ∀ error, w.registry.firstError w.session = some error ↔
          w.registry.Foremost w.session error := by
  refine ⟨fun name config actions => ?_, Gateway.errorOfBody_messages, ?_⟩
  · have legible := LiveResource.legible_after name config actions
    exact ⟨legible.nonempty, legible.joined⟩
  · intro α s s' id owner definitions r born attached incidents w
    have ascending : w.registry.Ascending :=
      ascending_through (Registry.ascending_attach attached) incidents
    have born' : w.session.Born := (evolves_through _ incidents).born
      ((Session.spans_beside.attach attached).evolves.born born)
    have legible (name : String) (resource : Resource)
        (found : w.registry.find? w.session name = some resource) : resource.error ≠ some "" :=
      (legible_of_born born' found).nonempty
    exact ⟨Registry.isSome_firstError_iff ascending legible, fun error =>
      Registry.firstError_eq_some_iff ascending legible⟩

/-! ### A desk where all calls fail -/

/-- The tickets and the clock of a desk, both fetched by themselves. -/
def faultyDefinitions : List (String × Definition Unit) :=
  [("tickets", .fixed { method := "list", auto := true }),
    ("clock", .fixed { method := "now", auto := true })]

/-- Every call fails, the one for the clock without a word. -/
def faultyReply (method : String) (_ : Json) : Reply :=
  .err { message := "down", messages := if method = "now" then ["", ""] else ["no tickets"] }

/-- A session in which every call fails. -/
def faultySession : Session := { script := { responder := some faultyReply } }

/-- The desk after some incidents. -/
def faultyDesk (incidents : List (Incident Unit)) : World Unit :=
  match Registry.attach faultySession "desk" () faultyDefinitions with
  | .ok (session, registry) => World.through { session, registry } incidents
  | .error _ => { session := {}, registry := { id := "desk", owner := () } }

/-- The tickets fail first. When the clock has failed as well, the first error is that of the clock,
a general one. -/
theorem clock_error_first :
    let first : List (Incident Unit) := [.deed (.step (.turn 1)), .deed (.step (.turn 0))]
    let second : List (Incident Unit) := [.deed (.step (.turn 0)), .deed (.step (.turn 0))]
    let before := faultyDesk first
    let w := faultyDesk (first ++ second)
    faultySession.Born ∧
      Registry.attach faultySession "desk" () faultyDefinitions
        = .ok ((faultyDesk []).session, (faultyDesk []).registry) ∧
      before.registry.firstError before.session = some "no tickets" ∧
      w.registry.firstError w.session = some "Internal Server Error" ∧
      w.registry.Foremost w.session "Internal Server Error" := by
  intro first second before w
  have born : faultySession.Born := Session.Vacant.born ⟨rfl, rfl, rfl, rfl⟩
  have attached : Registry.attach faultySession "desk" () faultyDefinitions
      = .ok ((faultyDesk []).session, (faultyDesk []).registry) := rfl
  have told : w.registry.firstError w.session = some "Internal Server Error" := by decide +kernel
  obtain ⟨-, -, registries⟩ := error_text_never_empty
  exact ⟨born, attached, by decide +kernel, told, ((registries born attached _).2 _).1 told⟩

end World

end ReactiveResource
