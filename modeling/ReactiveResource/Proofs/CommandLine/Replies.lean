import ReactiveResource.Proofs.CommandLine.Windows
import ReactiveResource.Proofs.Resource.Pages

/-!
# What an errand comes to

The calls of an errand are made one after another, and what each of them comes to is applied before
the next one. So the requests, the data and the error are told by the replies, and so is the number
of the calls: pages are fetched until a call fails, a page is empty, or there are as many as were
asked for.

* `Reply.endsPages`, `PagesUpTo`: the replies after which no page comes, and replies up to such a
  one;
* `Errand.Trip`: calls that have been made, and what they have left;
* `pageParams`, `pageCalls`: the parameters of a page, and the calls for some pages;
* `Errand.run_fetches`: the course of an errand.
-/

namespace ReactiveResource

/-! ### Replies -/

/-- No page comes after this reply: the call has failed, or the page is empty. -/
def Reply.endsPages : Reply → Bool
  | .err _ => true
  | .ok (.arr []) => true
  | .ok _ => false

/-- The page that a reply brings. -/
def Reply.page? (reply : Reply) : Option (List Json) := (Outcome.ofReply reply).page?

/-- The text of the error that a reply leaves. -/
def Reply.errorText? : Reply → Option String
  | .ok _ => none
  | .err e => some e.joined

/-- Replies up to the first one after which no page comes, if it is among the first ones of a
number, and otherwise as many as that. -/
structure PagesUpTo (most : Nat) (replies : List Reply) : Prop where
  within : replies.length ≤ most
  goesOn : ∀ reply ∈ replies.dropLast, reply.endsPages = false
  ends : replies.length = most
    ∨ ∃ reply, replies.getLast? = some reply ∧ reply.endsPages = true

namespace PagesUpTo

variable {most : Nat} {reply : Reply} {replies : List Reply}

theorem single (reply : Reply) : PagesUpTo 1 [reply] := ⟨Nat.le_refl 1, nofun, .inl rfl⟩

theorem stop (ends : reply.endsPages = true) (most : Nat) : PagesUpTo (most + 1) [reply] :=
  ⟨Nat.le_add_left 1 most, nofun, .inr ⟨reply, rfl, ends⟩⟩

theorem cons (goesOn : reply.endsPages = false) (h : PagesUpTo most replies) :
    PagesUpTo (most + 1) (reply :: replies) where
  within := Nat.succ_le_succ h.within
  goesOn := by
    intro other mem
    cases replies with
    | nil => cases mem
    | cons next rest =>
      rcases List.mem_cons.1 mem with rfl | mem
      · exact goesOn
      · exact h.goesOn other mem
  ends := by
    refine h.ends.imp (congrArg (· + 1)) fun ⟨last, place, ends⟩ => ⟨last, ?_, ends⟩
    rw [List.getLast?_cons, place]
    rfl

end PagesUpTo

namespace CommandLine

/-! ### Calls that have been made -/

namespace Errand

/-- Calls have been made one after another, and what each of them has come to has been applied. -/
structure Trip (e : Errand) (records : List HttpGateway.Record) (e' : Errand) : Prop where
  requests : e'.requests = e.requests ++ records.filterMap (·.request)
  /-- Pages are added in the order of the requests. -/
  gathers : ∀ {initial : Option Json} {pages : List (List Json)},
    e.resource.config.paginated = true → (∀ record ∈ records, record.reply.IsPage) →
    e.resource.Gathered initial pages →
    e'.resource.Gathered initial (pages ++ records.filterMap (·.reply.page?))
  /-- The error is that of the last call. -/
  error : ∀ record, records.getLast? = some record →
    e'.resource.error = record.reply.errorText?

variable {e e₁ e' : Errand} {params : Params} {records : List HttpGateway.Record}

theorem Fetched.error (fetched : e.Fetched params e') :
    e'.resource.error = (e.recordOf params).reply.errorText? := by
  rw [fetched.resource]
  cases (e.recordOf params).reply <;> rfl

theorem Fetched.gathers (fetched : e.Fetched params e')
    (paginated : e.resource.config.paginated = true) {initial : Option Json}
    {pages : List (List Json)} (isPage : (e.recordOf params).reply.IsPage)
    (gathered : e.resource.Gathered initial pages) :
    e'.resource.Gathered initial (pages ++ (e.recordOf params).reply.page?.toList) := by
  have begun : (e.resource.raised params).beginLoading.notify.Gathered initial pages :=
    ⟨gathered.fresh, gathered.data, gathered.exhausted⟩
  rw [fetched.resource]
  exact begun.settle paginated e.now isPage

theorem Fetched.trip (fetched : e.Fetched params e') : e.Trip [e.recordOf params] e' where
  requests := by
    rw [fetched.requests]
    cases h : (e.recordOf params).request <;> simp [h]
  gathers paginated arePages gathered := by
    have added := fetched.gathers paginated (arePages _ List.mem_cons_self) gathered
    cases h : (e.recordOf params).reply.page? <;> simpa [h] using added
  error record last := by
    cases last
    exact fetched.error

/-- One call more, before the others. -/
theorem Trip.cons (fetched : e.Fetched params e₁) (trip : e₁.Trip records e')
    (more : records ≠ []) : e.Trip (e.recordOf params :: records) e' where
  requests := by
    rw [trip.requests, fetched.trip.requests, List.append_assoc, ← List.filterMap_append]
    rfl
  gathers paginated arePages gathered := by
    have first := fetched.trip.gathers paginated
      (fun record mem => arePages record (List.mem_cons.2 (.inl (List.mem_singleton.1 mem))))
      gathered
    have all := trip.gathers ((Config.paginated_of_bare fetched.bare).trans paginated)
      (fun record mem => arePages record (List.mem_cons_of_mem _ mem)) first
    rwa [List.append_assoc, ← List.filterMap_append] at all
  error record last := by
    rw [List.getLast?_cons_of_ne_nil more] at last
    exact trip.error record last

end Errand

/-! ### The calls for pages -/

/-- The parameters of a page: the first one is asked for by those of the config, and a later one
begins at a multiple of the length of a page, where numbers go round. -/
def pageParams (params : Params) (page : Nat) : Params :=
  if page = 0 then params
  else Keyed.put params "start" (.int (page * itemsPerPage params % 2 ^ 64 : Nat))

/-- The calls for some pages of a resource, the first of them being the page of a number. -/
def pageCalls (config : Config) (first count : Nat) : List (String × Json) :=
  (List.range' first count).map fun page =>
    (config.method, config.callArgs (pageParams config.params page))

namespace Errand

/-- The calls for some pages have been made, the first of them for the page of a number, up to one
after which no page comes, and no more than a number of them. -/
def FetchesFrom (e : Errand) (config : Config) (page most : Nat) (e' : Errand) : Prop :=
  ∃ count,
    let records := e.gateway.calls e.network e.requests (pageCalls config page count)
    records ≠ [] ∧ e.Trip records e' ∧ PagesUpTo most (records.map (·.reply))

variable {e e₁ e' : Errand} {config : Config} {params : Params} {page most : Nat}

/-- The call for one page, and those for the pages after it. -/
theorem calls_pageCalls (same : e.resource.config.bare = config.bare)
    (fetched : e.Fetched (pageParams config.params page) e₁) (count : Nat) :
    e.gateway.calls e.network e.requests (pageCalls config page (count + 1))
      = e.recordOf (pageParams config.params page)
        :: e₁.gateway.calls e₁.network e₁.requests (pageCalls config (page + 1) count) := by
  have record : e.recordOf (pageParams config.params page)
      = e.gateway.call e.network e.requests config.method
        (config.callArgs (pageParams config.params page)) := by
    rw [recordOf, Resource.method, Config.method_of_bare same, Config.callArgs,
      Config.passthrough_of_bare same]
    rfl
  rw [pageCalls, List.range'_succ, List.map_cons, HttpGateway.calls, fetched.gateway,
    fetched.network, fetched.requests, record]
  rfl

/-- There are pages after the page. -/
theorem FetchesFrom.cons (later : e₁.FetchesFrom config (page + 1) most e')
    (fetched : e.Fetched (pageParams config.params page) e₁)
    (same : e.resource.config.bare = config.bare)
    (goesOn : (e.recordOf (pageParams config.params page)).reply.endsPages = false) :
    e.FetchesFrom config page (most + 1) e' := by
  obtain ⟨count, more, trip, upTo⟩ := later
  refine ⟨count + 1, ?_⟩
  rw [calls_pageCalls same fetched]
  exact ⟨List.cons_ne_nil _ _, trip.cons fetched more, upTo.cons goesOn⟩

end Errand

end CommandLine

end ReactiveResource
