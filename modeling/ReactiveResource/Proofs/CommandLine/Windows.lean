import Mathlib.Algebra.Group.Nat.Defs
import ReactiveResource.Proofs.CommandLine.Commission
import ReactiveResource.Proofs.Gateway.Calls

/-!
# Where pages begin

A run for a resource with pages asks for one page after another. The first request begins where its
parameters say, and the later ones begin at the multiples of the length of a page, which are numbers
of 64 bits: they follow on the first one only if that begins at the first item of all, and only as
long as they do not go round.

* `firstItem?`, `Request.firstItem?`: where parameters and requests ask a page to begin;
* `Errand.Paging`: an errand that is ready for its next page;
* `Errand.counters`, `fetchPages_eq_foldl`: the numbers at which later pages begin, each but the
  last of which has been raised by an addition;
* `fetchPages_asks`, `run_asks`: where requests begin, whatever the network does;
* `Consecutive`, `Fit`: windows one after another, and numbers that do not go round;
* `Feeds`, `fetchPages_fed`: a server that always has one more page;
* `pages_begin`: a run of the program.
-/

namespace ReactiveResource

/-! ### Requests -/

/-- The number of the first item that parameters ask for: that of the first of all if they do not
say. -/
def firstItem? (params : Params) : Option Nat :=
  (Keyed.value? params "start").elim (some 0) Json.natural?

/-- The number of the first item that a request asks for. -/
def Request.firstItem? (r : Request) : Option Nat := r.body.fields?.bind ReactiveResource.firstItem?

namespace CommandLine

namespace Errand

variable {e e' : Errand} {params : Params}

/-! ### One page -/

/-- The errand is for a resource with pages, and nothing holds up the next one. No field is passed
through, so that a request asks for what the parameters say. -/
structure Paging (e : Errand) : Prop extends e.Rested where
  paginated : e.resource.config.paginated = true
  plain : e.resource.config.passthrough = []
  ascending : (Keyed.keys e.resource.config.params).Pairwise (· < ·)

theorem Fetched.paging (fetched : e.Fetched params e') (paging : e.Paging) : e'.Paging where
  toRested := fetched.rested paging.toRested
  paginated := (Config.paginated_of_bare fetched.bare).trans paging.paginated
  plain := (Config.passthrough_of_bare fetched.bare).trans paging.plain
  ascending := (Config.params_of_bare fetched.bare).symm ▸ paging.ascending

theorem firstItem_recordOf (paging : e.Paging) (ascending : (Keyed.keys params).Pairwise (· < ·))
    {request : Request} (sent : (e.recordOf params).request = some request) :
    request.firstItem? = firstItem? params := by
  rw [Request.firstItem?, HttpGateway.body_of_call sent]
  show firstItem? (Keyed.overlay e.resource.config.passthrough params) = firstItem? params
  rw [firstItem?, firstItem?, Keyed.value?_overlay_of_ascending _ ascending, paging.plain]
  exact congrArg (Option.elim · _ _) Option.or_none

/-- After a call that sent no request there is no other page. -/
theorem Fetched.wantsMore_of_unsent (fetched : e.Fetched params e') (paging : e.Paging)
    (unsent : (e.recordOf params).request = none) : e'.wantsMore = false := by
  obtain ⟨error, failed⟩ := HttpGateway.reply_of_unsent unsent
  refine Bool.eq_false_iff.2 fun more => ?_
  obtain ⟨payload, brought, -⟩ := (fetched.wantsMore_iff paging.paginated).1 more
  cases failed.symm.trans brought

theorem firstItem_paramsFrom (e : Errand) (start : UInt64) :
    firstItem? (e.paramsFrom start) = some start.toNat := by
  have small : start.toNat < UInt64.size := start.toNat_lt_size
  simp [firstItem?, paramsFrom, Json.natural?, small]

/-! ### Later pages -/

/-- The numbers at which the pages after the first one begin. The length of a page is added to each
of them when its page has come. -/
def counters (e : Errand) (start length : UInt64) : Nat → List UInt64
  | 0 => []
  | count + 1 =>
    if e.wantsMore then
      start :: (e.fetch (some (e.paramsFrom start))).counters (start + length) length count
    else []

/-- The pages after the first one are fetched at these numbers, one after another. -/
theorem fetchPages_eq_foldl (e : Errand) (start length : UInt64) (count : Nat) :
    e.fetchPages start length count
      = (e.counters start length count).foldl (fun e start => e.fetch (some (e.paramsFrom start)))
        e := by
  induction count generalizing e start with
  | zero => rfl
  | succ count ih =>
    rw [fetchPages, counters]
    split
    · rw [List.foldl_cons, ih]
    · rfl

theorem fetchPages_of_done {start length : UInt64} (done : e.wantsMore = false) (count : Nat) :
    e.fetchPages start length count = e := by
  cases count <;> simp [fetchPages, done]

/-- One length more, where numbers go round. -/
theorem add_mul_mod (start length : UInt64) (k : Nat) :
    ((start + length).toNat + k * length.toNat) % 2 ^ 64
      = (start.toNat + (k + 1) * length.toNat) % 2 ^ 64 := by
  rw [UInt64.toNat_add, Nat.mod_add_mod, Nat.add_mul, Nat.one_mul, Nat.add_assoc,
    Nat.add_comm length.toNat]

theorem counters_eq {start length : UInt64} {count k : Nat} {c : UInt64}
    (h : (e.counters start length count)[k]? = some c) :
    c.toNat = (start.toNat + k * length.toNat) % 2 ^ 64 := by
  induction count generalizing e start k with
  | zero => cases h
  | succ count ih =>
    rw [counters] at h
    split at h
    · cases k with
      | zero =>
        cases h
        rw [Nat.zero_mul, Nat.add_zero, Nat.mod_eq_of_lt (UInt64.toNat_lt _)]
      | succ k => rw [ih h, add_mul_mod]
    · cases h

/-- **Every later request begins one length of a page after the one before,** where numbers go
round, whatever the network does. -/
theorem fetchPages_asks (paging : e.Paging) (start length : UInt64) (count : Nat) :
    ∃ later, (e.fetchPages start length count).requests = e.requests ++ later
      ∧ ∀ k request, later[k]? = some request
        → request.firstItem? = some ((start.toNat + k * length.toNat) % 2 ^ 64) := by
  induction count generalizing e start with
  | zero => exact ⟨[], (List.append_nil _).symm, nofun⟩
  | succ count ih =>
    rw [fetchPages]
    split
    · have fetched := paging.toRested.fetch (some (e.paramsFrom start))
      rw [Option.getD_some] at fetched
      have ascending : (Keyed.keys (e.paramsFrom start)).Pairwise (· < ·) :=
        Keyed.ascending_put paging.ascending "start" (.int start.toNat)
      obtain ⟨later, requests, asks⟩ := ih (fetched.paging paging) (start + length)
      rw [fetched.requests] at requests
      cases sent : (e.recordOf (e.paramsFrom start)).request with
      | some request =>
        refine ⟨request :: later, by simp [requests, sent], fun k asked h => ?_⟩
        cases k with
        | zero =>
          cases h
          rw [firstItem_recordOf paging ascending sent, firstItem_paramsFrom, Nat.zero_mul,
            Nat.add_zero, Nat.mod_eq_of_lt (UInt64.toNat_lt _)]
        | succ k => rw [asks k asked h, add_mul_mod]
      | none =>
        refine ⟨[], ?_, nofun⟩
        rw [fetchPages_of_done (fetched.wantsMore_of_unsent paging sent), fetched.requests, sent]
        rfl
    · exact ⟨[], (List.append_nil _).symm, nofun⟩

/-! ### A whole errand -/

/-- The numbers that are raised in the course of an errand. -/
def additions (e : Errand) (pages : Nat) : List UInt64 :=
  (e.fetch none).counters (pageLength e.resource.config.params)
    (pageLength e.resource.config.params) (pages - 1)

theorem run_eq (paging : e.Paging) (pages : Nat) :
    e.run pages = (e.fetch none).fetchPages (pageLength e.resource.config.params)
      (pageLength e.resource.config.params) (pages - 1) := by
  rw [run, if_pos paging.paginated]

/-- **The first request begins where its parameters say, and the later ones at the multiples of the
length of a page,** where numbers go round. -/
theorem run_asks (paging : e.Paging) (fresh : e.requests = []) {start : Nat}
    (first : firstItem? e.resource.config.params = some start) (pages : Nat) :
    (∀ request, (e.run pages).requests[0]? = some request → request.firstItem? = some start)
      ∧ ∀ k request, (e.run pages).requests[k + 1]? = some request →
        request.firstItem?
          = some ((k + 1) * (pageLength e.resource.config.params).toNat % 2 ^ 64) := by
  have fetched := paging.toRested.fetch none
  rw [Option.getD_none] at fetched
  rw [run_eq paging]
  generalize pageLength e.resource.config.params = length
  cases sent : (e.recordOf e.resource.config.params).request with
  | none =>
    rw [fetchPages_of_done (fetched.wantsMore_of_unsent paging sent), fetched.requests, fresh, sent]
    exact ⟨nofun, nofun⟩
  | some request =>
    obtain ⟨later, requests, asks⟩ :=
      fetchPages_asks (fetched.paging paging) length length (pages - 1)
    rw [requests, fetched.requests, fresh, sent]
    refine ⟨fun asked h => ?_, fun k asked h => ?_⟩
    · cases h
      rw [firstItem_recordOf paging paging.ascending sent, first]
    · rw [asks k asked h, Nat.add_mul, Nat.one_mul, Nat.add_comm]

theorem additions_eq {pages k : Nat} {c : UInt64} (h : (e.additions pages)[k]? = some c) :
    c.toNat = (k + 1) * (pageLength e.resource.config.params).toNat % 2 ^ 64 := by
  rw [counters_eq h, Nat.add_mul, Nat.one_mul, Nat.add_comm]

end Errand

/-! ### Windows one after another -/

/-- Requests ask for windows of a length one after another, the first of them beginning at an item:
nothing is left out, and nothing is asked for twice. -/
def Consecutive (requests : List Request) (start length : Nat) : Prop :=
  ∀ k request, requests[k]? = some request → request.firstItem? = some (start + k * length)

/-- Numbers can be raised by a length without going round. -/
def Fit (additions : List UInt64) (length : Nat) : Prop :=
  ∀ c ∈ additions, c.toNat + length < 2 ^ 64

theorem consecutive_iff {requests : List Request} {start length : Nat} (small : length < 2 ^ 64)
    (first : ∀ request, requests[0]? = some request → request.firstItem? = some start)
    (later : ∀ k request, requests[k + 1]? = some request →
      request.firstItem? = some ((k + 1) * length % 2 ^ 64)) :
    Consecutive requests start length
      ↔ requests.length ≤ 1 ∨ start = 0 ∧ (requests.length - 1) * length < 2 ^ 64 := by
  constructor
  · intro consecutive
    by_cases single : requests.length ≤ 1
    · exact .inl single
    · have place {k : Nat} (h : k + 1 < requests.length) :
          start + (k + 1) * length = (k + 1) * length % 2 ^ 64 := by
        have at' := List.getElem?_eq_getElem h
        exact Option.some.inj ((consecutive (k + 1) _ at').symm.trans (later k _ at'))
      obtain ⟨n, many⟩ : ∃ n, requests.length = n + 2 := ⟨requests.length - 2, by omega⟩
      have second := place (k := 0) (by omega)
      rw [Nat.zero_add, Nat.one_mul, Nat.mod_eq_of_lt small] at second
      have last := place (k := n) (by omega)
      have bound := Nat.mod_lt ((n + 1) * length) (show 0 < 2 ^ 64 by decide)
      refine .inr ⟨by omega, ?_⟩
      rw [many, show n + 2 - 1 = n + 1 from rfl]
      omega
  · intro fits k request h
    have inside : k < requests.length := (List.getElem?_eq_some_iff.1 h).1
    cases k with
    | zero => rw [first request h, Nat.zero_mul, Nat.add_zero]
    | succ k =>
      rcases fits with single | ⟨rfl, bound⟩
      · omega
      · have le : (k + 1) * length ≤ (requests.length - 1) * length :=
          Nat.mul_le_mul_right length (by omega)
        rw [later k request h, Nat.zero_add, Nat.mod_eq_of_lt (by omega)]

theorem fit_iff {additions : List UInt64} {length : Nat} (small : length < 2 ^ 64)
    (numbers : ∀ k c, additions[k]? = some c → c.toNat = (k + 1) * length % 2 ^ 64) :
    Fit additions length ↔ additions = [] ∨ (additions.length + 1) * length < 2 ^ 64 := by
  constructor
  · intro fit
    -- by induction, no multiple up to the last sum is too large
    have bounded (k : Nat) (h : k ≤ additions.length) : (k + 1) * length < 2 ^ 64 := by
      induction k with
      | zero => rwa [Nat.zero_add, Nat.one_mul]
      | succ k ih =>
        have before := ih (by omega)
        have at' := List.getElem?_eq_getElem (show k < additions.length from h)
        have sum := fit _ (List.mem_of_getElem? at')
        rwa [numbers k _ at', Nat.mod_eq_of_lt before, ← Nat.succ_mul] at sum
    exact .inr (bounded _ (Nat.le_refl _))
  · rintro (rfl | bound) c mem
    · cases mem
    · obtain ⟨k, inside, rfl⟩ := List.mem_iff_getElem.1 mem
      have le : (k + 1) * length + length ≤ (additions.length + 1) * length := by
        rw [← Nat.succ_mul]
        exact Nat.mul_le_mul_right length (by omega)
      have below := Nat.mod_le ((k + 1) * length) (2 ^ 64)
      rw [numbers k _ (List.getElem?_eq_getElem inside)]
      omega

/-! ### Servers with one more page -/

/-- Whatever a method is asked for, the server has one more page. -/
def Feeds (g : HttpGateway) (network : Network) (method : String) : Prop :=
  ∀ earlier params, ∃ request page, page ≠ []
    ∧ (g.call network earlier method params).request = some request
    ∧ (g.call network earlier method params).reply = .ok (.arr page)

namespace Errand

variable {e e' : Errand} {params : Params}

theorem Fetched.feeds (fetched : e.Fetched params e')
    (feeds : Feeds e.gateway e.network e.resource.method) :
    Feeds e'.gateway e'.network e'.resource.method := by
  have method : e'.resource.method = e.resource.method := Config.method_of_bare fetched.bare
  rwa [fetched.gateway, fetched.network, method]

/-- The request for a page of such a server is sent, and there may be one more. -/
theorem Fetched.fed (fetched : e.Fetched params e') (paging : e.Paging)
    (feeds : Feeds e.gateway e.network e.resource.method) :
    e'.requests.length = e.requests.length + 1 ∧ e'.wantsMore = true := by
  obtain ⟨request, page, full, sent, brought⟩ :=
    feeds e.requests (e.resource.config.callArgs params)
  refine ⟨?_, (fetched.wantsMore_iff paging.paginated).2 ⟨.arr page, brought, by simpa using full⟩⟩
  rw [fetched.requests, recordOf, sent]
  simp

theorem fetchPages_fed (paging : e.Paging) (feeds : Feeds e.gateway e.network e.resource.method)
    (more : e.wantsMore = true) (start length : UInt64) (count : Nat) :
    (e.fetchPages start length count).requests.length = e.requests.length + count
      ∧ (e.counters start length count).length = count := by
  induction count generalizing e start with
  | zero => exact ⟨rfl, rfl⟩
  | succ count ih =>
    have fetched := paging.toRested.fetch (some (e.paramsFrom start))
    rw [Option.getD_some] at fetched
    obtain ⟨sent, next⟩ := fetched.fed paging feeds
    obtain ⟨requests, counters⟩ :=
      ih (fetched.paging paging) (fetched.feeds feeds) next (start + length)
    rw [fetchPages, if_pos more, Errand.counters, if_pos more, List.length_cons, counters, requests,
      sent]
    exact ⟨by omega, rfl⟩

theorem run_fed (paging : e.Paging) (fresh : e.requests = [])
    (feeds : Feeds e.gateway e.network e.resource.method) (pages : Nat) :
    (e.run pages).requests.length = max 1 pages ∧ (e.additions pages).length = pages - 1 := by
  have fetched := paging.toRested.fetch none
  obtain ⟨sent, next⟩ := fetched.fed paging feeds
  obtain ⟨requests, counters⟩ := fetchPages_fed (fetched.paging paging) (fetched.feeds feeds) next
    (pageLength e.resource.config.params) (pageLength e.resource.config.params) (pages - 1)
  rw [run_eq paging, requests, sent, fresh, additions, counters]
  exact ⟨by simp only [List.length_nil]; omega, rfl⟩

end Errand

/-! ### Runs of the program -/

theorem Commission.paging {env : Environment} {args : List String} {a : Arguments} {name : String}
    {config : Config} {gateway : HttpGateway}
    (commission : Commission env args a name config gateway) (paginated : config.paginated = true) :
    (errandOf env gateway name config).Paging where
  toRested := commission.rested
  paginated := paginated
  plain := by
    obtain ⟨own, rfl⟩ := commission.config_eq
    exact passthrough_findOrMethod name
  ascending := by
    obtain ⟨own, rfl⟩ := commission.config_eq
    exact ascending_configOf name own

/-- How many items a page has: what the parameters say if that is a natural number, else twenty. -/
def itemsPerPage (params : Params) : Nat :=
  ((Keyed.value? params "page_length").bind Json.natural?).getD 20

theorem pageLength_toNat (params : Params) : (pageLength params).toNat = itemsPerPage params := by
  rw [pageLength, itemsPerPage]
  cases said : (Keyed.value? params "page_length").bind Json.natural? with
  | none => rfl
  | some n =>
    have small : n < UInt64.size := by
      obtain ⟨v, -, natural⟩ := Option.bind_eq_some_iff.1 said
      cases v with
      | int i =>
        rw [Json.natural?] at natural
        split at natural
        · next bounds =>
          cases natural
          exact bounds.2
        · cases natural
      | _ => cases natural
    exact UInt64.toNat_ofNat_of_lt' small

/-- **Where the pages of a run begin.** The first request begins where its parameters say, the later
ones at the multiples of the length of a page, where numbers go round. So the windows follow on one
another exactly if there is only one, or the first one begins at the first item of all and the last
one before numbers go round; and no sum on the way, one for each of the later pages, goes round
exactly if the last one does not. If the server always has one more page, all pages that were asked
for are fetched. -/
theorem pages_begin {env : Environment} {args : List String} {a : Arguments} {name : String}
    {config : Config} {gateway : HttpGateway} {start : Nat}
    (commission : Commission env args a name config gateway) (paginated : config.paginated = true)
    (first : firstItem? config.params = some start) :
    let length := itemsPerPage config.params
    let requests := (run env args).requests
    let additions := (errandOf env gateway name config).additions a.pageCount
    (∀ request, requests[0]? = some request → request.firstItem? = some start)
      ∧ (∀ k request, requests[k + 1]? = some request →
        request.firstItem? = some ((k + 1) * length % 2 ^ 64))
      ∧ (Consecutive requests start length
        ↔ requests.length ≤ 1 ∨ start = 0 ∧ (requests.length - 1) * length < 2 ^ 64)
      ∧ (errandOf env gateway name config).run a.pageCount
        = additions.foldl (fun e start => e.fetch (some (e.paramsFrom start)))
          ((errandOf env gateway name config).fetch none)
      ∧ (Fit additions length ↔ additions = [] ∨ (additions.length + 1) * length < 2 ^ 64)
      ∧ (Feeds gateway env.network config.method →
        requests.length = max 1 a.pageCount
          ∧ (Consecutive requests start length ∧ Fit additions length
            ↔ a.pageCount ≤ 1 ∨ start = 0 ∧ a.pageCount * length < 2 ^ 64)) := by
  intro length requests additions
  have paging := commission.paging paginated
  have said : (pageLength config.params).toNat = length := pageLength_toNat config.params
  have small : length < 2 ^ 64 := said ▸ UInt64.toNat_lt _
  have sent : requests = ((errandOf env gateway name config).run a.pageCount).requests :=
    commission.requests
  obtain ⟨begins, later⟩ := Errand.run_asks paging rfl first a.pageCount
  have later : ∀ k request, requests[k + 1]? = some request →
      request.firstItem? = some ((k + 1) * length % 2 ^ 64) := by
    rw [sent, ← said]
    exact later
  have begins : ∀ request, requests[0]? = some request → request.firstItem? = some start := by
    rw [sent]
    exact begins
  have numbers : ∀ k c, additions[k]? = some c → c.toNat = (k + 1) * length % 2 ^ 64 :=
    fun k c h => said ▸ Errand.additions_eq h
  have consecutive := consecutive_iff small begins later
  have fit := fit_iff small numbers
  have course := (Errand.run_eq paging a.pageCount).trans (Errand.fetchPages_eq_foldl _ _ _ _)
  refine ⟨begins, later, consecutive, course, fit, fun feeds => ?_⟩
  obtain ⟨all, added⟩ := Errand.run_fed paging rfl feeds a.pageCount
  have all : requests.length = max 1 a.pageCount := by rw [sent, all]
  have added : additions.length = a.pageCount - 1 := added
  refine ⟨all, ?_⟩
  rw [consecutive, fit, ← List.length_eq_zero_iff, all, added]
  generalize a.pageCount = pages
  match pages with
  | 0 => simp
  | 1 => simp
  | pages + 2 =>
    have last : (max 1 (pages + 2) - 1) * length ≤ (pages + 2) * length :=
      Nat.mul_le_mul_right length (by omega)
    rw [show pages + 2 - 1 + 1 = pages + 2 from rfl]
    omega

/-! ### A run that is asked to begin later -/

/-- A page of one item, as the body of a response. -/
def onePage : List Nat :=
  "\x7b\x22message\x22:[\x22a\x22]\x7d".toUTF8.data.toList.map UInt8.toNat

/-- A server that answers every request with this page. -/
def onePageEach : Environment := { network := fun _ _ => .response 200 onePage true }

theorem feeds_onePageEach {g : HttpGateway} {method : String} {url : Url}
    (named : g.methodUrl method = .ok url) (free : HttpGateway.fault? url g.headers = none)
    (brings : ∃ page, page ≠ []
      ∧ Gateway.payloadOfBody method (Text.decodeLossy onePage) = .ok (.arr page)) :
    Feeds g onePageEach.network method := by
  intro earlier params
  obtain ⟨page, full, payload⟩ := brings
  refine ⟨{ url, headers := g.headers, body := HttpGateway.bodyOf params }, page, full, ?_, ?_⟩
  · simp only [HttpGateway.call, named, free, onePageEach]
  · simp [HttpGateway.call, named, free, onePageEach, HttpGateway.replyOfResponse, payload,
      Gateway.Status.isSuccess]

/-- Two pages of sites are asked for, the first of them beginning at the fortieth. -/
def laterStart : List String :=
  ["site-list", "-b", "http://[::1]:8000", "--params", "\x7b\x22start\x22:40\x7d", "--pages",
    "2"]

/-- What these arguments stand for. -/
def laterStartArguments : Arguments :=
  { resource := some "site-list"
    baseUrl := some "http://[::1]:8000"
    params := some "\x7b\x22start\x22:40\x7d"
    pages := some 2 }

/-- The backend that they name. -/
def localGateway : HttpGateway :=
  { baseUrl :=
      { scheme := "http"
        authority := some
          { username := "", password := "", host := .ipv6 [0, 0, 0, 0, 0, 0, 0, 1]
            port := some 8000 }
        path := .segments [""] }
    siteName := "[::1]" }

/-- A reply is a page that is not empty. -/
def isFullPage : Reply → Bool
  | .ok (.arr (_ :: _)) => true
  | _ => false

theorem exists_of_isFullPage {reply : Reply} (h : isFullPage reply = true) :
    ∃ page, page ≠ [] ∧ reply = .ok (.arr page) := by
  unfold isFullPage at h
  split at h
  · next item rest => exact ⟨item :: rest, by simp, rfl⟩
  · cases h

theorem laterStart_commission :
    ∃ config,
      Commission onePageEach laterStart laterStartArguments "site-list" config localGateway
        ∧ config.paginated = true ∧ firstItem? config.params = some 40
        ∧ itemsPerPage config.params = 20
        ∧ Feeds localGateway onePageEach.network config.method := by
  have facts : (Catalog.embedded.target? "site-list" laterStartArguments.params).map (fun c =>
      (c.paginated, firstItem? c.params, itemsPerPage c.params, c.method))
      = some (true, some 40, 20, "press.api.site.all") := by decide +kernel
  obtain ⟨config, target, same⟩ := Option.map_eq_some_iff.1 facts
  obtain ⟨paginated, first, items, method⟩ : config.paginated = true
      ∧ firstItem? config.params = some 40 ∧ itemsPerPage config.params = 20
      ∧ config.method = "press.api.site.all" := by simpa using same
  refine ⟨config, ⟨by decide +kernel, rfl, rfl, by decide +kernel, target, by decide +kernel⟩,
    paginated, first, items, ?_⟩
  obtain ⟨url, named, free⟩ : ∃ url, localGateway.methodUrl config.method = .ok url
      ∧ HttpGateway.fault? url localGateway.headers = none := by
    rw [method]
    exact ⟨_, rfl, by decide +kernel⟩
  have brings : isFullPage
      (Gateway.payloadOfBody "press.api.site.all" (Text.decodeLossy onePage)) = true := by
    decide +kernel
  refine feeds_onePageEach named free ?_
  rw [method]
  exact exists_of_isFullPage brings

/-- The server has a page for each of the requests, and the pages do not follow on one another. -/
theorem laterStart_fetched :
    ∃ config, Commission onePageEach laterStart laterStartArguments "site-list" config localGateway
      ∧ (run onePageEach laterStart).requests.length = 2
      ∧ ¬(Consecutive (run onePageEach laterStart).requests 40 20
        ∧ Fit ((errandOf onePageEach localGateway "site-list" config).additions 2) 20) := by
  obtain ⟨config, commission, paginated, first, items, feeds⟩ := laterStart_commission
  obtain ⟨-, -, -, -, -, fetched⟩ := pages_begin commission paginated first
  obtain ⟨all, promised⟩ := fetched feeds
  rw [items] at promised
  refine ⟨config, commission, all, fun both => ?_⟩
  rcases promised.1 both with single | ⟨zero, -⟩
  · exact absurd single (by decide)
  · cases zero

/-- The pages after the first one do not follow on it. -/
theorem laterStart_not_consecutive :
    ¬∀ env args a name config gateway start, Commission env args a name config gateway →
      config.paginated = true → firstItem? config.params = some start →
      Feeds gateway env.network config.method →
      Consecutive (run env args).requests start (itemsPerPage config.params) := by
  intro promised
  obtain ⟨config, commission, paginated, first, items, feeds⟩ := laterStart_commission
  have consecutive := promised _ _ _ _ _ _ _ commission paginated first feeds
  have asked : (run onePageEach laterStart).requests.map (·.firstItem?) = [some 40, some 20] := by
    decide +kernel
  have second :
      ((run onePageEach laterStart).requests.map (·.firstItem?))[1]? = some (some 20) := by
    rw [asked]
    rfl
  obtain ⟨request, place, item⟩ := Option.map_eq_some_iff.1 (List.getElem?_map ▸ second)
  have expected := consecutive 1 request place
  rw [item, items] at expected
  cases expected

end CommandLine

end ReactiveResource
