import ReactiveResource.Gateway.Http
import ReactiveResource.Resource.Live

/-!
# Fetches one after another

A resource is fetched through a gateway, and every fetch is waited for. A resource with pages is
fetched again, with the number of the first item raised by the length of a page each time, until a
page is empty, a fetch fails, or there are as many pages as were asked for.

* `Errand`: a resource, and the requests made for it so far;
* `Errand.fetch`: one fetch from its beginning to its end;
* `Errand.fetchPages`: the pages after the first one;
* `pageLength`: how many items a page has.
-/

namespace ReactiveResource.CommandLine

/-- A resource that is fetched through a gateway. -/
structure Errand where
  gateway : HttpGateway
  network : Network
  /-- The instant, in milliseconds since the beginning of 1970. -/
  now : Nat
  live : LiveResource
  requests : List Request := []
  log : List LogEntry := []

/-- The call among effects, if there is one. -/
def callOf? (effects : List Effect) : Option (String × Json) :=
  effects.findSome? fun
    | .call _ method args => some (method, args)
    | _ => none

/-- The log entries among effects. -/
def entriesOf (effects : List Effect) : List LogEntry :=
  effects.filterMap fun
    | .log entry => some entry
    | _ => none

namespace Errand

/-- The resource as it is now. -/
def resource (e : Errand) : Resource := e.live.resource

/-- The surroundings of a fetch: every gate is open. -/
def moment (e : Errand) : Moment := { now := e.now, isOpen := fun _ => true }

/-- An attempt is given a signal. -/
def signal (e : Errand) (id : Nat) (signal : Signal) : Errand × List Effect :=
  let (live, effects) := e.live.advance e.moment id signal
  ({ e with live, log := e.log ++ entriesOf effects }, effects)

/-- A call of an attempt is made, and the attempt is given the reply. A delay after the reply is
over at once. -/
def answer (e : Errand) (id : Nat) (method : String) (args : Json) : Errand :=
  let record := e.gateway.call e.network e.requests method args
  let e := { e with requests := e.requests ++ record.request.toList, log := e.log ++ record.log }
  let (e, _) := e.signal id (.reply record.reply)
  (e.signal id .elapsed).1

/-- One fetch, with parameters instead of those of the config if they are given. -/
def fetch (e : Errand) (override : Option Params) : Errand :=
  let (live, id) := e.live.spawn override
  let (e, effects) := { e with live }.signal id .go
  match callOf? effects with
  | some (method, args) => e.answer id method args
  | none => e

/-- Whether there may be another page: the last fetch was a success and brought something. -/
def wantsMore (e : Errand) : Bool := !e.resource.exhausted && e.resource.state == .success

/-- The parameters of the page that begins at an item. -/
def paramsFrom (e : Errand) (start : UInt64) : Params :=
  Keyed.put e.resource.config.params "start" (.int start.toNat)

/-- Some more pages of a length, the first of them beginning at an item. The numbers of items go
round at 2⁶⁴. -/
def fetchPages (e : Errand) (start length : UInt64) : Nat → Errand
  | 0 => e
  | count + 1 =>
    if e.wantsMore then
      (e.fetch (some (e.paramsFrom start))).fetchPages (start + length) length count
    else e

end Errand

/-- How many items a page has: what the parameters say if that is a natural number, else twenty. -/
def pageLength (params : Params) : UInt64 :=
  match (Keyed.value? params "page_length").bind Json.natural? with
  | some n => UInt64.ofNat n
  | none => 20

/-- The fetch of a resource, and those of the pages after the first one if it has pages. -/
def Errand.run (e : Errand) (pages : Nat) : Errand :=
  let config := e.resource.config
  let length := pageLength config.params
  let e := e.fetch none
  if config.paginated then e.fetchPages length length (pages - 1) else e

end ReactiveResource.CommandLine
