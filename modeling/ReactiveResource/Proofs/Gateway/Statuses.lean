import ReactiveResource.Proofs.Gateway.Calls

/-!
# The status of a failure

A failure that comes from a response tells its status, so that a server that refuses its caller is
told from one that cannot be reached. One response is the exception: it tells of success, and its
body is complete but holds no JSON value. The failure that comes of it has no status.

* `Response`, `HttpGateway.response?`: the response to a call, if there is one;
* `Response.Garbled`: the responses whose status is lost;
* `reply_of_response`, `reply_of_silence`: what a call comes to, with a response and without one;
* `status_kept_iff`: the failures that tell their status.
-/

namespace ReactiveResource

/-- A response: its status, the octets of its body, and whether they are all that was announced. -/
structure Response where
  status : Nat
  octets : List Nat
  complete : Bool
  deriving DecidableEq, Repr, Inhabited

/-- The response among what comes back. -/
def Exchange.response? : Exchange → Option Response
  | .response status octets complete => some { status, octets, complete }
  | _ => none

/-- A response that tells of success, with a complete body that is neither blank nor JSON. -/
structure Response.Garbled (r : Response) : Prop where
  complete : r.complete = true
  success : Gateway.Status.isSuccess r.status = true
  full : Text.isBlank (Text.decodeLossy r.octets) = false
  malformed : Json.parse? (Text.decodeLossy r.octets) = none

/-- Of a body that tells of success the reply is a failure only if the body is neither blank nor
JSON, and then the failure has no status. -/
theorem Gateway.payloadOfBody_eq_err {method body : String} {e : RemoteError}
    (failed : payloadOfBody method body = .err e) :
    Text.isBlank body = false ∧ Json.parse? body = none ∧ e.status = none := by
  rw [payloadOfBody] at failed
  split at failed
  · cases failed
  · next full =>
    refine ⟨Bool.eq_false_iff.2 full, ?_⟩
    split at failed
    · next malformed =>
      cases failed
      exact ⟨malformed, rfl⟩
    · split at failed <;> cases failed

namespace HttpGateway

/-- The response to a call, if its request was sent and answered. -/
def response? (g : HttpGateway) (network : Network) (earlier : List Request) (method : String)
    (params : Json) : Option Response :=
  (g.call network earlier method params).request.bind fun request =>
    (network earlier request).response?

variable {g : HttpGateway} {network : Network} {earlier : List Request} {method : String}
  {params : Json}

/-- A call that has a response comes to what the response says. -/
theorem reply_of_response {r : Response}
    (response : g.response? network earlier method params = some r) :
    (g.call network earlier method params).reply
      = (replyOfResponse method r.status r.octets r.complete).1 := by
  obtain ⟨request, sent, exchange⟩ := Option.bind_eq_some_iff.1 response
  cases course g network earlier method params with
  | misnamed _ unsent | unsendable _ _ unsent | unreachable _ _ _ unsent =>
    cases unsent.symm.trans sent
  | timedOut _ _ back same =>
    cases same.symm.trans sent
    rw [back] at exchange
    cases exchange
  | answered _ _ back same reply =>
    cases same.symm.trans sent
    rw [back] at exchange
    cases exchange
    exact reply

/-- A call without a response fails, and the failure has no status. -/
theorem reply_of_silence (silence : g.response? network earlier method params = none) :
    ∃ e, (g.call network earlier method params).reply = .err e ∧ e.status = none := by
  cases course g network earlier method params with
  | misnamed _ _ reply => exact ⟨_, reply, rfl⟩
  | unsendable _ _ _ reply | unreachable _ _ _ _ reply | timedOut _ _ _ _ reply =>
    exact ⟨_, reply, rfl⟩
  | answered _ _ back sent =>
    rw [response?, sent, Option.bind_some, back] at silence
    cases silence

/-- A failure that a response comes to has the status of the response, unless that is garbled. -/
theorem status_of_response {r : Response} {e : RemoteError}
    (failed : (replyOfResponse method r.status r.octets r.complete).1 = .err e) :
    r.Garbled ∧ e.status = none ∨ ¬ r.Garbled ∧ e.status = some r.status := by
  rw [replyOfResponse] at failed
  split at failed
  · next cut =>
    cases failed
    exact .inr ⟨fun garbled => by simp [garbled.complete] at cut, rfl⟩
  · next whole =>
    simp only at failed
    split at failed
    · next success =>
      obtain ⟨full, malformed, lost⟩ := Gateway.payloadOfBody_eq_err failed
      exact .inl ⟨⟨by simpa using whole, success, full, malformed⟩, lost⟩
    · next failure =>
      cases failed
      exact .inr ⟨fun garbled => failure garbled.success, rfl⟩

/-- A garbled response comes to a failure without a status. -/
theorem reply_of_garbled {r : Response} (garbled : r.Garbled) :
    ∃ e, (replyOfResponse method r.status r.octets r.complete).1 = .err e ∧ e.status = none := by
  refine ⟨.ofMessage "Failed to parse response JSON: the body is malformed", ?_, rfl⟩
  simp [replyOfResponse, Gateway.payloadOfBody, garbled.complete, garbled.success, garbled.full,
    garbled.malformed]

/-- **The failures that tell their status.** Whatever is called and whatever comes back, the status
of a failure is that of the response, and none without a response, exactly if the response is not
garbled. Whether the server refused the caller is told rightly in any case. -/
theorem status_kept_iff (g : HttpGateway) (network : Network) (earlier : List Request)
    (method : String) (params : Json) :
    let reply := (g.call network earlier method params).reply
    let response := g.response? network earlier method params
    ((∀ e, reply = .err e → e.status = response.map (·.status))
        ↔ ∀ r, response = some r → ¬ r.Garbled)
      ∧ (∀ e, reply = .err e →
        (e.status = none ↔ response = none ∨ ∃ r, response = some r ∧ r.Garbled))
      ∧ (∀ e, reply = .err e →
        (e.isAuthFailure = true ↔ ∃ r, response = some r ∧ (r.status = 401 ∨ r.status = 403)))
      ∧ ∀ r, response = some r → r.Garbled → ∃ e, reply = .err e := by
  intro reply response
  cases came : response with
  | none =>
    obtain ⟨e, failed, lost⟩ := reply_of_silence came
    have only : ∀ e', reply = .err e' → e' = e := fun e' h => by
      rw [show reply = .err e from failed] at h
      exact (Reply.err.inj h).symm
    refine ⟨⟨nofun, fun _ e' h => ?_⟩, fun e' h => ?_, fun e' h => ?_, nofun⟩ <;> rw [only e' h]
    · exact lost
    · simp [lost]
    · simp [RemoteError.isAuthFailure, lost]
  | some r =>
    have said : reply = (replyOfResponse method r.status r.octets r.complete).1 :=
      reply_of_response came
    have fails (garbled : r.Garbled) : ∃ e, reply = .err e ∧ e.status = none :=
      said ▸ reply_of_garbled garbled
    have tells {e : RemoteError} (h : reply = .err e) :
        r.Garbled ∧ e.status = none ∨ ¬ r.Garbled ∧ e.status = some r.status :=
      status_of_response (said ▸ h)
    refine ⟨⟨?_, ?_⟩, fun e h => ?_, fun e h => ?_, ?_⟩
    · rintro kept _ ⟨⟩ garbled
      obtain ⟨e, failed, lost⟩ := fails garbled
      cases lost.symm.trans (kept e failed)
    · intro sound e h
      rcases tells h with ⟨garbled, -⟩ | ⟨-, told⟩
      · exact absurd garbled (sound r rfl)
      · exact told
    · rcases tells h with ⟨garbled, lost⟩ | ⟨sound, told⟩
      · simp [garbled, lost]
      · simp [sound, told]
    · rcases tells h with ⟨garbled, lost⟩ | ⟨-, told⟩
      · -- a status of success is not one of those
        have success := garbled.success
        simp only [Gateway.Status.isSuccess, Bool.and_eq_true, decide_eq_true_eq] at success
        simp only [RemoteError.isAuthFailure, lost, Option.some.injEq, exists_eq_left']
        constructor
        · simp
        · omega
      · simp [RemoteError.isAuthFailure, told]
    · rintro _ ⟨⟩ garbled
      obtain ⟨e, failed, -⟩ := fails garbled
      exact ⟨e, failed⟩

/-! ### A response that is garbled -/

/-- The backend on the own machine. -/
def loopback : HttpGateway :=
  { baseUrl :=
      { scheme := "http", authority := some { host := .ipv6 [0, 0, 0, 0, 0, 0, 0, 1] }
        path := .segments [""] }
    siteName := "[::1]" }

/-- A server that answers with success and a body that is no JSON. -/
def unreadable : Network := fun _ _ => .response 200 [111, 111, 112, 115] true

/-- The status of such a response is lost. -/
theorem unreadable_status_lost :
    ¬ ∀ (g : HttpGateway) (network : Network) (earlier : List Request) (method : String)
      (params : Json) (r : Response) (e : RemoteError),
      g.response? network earlier method params = some r →
      (g.call network earlier method params).reply = .err e → e.status = some r.status := by
  intro kept
  have response : loopback.response? unreadable [] "list" .null
      = some { status := 200, octets := [111, 111, 112, 115], complete := true } := by
    decide +kernel
  obtain ⟨e, failed, lost⟩ : ∃ e, (loopback.call unreadable [] "list" .null).reply = .err e
      ∧ e.status = none := by
    rw [reply_of_response response]
    exact reply_of_garbled ⟨rfl, rfl, by decide +kernel, by decide +kernel⟩
  cases lost.symm.trans (kept _ _ _ _ _ _ _ response failed)

end HttpGateway

end ReactiveResource
