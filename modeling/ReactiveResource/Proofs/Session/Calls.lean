import ReactiveResource.Proofs.Session.Run

/-!
# Calls and their replies

The record of calls grows when an attempt makes one, and a call in it is changed only when it is
resolved. In both cases a reply that is known goes to the queue.

* `Session.Made`: whose call has a number;
* `Session.Called`, `called_perform`: what a call leaves behind;
* `Session.Resolved`, `resolve_cases`: what is left behind by the resolution of a call.
-/

namespace ReactiveResource

namespace Session

variable {s s' : Session} {handle id n : Nat} {c : Gateway.Call} {reply : Reply}

/-- The call is that of the attempt, and has this number. -/
def Made (s : Session) (h id n : Nat) (c : Gateway.Call) : Prop :=
  s.callers[n]? = some (h, id) ∧ s.script.calls[n]? = some c

/-! ### A call is made -/

/-- The call has been recorded for the attempt, and its reply is in the queue if there is one. -/
structure Called (s : Session) (handle id : Nat) (c : Gateway.Call) (s' : Session) : Prop where
  resources : s'.resources = s.resources
  runtime : s'.hasRuntime = s.hasRuntime
  slots : s'.slots = s.slots
  sleepers : s'.sleepers = s.sleepers
  callers : s'.callers = s.callers ++ [(handle, id)]
  calls : s'.script.calls = s.script.calls ++ [c]
  ready : (c.status = .waiting ∧ s'.ready = s.ready) ∨
    ∃ reply, c.status.reply? = some reply ∧
      s'.ready = .attempt handle id (.reply reply) :: s.ready

theorem called_perform (s : Session) (handle id : Nat) (method : String) (args : Json) :
    ∃ c : Gateway.Call, c.method = method ∧ c.params = args ∧
      s.Called handle id c (perform handle s (.call id method args)) := by
  have answer (status : Gateway.CallStatus) (hs : s.script.nextStatus method args = status) :
      (s.script.call method args).answer? ((s.script.call method args).calls.length - 1)
        = status.reply? := by
    simp [Gateway.Script.answer?, Gateway.Script.call, hs]
  refine ⟨{ method, params := args, status := s.script.nextStatus method args }, rfl, rfl, ?_⟩
  cases hs : s.script.nextStatus method args with
  | waiting =>
    simp only [perform, answer _ hs, Gateway.CallStatus.reply?]
    exact ⟨rfl, rfl, rfl, rfl, rfl, by rw [← hs]; rfl, .inl ⟨rfl, rfl⟩⟩
  | answered reply | resolved reply =>
    simp only [perform, answer _ hs, Gateway.CallStatus.reply?]
    exact ⟨rfl, rfl, rfl, rfl, rfl, by rw [← hs]; rfl, .inr ⟨reply, rfl, rfl⟩⟩

/-- Earlier calls stay on record. -/
theorem Called.made (h : s.Called handle id c s') {i j : Nat} {d : Gateway.Call}
    (hm : s.Made i j n d) : s'.Made i j n d :=
  ⟨h.callers ▸ getElem?_append_of_some hm.1 _, h.calls ▸ getElem?_append_of_some hm.2 _⟩

/-- The call has the next number. -/
theorem Called.self (h : s.Called handle id c s')
    (lengths : s.callers.length = s.script.calls.length) :
    s'.Made handle id s.callers.length c := by
  refine ⟨h.callers ▸ List.getElem?_concat_length, ?_⟩
  rw [h.calls, lengths]
  exact List.getElem?_concat_length

theorem Called.mem_ready (h : s.Called handle id c s') {job : Job} (hj : job ∈ s.ready) :
    job ∈ s'.ready := by
  rcases h.ready with ⟨-, ready⟩ | ⟨reply, -, ready⟩
  · exact ready ▸ hj
  · exact ready ▸ List.mem_cons_of_mem _ hj

theorem Called.served (h : s.Called handle id c s') :
    c.status = .waiting ∨ ∃ reply, .attempt handle id (.reply reply) ∈ s'.ready := by
  rcases h.ready with ⟨waiting, -⟩ | ⟨reply, -, ready⟩
  · exact .inl waiting
  · exact .inr ⟨reply, ready ▸ List.mem_cons_self⟩

/-- The only new reply is the one to the call. -/
theorem Called.new_reply (h : s.Called handle id c s') {i j : Nat} {reply : Reply}
    (hj : .attempt i j (.reply reply) ∈ s'.ready) :
    .attempt i j (.reply reply) ∈ s.ready ∨
      (i = handle ∧ j = id ∧ c.status.reply? = some reply) := by
  rcases h.ready with ⟨-, ready⟩ | ⟨reply', hc, ready⟩
  · exact .inl (ready ▸ hj)
  · rw [ready] at hj
    rcases List.mem_cons.1 hj with e | hj
    · cases e
      exact .inr ⟨rfl, rfl, hc⟩
    · exact .inl hj

/-! ### A call is resolved -/

/-- The call was waiting, and now has the reply, which is in the queue. -/
structure Resolved (s : Session) (n : Nat) (reply : Reply) (h id : Nat) (c : Gateway.Call)
    (s' : Session) : Prop where
  made : s.Made h id n c
  waiting : c.status = .waiting
  resources : s'.resources = s.resources
  runtime : s'.hasRuntime = s.hasRuntime
  slots : s'.slots = s.slots
  sleepers : s'.sleepers = s.sleepers
  callers : s'.callers = s.callers
  calls : s'.script.calls = s.script.calls.modify n (fun c => { c with status := .resolved reply })
  ready : s'.ready = s.ready ++ [.attempt h id (.reply reply)]

theorem resolved_of_waiting (made : s.Made handle id n c) (waiting : c.status = .waiting)
    (reply : Reply) : s.Resolved n reply handle id c (s.resolve n reply).1 := by
  obtain ⟨method, params, status⟩ := c
  cases waiting
  have found : (s.resolve n reply).1 = { s with
      script := { s.script with
        calls := s.script.calls.modify n fun c => { c with status := .resolved reply } }
      ready := s.ready ++ [.attempt handle id (.reply reply)] } := by
    simp [resolve, Gateway.Script.resolve, made.2, made.1, enqueue]
  rw [found]
  exact ⟨made, rfl, rfl, rfl, rfl, rfl, rfl, rfl, rfl⟩

/-- Only a waiting call is resolved. -/
theorem resolve_cases (lengths : s.callers.length = s.script.calls.length) (n : Nat)
    (reply : Reply) : (s.resolve n reply).1 = s ∨
      ∃ h id c, s.Resolved n reply h id c (s.resolve n reply).1 := by
  by_cases hw : ∃ c, s.script.calls[n]? = some c ∧ c.status = .waiting
  · obtain ⟨c, hc, waiting⟩ := hw
    have hn : n < s.callers.length := lengths ▸ (List.getElem?_eq_some_iff.1 hc).1
    exact .inr ⟨_, _, c, resolved_of_waiting ⟨List.getElem?_eq_getElem hn, hc⟩ waiting reply⟩
  · have found : s.script.resolve n reply = (s.script, false) := by
      unfold Gateway.Script.resolve
      split
      · next hc => exact absurd ⟨_, hc, rfl⟩ hw
      · rfl
    simp only [resolve, found]
    exact .inl trivial

/-- The call itself has its reply now. -/
theorem Resolved.self (h : s.Resolved n reply handle id c s') :
    s'.Made handle id n { c with status := .resolved reply } := by
  refine ⟨h.callers ▸ h.made.1, ?_⟩
  rw [h.calls, List.getElem?_modify_eq, h.made.2]
  rfl

/-- A recorded call is as it was, or the one that is resolved. -/
theorem Resolved.same_or_self (h : s.Resolved n reply handle id c s') {k : Nat} {d : Gateway.Call}
    (hk : s.script.calls[k]? = some d) :
    (k = n ∧ d = c) ∨ s'.script.calls[k]? = some d := by
  by_cases hn : n = k
  · subst hn
    exact .inl ⟨rfl, Option.some.inj (hk.symm.trans h.made.2)⟩
  · right
    rw [h.calls, List.getElem?_modify_ne _ _ hn, hk]

theorem Resolved.mem_ready (h : s.Resolved n reply handle id c s') :
    .attempt handle id (.reply reply) ∈ s'.ready := by
  rw [h.ready]
  exact List.mem_append_right _ (List.mem_singleton_self _)

end Session

end ReactiveResource
