import ReactiveResource.Proofs.Resource.Passage
import ReactiveResource.Proofs.Session.Calls

/-!
# Nobody is forgotten

Whoever has begun a fetch and has not come to its end is going to hear of it: he stands in the
queue, or a call, a slot or a sleeper of his is open. Replies in the queue are those of the calls
that have been recorded.

* `Session.Summons`: what is going to give an attempt the signal that it waits for;
* `Session.Attending`: the invariant, while some effects of a resource have yet to be performed;
* `Session.Attended`, `Attended.step`: the invariant at rest, and that every step keeps it.
-/

namespace ReactiveResource

/-- An attempt in this phase goes on when it is given the signal. -/
def Phase.WaitsFor : Phase → Signal → Prop
  | .spawned, .go | .validating _, .verdict _ | .calling _, .reply _ | .delaying .., .elapsed =>
    True
  | _, _ => False

/-- The call is the one that belongs to the ticket. -/
def Gateway.Call.IsFor (c : Gateway.Call) (t : Ticket) : Prop :=
  c.method = t.method ∧ c.params = t.args

namespace LiveResource

theorem awaits_of_waitsFor {r : LiveResource} {id : Nat} {p : Phase} {signal : Signal}
    (phase : r.phase? id = some p) (h : p.WaitsFor signal) : r.Awaits id signal := by
  unfold Awaits
  rw [phase]
  cases p <;> cases signal <;> first | exact h | exact h.elim

end LiveResource

namespace Session

/-! ### The invariant -/

/-- What is going to give an attempt in a phase the signal that it waits for. The effects that are
owed have yet to be performed. -/
def Summons (s : Session) (h id : Nat) (owed : List Effect) : Phase → Prop
  | .spawned => .attempt h id .go ∈ s.ready
  | .validating _ =>
    (∃ slot : Nat, s.slots[slot]? = some (some (h, id))) ∨
      (∃ message, .attempt h id (.verdict message) ∈ s.ready) ∨ .ask id ∈ owed
  | .calling t =>
    (∃ n c, s.Made h id n c ∧ c.IsFor t ∧
      (c.status = .waiting ∨ ∃ reply, .attempt h id (.reply reply) ∈ s.ready)) ∨
      .call id t.method t.args ∈ owed
  | .delaying t reply =>
    (∃ n c, s.Made h id n c ∧ c.IsFor t ∧ c.status.reply? = some reply) ∧
      ((∃ sleeper ∈ s.sleepers, sleeper.handle = h ∧ sleeper.id = id) ∨
        .attempt h id .elapsed ∈ s.ready ∨ ∃ delay, .sleep id delay ∈ owed)
  | .queued _ | .finished _ => True

/-- Whoever waits is summoned, and replies in the queue are those of recorded calls, while some
effects of a resource have yet to be performed. -/
structure Attending (s : Session) (handle : Nat) (owed : List Effect) : Prop where
  orderly : s.Orderly
  lengths : s.callers.length = s.script.calls.length
  distinct : s.callers.Nodup
  called : ∀ h id, (h, id) ∈ s.callers →
    ∃ r p, s.resources[h]? = some r ∧ r.phase? id = some p ∧ p.HasCalled
  summons : ∀ h r id p, s.resources[h]? = some r → r.phase? id = some p →
    s.Summons h id (if h = handle then owed else []) p
  replies : ∀ h id reply, .attempt h id (.reply reply) ∈ s.ready →
    ∃ n c, s.Made h id n c ∧ c.status.reply? = some reply
  due : ∀ id ∈ owed.filterMap Effect.caller?, (handle, id) ∉ s.callers ∧
    ∃ r p, s.resources[handle]? = some r ∧ r.phase? id = some p ∧ p.HasCalled
  once : (owed.filterMap Effect.caller?).Nodup

/-- Whoever waits is summoned, and no effects are owed. -/
def Attended (s : Session) : Prop := ∀ handle, s.Attending handle []

section Attending

variable {s s' : Session} {handle : Nat} {owed owed' : List Effect}

theorem Attending.attended (h : s.Attending handle []) : s.Attended := by
  intro handle'
  refine ⟨h.orderly, h.lengths, h.distinct, h.called, fun i r id p hr hp => ?_, h.replies,
    List.forall_mem_nil _, .nil⟩
  have := h.summons i r id p hr hp
  rw [ite_self] at this ⊢
  exact this

theorem Attended.orderly (h : s.Attended) : s.Orderly := (h 0).orderly

/-- Whoever waits is summoned. -/
theorem Attended.summons (h : s.Attended) {i id : Nat} {r : LiveResource} {p : Phase}
    (hr : s.resources[i]? = some r) (phase : r.phase? id = some p) : s.Summons i id [] p := by
  have summons := (h i).summons i r id p hr phase
  rwa [if_pos rfl] at summons

/-- Who is summoned may be so in another way, as long as the resources and the calls stay. -/
theorem Attending.reassign (h : s.Attending handle owed) (resources : s'.resources = s.resources)
    (callers : s'.callers = s.callers) (calls : s'.script.calls = s.script.calls)
    (replies : ∀ h id reply, .attempt h id (.reply reply) ∈ s'.ready →
      .attempt h id (.reply reply) ∈ s.ready)
    (less : owed'.Sublist owed)
    (summons : ∀ h r id p, s.resources[h]? = some r → r.phase? id = some p →
      s.Summons h id (if h = handle then owed else []) p →
      s'.Summons h id (if h = handle then owed' else []) p) : s'.Attending handle owed' where
  orderly i r hr := h.orderly i r (resources ▸ hr)
  lengths := by rw [callers, calls, h.lengths]
  distinct := callers ▸ h.distinct
  called i id hi := by
    rw [callers] at hi
    rw [resources]
    exact h.called i id hi
  summons i r id p hr hp := by
    rw [resources] at hr
    exact summons i r id p hr hp (h.summons i r id p hr hp)
  replies i id reply hj := by
    obtain ⟨n, c, made, hc⟩ := h.replies i id reply (replies i id reply hj)
    exact ⟨n, c, ⟨callers ▸ made.1, calls ▸ made.2⟩, hc⟩
  due id hid := by
    rw [callers, resources]
    exact h.due id ((less.filterMap _).mem hid)
  once := h.once.sublist (less.filterMap _)

/-- Those who are going to give an attempt in a phase its signal still are, or have put it in the
queue. -/
structure Serving (s s' : Session) (h id : Nat) (p : Phase) : Prop where
  ready : ∀ signal, p.WaitsFor signal → .attempt h id signal ∈ s.ready →
    .attempt h id signal ∈ s'.ready
  slots : ∀ slot : Nat, s.slots[slot]? = some (some (h, id)) →
    (∃ slot : Nat, s'.slots[slot]? = some (some (h, id))) ∨
      ∃ message, .attempt h id (.verdict message) ∈ s'.ready
  sleepers : ∀ sleeper ∈ s.sleepers, sleeper.handle = h → sleeper.id = id →
    (∃ sleeper ∈ s'.sleepers, sleeper.handle = h ∧ sleeper.id = id) ∨
      .attempt h id .elapsed ∈ s'.ready
  calls : ∀ n c, s.Made h id n c → ∃ c', s'.Made h id n c' ∧
    c'.method = c.method ∧ c'.params = c.params ∧
    (∀ reply, c.status.reply? = some reply → c'.status.reply? = some reply) ∧
    (c.status = .waiting → c'.status = .waiting ∨
      ∃ reply, .attempt h id (.reply reply) ∈ s'.ready)

theorem Serving.of_le {h id : Nat} {p : Phase}
    (ready : ∀ signal, p.WaitsFor signal → .attempt h id signal ∈ s.ready →
      .attempt h id signal ∈ s'.ready)
    (slots : ∀ slot : Nat, s.slots[slot]? = some (some (h, id)) →
      s'.slots[slot]? = some (some (h, id)))
    (sleepers : ∀ sleeper ∈ s.sleepers, sleeper ∈ s'.sleepers)
    (made : ∀ n c, s.Made h id n c → s'.Made h id n c) : s.Serving s' h id p where
  ready := ready
  slots slot hs := .inl ⟨slot, slots slot hs⟩
  sleepers sleeper hs hh hid := .inl ⟨sleeper, sleepers sleeper hs, hh, hid⟩
  calls n c hm := ⟨c, made n c hm, rfl, rfl, fun _ h => h, .inl⟩

/-- A summons stays one while those who serve the attempt do so. -/
theorem Summons.mono {h id : Nat} {p : Phase} (hs : s.Summons h id owed p)
    (serving : s.Serving s' h id p) (owes : ∀ e ∈ owed, e.IsRequest → e ∈ owed') :
    s'.Summons h id owed' p := by
  cases p with
  | spawned => exact serving.ready _ trivial hs
  | queued => trivial
  | finished => trivial
  | validating t =>
    rcases hs with ⟨slot, hslot⟩ | ⟨message, hj⟩ | hask
    · exact (serving.slots slot hslot).imp_right .inl
    · exact .inr (.inl ⟨message, serving.ready _ trivial hj⟩)
    · exact .inr (.inr (owes _ hask trivial))
  | calling t =>
    rcases hs with ⟨n, c, hm, ⟨hmethod, hargs⟩, hc⟩ | hcall
    · obtain ⟨c', hm', method, params, -, waiting⟩ := serving.calls n c hm
      refine .inl ⟨n, c', hm', ⟨method.trans hmethod, params.trans hargs⟩, ?_⟩
      rcases hc with hc | ⟨reply, hj⟩
      · exact waiting hc
      · exact .inr ⟨reply, serving.ready _ trivial hj⟩
    · exact .inr (owes _ hcall trivial)
  | delaying t reply =>
    obtain ⟨⟨n, c, hm, ⟨hmethod, hargs⟩, hc⟩, hw⟩ := hs
    obtain ⟨c', hm', method, params, replied, -⟩ := serving.calls n c hm
    refine ⟨⟨n, c', hm', ⟨method.trans hmethod, params.trans hargs⟩, replied _ hc⟩, ?_⟩
    rcases hw with ⟨sleeper, hmem, hh, hid⟩ | hj | ⟨delay, hsleep⟩
    · exact (serving.sleepers sleeper hmem hh hid).imp_right .inl
    · exact .inr (.inl (serving.ready _ trivial hj))
    · exact .inr (.inr ⟨delay, owes _ hsleep trivial⟩)

/-- Operations that let no attempt move. -/
theorem Attending.beside (h : s.Attending handle owed) (hb : s.Beside s') :
    s'.Attending handle owed where
  orderly := hb.evolves.orderly h.orderly
  lengths := by rw [hb.callers, hb.calls, h.lengths]
  distinct := hb.callers ▸ h.distinct
  called i id hi := by
    rw [hb.callers] at hi
    obtain ⟨r, p, hr, hp, hc⟩ := h.called i id hi
    obtain ⟨actions, ha, hr'⟩ := hb.evolves.old hr
    exact ⟨_, p, hr', LiveResource.phase?_after_external ha hp, hc⟩
  summons i r' id p hr' hp := by
    -- the attempt is as it was, or new and in the queue
    have before : (∃ r, s.resources[i]? = some r ∧ r.phase? id = some p) ∨ p = .spawned := by
      cases hr : s.resources[i]? with
      | none =>
        obtain ⟨name, config, actions, ha, rfl⟩ := hb.evolves.new hr' hr
        exact .inr ((LiveResource.of_phase?_after_external ha hp).resolve_left nofun).2
      | some r =>
        obtain ⟨actions, ha, hr''⟩ := hb.evolves.old hr
        cases hr'.symm.trans hr''
        exact (LiveResource.of_phase?_after_external ha hp).imp (fun hp => ⟨r, rfl, hp⟩) (·.2)
    have kept (hold : ∃ r, s.resources[i]? = some r ∧ r.phase? id = some p) :
        s'.Summons i id (if i = handle then owed else []) p := by
      obtain ⟨r, hr, hp⟩ := hold
      exact (h.summons i r id p hr hp).mono
        (.of_le (fun _ _ => hb.ready _) (fun _ hs => hb.slots ▸ hs) (fun _ hs => hb.sleepers ▸ hs)
          fun _ _ hm => ⟨hb.callers ▸ hm.1, hb.calls ▸ hm.2⟩)
        fun _ he _ => he
    rcases before with hold | rfl
    · exact kept hold
    · exact (hb.spawned i r' id hr' hp).elim (fun go => go) fun hold => kept hold
  replies i id reply hj := by
    obtain ⟨n, c, made, hc⟩ := h.replies i id reply (hb.replies i id reply hj)
    exact ⟨n, c, ⟨hb.callers ▸ made.1, hb.calls ▸ made.2⟩, hc⟩
  due id hid := by
    rw [hb.callers]
    obtain ⟨out, r, p, hr, hp, hc⟩ := h.due id hid
    obtain ⟨actions, ha, hr'⟩ := hb.evolves.old hr
    exact ⟨out, _, p, hr', LiveResource.phase?_after_external ha hp, hc⟩
  once := h.once

/-! ### Effects are performed -/

/-- The effect is what an attempt in a phase waits for. -/
inductive Serves (id : Nat) : Effect → Phase → Prop
  | ask {t : Ticket} : Serves id (.ask id) (.validating t)
  | call {t : Ticket} : Serves id (.call id t.method t.args) (.calling t)
  | sleep {t : Ticket} {reply : Reply} {delay : Duration} :
      Serves id (.sleep id delay) (.delaying t reply)

/-- An effect that is performed need no longer be owed, but to those whom it serves. -/
theorem Summons.pay {i j : Nat} {e : Effect} {p : Phase}
    (hs : s.Summons i j (if i = handle then e :: owed else []) p)
    (out : ¬ (i = handle ∧ Serves j e p)) :
    s.Summons i j (if i = handle then owed else []) p := by
  by_cases hi : i = handle
  · rw [if_pos hi] at hs ⊢
    have other (hserves : Serves j e p) : False := out ⟨hi, hserves⟩
    cases p with
    | spawned => exact hs
    | queued => trivial
    | finished => trivial
    | validating t =>
      refine hs.imp_right (Or.imp_right fun hask => ?_)
      rcases List.mem_cons.1 hask with rfl | hask
      · exact (other .ask).elim
      · exact hask
    | calling t =>
      refine hs.imp_right fun hcall => ?_
      rcases List.mem_cons.1 hcall with rfl | hcall
      · exact (other .call).elim
      · exact hcall
    | delaying t reply =>
      refine ⟨hs.1, hs.2.imp_right (Or.imp_right fun ⟨delay, hsleep⟩ => ⟨delay, ?_⟩)⟩
      rcases List.mem_cons.1 hsleep with rfl | hsleep
      · exact (other .sleep).elim
      · exact hsleep
  · rwa [if_neg hi] at hs ⊢

/-- An effect that asks for nothing need not be owed. -/
theorem Attending.drop {e : Effect} (h : s.Attending handle (e :: owed)) (he : ¬ e.IsRequest) :
    s.Attending handle owed :=
  h.reassign rfl rfl rfl (fun _ _ _ hj => hj) (List.sublist_cons_self e owed)
    fun _ _ _ _ _ _ hs => hs.pay fun ⟨_, serves⟩ => he (by cases serves <;> trivial)

/-- A slot is opened. -/
theorem Attending.ask {id : Nat} (h : s.Attending handle (.ask id :: owed)) :
    (perform handle s (.ask id)).Attending handle owed := by
  refine h.reassign rfl rfl rfl (fun _ _ _ hj => hj) (List.sublist_cons_self _ owed)
    fun i r j p _ _ hs => ?_
  by_cases serves : i = handle ∧ Serves j (.ask id) p
  · obtain ⟨rfl, ⟨⟩⟩ := serves
    exact .inl ⟨s.slots.length, List.getElem?_concat_length⟩
  · refine (hs.pay serves).mono
      (.of_le (fun _ _ hj => hj) (fun slot hslot => ?_) (fun _ hs => hs) fun _ _ hm => hm)
      fun _ he _ => he
    exact getElem?_append_of_some hslot _

/-- A delay begins. -/
theorem Attending.sleep {id : Nat} {delay : Duration}
    (h : s.Attending handle (.sleep id delay :: owed)) :
    (perform handle s (.sleep id delay)).Attending handle owed := by
  refine h.reassign rfl rfl rfl (fun _ _ _ hj => hj) (List.sublist_cons_self _ owed)
    fun i r j p _ _ hs => ?_
  by_cases serves : i = handle ∧ Serves j (.sleep id delay) p
  · obtain ⟨rfl, ⟨⟩⟩ := serves
    exact ⟨hs.1, .inl ⟨_, List.mem_append_right _ (List.mem_singleton_self _), rfl, rfl⟩⟩
  · exact (hs.pay serves).mono
      (.of_le (fun _ _ hj => hj) (fun _ hs => hs) (fun _ hs => List.mem_append_left _ hs)
        fun _ _ hm => hm)
      fun _ he _ => he

/-- A call is made. -/
theorem Attending.call {id : Nat} {method : String} {args : Json}
    (h : s.Attending handle (.call id method args :: owed)) :
    (perform handle s (.call id method args)).Attending handle owed := by
  obtain ⟨c, rfl, rfl, called⟩ := called_perform s handle id method args
  generalize perform handle s _ = s' at called
  obtain ⟨out, caller⟩ := h.due id (by simp [Effect.caller?])
  have once := h.once
  rw [List.filterMap_cons] at once
  obtain ⟨apart, once⟩ := List.nodup_cons.1 once
  have self := called.self h.lengths
  exact
    { orderly := fun i r hr => h.orderly i r (called.resources ▸ hr)
      lengths := by simp [called.callers, called.calls, h.lengths]
      distinct := by
        rw [called.callers]
        exact List.nodup_append.2 ⟨h.distinct, by simp, fun x hx y hy e =>
          out (List.mem_singleton.1 hy ▸ e ▸ hx)⟩
      called := by
        intro i j hij
        rw [called.callers, List.mem_append, List.mem_singleton] at hij
        rw [called.resources]
        rcases hij with hij | hij
        · exact h.called i j hij
        · cases hij
          exact caller
      summons := by
        intro i r j p hr hp
        rw [called.resources] at hr
        have hs := h.summons i r j p hr hp
        by_cases serves : i = handle ∧ Serves j (.call id c.method c.params) p
        · obtain ⟨rfl, hserves⟩ := serves
          generalize hm : c.method = m, hq : c.params = q at hserves
          cases hserves with
          | call => exact .inl ⟨_, c, self, ⟨hm, hq⟩, called.served⟩
        · exact (hs.pay serves).mono
            (.of_le (fun _ _ => called.mem_ready) (fun _ hs => called.slots ▸ hs)
              (fun _ hs => called.sleepers ▸ hs) fun _ _ => called.made)
            fun _ he _ => he
      replies := by
        intro i j reply hj
        rcases called.new_reply hj with hj | ⟨rfl, rfl, hc⟩
        · obtain ⟨n, d, hm, hd⟩ := h.replies i j reply hj
          exact ⟨n, d, called.made hm, hd⟩
        · exact ⟨_, c, self, hc⟩
      due := by
        intro j hj
        obtain ⟨out', caller'⟩ := h.due j (List.mem_cons_of_mem _ hj)
        rw [called.callers, called.resources]
        refine ⟨fun hmem => ?_, caller'⟩
        -- no attempt is owed two calls
        rcases List.mem_append.1 hmem with hmem | hmem
        · exact out' hmem
        · cases List.mem_singleton.1 hmem
          exact apart hj
      once := once }

/-- What one effect preserves. -/
theorem Attending.perform {e : Effect} (h : s.Attending handle (e :: owed)) :
    (perform handle s e).Attending handle owed := by
  have other (he : ¬ e.IsRequest) : (Session.perform handle s e).Attending handle owed :=
    (h.drop he).beside (beside_perform handle s he)
  cases e with
  | ask id => exact h.ask
  | call id method args => exact h.call
  | sleep id delay => exact h.sleep
  | _ => exact other not_false

/-- All effects that are owed are performed. -/
theorem Attending.performAll {effects : List Effect} (h : s.Attending handle (deeds effects)) :
    (effects.foldl (Session.perform handle) s).Attending handle [] := by
  induction effects generalizing s with
  | nil => exact h
  | cons e rest ih =>
    rw [deeds_cons] at h
    cases he : e.isNote with
    | true =>
      rw [he] at h
      exact ih (h.beside (beside_perform handle s (Effect.not_isRequest_of_isNote he)))
    | false =>
      rw [he] at h
      exact ih h.perform

/-! ### What happens outside -/

/-- Whoever waits for the reply to a call that is resolved finds it in the queue. -/
theorem Resolved.serving {n i₀ j₀ : Nat} {reply : Reply} {c : Gateway.Call}
    (h : s.Resolved n reply i₀ j₀ c s') (i j : Nat) (p : Phase) : s.Serving s' i j p where
  ready _ _ hj := h.ready ▸ List.mem_append_left _ hj
  slots slot hslot := .inl ⟨slot, h.slots ▸ hslot⟩
  sleepers sleeper hmem hh hid := .inl ⟨sleeper, h.sleepers ▸ hmem, hh, hid⟩
  calls k d hm := by
    rcases h.same_or_self hm.2 with ⟨rfl, rfl⟩ | hk
    · cases h.made.1.symm.trans hm.1
      refine ⟨_, h.self, rfl, rfl, fun r hr => ?_, fun _ => .inr ⟨reply, h.mem_ready⟩⟩
      rw [h.waiting] at hr
      cases hr
    · exact ⟨d, ⟨h.callers ▸ hm.1, hk⟩, rfl, rfl, fun _ h => h, .inl⟩

theorem Attending.resolve (h : s.Attending handle owed) (n : Nat) (reply : Reply) :
    (s.resolve n reply).1.Attending handle owed := by
  rcases resolve_cases h.lengths n reply with same | ⟨i₀, j₀, c, resolved⟩
  · rwa [same]
  generalize (s.resolve n reply).1 = s' at resolved ⊢
  exact
    { orderly := fun i r hr => h.orderly i r (resolved.resources ▸ hr)
      lengths := by rw [resolved.callers, resolved.calls, List.length_modify, h.lengths]
      distinct := resolved.callers ▸ h.distinct
      called := by rw [resolved.callers, resolved.resources]; exact h.called
      summons := by
        intro i r j p hr hp
        rw [resolved.resources] at hr
        exact (h.summons i r j p hr hp).mono (resolved.serving i j p) fun _ he _ => he
      replies := by
        intro i j r' hj
        rw [resolved.ready, List.mem_append, List.mem_singleton] at hj
        rcases hj with hj | hj
        · obtain ⟨k, d, hm, hd⟩ := h.replies i j r' hj
          obtain ⟨d', hm', -, -, replied, -⟩ := (resolved.serving i j .spawned).calls k d hm
          exact ⟨k, d', hm', replied r' hd⟩
        · cases hj
          exact ⟨n, _, resolved.self, rfl⟩
      due := by rw [resolved.callers, resolved.resources]; exact h.due
      once := h.once }

/-- The verdict of a slot is given, and stands in the queue. -/
theorem Attending.release (h : s.Attending handle owed) (slot : Nat) (message : Option String) :
    (s.release slot message).1.Attending handle owed := by
  rw [Session.release]
  split
  · next i₀ j₀ hslot =>
    refine h.reassign rfl rfl rfl ?_ (.refl owed) fun i r j p _ _ hs =>
      hs.mono ?_ fun _ he _ => he
    · intro i j reply hj
      rcases List.mem_append.1 hj with hj | hj
      · exact hj
      · cases List.mem_singleton.1 hj
    · refine
        { ready := fun _ _ hj => List.mem_append_left _ hj
          slots := fun k hk => ?_
          sleepers := fun sleeper hmem hh hid => .inl ⟨sleeper, hmem, hh, hid⟩
          calls := fun n c hm => ⟨c, hm, rfl, rfl, fun _ h => h, .inl⟩ }
      by_cases hne : slot = k
      · subst hne
        cases hslot.symm.trans hk
        exact .inr ⟨message, List.mem_append_right _ (List.mem_singleton_self _)⟩
      · exact .inl ⟨k, (List.getElem?_set_ne hne).trans hk⟩
  · exact h

/-- Time moves on: those whose instant has come stand in the queue. -/
theorem Attending.elapse (h : s.Attending handle owed) (ms : Nat) :
    (s.elapse ms).Attending handle owed := by
  refine h.reassign rfl rfl rfl ?_ (.refl owed) fun i r j p _ _ hs =>
    hs.mono ?_ fun _ he _ => he
  · intro i j reply hj
    rcases List.mem_append.1 hj with hj | hj
    · exact hj
    · obtain ⟨sleeper, -, e⟩ := List.mem_map.1 hj
      cases e
  · refine
      { ready := fun _ _ hj => List.mem_append_left _ hj
        slots := fun slot hslot => .inl ⟨slot, hslot⟩
        sleepers := ?_
        calls := fun n c hm => ⟨c, hm, rfl, rfl, fun _ h => h, .inl⟩ }
    rintro sleeper hmem rfl rfl
    by_cases hdue : sleeper.due ≤ s.now + ms
    · refine .inr (List.mem_append_right _ (List.mem_map.2 ⟨sleeper, ?_, rfl⟩))
      exact List.mem_mergeSort.2 (List.mem_filter.2 ⟨hmem, by simpa using hdue⟩)
    · exact .inl ⟨sleeper, List.mem_filter.2 ⟨hmem, by simpa using hdue⟩, rfl, rfl⟩

/-! ### Somebody runs -/

theorem mem_eraseIdx_of_ne {β : Type} {xs : List β} {place : Nat} {x y : β}
    (hx : xs[place]? = some x) (hy : y ∈ xs) (hne : y ≠ x) : y ∈ xs.eraseIdx place := by
  obtain ⟨n, hn⟩ := List.mem_iff_getElem?.1 hy
  refine List.mem_eraseIdx_iff_getElem?.2 ⟨n, ?_, hn⟩
  rintro rfl
  exact hne (Option.some.inj (hn.symm.trans hx))

/-- A reply in the queue is that of the attempt's own call. -/
theorem Attending.replied (h : s.Attending handle owed) {i id : Nat} {t : Ticket} {reply : Reply}
    (summons : s.Summons i id [] (.calling t)) (hj : .attempt i id (.reply reply) ∈ s.ready) :
    ∃ n c, s.Made i id n c ∧ c.IsFor t ∧ c.status.reply? = some reply := by
  obtain ⟨n, c, made, isFor, -⟩ := summons.resolve_right nofun
  obtain ⟨n', c', made', hc'⟩ := h.replies i id reply hj
  have hn : n = n' :=
    (List.getElem?_inj (List.getElem?_eq_some_iff.1 made.1).1 h.distinct).1
      (made.1.trans made'.1.symm)
  subst hn
  cases made.2.symm.trans made'.2
  exact ⟨n, c, made, isFor, hc'⟩

/-- An attempt has been taken out of the queue with its signal, and its resource has been replaced;
all else is as it was. -/
structure Replaced (s s' : Session) (i id : Nat) (signal : Signal) (r' : LiveResource) : Prop where
  orderly : s'.Orderly
  callers : s'.callers = s.callers
  calls : s'.script.calls = s.script.calls
  slots : s'.slots = s.slots
  sleepers : s'.sleepers = s.sleepers
  stored : s'.resources = s.resources.set i r'
  kept : ∀ j k sig, .attempt j k sig ∈ s.ready → Job.attempt j k sig ≠ .attempt i id signal →
    .attempt j k sig ∈ s'.ready
  replies : ∀ j k reply, .attempt j k (.reply reply) ∈ s'.ready →
    .attempt j k (.reply reply) ∈ s.ready

theorem Orderly.replaced (h : s.Orderly) {place i id : Nat} {signal : Signal} {r : LiveResource}
    (job : s.ready[place]? = some (.attempt i id signal)) (hr : s.resources[i]? = some r)
    (m : Moment) :
    Replaced s ({ s with ready := s.ready.eraseIdx place }.store i (r.advance m id signal).1) i id
      signal (r.advance m id signal).1 := by
  have stored : Evolves (fun _ => True) { s with ready := s.ready.eraseIdx place } _ :=
    .store (s := { s with ready := s.ready.eraseIdx place }) (a := .advance m id signal) hr trivial
  refine ⟨stored.orderly h, by simp, by simp, by simp, by simp, by simp, ?_, ?_⟩
  · exact fun j k sig hj hne => mem_ready_store _ i _ (mem_eraseIdx_of_ne job hj hne)
  · exact fun j k reply hj => List.mem_of_mem_eraseIdx (attempt_mem_ready_store _ i _ hj)

section Replaced

variable {i id : Nat} {signal : Signal} {r r' : LiveResource}

theorem Replaced.made (h : Replaced s s' i id signal r') {j k n : Nat} {c : Gateway.Call}
    (made : s.Made j k n c) : s'.Made j k n c := ⟨h.callers ▸ made.1, h.calls ▸ made.2⟩

theorem Replaced.self (h : Replaced s s' i id signal r') (hr : s.resources[i]? = some r) :
    s'.resources[i]? = some r' := by
  rw [h.stored, List.getElem?_set_self (List.getElem?_eq_some_iff.1 hr).1]

theorem Replaced.others (h : Replaced s s' i id signal r') {j : Nat} (hj : j ≠ i) :
    s'.resources[j]? = s.resources[j]? := by
  rw [h.stored, List.getElem?_set_ne (Ne.symm hj)]

/-- An attempt whose phase has not changed is served as before. -/
theorem Replaced.summons (h : Replaced s s' i id signal r') {j k : Nat} {p : Phase}
    (hs : s.Summons j k [] p)
    (other : ∀ sig, p.WaitsFor sig → Job.attempt j k sig ≠ .attempt i id signal)
    (owed : List Effect) : s'.Summons j k owed p :=
  hs.mono (.of_le (fun sig hw hj => h.kept j k sig hj (other sig hw)) (fun _ hs => h.slots ▸ hs)
    (fun _ hs => h.sleepers ▸ hs) fun _ _ => h.made) nofun

/-- The attempt does not wait for the signal. -/
theorem Attended.still (h : s.Attended) (hr : s.resources[i]? = some r)
    (replaced : Replaced s s' i id signal r) (idle : ¬ r.Awaits id signal) :
    s'.Attending i [] := by
  have resources : s'.resources = s.resources := by
    refine List.ext_getElem? fun j => ?_
    by_cases hj : j = i
    · rw [hj, replaced.self hr, hr]
    · exact replaced.others hj
  refine (h i).reassign resources replaced.callers replaced.calls replaced.replies (.refl [])
    fun j x k p hx hp hs => ?_
  rw [ite_self] at hs
  refine replaced.summons hs (fun sig hw e => ?_) _
  cases e
  cases hr.symm.trans hx
  exact idle (LiveResource.awaits_of_waitsFor hp hw)

/-- What the attempt waits for in its new phase is owed or on its way, and others are served as
before. -/
theorem Attended.summons_of_passage (h : s.Attended) (job : .attempt i id signal ∈ s.ready)
    (hr : s.resources[i]? = some r) (replaced : Replaced s s' i id signal r') {q p : Phase}
    {effects : List Effect} (phase : r.phase? id = some q)
    (attempts : r'.attempts = (r.setPhase id p).attempts)
    (passage : LiveResource.Passage id signal effects q p) {j k : Nat} {x : LiveResource}
    {p' : Phase} (hx : s'.resources[j]? = some x) (hp' : x.phase? k = some p') :
    s'.Summons j k (if j = i then effects else []) p' := by
  by_cases hj : j = i
  · subst hj
    cases (replaced.self hr).symm.trans hx
    rw [if_pos rfl]
    rw [LiveResource.phase?_of_setPhase attempts phase] at hp'
    split at hp'
    · next hk =>
      cases hp'
      subst hk
      cases passage with
      | ends | queues => trivial
      | asks _ asked => exact .inr (.inr (by simp [asked]))
      | calls _ called => exact .inr (by simp [called])
      | @rests t reply delay replied slept =>
        -- while it rests the call that it has made keeps its reply
        subst replied
        obtain ⟨n, c, made, isFor, hc⟩ := (h j).replied (h.summons hr phase) job
        exact ⟨⟨n, c, replaced.made made, isFor, hc⟩, .inr (.inr ⟨delay, by simp [slept]⟩)⟩
    · next hk => exact replaced.summons (h.summons hr hp') (fun sig _ e => hk (by cases e; rfl)) _
  · rw [replaced.others hj] at hx
    exact replaced.summons (h.summons hx hp') (fun sig _ e => hj (by cases e; rfl)) _

/-- The attempt goes on to another phase. -/
theorem Attended.passes (h : s.Attended) (job : .attempt i id signal ∈ s.ready)
    (hr : s.resources[i]? = some r) (replaced : Replaced s s' i id signal r') {q p : Phase}
    {effects : List Effect} (phase : r.phase? id = some q)
    (attempts : r'.attempts = (r.setPhase id p).attempts)
    (passage : LiveResource.Passage id signal effects q p) : s'.Attending i effects := by
  have phases (k : Nat) := LiveResource.phase?_of_setPhase attempts phase k
  have uncalled (before : ¬ q.HasCalled) : (i, id) ∉ s.callers := fun hmem => by
    obtain ⟨x, p', hx, hp', called⟩ := (h i).called i id hmem
    cases hr.symm.trans hx
    cases phase.symm.trans hp'
    exact before called
  refine
    { orderly := replaced.orderly
      lengths := by rw [replaced.callers, replaced.calls, (h i).lengths]
      distinct := replaced.callers ▸ (h i).distinct
      called := fun j k hjk => ?_
      summons := fun j x k p' => h.summons_of_passage job hr replaced phase attempts passage
      replies := fun j k reply hj => ?_
      due := fun k hk => ?_
      once := ?_ }
  · rw [replaced.callers] at hjk
    obtain ⟨x, p', hx, hp', called⟩ := (h i).called j k hjk
    by_cases hj : j = i
    · subst hj
      cases hr.symm.trans hx
      by_cases hk : k = id
      · subst hk
        cases phase.symm.trans hp'
        exact ⟨r', p, replaced.self hr, by rw [phases, if_pos rfl], passage.hasCalled called⟩
      · exact ⟨r', p', replaced.self hr, by rw [phases, if_neg hk, hp'], called⟩
    · exact ⟨x, p', (replaced.others hj).trans hx, hp', called⟩
  · obtain ⟨n, c, made, hc⟩ := (h i).replies j k reply (replaced.replies j k reply hj)
    exact ⟨n, c, replaced.made made, hc⟩
  · -- a call is owed to the attempt that has moved only, and it has made none before
    rcases passage.caller with silent | ⟨caller, before, now⟩
    · rw [silent] at hk
      cases hk
    · rw [caller] at hk
      cases List.mem_singleton.1 hk
      rw [replaced.callers]
      exact ⟨uncalled before, r', p, replaced.self hr, by rw [phases, if_pos rfl], now⟩
  · rcases passage.caller with silent | ⟨caller, -⟩
    · rw [silent]
      exact .nil
    · rw [caller]
      exact List.nodup_cons.2 ⟨nofun, .nil⟩

end Replaced

/-- An attempt has been given its signal, and its effects are owed. -/
theorem Attended.advance (h : s.Attended) {place i id : Nat} {signal : Signal} {r : LiveResource}
    (job : s.ready[place]? = some (.attempt i id signal)) (hr : s.resources[i]? = some r)
    (m : Moment) :
    ({ s with ready := s.ready.eraseIdx place }.store i (r.advance m id signal).1).Attending i
      (deeds (r.advance m id signal).2) := by
  have replaced := h.orderly.replaced job hr m
  have move := h.orderly.move hr m id signal
  generalize (r.advance m id signal).1 = r', deeds (r.advance m id signal).2 = effects
    at replaced move ⊢
  rcases move.passage with ⟨rfl, rfl, idle⟩ | ⟨q, p, phase, attempts, passage⟩
  · exact h.still hr replaced idle
  · exact h.passes (List.mem_of_getElem? job) hr replaced phase attempts passage

theorem Attended.turn (h : s.Attended) (place : Nat) : (s.turn place).Attended := by
  cases turns s place with
  | nobody left =>
    rw [left]
    exact h
  | waiter job left =>
    rw [left]
    refine Attending.attended ((h 0).reassign rfl rfl rfl
      (fun _ _ _ hj => List.mem_of_mem_eraseIdx hj) (.refl []) fun i r j p _ _ hs => hs.mono
        (.of_le (fun _ _ hj => ?_) (fun _ hs => hs) (fun _ hs => hs) fun _ _ hm => hm)
        fun _ he _ => he)
    exact mem_eraseIdx_of_ne job hj (by simp)
  | stray job absent left =>
    -- there is no such resource, and nobody of it can have waited
    rw [left]
    refine Attending.attended ((h 0).reassign rfl rfl rfl
      (fun _ _ _ hj => List.mem_of_mem_eraseIdx hj) (.refl []) fun j r k p hr _ hs => hs.mono
        (.of_le (fun _ _ hj => ?_) (fun _ hs => hs) (fun _ hs => hs) fun _ _ hm => hm)
        fun _ he _ => he)
    refine mem_eraseIdx_of_ne job hj fun e => ?_
    cases e
    cases absent.symm.trans hr
  | attempt job there left =>
    rw [left]
    exact (h.advance job there s.moment).performAll.attended

/-- What operations that let no attempt move preserve. -/
theorem Attended.beside (h : s.Attended) (hb : s.Beside s') : s'.Attended :=
  fun handle => (h handle).beside hb

/-- **Nobody is forgotten in a step.** -/
theorem Attended.step (h : s.Attended) (step : Step) : (s.step step).Attended := by
  by_cases passive : step.Passive
  · cases step with
    | turn place => exact h.turn place
    | resolve call reply => exact fun handle => (h handle).resolve call reply
    | release slot message => exact fun handle => (h handle).release slot message
    | elapse ms => exact fun handle => (h handle).elapse ms
    | setGate gate isOpen => exact h.beside (.of_eq rfl rfl rfl rfl rfl rfl rfl)
    | push reply => exact h.beside (.of_eq rfl rfl rfl rfl rfl rfl rfl)
    | await handle state => exact h.beside (beside_await s handle state)
    | _ => exact passive.elim
  · exact h.beside (spans_beside.step s passive)

/-- Nothing has happened in the session yet. -/
structure Vacant (s : Session) : Prop where
  resources : s.resources = []
  ready : s.ready = []
  calls : s.script.calls = []
  callers : s.callers = []

theorem Vacant.attended (h : s.Vacant) : s.Attended := by
  intro handle
  refine ⟨?_, by rw [h.callers, h.calls]; rfl, h.callers ▸ .nil, ?_, ?_, ?_,
    List.forall_mem_nil _, .nil⟩
  · intro i r hr
    rw [h.resources] at hr
    cases hr
  · intro i id hi
    rw [h.callers] at hi
    cases hi
  · intro i r id p hr
    rw [h.resources] at hr
    cases hr
  · intro i id reply hj
    rw [h.ready] at hj
    cases hj

end Attending

end Session

end ReactiveResource
