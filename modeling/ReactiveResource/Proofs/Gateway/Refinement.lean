import ReactiveResource.Proofs.Gateway.Delivery

/-!
# Scripts and their tables

A script says of every call whether it has been answered, waits or has been resolved. This is what a
switchboard comes to while no caller gives up: every operation on the tables is the operation on the
script, with the same result.

* `Switchboard.script`: the script that the tables keep;
* `Wired.answer?_script`: callers hear the same from both;
* `Wired.script_call`, `Wired.script_resolve`, `Wired.script_abandon`: the operations;
* `Script.after`, `script_after`, `answer?_script_after`: whole histories;
* `replied_after_abandon`: what callers hear when the gateway is lost.
-/

namespace ReactiveResource.Gateway

/-- Whether a call has its reply, by what its caller holds. -/
def Receipt.status (lines : List Line) : Receipt → CallStatus
  | .reply r => .answered r
  | .line number => (lines[number]?.bind Line.reply?).elim .waiting .resolved

theorem Receipt.reply?_status (lines : List Line) (r : Receipt) :
    (r.status lines).reply? = r.reply? lines := by
  cases r with
  | reply r => rfl
  | line number =>
    rw [status, reply?]
    cases lines[number]?.bind Line.reply? <;> rfl

/-- What becomes of the status of a call when nobody can resolve it any more. -/
def CallStatus.abandoned : CallStatus → CallStatus
  | .waiting => .resolved Script.dropped
  | status => status

namespace Switchboard

/-- The script that the tables keep. -/
def script (s : Switchboard) : Script :=
  { responder := s.responder
    queued := s.queued
    calls := s.calls.zipWith (fun c r => ⟨c.method, c.params, r.status s.lines⟩) s.receipts }

variable {s : Switchboard} {method : String} {params : Json} {reply : Reply} {n k : Nat}

theorem getElem?_calls_script (s : Switchboard) (k : Nat) :
    s.script.calls[k]? = s.receipts[k]?.bind fun r => s.calls[k]?.map fun c =>
      ⟨c.method, c.params, r.status s.lines⟩ := by
  rw [script, List.getElem?_zipWith]
  cases s.calls[k]? <;> cases s.receipts[k]? <;> rfl

/-- There is a call for every receipt. -/
theorem Wired.exists_call (wired : s.Wired) {r : Receipt} (held : s.receipts[k]? = some r) :
    ∃ c, s.calls[k]? = some c := by
  obtain ⟨lt, -⟩ := List.getElem?_eq_some_iff.1 held
  rw [wired.receipts] at lt
  exact ⟨_, List.getElem?_eq_getElem lt⟩

/-- There is a line where a receipt says so. -/
theorem Wired.exists_line (wired : s.Wired) {line : Nat}
    (held : s.receipts[k]? = some (.line line)) : ∃ l, s.lines[line]? = some l :=
  ⟨_, List.getElem?_eq_getElem (wired.inside k line held)⟩

theorem Wired.answer?_script (wired : s.Wired) (k : Nat) : s.script.answer? k = s.answer? k := by
  rw [Script.answer?, answer?, getElem?_calls_script]
  cases held : s.receipts[k]? with
  | none => rfl
  | some r =>
    obtain ⟨c, made⟩ := wired.exists_call held
    simp [made, Receipt.reply?_status]

/-- A caller waits while its call has the status of one that waits. -/
theorem Wired.waits_iff_status (wired : s.Wired) (present : Line.hungUp ∉ s.lines) :
    s.Waits k ↔ ∃ r, s.receipts[k]? = some r ∧ r.status s.lines = .waiting := by
  constructor
  · rintro ⟨line, held, waiting⟩
    exact ⟨_, held, by simp [Receipt.status, waiting, Line.reply?]⟩
  · rintro ⟨r, held, status⟩
    cases r with
    | reply r => cases status
    | line line =>
      obtain ⟨l, there⟩ := wired.exists_line held
      rw [Receipt.status, there] at status
      cases l with
      | waiting => exact ⟨line, held, there⟩
      | hungUp => exact absurd (List.mem_of_getElem? there) present
      | _ => cases status

/-! ### The operations -/

/-- The script is a matter of what the receipts come to. -/
theorem zipWith_status (calls : List RecordedCall) {receipts : List Receipt}
    {f g : Receipt → CallStatus} (same : ∀ r ∈ receipts, f r = g r) :
    calls.zipWith (fun c r => (⟨c.method, c.params, f r⟩ : Call)) receipts
      = calls.zipWith (fun c r => ⟨c.method, c.params, g r⟩) receipts := by
  induction calls generalizing receipts with
  | nil => rfl
  | cons c calls ih =>
    cases receipts with
    | nil => rfl
    | cons r receipts =>
      rw [List.forall_mem_cons] at same
      rw [List.zipWith_cons_cons, List.zipWith_cons_cons, same.1, ih same.2]

theorem script_push (s : Switchboard) (reply : Reply) :
    (s.push reply).script = s.script.push reply := rfl

theorem nextStatus_script (s : Switchboard) (method : String) (params : Json) :
    s.script.nextStatus method params
      = (s.immediate? method params).elim .waiting .answered := by
  obtain ⟨responder, queued⟩ := s
  cases queued <;> cases responder <;> rfl

theorem Wired.script_call (wired : s.Wired) (method : String) (params : Json) :
    (s.call method params).script = s.script.call method params := by
  have length := wired.receipts.symm
  rw [Script.call, nextStatus_script]
  cases now : s.immediate? method params with
  | some reply =>
    rw [call_of_immediate now]
    simp [script, List.zipWith_append length, Receipt.status]
  | none =>
    rw [call_of_deferred now]
    -- the new line is not one of those that are held already
    have same : ∀ r ∈ s.receipts, r.status (s.lines ++ [.waiting]) = r.status s.lines := by
      intro r mem
      obtain ⟨k, held⟩ := List.mem_iff_getElem?.1 mem
      cases r with
      | reply r => rfl
      | line line =>
        rw [Receipt.status, Receipt.status, List.getElem?_append_left (wired.inside k line held)]
    simp only [script, List.zipWith_append length, zipWith_status s.calls same]
    simp [Receipt.status, Line.reply?]

theorem Wired.script_resolve (wired : s.Wired) (present : Line.hungUp ∉ s.lines) (n : Nat)
    (reply : Reply) :
    s.script.resolve n reply = ((s.resolve n reply).1.script, (s.resolve n reply).2) := by
  rcases wired.resolve_cases n reply with ⟨line, held, waiting, result⟩ | ⟨idle, slots, result, -⟩
  · obtain ⟨c, made⟩ := wired.exists_call held
    have status : s.script.calls[n]? = some ⟨c.method, c.params, .waiting⟩ := by
      simp [getElem?_calls_script, held, made, Receipt.status, waiting, Line.reply?]
    have calls : s.script.calls.modify n (fun c => { c with status := .resolved reply })
        = (s.resolve n reply).1.script.calls := by
      refine List.ext_getElem? fun k => ?_
      rw [List.getElem?_modify, getElem?_calls_script, getElem?_calls_script, result]
      by_cases same : n = k
      · subst same
        simp [held, made, Receipt.status, wired.inside n line held, Line.reply?]
      · simp only [same, if_false, Option.map_eq_map, Option.map_id']
        refine Option.bind_congr fun r there => ?_
        cases r with
        | reply r => rfl
        | line line' =>
          have apart : line ≠ line' := by
            rintro rfl
            exact same (wired.apart n k line held there)
          rw [Receipt.status, Receipt.status, List.getElem?_set_ne apart]
    rw [Script.resolve, status]
    simp only [calls]
    rw [result]
    rfl
  · have status : ∀ method params, s.script.calls[n]? ≠ some ⟨method, params, .waiting⟩ := by
      intro method params there
      simp only [getElem?_calls_script, Option.bind_eq_some_iff, Option.map_eq_some_iff,
        Call.mk.injEq] at there
      obtain ⟨r, held, -, -, -, -, status⟩ := there
      exact idle ((wired.waits_iff_status present).2 ⟨r, held, status⟩)
    rw [Script.resolve, result]
    split
    · next there => exact absurd there (status _ _)
    · rfl

theorem Wired.script_abandon (wired : s.Wired) (present : Line.hungUp ∉ s.lines) :
    s.abandon.script = s.script.abandon := by
  have status : ∀ r ∈ s.receipts, Receipt.status s.abandon.lines r
      = (Receipt.status s.lines r).abandoned := by
    intro r mem
    obtain ⟨k, held⟩ := List.mem_iff_getElem?.1 mem
    cases r with
    | reply r => rfl
    | line line =>
      obtain ⟨l, there⟩ := wired.exists_line held
      rw [Receipt.status, Receipt.status, Switchboard.abandon, List.getElem?_map, there]
      cases l with
      | hungUp => exact absurd (List.mem_of_getElem? there) present
      | _ => rfl
  have calls := zipWith_status s.calls status
  rw [script, Script.abandon]
  simp only [script, List.map_zipWith]
  refine congrArg (Script.mk s.responder s.queued) (calls.trans ?_)
  congr 1
  funext c r
  cases Receipt.status s.lines r <;> rfl

/-- Every call of an abandoned script has a reply: the one that it had, or else the word that it has
been dropped. -/
theorem answer?_abandon_script (s : Script) (k : Nat) :
    s.abandon.answer? k = s.calls[k]?.map fun c => c.status.reply?.getD Script.dropped := by
  rw [Script.answer?, Script.abandon, List.getElem?_map]
  rcases s.calls[k]? with - | ⟨method, params, status⟩
  · rfl
  · cases status <;> rfl

/-- So has every caller when the gateway is lost. -/
theorem Wired.answer?_abandon (wired : s.Wired) (present : Line.hungUp ∉ s.lines)
    (made : k < s.calls.length) :
    s.abandon.answer? k = some ((s.script.answer? k).getD Script.dropped) := by
  obtain ⟨c, there⟩ : ∃ c, s.script.calls[k]? = some c := by
    refine ⟨_, List.getElem?_eq_getElem ?_⟩
    simpa [script, wired.receipts] using made
  rw [← wired.abandon.answer?_script, wired.script_abandon present, answer?_abandon_script, there,
    Script.answer?, there]
  rfl

/-! ### Histories -/

/-- Nobody hangs up but a caller that gives up. -/
theorem Wired.hungUp_not_mem_act (wired : s.Wired) (present : Line.hungUp ∉ s.lines) {a : Act}
    (stays : ∀ n, a ≠ .hangUp n) : Line.hungUp ∉ (s.act a).lines := by
  cases a with
  | push reply => exact present
  | call method params =>
    rw [Switchboard.act]
    cases now : s.immediate? method params with
    | some reply => rwa [call_of_immediate now]
    | none =>
      rw [call_of_deferred now]
      simpa using present
  | resolve n reply =>
    rw [Switchboard.act]
    rcases wired.resolve_cases n reply with ⟨line, -, -, result⟩ | ⟨-, slots, result, -⟩
    · rw [result]
      intro hung
      rcases List.mem_or_eq_of_mem_set hung with hung | hung
      · exact present hung
      · cases hung
    · rwa [result]
  | hangUp n => exact absurd rfl (stays n)

theorem Wired.hungUp_not_mem_after (wired : s.Wired) (present : Line.hungUp ∉ s.lines)
    {history : List Act} (stay : ∀ n, .hangUp n ∉ history) :
    Line.hungUp ∉ (s.after history).lines := by
  induction history generalizing s with
  | nil => exact present
  | cons a history ih =>
    simp only [List.mem_cons, not_or, forall_and] at stay
    exact ih (wired.act a) (wired.hungUp_not_mem_act present fun n => Ne.symm (stay.1 n)) stay.2

end Switchboard

namespace Script

/-- The script after an act. It knows nothing of callers that give up. -/
def act (s : Script) : Act → Script
  | .push reply => s.push reply
  | .call method params => s.call method params
  | .resolve n reply => (s.resolve n reply).1
  | .hangUp _ => s

/-- The script after a history. -/
def after (s : Script) (history : List Act) : Script := history.foldl act s

end Script

/-- **The tables keep the script** through every history in which no caller gives up. -/
theorem Switchboard.Wired.script_after {s : Switchboard} (wired : s.Wired)
    (present : Line.hungUp ∉ s.lines) {history : List Act} (stay : ∀ n, .hangUp n ∉ history) :
    (s.after history).script = s.script.after history := by
  induction history generalizing s with
  | nil => rfl
  | cons a history ih =>
    have stays : ∀ n, a ≠ .hangUp n := by
      rintro n rfl
      exact stay n List.mem_cons_self
    have step : (s.act a).script = s.script.act a := by
      cases a with
      | push reply => exact script_push s reply
      | call method params => exact wired.script_call method params
      | resolve n reply => exact (congrArg Prod.fst (wired.script_resolve present n reply)).symm
      | hangUp n => exact absurd rfl (stays n)
    have rest := ih (wired.act a) (wired.hungUp_not_mem_act present stays)
      fun n later => stay n (List.mem_cons_of_mem a later)
    rw [step] at rest
    exact rest

/-- A script gives the calls the replies that their history says. -/
theorem answer?_script_after (responder : Option (String → Json → Reply)) {history : List Act}
    (stay : ∀ n, .hangUp n ∉ history) :
    ∃ used, Account history used
      ∧ ∀ before method params later, history = before ++ .call method params :: later →
        (({ responder } : Script).after history).answer? (made before).length
          = replyTo responder used before method params later := by
  obtain ⟨used, traced⟩ := traced_after responder history
  have same : (({ responder } : Switchboard).after history).script
      = ({ responder } : Script).after history :=
    (Switchboard.wired_empty responder).script_after List.not_mem_nil stay
  refine ⟨used, traced.account, fun before method params later split => ?_⟩
  rw [← same, traced.wired.answer?_script]
  exact (traced.told before method params later split).1

/-- **Nobody waits for a gateway that is lost.** When the gateway's ends of all lines are lost,
every call has the reply that its history says, or else the word that it has been dropped. -/
theorem replied_after_abandon (responder : Option (String → Json → Reply)) {history : List Act}
    (stay : ∀ n, .hangUp n ∉ history) :
    ∃ used, Account history used
      ∧ ∀ before method params later, history = before ++ .call method params :: later →
        (({ responder } : Switchboard).after history).abandon.answer? (made before).length
          = some ((replyTo responder used before method params later).getD Script.dropped) := by
  have empty : ({ responder } : Switchboard).Wired := Switchboard.wired_empty responder
  have present := empty.hungUp_not_mem_after List.not_mem_nil stay
  obtain ⟨_, traced⟩ := traced_after responder history
  obtain ⟨used, account, told⟩ := answer?_script_after responder stay
  refine ⟨used, account, fun before method params later split => ?_⟩
  have earlier : (made before).length
      < (({ responder } : Switchboard).after history).calls.length := by
    rw [traced.calls]
    exact length_made_lt split
  rw [traced.wired.answer?_abandon present earlier, empty.script_after List.not_mem_nil stay]
  exact congrArg (fun reply : Option Reply => some (reply.getD Script.dropped))
    (told before method params later split)

end ReactiveResource.Gateway
