import ReactiveResource.Gateway.Switchboard
import ReactiveResource.Proofs.Places

/-!
# The tables of a switchboard

The index leads from a call to a slot, the slot to a line, and the line to a caller. This is the
line that the caller of the call holds, and no other call leads to it, so that a call is resolved
exactly if its caller waits, and no other caller hears of it.

* `Waits`: the caller of a call waits for its reply;
* `Wired`: the tables agree, which `push`, `call`, `resolve`, `hangUp` and `abandon` keep;
* `resolve_cases`: what becomes of the tables when a call is resolved;
* `answer?_call`, `answer?_resolve`, `waits_resolve_iff` and others: who has a reply and who waits,
  after each operation.
-/

namespace ReactiveResource.Gateway.Switchboard

/-- The caller of a call waits for its reply. -/
def Waits (s : Switchboard) (n : Nat) : Prop :=
  ∃ line, s.receipts[n]? = some (.line line) ∧ s.lines[line]? = some .waiting

/-- The tables agree. -/
structure Wired (s : Switchboard) : Prop where
  receipts : s.receipts.length = s.calls.length
  indexed : s.slotOf.length = s.calls.length
  slots : s.slots.length = s.lines.length
  /-- The index leads to the line that the caller holds. -/
  agree : ∀ n line : Nat, s.slotOf[n]? = some (some line) ↔ s.receipts[n]? = some (.line line)
  /-- There is such a line. -/
  inside : ∀ n line : Nat, s.receipts[n]? = some (.line line) → line < s.lines.length
  /-- No two callers hold the same line. -/
  apart : ∀ m n line : Nat,
    s.receipts[m]? = some (.line line) → s.receipts[n]? = some (.line line) → m = n
  /-- In a slot lies the end of its own line. -/
  own : ∀ slot line : Nat, s.slots[slot]? = some (some line) → line = slot
  /-- While a caller waits, the end of its line is there. -/
  kept : ∀ line : Nat, s.lines[line]? = some .waiting → s.slots[line]? = some (some line)

variable {s : Switchboard} {method : String} {params : Json} {reply : Reply} {n k : Nat}

theorem wired_empty (responder : Option (String → Json → Reply)) :
    ({ responder } : Switchboard).Wired where
  receipts := rfl
  indexed := rfl
  slots := rfl
  agree := by simp
  inside := by simp
  apart := by simp
  own := by simp
  kept := by simp

theorem Waits.lt (wired : s.Wired) (waits : s.Waits n) : n < s.calls.length := by
  obtain ⟨line, held, -⟩ := waits
  rw [← wired.receipts]
  exact (List.getElem?_eq_some_iff.1 held).1

/-! ### Replies to come -/

theorem Wired.push (wired : s.Wired) (reply : Reply) : (s.push reply).Wired :=
  ⟨wired.receipts, wired.indexed, wired.slots, wired.agree, wired.inside, wired.apart, wired.own,
    wired.kept⟩

/-! ### Calls -/

theorem call_of_immediate (h : s.immediate? method params = some reply) :
    s.call method params = { s with
      queued := s.queued.tail
      calls := s.calls ++ [{ method, params }]
      slotOf := s.slotOf ++ [none]
      receipts := s.receipts ++ [.reply reply] } := by
  rw [call, h]

theorem call_of_deferred (h : s.immediate? method params = none) :
    s.call method params = { s with
      queued := s.queued.tail
      calls := s.calls ++ [{ method, params }]
      slots := s.slots ++ [some s.lines.length]
      slotOf := s.slotOf ++ [some s.slots.length]
      lines := s.lines ++ [.waiting]
      receipts := s.receipts ++ [.line s.lines.length] } := by
  rw [call, h]

@[simp] theorem calls_call :
    (s.call method params).calls = s.calls ++ [RecordedCall.mk method params] := by
  rw [call]
  split <;> rfl

@[simp] theorem queued_call : (s.call method params).queued = s.queued.tail := by
  rw [call]
  split <;> rfl

@[simp] theorem responder_call : (s.call method params).responder = s.responder := by
  rw [call]
  split <;> rfl

theorem Wired.call (wired : s.Wired) (method : String) (params : Json) :
    (s.call method params).Wired := by
  obtain ⟨receipts, indexed, slots, agree, inside, apart, own, kept⟩ := wired
  cases h : s.immediate? method params with
  | some reply =>
    rw [call_of_immediate h]
    constructor
    · simp [receipts]
    · simp [indexed]
    · exact slots
    · intro n line
      simp [getElem?_concat_eq_some_iff, agree]
    · intro n line
      simpa [getElem?_concat_eq_some_iff] using inside n line
    · intro m n line
      simpa [getElem?_concat_eq_some_iff] using apart m n line
    · exact own
    · exact kept
  | none =>
    rw [call_of_deferred h]
    constructor
    · simp [receipts]
    · simp [indexed]
    · simp [slots]
    · intro n line
      simp [getElem?_concat_eq_some_iff, agree, receipts, indexed, slots]
    · intro n line held
      rw [List.length_append, List.length_singleton]
      rcases getElem?_concat_eq_some_iff.1 held with held | ⟨-, same⟩
      · exact Nat.lt_succ_of_lt (inside n line held)
      · cases same
        exact Nat.lt_succ_self _
    · intro m n line hm hn
      rcases getElem?_concat_eq_some_iff.1 hm with hm | ⟨rfl, same⟩ <;>
        rcases getElem?_concat_eq_some_iff.1 hn with hn | ⟨rfl, same'⟩
      · exact apart m n line hm hn
      · cases same'
        exact absurd (inside m _ hm) (Nat.lt_irrefl _)
      · cases same
        exact absurd (inside n _ hn) (Nat.lt_irrefl _)
      · rfl
    · intro slot line held
      rcases getElem?_concat_eq_some_iff.1 held with held | ⟨rfl, same⟩
      · exact own slot line held
      · cases same
        exact slots.symm
    · intro line waiting
      rw [getElem?_concat_eq_some_iff] at waiting ⊢
      rcases waiting with waiting | ⟨rfl, -⟩
      · exact .inl (kept line waiting)
      · exact .inr ⟨slots.symm, rfl⟩

/-- A call that is answered at once has its reply; the others keep theirs. -/
theorem Wired.answer?_call (wired : s.Wired) :
    (s.call method params).answer? k
      = if k = s.calls.length then s.immediate? method params else s.answer? k := by
  rw [← wired.receipts]
  have concat (x : Receipt) : (s.receipts ++ [x])[k]?
      = if k = s.receipts.length then some x else s.receipts[k]? := by
    refine Option.ext fun receipt => ?_
    rw [getElem?_concat_eq_some_iff]
    split
    · next same => simp [same]
    · next other => simp [other]
  cases h : s.immediate? method params with
  | some reply =>
    rw [call_of_immediate h, answer?, answer?, concat]
    split <;> rfl
  | none =>
    rw [call_of_deferred h, answer?, answer?, concat]
    split
    · simp [Receipt.reply?, Line.reply?]
    · refine Option.bind_congr fun receipt there => ?_
      cases receipt with
      | reply _ => rfl
      | line line =>
        rw [Receipt.reply?, Receipt.reply?, List.getElem?_append_left (wired.inside k line there)]

/-- A call that is not answered at once waits; who waited before still does. -/
theorem Wired.waits_call_iff (wired : s.Wired) :
    (s.call method params).Waits k
      ↔ if k = s.calls.length then s.immediate? method params = none else s.Waits k := by
  rw [← wired.receipts]
  cases h : s.immediate? method params with
  | some reply =>
    rw [call_of_immediate h]
    simp only [Waits, getElem?_concat_eq_some_iff, reduceCtorEq, and_false, or_false]
    split
    · next same => simp [same]
    · rfl
  | none =>
    rw [call_of_deferred h]
    simp only [Waits, getElem?_concat_eq_some_iff]
    split
    · next same => simp [same]
    · next other =>
      simp only [other, false_and, or_false, and_true]
      refine exists_congr fun line => and_congr_right fun held => ?_
      simp [Nat.ne_of_lt (wired.inside k line held)]

/-! ### Calls that are resolved -/

/-- Ends of lines have been used up, but none of a line on which a caller waits. -/
structure UsesUp (s : Switchboard) (slots : List (Option Nat)) : Prop where
  length : slots.length = s.slots.length
  old : ∀ slot line : Nat, slots[slot]? = some (some line) → s.slots[slot]? = some (some line)
  kept : ∀ line : Nat, s.lines[line]? = some .waiting → slots[line]? = s.slots[line]?

/-- A call is resolved if its caller waits, and else all that can become of it is that the end of
its line is used up. -/
theorem Wired.resolve_cases (wired : s.Wired) (n : Nat) (reply : Reply) :
    (∃ line, s.receipts[n]? = some (.line line) ∧ s.lines[line]? = some .waiting
      ∧ s.resolve n reply = ({ s with
          slots := s.slots.set line none
          lines := s.lines.set line (.sent reply) }, true))
    ∨ ¬s.Waits n ∧ ∃ slots, s.resolve n reply = ({ s with slots }, false) ∧ s.UsesUp slots := by
  have unchanged : s.UsesUp s.slots := ⟨rfl, fun _ _ => id, fun _ _ => rfl⟩
  rw [resolve]
  cases index : s.slotOf[n]?.join with
  | none =>
    refine .inr ⟨?_, s.slots, rfl, unchanged⟩
    rintro ⟨line, held, -⟩
    rw [(wired.agree n line).2 held] at index
    cases index
  | some slot =>
    have held := (wired.agree n slot).1 (Option.join_eq_some_iff.1 index)
    have only {line : Nat} (h : s.receipts[n]? = some (.line line)) : line = slot := by
      cases held.symm.trans h
      rfl
    simp only
    cases there : s.slots[slot]?.join with
    | none =>
      refine .inr ⟨?_, s.slots, rfl, unchanged⟩
      rintro ⟨line, h, waiting⟩
      obtain rfl := only h
      rw [wired.kept line waiting] at there
      cases there
    | some line =>
      obtain rfl := wired.own slot line (Option.join_eq_some_iff.1 there)
      simp only
      split
      · next waiting => exact .inl ⟨line, held, waiting, rfl⟩
      · next other =>
        refine .inr ⟨?_, s.slots.set line none, rfl, List.length_set, ?_, ?_⟩
        · rintro ⟨line', h, waiting⟩
          obtain rfl := only h
          exact other waiting
        · exact fun slot line' h => (getElem?_of_set h (by simp)).2
        · intro line' waiting
          rw [List.getElem?_set_ne]
          rintro rfl
          exact other waiting

theorem Wired.resolve (wired : s.Wired) (n : Nat) (reply : Reply) :
    (s.resolve n reply).1.Wired := by
  rcases wired.resolve_cases n reply with ⟨line, held, waiting, result⟩ | ⟨-, slots, result, used⟩
  · rw [result]
    refine ⟨wired.receipts, wired.indexed, by simpa using wired.slots, wired.agree,
      by simpa using wired.inside, wired.apart, ?_, ?_⟩
    · exact fun slot line' h => wired.own slot line' (getElem?_of_set h (by simp)).2
    · intro line' h
      obtain ⟨apart, waiting⟩ := getElem?_of_set h (by simp)
      exact (List.getElem?_set_ne apart).trans (wired.kept line' waiting)
  · rw [result]
    exact ⟨wired.receipts, wired.indexed, used.length.trans wired.slots, wired.agree, wired.inside,
      wired.apart, fun slot line h => wired.own slot line (used.old slot line h),
      fun line h => (used.kept line h).trans (wired.kept line h)⟩

/-- When the line of a caller is no longer open, this caller does not wait, and the others do as
before. -/
theorem Wired.waits_cut_iff (wired : s.Wired) {t : Switchboard} {line : Nat} {l : Line}
    (held : s.receipts[n]? = some (.line line)) (closed : l ≠ .waiting)
    (receipts : t.receipts = s.receipts) (lines : t.lines = s.lines.set line l) :
    t.Waits k ↔ s.Waits k ∧ k ≠ n := by
  rw [Waits, receipts, lines]
  constructor
  · rintro ⟨line', held', waiting⟩
    obtain ⟨apart, waiting⟩ := getElem?_of_set waiting closed
    refine ⟨⟨line', held', waiting⟩, ?_⟩
    rintro rfl
    cases held.symm.trans held'
    exact apart rfl
  · rintro ⟨⟨line', held', waiting⟩, other⟩
    have apart : line ≠ line' := by
      rintro rfl
      exact other (wired.apart k n line held' held)
    exact ⟨line', held', (List.getElem?_set_ne apart).trans waiting⟩

theorem Wired.snd_resolve_iff (wired : s.Wired) : (s.resolve n reply).2 = true ↔ s.Waits n := by
  rcases wired.resolve_cases n reply with ⟨line, held, waiting, result⟩ | ⟨idle, slots, result, -⟩
  · simp [result, Waits, held, waiting]
  · simp [result, idle]

/-- The reply goes to the call, if it is resolved, and to no other. -/
theorem Wired.answer?_resolve (wired : s.Wired) :
    (s.resolve n reply).1.answer? k
      = if (s.resolve n reply).2 = true ∧ k = n then some reply else s.answer? k := by
  rcases wired.resolve_cases n reply with ⟨line, held, waiting, result⟩ | ⟨-, slots, result, -⟩
  · rw [result]
    by_cases same : k = n
    · subst same
      have inside : line < s.lines.length := wired.inside k line held
      simp [answer?, held, Receipt.reply?, inside, Line.reply?]
    · rw [if_neg fun h => same h.2]
      show s.receipts[k]?.bind _ = s.receipts[k]?.bind _
      refine Option.bind_congr fun receipt there => ?_
      cases receipt with
      | reply _ => rfl
      | line line' =>
        have apart : line ≠ line' := by
          rintro rfl
          exact same (wired.apart k n line there held)
        rw [Receipt.reply?, Receipt.reply?, List.getElem?_set_ne apart]
  · rw [result]
    rfl

theorem Wired.waits_resolve_iff (wired : s.Wired) :
    (s.resolve n reply).1.Waits k ↔ s.Waits k ∧ k ≠ n := by
  rcases wired.resolve_cases n reply with ⟨line, held, -, result⟩ | ⟨idle, slots, result, -⟩
  · have closed : Line.sent reply ≠ .waiting := nofun
    exact wired.waits_cut_iff held closed (by rw [result]) (by rw [result])
  · rw [result]
    refine ⟨fun waits => ⟨waits, ?_⟩, fun waits => waits.1⟩
    rintro rfl
    exact idle waits

/-! ### Callers that give up -/

/-- The only thing that becomes of the tables is that the line of a caller who waits is cut. -/
theorem hangUp_cases (s : Switchboard) (n : Nat) :
    (∃ line, s.receipts[n]? = some (.line line) ∧ s.lines[line]? = some .waiting
      ∧ s.hangUp n = { s with lines := s.lines.set line .hungUp })
    ∨ ¬s.Waits n ∧ s.hangUp n = s := by
  rw [hangUp]
  split
  · next line held =>
    split
    · next waiting => exact .inl ⟨line, held, waiting, rfl⟩
    · next other =>
      refine .inr ⟨?_, rfl⟩
      rintro ⟨line', held', waiting⟩
      cases held.symm.trans held'
      exact other waiting
  · next other =>
    refine .inr ⟨?_, rfl⟩
    rintro ⟨line, held, -⟩
    exact other line held

theorem Wired.hangUp (wired : s.Wired) (n : Nat) : (s.hangUp n).Wired := by
  rcases s.hangUp_cases n with ⟨line, held, waiting, result⟩ | ⟨-, result⟩
  · rw [result]
    exact ⟨wired.receipts, wired.indexed, by simpa using wired.slots, wired.agree,
      by simpa using wired.inside, wired.apart, wired.own,
      fun line' h => wired.kept line' (getElem?_of_set h (by simp)).2⟩
  · rwa [result]

/-- Nobody has a reply for having given up, and nobody loses one. -/
theorem Wired.answer?_hangUp (wired : s.Wired) : (s.hangUp n).answer? k = s.answer? k := by
  rcases s.hangUp_cases n with ⟨line, held, waiting, result⟩ | ⟨-, result⟩
  · rw [result]
    show s.receipts[k]?.bind _ = s.receipts[k]?.bind _
    refine Option.bind_congr fun receipt _ => ?_
    cases receipt with
    | reply _ => rfl
    | line line' =>
      rw [Receipt.reply?, Receipt.reply?]
      by_cases same : line = line'
      · subst same
        rw [List.getElem?_set_self (wired.inside n line held), waiting]
        rfl
      · rw [List.getElem?_set_ne same]
  · rw [result]

theorem Wired.waits_hangUp_iff (wired : s.Wired) : (s.hangUp n).Waits k ↔ s.Waits k ∧ k ≠ n := by
  rcases s.hangUp_cases n with ⟨line, held, -, result⟩ | ⟨idle, result⟩
  · have closed : Line.hungUp ≠ .waiting := nofun
    exact wired.waits_cut_iff held closed (by rw [result]) (by rw [result])
  · rw [result]
    refine ⟨fun waits => ⟨waits, ?_⟩, fun waits => waits.1⟩
    rintro rfl
    exact idle waits

/-! ### The gateway is lost -/

/-- The slots are empty then, and nobody waits on a line. -/
theorem Wired.abandon (wired : s.Wired) : s.abandon.Wired where
  receipts := wired.receipts
  indexed := wired.indexed
  slots := by simp [Switchboard.abandon, wired.slots]
  agree := wired.agree
  inside n line held := by simpa [Switchboard.abandon] using wired.inside n line held
  apart := wired.apart
  own slot line there := by
    simp only [Switchboard.abandon, List.getElem?_map, Option.map_eq_some_iff] at there
    obtain ⟨_, -, ⟨⟩⟩ := there
  kept line waiting := by
    simp only [Switchboard.abandon, List.getElem?_map, Option.map_eq_some_iff] at waiting
    obtain ⟨l, -, still⟩ := waiting
    cases l <;> cases still

end ReactiveResource.Gateway.Switchboard
