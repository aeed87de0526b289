import Mathlib.Data.List.Induction
import ReactiveResource.Proofs.Gateway.Wiring

/-!
# Replies delivered

A history of a scripted gateway is a list of what its owner does, and of callers that give up. An
account of a history says for every call which of the replies in the queue it has taken. It follows
from the history alone: every call takes the oldest one that is left, if any is. The answers, and
the calls that can be resolved, follow from the history and its account.

* `Act`, `Switchboard.after`: histories, and the gateway after one;
* `pushed`, `made`: the replies that were put in the queue, and the calls;
* `Account`: which call has taken which reply;
* `verdict`, `Undecided`: what becomes of a call that is not answered at once;
* `Traced`, `traced_after`: the gateway is as its history says;
* `replies_delivered`: who has been given which reply, and which calls can be resolved.
-/

namespace ReactiveResource.Gateway

/-- What happens at a scripted gateway: its owner puts a reply in the queue, a call is made, the
owner resolves a call, a caller gives up. -/
inductive Act where
  | push (reply : Reply)
  | call (method : String) (params : Json)
  | resolve (n : Nat) (reply : Reply)
  | hangUp (n : Nat)

namespace Switchboard

/-- The gateway after an act. -/
def act (s : Switchboard) : Act → Switchboard
  | .push reply => s.push reply
  | .call method params => s.call method params
  | .resolve n reply => (s.resolve n reply).1
  | .hangUp n => s.hangUp n

/-- The gateway after a history. -/
def after (s : Switchboard) (history : List Act) : Switchboard := history.foldl act s

theorem after_concat (s : Switchboard) (history : List Act) (a : Act) :
    s.after (history ++ [a]) = (s.after history).act a := by
  simp [after]

end Switchboard

/-! ### What a history says -/

/-- The replies that were put in the queue. -/
def pushed (history : List Act) : List Reply :=
  history.filterMap fun
    | .push reply => some reply
    | _ => none

/-- The calls that were made. -/
def made (history : List Act) : List RecordedCall :=
  history.filterMap fun
    | .call method params => some { method, params }
    | _ => none

/-- The next call takes the oldest of the replies that no call before it has taken. -/
def TakesOldest (before : List Act) (used : Nat → Option Nat) : Prop :=
  match used (made before).length with
  | some i => i < (pushed before).length ∧ ∀ j < i, ∃ m < (made before).length, used m = some j
  | none => ∀ j < (pushed before).length, ∃ m < (made before).length, used m = some j

/-- An account of a history: the number of the reply that a call has taken out of the queue, if it
has. Replies are taken in order, each at most once, and every call takes the oldest one that is
left. -/
structure Account (history : List Act) (used : Nat → Option Nat) : Prop where
  inOrder : ∀ {m n i j : Nat}, m < n → used m = some i → used n = some j → i < j
  oldest : ∀ before method params later, history = before ++ .call method params :: later →
    TakesOldest before used

/-- Nobody has resolved the call, and its caller has not given up. -/
def Undecided (n : Nat) (acts : List Act) : Prop :=
  .hangUp n ∉ acts ∧ ∀ reply, .resolve n reply ∉ acts

/-- The reply by which a call is resolved: the first one, unless its caller has given up before. -/
def verdict (n : Nat) : List Act → Option Reply
  | [] => none
  | .resolve k reply :: rest => if k = n then some reply else verdict n rest
  | .hangUp k :: rest => if k = n then none else verdict n rest
  | _ :: rest => verdict n rest

/-- The reply to a call, by the history and its account. -/
def replyTo (responder : Option (String → Json → Reply)) (used : Nat → Option Nat)
    (before : List Act) (method : String) (params : Json) (later : List Act) : Option Reply :=
  match used (made before).length with
  | some i => (pushed before)[i]?
  | none =>
    match responder with
    | some respond => some (respond method params)
    | none => verdict (made before).length later

/-- A call waits: it has taken no reply, there is no responder, and nothing has been decided. -/
def Pending (responder : Option (String → Json → Reply)) (used : Nat → Option Nat)
    (before later : List Act) : Prop :=
  used (made before).length = none ∧ responder = none ∧ Undecided (made before).length later

variable {history acts : List Act} {n : Nat} {reply : Reply}

theorem pushed_concat (history : List Act) (a : Act) :
    pushed (history ++ [a]) = pushed history ++ pushed [a] := List.filterMap_append

theorem made_concat (history : List Act) (a : Act) :
    made (history ++ [a]) = made history ++ made [a] := List.filterMap_append

theorem undecided_append {more : List Act} :
    Undecided n (acts ++ more) ↔ Undecided n acts ∧ Undecided n more := by
  simp only [Undecided, List.mem_append, not_or, forall_and]
  exact and_and_and_comm

/-- The first word on a call is the last. -/
theorem verdict_append (n : Nat) (acts more : List Act) :
    (Undecided n acts → verdict n (acts ++ more) = verdict n more)
      ∧ (¬Undecided n acts → verdict n (acts ++ more) = verdict n acts) := by
  induction acts with
  | nil => simp [Undecided]
  | cons a acts ih =>
    have first : Undecided n ([a] ++ acts) ↔ Undecided n [a] ∧ Undecided n acts := undecided_append
    have free {a : Act} (h : a ≠ .hangUp n) (h' : ∀ reply, a ≠ .resolve n reply) :
        Undecided n [a] := by
      simpa [Undecided] using ⟨fun e => h e.symm, fun reply e => h' reply e.symm⟩
    rw [← List.singleton_append, first]
    cases a with
    | push reply => simpa [verdict, free] using ih
    | call method params => simpa [verdict, free] using ih
    | resolve k reply =>
      by_cases same : k = n
      · subst same
        simp [verdict, Undecided]
      · simpa [verdict, same, free] using ih
    | hangUp k =>
      by_cases same : k = n
      · subst same
        simp [verdict, Undecided]
      · simpa [verdict, same, free] using ih

/-- Every call has its place in the history. -/
theorem exists_call (h : n < (made history).length) :
    ∃ before method params later, history = before ++ .call method params :: later
      ∧ (made before).length = n := by
  induction history using List.reverseRecOn with
  | nil => cases h
  | append_singleton history a ih =>
    by_cases old : n < (made history).length
    · obtain ⟨before, method, params, later, rfl, length⟩ := ih old
      exact ⟨before, method, params, later ++ [a], by simp, length⟩
    · rw [made_concat, List.length_append] at h
      cases a with
      | call method params =>
        have one : (made [.call method params]).length = 1 := rfl
        exact ⟨history, method, params, [], rfl, by omega⟩
      | _ => exact absurd h old

/-! ### The gateway as its history says -/

variable {s : Switchboard} {k : Nat}

theorem Switchboard.Waits.answer? (waits : s.Waits k) : s.answer? k = none := by
  obtain ⟨line, held, waiting⟩ := waits
  simp [Switchboard.answer?, held, Receipt.reply?, waiting, Line.reply?]

/-- An act has its word on every call whose caller waits, and on no other. -/
theorem Switchboard.Wired.act_old (wired : s.Wired) (old : k < s.calls.length) (a : Act) :
    ((s.act a).Waits k ↔ s.Waits k ∧ Undecided k [a])
      ∧ (s.Waits k → (s.act a).answer? k = verdict k [a])
      ∧ (¬s.Waits k → (s.act a).answer? k = s.answer? k) := by
  have earlier : k ≠ s.calls.length := Nat.ne_of_lt old
  cases a with
  | push reply => exact ⟨by simp [Undecided, act]; rfl, fun waits => waits.answer?, fun _ => rfl⟩
  | call method params =>
    have waits : (s.call method params).Waits k ↔ _ := wired.waits_call_iff
    have answer : (s.call method params).answer? k = _ := wired.answer?_call
    rw [if_neg earlier] at waits answer
    exact ⟨by simpa [Undecided, act] using waits, fun waits => answer.trans waits.answer?,
      fun _ => answer⟩
  | resolve n reply =>
    have waits : (s.resolve n reply).1.Waits k ↔ _ := wired.waits_resolve_iff
    have answer : (s.resolve n reply).1.answer? k = _ := wired.answer?_resolve
    have resolved : (s.resolve n reply).2 = true ↔ s.Waits n := wired.snd_resolve_iff
    refine ⟨by simpa [Undecided, act, eq_comm] using waits, fun waiting => ?_, fun idle => ?_⟩
    · by_cases same : k = n
      · subst same
        simp [act, answer, resolved, waiting, verdict]
      · simp [act, answer, same, Ne.symm same, verdict, waiting.answer?]
    · rw [act, answer, if_neg]
      rintro ⟨found, rfl⟩
      exact idle (resolved.1 found)
  | hangUp n =>
    have waits : (s.hangUp n).Waits k ↔ _ := wired.waits_hangUp_iff
    have answer : (s.hangUp n).answer? k = _ := wired.answer?_hangUp
    refine ⟨by simpa [Undecided, act, eq_comm] using waits, fun waiting => ?_, fun _ => answer⟩
    simp [act, answer, waiting.answer?, verdict]

theorem Switchboard.Wired.act (wired : s.Wired) (a : Act) : (s.act a).Wired := by
  cases a with
  | push reply => exact wired.push reply
  | call method params => exact wired.call method params
  | resolve n reply => exact wired.resolve n reply
  | hangUp n => exact wired.hangUp n

/-- What an act does to the queue and to the record of the calls. -/
theorem Switchboard.Wired.act_tables (wired : s.Wired) (a : Act) :
    (s.act a).responder = s.responder ∧ (s.act a).calls = s.calls ++ made [a]
      ∧ (s.act a).queued = match a with
        | .push reply => s.queued ++ [reply]
        | .call _ _ => s.queued.tail
        | _ => s.queued := by
  have same : s.calls = s.calls ++ [] := (List.append_nil _).symm
  cases a with
  | push reply => exact ⟨rfl, same, rfl⟩
  | call method params => exact ⟨responder_call, calls_call, queued_call⟩
  | resolve n reply =>
    rw [Switchboard.act]
    rcases wired.resolve_cases n reply with ⟨_, -, -, result⟩ | ⟨-, _, result, -⟩ <;>
      (rw [result]; exact ⟨rfl, same, rfl⟩)
  | hangUp n =>
    rw [Switchboard.act]
    rcases s.hangUp_cases n with ⟨_, -, -, result⟩ | ⟨-, result⟩ <;>
      (rw [result]; exact ⟨rfl, same, rfl⟩)

/-- The replies in the queue are those from some number on, and the others have been taken. -/
def Leaves (history : List Act) (used : Nat → Option Nat) (queued : List Reply) : Prop :=
  ∃ taken ≤ (pushed history).length, queued = (pushed history).drop taken
    ∧ ∀ i, i < taken ↔ ∃ m, used m = some i

/-- The tables are what the history and its account say. -/
structure Traced (responder : Option (String → Json → Reply)) (history : List Act)
    (used : Nat → Option Nat) (s : Switchboard) : Prop where
  wired : s.Wired
  constant : s.responder = responder
  calls : s.calls = made history
  leaves : Leaves history used s.queued
  early : ∀ m i, used m = some i → m < (made history).length
  account : Account history used
  told : ∀ before method params later, history = before ++ .call method params :: later →
    s.answer? (made before).length = replyTo responder used before method params later
      ∧ (s.Waits (made before).length ↔ Pending responder used before later)

theorem traced_start (responder : Option (String → Json → Reply)) :
    Traced responder [] (fun _ => none) { responder } where
  wired := Switchboard.wired_empty responder
  constant := rfl
  calls := rfl
  leaves := ⟨0, Nat.le_refl 0, rfl, by simp⟩
  early := by simp
  account :=
    { inOrder := by simp
      oldest := by simp }
  told := by simp

theorem TakesOldest.congr {before : List Act} {used used' : Nat → Option Nat}
    (h : TakesOldest before used) (same : ∀ m ≤ (made before).length, used' m = used m) :
    TakesOldest before used' := by
  have taken {j : Nat} (h : ∃ m < (made before).length, used m = some j) :
      ∃ m < (made before).length, used' m = some j := by
    obtain ⟨m, lt, taken⟩ := h
    exact ⟨m, lt, (same m (Nat.le_of_lt lt)).trans taken⟩
  rw [TakesOldest, same _ (Nat.le_refl _)]
  rw [TakesOldest] at h
  split at h
  · exact ⟨h.1, fun j lt => taken (h.2 j lt)⟩
  · exact fun j lt => taken (h j lt)

theorem length_made_lt {before later : List Act} {method : String} {params : Json}
    (split : history = before ++ .call method params :: later) :
    (made before).length < (made history).length := by
  rw [split, made, made, List.filterMap_append, List.length_append]
  simp

/-- What is said of an earlier call stays true, with the word of the new act on it. -/
theorem Traced.told_old {responder : Option (String → Json → Reply)} {used : Nat → Option Nat}
    (traced : Traced responder history used s) (a : Act) {before : List Act} {method : String}
    {params : Json} {later : List Act} (split : history = before ++ .call method params :: later) :
    (s.act a).answer? (made before).length
        = replyTo responder used before method params (later ++ [a])
      ∧ ((s.act a).Waits (made before).length
        ↔ Pending responder used before (later ++ [a])) := by
  have old : (made before).length < s.calls.length := by
    rw [traced.calls]
    exact length_made_lt split
  obtain ⟨waits', heard, deaf⟩ := traced.wired.act_old old a
  obtain ⟨answer, waits⟩ := traced.told before method params later split
  obtain ⟨open', closed⟩ := verdict_append (made before).length later [a]
  refine ⟨?_, ?_⟩
  · by_cases waiting : s.Waits (made before).length
    · obtain ⟨unused, silent, undecided⟩ := waits.1 waiting
      simp only [heard waiting, replyTo, unused, silent, open' undecided]
    · rw [deaf waiting, answer]
      unfold replyTo
      cases unused : used (made before).length with
      | some i => rfl
      | none =>
        cases responder with
        | some respond => rfl
        | none => exact (closed fun undecided => waiting (waits.2 ⟨unused, rfl, undecided⟩)).symm
  · rw [waits', waits, Pending, Pending, undecided_append, and_assoc, and_assoc]

section Step

variable {responder : Option (String → Json → Reply)} {used used' : Nat → Option Nat}

/-- One more act: an account that says the same of the earlier calls, and is right about the new
one, if there is one, is an account of the longer history. -/
theorem Traced.extend (traced : Traced responder history used s) (a : Act)
    (same : ∀ m < (made history).length, used' m = used m)
    (leaves : Leaves (history ++ [a]) used' (s.act a).queued)
    (early : ∀ m i, used' m = some i → m < (made (history ++ [a])).length)
    (inOrder : ∀ {m n i j : Nat}, m < n → used' m = some i → used' n = some j → i < j)
    (new : ∀ method params, a = .call method params → TakesOldest history used'
      ∧ (s.act a).answer? (made history).length = replyTo responder used' history method params []
      ∧ ((s.act a).Waits (made history).length ↔ Pending responder used' history [])) :
    Traced responder (history ++ [a]) used' (s.act a) := by
  obtain ⟨constant, calls, -⟩ := traced.wired.act_tables a
  have calls : (s.act a).calls = made (history ++ [a]) := by
    rw [calls, traced.calls, made_concat]
  refine ⟨traced.wired.act a, constant.trans traced.constant, calls, leaves, early,
    ⟨inOrder, ?_⟩, ?_⟩
  · intro before method params later split
    rcases concat_eq_append_cons_iff.1 split with ⟨rfl, rfl, rfl⟩ | ⟨rest, rfl, place⟩
    · exact (new method params rfl).1
    · exact (traced.account.oldest before method params rest place).congr
        fun m le => same m (Nat.lt_of_le_of_lt le (length_made_lt place))
  · intro before method params later split
    rcases concat_eq_append_cons_iff.1 split with ⟨rfl, rfl, rfl⟩ | ⟨rest, rfl, place⟩
    · exact (new method params rfl).2
    · have told := traced.told_old a place
      unfold replyTo Pending at told ⊢
      rwa [same _ (length_made_lt place)]

/-- An act that is no call leaves the account as it is. -/
theorem Traced.extend_uncalled (traced : Traced responder history used s) {a : Act}
    (uncalled : made [a] = []) (leaves : Leaves (history ++ [a]) used (s.act a).queued) :
    Traced responder (history ++ [a]) used (s.act a) := by
  refine traced.extend a (fun _ _ => rfl) leaves (fun m i h => ?_) traced.account.inOrder ?_
  · rw [made_concat, uncalled, List.append_nil]
    exact traced.early m i h
  · rintro method params rfl
    cases uncalled

/-- A new call has the reply that it is given at once, if any, and else it waits. -/
theorem Traced.call_new (traced : Traced responder history used s) (method : String)
    (params : Json) :
    (s.call method params).answer? (made history).length = s.immediate? method params
      ∧ ((s.call method params).Waits (made history).length
        ↔ s.immediate? method params = none) := by
  have last : (made history).length = s.calls.length := congrArg List.length traced.calls.symm
  rw [traced.wired.answer?_call, traced.wired.waits_call_iff, if_pos last, if_pos last]
  exact ⟨rfl, Iff.rfl⟩

/-- A call takes the oldest reply that is left. -/
theorem Traced.extend_served (traced : Traced responder history used s) (method : String)
    (params : Json) {reply : Reply} {rest : List Reply} (queued : s.queued = reply :: rest) :
    ∃ used', Traced responder (history ++ [.call method params]) used' (s.call method params) := by
  obtain ⟨taken, le, left, count⟩ := traced.leaves
  have lt : taken < (pushed history).length := by
    refine Nat.lt_of_le_of_ne le ?_
    rintro rfl
    rw [List.drop_length, queued] at left
    cases left
  have next : (pushed history)[taken]? = some reply := by
    rw [← List.head?_drop, ← left, queued]
    rfl
  -- the account with this call in it
  let number := (made history).length
  let used' := fun m => if m = number then some taken else used m
  have new : used' number = some taken := if_pos rfl
  have old {m : Nat} (h : m < number) : used' m = used m := if_neg (Nat.ne_of_lt h)
  have kept {m i : Nat} (h : used m = some i) : used' m = some i :=
    (old (traced.early m i h)).trans h
  have of_used' {m i : Nat} (h : used' m = some i) :
      m = number ∧ i = taken ∨ m < number ∧ used m = some i := by
    by_cases last : m = number
    · subst last
      exact .inl ⟨rfl, Option.some.inj (h.symm.trans new)⟩
    · have before : used m = some i := (if_neg last).symm.trans h
      exact .inr ⟨traced.early m i before, before⟩
  refine ⟨used', traced.extend (.call method params) (fun m => old) ⟨taken + 1, ?_, ?_, ?_⟩ ?_ ?_
    ?_⟩
  · rw [pushed_concat]
    exact Nat.le_trans lt (by simp)
  · rw [pushed_concat]
    show (s.call method params).queued = List.drop (taken + 1) (pushed history ++ [])
    rw [Switchboard.queued_call, left, List.tail_drop, List.append_nil]
  · intro i
    constructor
    · intro below
      rcases Nat.lt_succ_iff_lt_or_eq.1 below with below | rfl
      · obtain ⟨m, h⟩ := (count i).1 below
        exact ⟨m, kept h⟩
      · exact ⟨number, new⟩
    · rintro ⟨m, h⟩
      rcases of_used' h with ⟨-, rfl⟩ | ⟨-, h⟩
      · exact Nat.lt_succ_self _
      · exact Nat.lt_succ_of_lt ((count i).2 ⟨m, h⟩)
  · intro m i h
    have one : (made (history ++ [.call method params])).length = number + 1 := by
      rw [made_concat, List.length_append]
      rfl
    rw [one]
    rcases of_used' h with ⟨rfl, -⟩ | ⟨before, -⟩
    · exact Nat.lt_succ_self _
    · exact Nat.lt_succ_of_lt before
  · intro m n i j earlier hm hn
    rcases of_used' hn with ⟨rfl, rfl⟩ | ⟨before, hn⟩
    · rw [old earlier] at hm
      exact (count i).2 ⟨m, hm⟩
    · rw [old (Nat.lt_trans earlier before)] at hm
      exact traced.account.inOrder earlier hm hn
  · rintro _ _ ⟨⟩
    obtain ⟨answer, waits⟩ := traced.call_new method params
    have served : s.immediate? method params = some reply := by rw [Switchboard.immediate?, queued]
    refine ⟨?_, ?_, ?_⟩
    · unfold TakesOldest
      rw [new]
      refine ⟨lt, fun j below => ?_⟩
      obtain ⟨m, h⟩ := (count j).1 below
      exact ⟨m, traced.early m j h, kept h⟩
    · unfold replyTo
      rw [new]
      exact answer.trans (served.trans next.symm)
    · refine waits.trans ⟨fun h => ?_, fun h => ?_⟩
      · cases served.symm.trans h
      · cases new.symm.trans h.1

/-- A call that finds the queue empty takes nothing out of it. -/
theorem Traced.extend_unserved (traced : Traced responder history used s) (method : String)
    (params : Json) (queued : s.queued = []) :
    Traced responder (history ++ [.call method params]) used (s.call method params) := by
  obtain ⟨taken, le, left, count⟩ := traced.leaves
  have all : taken = (pushed history).length := by
    rw [queued] at left
    exact Nat.le_antisymm le (List.drop_eq_nil_iff.1 left.symm)
  have none : used (made history).length = none := by
    refine Option.eq_none_iff_forall_ne_some.2 fun i h => ?_
    exact absurd (traced.early _ i h) (Nat.lt_irrefl _)
  refine traced.extend (.call method params) (fun _ _ => rfl) ⟨taken, ?_, ?_, count⟩ ?_
    traced.account.inOrder ?_
  · rw [pushed_concat, List.length_append]
    exact Nat.le_add_right_of_le le
  · show (s.call method params).queued = List.drop taken (pushed (history ++ [_]))
    rw [pushed_concat, Switchboard.queued_call, queued, all]
    simp [pushed]
  · intro m i h
    rw [made_concat, List.length_append]
    exact Nat.lt_add_right _ (traced.early m i h)
  · rintro _ _ ⟨⟩
    obtain ⟨answer, waits⟩ := traced.call_new method params
    have served : s.immediate? method params
        = responder.map fun respond => respond method params := by
      rw [Switchboard.immediate?, queued, traced.constant]
    refine ⟨?_, ?_, ?_⟩
    · unfold TakesOldest
      rw [none]
      intro j below
      obtain ⟨m, h⟩ := (count j).1 (all ▸ below)
      exact ⟨m, traced.early m j h, h⟩
    · unfold replyTo
      rw [none]
      refine answer.trans (served.trans ?_)
      cases responder <;> rfl
    · refine waits.trans ?_
      rw [served, Pending, none]
      simp [Undecided]

theorem Traced.act (traced : Traced responder history used s) (a : Act) :
    ∃ used', Traced responder (history ++ [a]) used' (s.act a) := by
  have queued := (traced.wired.act_tables a).2.2
  -- the queue stays as it is unless the act is a push or a call
  have unmoved (unpushed : pushed [a] = []) (h : (s.act a).queued = s.queued) :
      Leaves (history ++ [a]) used (s.act a).queued := by
    rw [Leaves, pushed_concat, unpushed, List.append_nil, h]
    exact traced.leaves
  cases a with
  | push reply =>
    obtain ⟨taken, le, left, count⟩ := traced.leaves
    refine ⟨used, traced.extend_uncalled rfl ⟨taken, ?_, ?_, count⟩⟩
    · rw [pushed_concat, List.length_append]
      exact Nat.le_add_right_of_le le
    · rw [queued, left, pushed_concat, List.drop_append_of_le_length le]
      rfl
  | call method params =>
    cases queued : s.queued with
    | nil => exact ⟨used, traced.extend_unserved method params queued⟩
    | cons reply rest => exact traced.extend_served method params queued
  | resolve n reply => exact ⟨used, traced.extend_uncalled rfl (unmoved rfl queued)⟩
  | hangUp n => exact ⟨used, traced.extend_uncalled rfl (unmoved rfl queued)⟩

theorem traced_after (responder : Option (String → Json → Reply)) (history : List Act) :
    ∃ used, Traced responder history used (({ responder } : Switchboard).after history) := by
  induction history using List.reverseRecOn with
  | nil => exact ⟨_, traced_start responder⟩
  | append_singleton history a ih =>
    obtain ⟨used, traced⟩ := ih
    rw [Switchboard.after_concat]
    exact traced.act a

end Step

/-- **Every reply is delivered to the right call, once.** The calls are recorded in order. The
replies in the queue are taken in order, each by one call at most, and every call takes the oldest
one that is left; without one it is answered by the responder, and without that by the first who
resolves it, unless its caller has given up before. A call can be resolved exactly if it has been
made and none of this has happened to it; then it has the reply, and no other call hears of it. -/
theorem replies_delivered (responder : Option (String → Json → Reply)) (history : List Act) :
    let s := ({ responder } : Switchboard).after history
    s.calls = made history
      ∧ ∃ used, Account history used
        ∧ (∀ before method params later, history = before ++ .call method params :: later →
          s.answer? (made before).length = replyTo responder used before method params later)
        ∧ ∀ n reply,
          ((s.resolve n reply).2 = true
            ↔ ∃ before method params later, history = before ++ .call method params :: later
              ∧ (made before).length = n ∧ Pending responder used before later)
          ∧ ∀ k, (s.resolve n reply).1.answer? k
            = if (s.resolve n reply).2 = true ∧ k = n then some reply else s.answer? k := by
  obtain ⟨used, traced⟩ := traced_after responder history
  refine ⟨traced.calls, used, traced.account, fun before method params later split =>
    (traced.told before method params later split).1, fun n reply => ⟨?_, fun k =>
    traced.wired.answer?_resolve⟩⟩
  rw [traced.wired.snd_resolve_iff]
  constructor
  · intro waits
    have place := waits.lt traced.wired
    rw [traced.calls] at place
    obtain ⟨before, method, params, later, split, rfl⟩ := exists_call place
    exact ⟨before, method, params, later, split, rfl,
      (traced.told before method params later split).2.1 waits⟩
  · rintro ⟨before, method, params, later, split, rfl, pending⟩
    exact (traced.told before method params later split).2.2 pending

/-- The first call takes the reply in the queue, and the others are resolved in another order than
they were made in. -/
example :
    let s := ({} : Switchboard).after
      [.push (.ok (.int 0)), .call "m" .null, .call "m" .null, .call "m" .null,
        .resolve 2 (.ok (.int 2)), .resolve 1 (.ok (.int 1)), .resolve 1 (.ok (.int 3))]
    (s.answer? 0, s.answer? 1, s.answer? 2)
      = (some (.ok (.int 0)), some (.ok (.int 1)), some (.ok (.int 2))) := rfl

end ReactiveResource.Gateway
