import ReactiveResource.Json.Document

/-!
# Trees inside trees

The containers that are open when a value begins are not looked at until the value is complete. The
tokens of a document therefore build the same tree wherever a value may stand.

* `Builder.within`: what is open, inside what was open before;
* `Builder.foldl_push_within`: the tokens of a document, where a value may stand;
* `Document.of_complete`: what a builder has reached when a document is complete.
-/

namespace ReactiveResource.Json

namespace Builder

variable {b around : Builder} {t : Tree}

/-- What is open, inside of what was open before. -/
def within (b around : Builder) : Builder :=
  { frames := b.frames ++ around.frames, expect := b.expect, root := none }

/-- A value is under way. Without an open container it has not begun, or the text has left the
grammar. -/
structure Open (b : Builder) : Prop where
  root : b.root = none
  bottom : b.frames = [] → b.expect = .value ∨ b.expect = .never

/-- A value is complete. -/
def done (t : Tree) : Builder := { frames := [], expect := .nothing, root := some t }

/-- What one more token does to a value that is under way: it stays under way, or it is complete, in
both cases in the same manner whatever is open around it. -/
inductive Moves (around b' around' : Builder) : Prop
  | on (opened : b'.Open) (same : around' = b'.within around)
  | done (t : Tree) (complete : b' = Builder.done t) (same : around' = around.deliver t)

theorem open_empty : ({} : Builder).Open where
  root := rfl
  bottom _ := .inl rfl

theorem moves_fail (root : b.root = none) : Moves around b.fail (b.within around).fail :=
  .on ⟨root, fun _ => .inr rfl⟩ (by simp [within, fail])

theorem moves_deliver (root : b.root = none) (outer : around.root = none) (t : Tree) :
    Moves around (b.deliver t) ((b.within around).deliver t) := by
  obtain ⟨frames, expect, value⟩ := b
  obtain rfl : value = none := root
  match frames with
  | [] =>
    refine .done t rfl ?_
    obtain ⟨frames, expect, value⟩ := around
    obtain rfl : value = none := outer
    match frames with
    | [] | .array _ :: _ | .object _ _ :: _ => rfl
  | .array _ :: _ | .object _ _ :: _ => exact .on ⟨rfl, nofun⟩ rfl

theorem moves_pushValue (root : b.root = none) (outer : around.root = none) (x : Token) :
    Moves around (b.pushValue x) ((b.within around).pushValue x) := by
  cases x with
  | leftBracket | leftBrace => exact .on ⟨root, nofun⟩ rfl
  | null | bool v | number v | text v => exact moves_deliver root outer _
  | _ => exact moves_fail root

theorem moves_close (root : b.root = none) (outer : around.root = none) (inside : b.frames ≠ [])
    (x : Token) : Moves around (b.close x) ((b.within around).close x) := by
  obtain ⟨frames, expect, value⟩ := b
  obtain rfl : value = none := root
  match frames with
  | .array items :: rest =>
    cases x with
    | rightBracket =>
      exact moves_deliver (b := { frames := rest, expect, root := none }) rfl outer _
    | _ => exact moves_fail rfl
  | .object members key :: rest =>
    cases x with
    | rightBrace =>
      exact moves_deliver (b := { frames := rest, expect, root := none }) rfl outer _
    | _ => exact moves_fail rfl

theorem moves_pushKey (root : b.root = none) (inside : b.frames ≠ []) (x : Token) :
    Moves around (b.pushKey x) ((b.within around).pushKey x) := by
  obtain ⟨frames, expect, value⟩ := b
  obtain rfl : value = none := root
  match frames with
  | .array items :: rest => cases x <;> exact moves_fail rfl
  | .object members key :: rest =>
    cases x with
    | text k => exact .on ⟨rfl, nofun⟩ rfl
    | _ => exact moves_fail rfl

theorem moves_separate (root : b.root = none) (inside : b.frames ≠ []) :
    Moves around b.separate (b.within around).separate := by
  obtain ⟨frames, expect, value⟩ := b
  obtain rfl : value = none := root
  match frames with
  | .array _ :: _ | .object _ _ :: _ => exact .on ⟨rfl, nofun⟩ rfl

/-- One more token. -/
theorem moves_push (h : b.Open) (outer : around.root = none) (x : Token) :
    Moves around (b.push x) ((b.within around).push x) := by
  obtain ⟨root, bottom⟩ := h
  obtain ⟨frames, expect, value⟩ := b
  have opened (h : expect ≠ .value) (h' : expect ≠ .never) : frames ≠ [] := fun none =>
    (bottom none).elim h h'
  cases expect with
  | value => exact moves_pushValue root outer x
  | valueOrEnd =>
    have begun := moves_pushValue root outer x
    cases x with
    | rightBracket => exact moves_close root outer (opened nofun nofun) .rightBracket
    | _ => exact begun
  | key => exact moves_pushKey root (opened nofun nofun) x
  | keyOrEnd =>
    have key : Moves around _ _ := moves_pushKey root (opened nofun nofun) x
    cases x with
    | rightBrace => exact moves_close root outer (opened nofun nofun) .rightBrace
    | _ => exact key
  | colon =>
    cases x with
    | colon => exact .on ⟨root, fun _ => .inl rfl⟩ rfl
    | _ => exact moves_fail root
  | commaOrEnd =>
    have closed := moves_close root outer (opened nofun nofun) x
    cases x with
    | comma => exact moves_separate root (opened nofun nofun)
    | _ => exact closed
  | nothing => cases x <;> exact moves_fail root
  | never => exact .on ⟨root, fun _ => .inr rfl⟩ rfl

/-- Nothing is read when the text has left the grammar. -/
theorem foldl_push_never (ts : List Token) (h : b.expect = .never) : ts.foldl push b = b := by
  obtain ⟨frames, expect, value⟩ := b
  obtain rfl : expect = .never := h
  induction ts with
  | nil => rfl
  | cons x ts ih => exact ih

/-- After a complete value nothing may stand. -/
theorem foldl_push_done (t : Tree) {ts : List Token} (some : ts ≠ []) :
    (ts.foldl push (done t)).expect = .never := by
  match ts with
  | x :: ts =>
    have next : (done t).push x = { done t with expect := .never } := by cases x <;> rfl
    rw [List.foldl_cons, next, foldl_push_never ts rfl]

/-- The tokens of a complete value build it wherever a value may stand. -/
theorem foldl_push_within (h : b.Open) (outer : around.root = none) {ts : List Token}
    (complete : ts.foldl push b = done t) : ts.foldl push (b.within around) = around.deliver t := by
  induction ts generalizing b with
  | nil =>
    obtain rfl : b = done t := complete
    cases h.root
  | cons x ts ih =>
    rw [List.foldl_cons] at complete ⊢
    cases moves_push h outer x with
    | on opened same =>
      rw [same]
      exact ih opened complete
    | done u here same =>
      rw [here] at complete
      rw [same]
      by_cases last : ts = []
      · subst last
        obtain rfl : u = t := Option.some.inj (congrArg Builder.root complete)
        rfl
      · have never := foldl_push_done u last
        rw [complete] at never
        cases never

/-- Where tokens lead: a value is under way, or it is complete, or the text has left the grammar. -/
inductive Reaches (b : Builder) : Prop
  | on (opened : b.Open)
  | done (t : Tree) (complete : b = Builder.done t)
  | beyond (never : b.expect = .never)

theorem reaches (ts : List Token) (h : b.Open) : Reaches (ts.foldl push b) := by
  induction ts generalizing b with
  | nil => exact .on h
  | cons x ts ih =>
    rw [List.foldl_cons]
    have moves : Moves {} (b.push x) ((b.within {}).push x) := moves_push h rfl x
    cases moves with
    | on opened => exact ih opened
    | done t complete =>
      rw [complete]
      by_cases last : ts = []
      · subst last
        exact .done t rfl
      · exact .beyond (foldl_push_done t last)

theorem push_malformed (b : Builder) : (b.push .malformed).expect = .never := by
  obtain ⟨frames, expect, value⟩ := b
  cases expect <;> rfl

end Builder

namespace Document

open Builder

variable {t : Tree} {ts : List Token}

/-- A document is complete when its tokens build one value, and nothing else. -/
theorem of_complete (h : ofTokens ts = { root := t, complete := true }) :
    ts.foldl push {} = done t := by
  have reached := reaches ts open_empty
  change (ts.foldl push {}).finish = _ at h
  generalize ts.foldl push {} = b at reached h
  cases reached with
  | on opened =>
    rw [finish, opened.root] at h
    cases congrArg complete h
  | done u here =>
    rw [here] at h ⊢
    exact congrArg done (congrArg root h)
  | beyond never =>
    have incomplete : b.finish.complete = false := by
      rw [finish]
      split
      · simp [never]
      · rfl
    rw [h] at incomplete
    cases incomplete

/-- A complete document has no token where the text left the grammar. -/
theorem malformed_notMem (h : ofTokens ts = { root := t, complete := true }) :
    .malformed ∉ ts := by
  intro mem
  obtain ⟨before, after, rfl⟩ := List.append_of_mem mem
  have complete := of_complete h
  rw [List.foldl_append, List.foldl_cons,
    foldl_push_never after (push_malformed _)] at complete
  have never := push_malformed (before.foldl push {})
  rw [complete] at never
  cases never

end Document

end ReactiveResource.Json
