/-!
# Loops that may fail

A loop whose steps may fail stops at the first step that does; if it succeeds, all its steps have.

* `foldlM_cons_ok`, `foldlM_append_ok`, `foldlM_ok`: a loop that succeeds;
* `foldlM_error_iff`: a loop that fails.
-/

namespace ReactiveResource

variable {σ β ε : Type} {f : σ → β → Except ε σ} {xs ys : List β} {s s' : σ}

theorem foldlM_cons_ok {x : β} (h : (x :: xs).foldlM f s = .ok s') :
    ∃ middle, f s x = .ok middle ∧ xs.foldlM f middle = .ok s' := by
  rw [List.foldlM_cons] at h
  cases hm : f s x with
  | error e => rw [hm] at h; cases h
  | ok middle =>
    rw [hm] at h
    exact ⟨middle, rfl, h⟩

/-- A loop that succeeds does so up to any place, and from there on. -/
theorem foldlM_append_ok (h : (xs ++ ys).foldlM f s = .ok s') :
    ∃ middle, xs.foldlM f s = .ok middle ∧ ys.foldlM f middle = .ok s' := by
  rw [List.foldlM_append] at h
  cases hm : xs.foldlM f s with
  | error e => rw [hm] at h; cases h
  | ok middle =>
    rw [hm] at h
    exact ⟨middle, rfl, h⟩

/-- What holds before a loop that succeeds, and is kept by its steps, holds after it. -/
theorem foldlM_ok {P : σ → Prop} (step : ∀ s x s', x ∈ xs → P s → f s x = .ok s' → P s')
    (start : P s) (h : xs.foldlM f s = .ok s') : P s' := by
  induction xs generalizing s with
  | nil =>
    cases h
    exact start
  | cons x rest ih =>
    obtain ⟨middle, hx, hr⟩ := foldlM_cons_ok h
    exact ih (fun s y s' hy => step s y s' (List.mem_cons_of_mem x hy))
      (step s x middle List.mem_cons_self start hx) hr

/-- A loop fails at the first step that does. -/
theorem foldlM_error_iff {e : ε} : xs.foldlM f s = .error e ↔
    ∃ before x later middle, xs = before ++ x :: later ∧ before.foldlM f s = .ok middle ∧
      f middle x = .error e := by
  constructor
  · intro h
    induction xs generalizing s with
    | nil => cases h
    | cons x rest ih =>
      rw [List.foldlM_cons] at h
      cases hx : f s x with
      | error e' =>
        rw [hx] at h
        cases h
        exact ⟨[], x, rest, s, rfl, rfl, hx⟩
      | ok next =>
        rw [hx] at h
        obtain ⟨before, y, later, middle, rfl, taken, refused⟩ := ih h
        refine ⟨x :: before, y, later, middle, rfl, ?_, refused⟩
        rw [List.foldlM_cons, hx]
        exact taken
  · rintro ⟨before, x, later, middle, rfl, taken, refused⟩
    rw [List.foldlM_append, taken]
    show (x :: later).foldlM f middle = .error e
    rw [List.foldlM_cons, refused]
    rfl

end ReactiveResource
