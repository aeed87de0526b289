/-!
# Places in a list

What stands where in a list after a small change.

* `getElem?_concat_eq_some_iff`, `concat_eq_append_cons_iff`: one more item has come to its end;
* `getElem?_of_set`: one of its items has been replaced.
-/

namespace ReactiveResource

variable {α : Type} {l : List α} {x y : α}

theorem getElem?_concat_eq_some_iff {n : Nat} :
    (l ++ [x])[n]? = some y ↔ l[n]? = some y ∨ n = l.length ∧ x = y := by
  rw [List.getElem?_append]
  split
  · next inside => simp [Nat.ne_of_lt inside]
  · next outside =>
    have beyond : l[n]? = none := List.getElem?_eq_none (Nat.le_of_not_lt outside)
    rw [List.getElem?_singleton, beyond]
    by_cases last : n = l.length
    · simp [last]
    · have : n - l.length ≠ 0 := by omega
      simp [this, last]

/-- An item of such a list is the last one, or it has its place before. -/
theorem concat_eq_append_cons_iff {before after : List α} :
    l ++ [x] = before ++ y :: after
      ↔ l = before ∧ x = y ∧ after = []
        ∨ ∃ rest, after = rest ++ [x] ∧ l = before ++ y :: rest := by
  constructor
  · intro split
    rcases List.eq_nil_or_concat after with rfl | ⟨rest, last, rfl⟩
    · obtain ⟨rfl, same⟩ := List.append_inj' split rfl
      exact .inl ⟨rfl, List.singleton_inj.1 same, rfl⟩
    · rw [List.concat_eq_append, ← List.cons_append, ← List.append_assoc] at split
      obtain ⟨rfl, same⟩ := List.append_inj' split rfl
      obtain rfl := List.singleton_inj.1 same
      exact .inr ⟨rest, List.concat_eq_append, rfl⟩
  · rintro (⟨rfl, rfl, rfl⟩ | ⟨rest, rfl, rfl⟩)
    · rfl
    · simp

/-- Where another item stands than the one that was put in, nothing has been replaced. -/
theorem getElem?_of_set {n k : Nat} (h : (l.set n x)[k]? = some y) (other : x ≠ y) :
    n ≠ k ∧ l[k]? = some y := by
  rw [List.getElem?_set] at h
  split at h
  · split at h
    · exact absurd (Option.some.inj h) other
    · cases h
  · next apart => exact ⟨apart, h⟩

end ReactiveResource
