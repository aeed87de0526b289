/-!
# Values by key

A finite map from texts is the list of its entries by ascending key, one entry a key.

* `Keyed.value?`, `Keyed.has`: look-up;
* `Keyed.put`, `Keyed.overlay`, `Keyed.ofList`: one entry set, several set in turn, the last entry
  of a key winning.
-/

namespace ReactiveResource

/-- Entries by ascending key. -/
abbrev Keyed (α : Type) := List (String × α)

namespace Keyed

variable {α : Type}

/-- The value of a key. -/
def value? : Keyed α → String → Option α
  | [], _ => none
  | (k, v) :: rest, key => if k = key then some v else value? rest key

/-- Whether a key has a value. -/
def has (entries : Keyed α) (key : String) : Bool := (value? entries key).isSome

/-- The entries with one value set, in the place that the order of keys gives it. -/
def put : Keyed α → String → α → Keyed α
  | [], key, value => [(key, value)]
  | (k, v) :: rest, key, value =>
    if key < k then (key, value) :: (k, v) :: rest
    else if key = k then (key, value) :: rest
    else (k, v) :: put rest key value

/-- The entries of `base`, with those of `top` set over them in turn. -/
def overlay (base top : Keyed α) : Keyed α :=
  top.foldl (fun entries (k, v) => put entries k v) base

/-- The entries listed, the last one of a key winning. -/
def ofList (entries : List (String × α)) : Keyed α := overlay [] entries

/-- The keys, ascending. -/
def keys (entries : Keyed α) : List String := entries.map (·.1)

@[simp] theorem value?_put_self (entries : Keyed α) (key : String) (value : α) :
    value? (put entries key value) key = some value := by
  induction entries with
  | nil => simp [put, value?]
  | cons entry rest ih =>
    obtain ⟨k, v⟩ := entry
    by_cases hlt : key < k
    · simp [put, value?, hlt]
    · by_cases heq : key = k
      · subst heq; simp [put, value?]
      · simp [put, value?, hlt, heq, Ne.symm heq, ih]

theorem value?_put_of_ne (entries : Keyed α) {key other : String} (value : α)
    (h : key ≠ other) : value? (put entries key value) other = value? entries other := by
  induction entries with
  | nil => simp [put, value?, h]
  | cons entry rest ih =>
    obtain ⟨k, v⟩ := entry
    by_cases hlt : key < k
    · simp [put, value?, hlt, h]
    · by_cases heq : key = k
      · subst heq; simp [put, value?, h]
      · by_cases hk : k = other
        · subst hk; simp [put, value?, hlt, heq]
        · simp [put, value?, hlt, heq, hk, ih]

theorem mem_of_value? {entries : Keyed α} {key : String} {v : α}
    (h : value? entries key = some v) : (key, v) ∈ entries := by
  induction entries with
  | nil => cases h
  | cons x rest ih =>
    obtain ⟨k, w⟩ := x
    rw [value?] at h
    split at h
    · next hk =>
      cases h
      exact hk ▸ List.mem_cons_self
    · exact List.mem_cons_of_mem _ (ih h)

/-- A key has the value that is set for it, or the one it had. -/
theorem value?_put_eq_some {entries : Keyed α} {key other : String} {value v : α}
    (h : value? (put entries key value) other = some v) :
    key = other ∧ value = v ∨ key ≠ other ∧ value? entries other = some v := by
  by_cases hk : key = other
  · subst hk
    rw [value?_put_self, Option.some.injEq] at h
    exact .inl ⟨rfl, h⟩
  · rw [value?_put_of_ne _ _ hk] at h
    exact .inr ⟨hk, h⟩

theorem value?_append (xs ys : Keyed α) (key : String) :
    value? (xs ++ ys) key = (value? xs key).or (value? ys key) := by
  induction xs with
  | nil => rfl
  | cons entry rest ih =>
    obtain ⟨k, v⟩ := entry
    simp only [List.cons_append, value?]
    split
    · rfl
    · exact ih

theorem mem_keys {entries : Keyed α} {key : String} :
    key ∈ keys entries ↔ (value? entries key).isSome = true := by
  induction entries with
  | nil => simp [keys, value?]
  | cons entry rest ih =>
    obtain ⟨k, v⟩ := entry
    simp only [keys, List.map_cons, List.mem_cons, value?]
    split
    · next hk => simp [hk]
    · next hk =>
      rw [← ih, or_iff_right (Ne.symm hk)]
      rfl

/-- If keys have one entry, the last entry of a key is the first. -/
theorem value?_reverse {entries : Keyed α} (once : (keys entries).Nodup) (key : String) :
    value? entries.reverse key = value? entries key := by
  induction entries with
  | nil => rfl
  | cons entry rest ih =>
    obtain ⟨k, v⟩ := entry
    obtain ⟨new, once⟩ := List.nodup_cons.1 once
    rw [List.reverse_cons, value?_append, ih once]
    simp only [value?]
    split
    · next hk =>
      have none : value? rest key = none := by
        rw [← hk, ← Option.not_isSome_iff_eq_none, ← mem_keys]
        exact new
      rw [none]
      rfl
    · exact Option.or_none

/-- A key has the value that is set for it last, or the one it had. -/
theorem value?_overlay (base top : Keyed α) (key : String) :
    value? (overlay base top) key = (value? top.reverse key).or (value? base key) := by
  induction top generalizing base with
  | nil => rfl
  | cons entry rest ih =>
    obtain ⟨k, v⟩ := entry
    rw [overlay, List.foldl_cons, ← overlay, ih, List.reverse_cons, value?_append, Option.or_assoc]
    congr 1
    by_cases hk : k = key
    · subst hk
      simp [value?]
    · simp [value?, hk, value?_put_of_ne]

/-- The keys stay in order when a value is set. -/
theorem ascending_put {entries : Keyed α} (ascending : (keys entries).Pairwise (· < ·))
    (key : String) (value : α) : (keys (put entries key value)).Pairwise (· < ·) := by
  induction entries with
  | nil => simp [put, keys]
  | cons entry rest ih =>
    obtain ⟨k, v⟩ := entry
    have first : ∀ l ∈ keys rest, k < l := (List.pairwise_cons.1 ascending).1
    have ascends : (keys rest).Pairwise (· < ·) := (List.pairwise_cons.1 ascending).2
    simp only [put]
    split
    · next hlt =>
      refine List.pairwise_cons.2 ⟨?_, ascending⟩
      intro l hl
      rcases List.mem_cons.1 hl with rfl | hl
      · exact hlt
      · exact String.lt_trans hlt (first l hl)
    · next hlt =>
      split
      · next heq =>
        subst heq
        exact ascending
      · next hne =>
        refine List.pairwise_cons.2 ⟨?_, ih ascends⟩
        intro l hl
        obtain ⟨w, hw⟩ := Option.isSome_iff_exists.1 (mem_keys.1 hl)
        rcases value?_put_eq_some hw with ⟨rfl, -⟩ | ⟨-, hw⟩
        · exact Decidable.byContradiction fun not =>
            hne (String.le_antisymm (String.not_lt.1 not) (String.not_lt.1 hlt))
        · exact first l (mem_keys.2 (by simp [hw]))

theorem ascending_overlay {base : Keyed α} (ascending : (keys base).Pairwise (· < ·))
    (top : Keyed α) : (keys (overlay base top)).Pairwise (· < ·) := by
  induction top generalizing base with
  | nil => exact ascending
  | cons entry rest ih => exact ih (ascending_put ascending entry.1 entry.2)

theorem value?_of_mem {entries : Keyed α} (ascending : (keys entries).Pairwise (· < ·))
    {key : String} {v : α} (mem : (key, v) ∈ entries) : value? entries key = some v := by
  induction entries with
  | nil => cases mem
  | cons entry rest ih =>
    obtain ⟨k, w⟩ := entry
    have first : ∀ l ∈ keys rest, k < l := (List.pairwise_cons.1 ascending).1
    rcases List.mem_cons.1 mem with same | mem
    · cases same
      rw [value?, if_pos rfl]
    · have hlt : k < key := first key (List.mem_map_of_mem mem)
      rw [value?, if_neg fun heq : k = key => String.lt_irrefl key (heq ▸ hlt)]
      exact ih (List.pairwise_cons.1 ascending).2 mem

/-- Keys have values of their own, also when a value that is new is set. -/
theorem distinct_put {entries : Keyed α} {key : String} {value : α}
    (distinct : ∀ {k l v}, value? entries k = some v → value? entries l = some v → k = l)
    (new : ∀ k, value? entries k ≠ some value) {k l : String} {v : α}
    (hk : value? (put entries key value) k = some v)
    (hl : value? (put entries key value) l = some v) : k = l := by
  rcases value?_put_eq_some hk with ⟨rfl, rfl⟩ | ⟨-, hk⟩ <;>
    rcases value?_put_eq_some hl with ⟨rfl, hv⟩ | ⟨-, hl⟩
  · rfl
  · exact absurd hl (new l)
  · exact absurd (hv ▸ hk) (new k)
  · exact distinct hk hl

end Keyed

end ReactiveResource
