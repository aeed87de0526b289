import Mathlib.Data.List.Nodup
import ReactiveResource.Keyed

/-!
# Maps by their values

The order of its keys leaves a map no choice, so that a map is known by the values of its keys.

* `Keyed.mem_iff_value?`, `Keyed.eq_of_value?`: the entries, and equality;
* `Keyed.value?_reverse_eq_some_iff`: the last entry of a key in a list;
* `Keyed.value?_ofList`, `Keyed.value?_filter`: the values of a map made of a list;
* `Keyed.value?_overlay_of_ascending`, `Keyed.overlay_overlay`: maps set over each other.
-/

namespace ReactiveResource.Keyed

variable {α : Type}

theorem nodup_keys {entries : Keyed α} (h : (keys entries).Pairwise (· < ·)) :
    (keys entries).Nodup :=
  h.imp fun {k l} lt same => by
    subst same
    exact String.lt_irrefl k lt

theorem mem_iff_value? {entries : Keyed α} (h : (keys entries).Pairwise (· < ·)) {key : String}
    {v : α} : (key, v) ∈ entries ↔ value? entries key = some v :=
  ⟨value?_of_mem h, mem_of_value?⟩

/-- A key has the value that is set over the others, or else the one it had. -/
theorem value?_overlay_of_ascending (base : Keyed α) {top : Keyed α}
    (h : (keys top).Pairwise (· < ·)) (key : String) :
    value? (overlay base top) key = (value? top key).or (value? base key) := by
  rw [value?_overlay, value?_reverse (nodup_keys h)]

theorem value?_eq_none_iff {entries : Keyed α} {key : String} :
    value? entries key = none ↔ ∀ e ∈ entries, e.1 ≠ key := by
  rw [← Option.not_isSome_iff_eq_none, ← mem_keys, keys, List.mem_map, not_exists]
  simp only [not_and, ne_eq]

/-- Maps with the same values are equal: the order of the keys leaves no choice. -/
theorem eq_of_value? {a b : Keyed α} (ha : (keys a).Pairwise (· < ·))
    (hb : (keys b).Pairwise (· < ·)) (same : ∀ key, value? a key = value? b key) : a = b := by
  have perm : a.Perm b := by
    have nodup {entries : Keyed α} (h : (keys entries).Pairwise (· < ·)) : entries.Nodup :=
      List.Nodup.of_map _ (nodup_keys h)
    refine (List.perm_ext_iff_of_nodup (nodup ha) (nodup hb)).2 ?_
    rintro ⟨key, v⟩
    rw [mem_iff_value? ha, mem_iff_value? hb, same]
  refine perm.eq_of_pairwise ?_ (List.pairwise_map.1 ha) (List.pairwise_map.1 hb)
  exact fun x y _ _ lt gt => absurd (String.lt_trans lt gt) (String.lt_irrefl _)

/-- Of several entries of a key in a list the last is the one that no other follows. -/
theorem value?_reverse_eq_some_iff {entries : List (String × α)} {key : String} {v : α} :
    value? entries.reverse key = some v
      ↔ ∃ first last, entries = first ++ (key, v) :: last ∧ ∀ e ∈ last, e.1 ≠ key := by
  have reversed (l : List (String × α)) :
      value? l.reverse key = none ↔ ∀ e ∈ l, e.1 ≠ key := by
    simp [value?_eq_none_iff]
  constructor
  · intro h
    induction entries with
    | nil => cases h
    | cons entry rest ih =>
      obtain ⟨k, w⟩ := entry
      rw [List.reverse_cons, value?_append] at h
      cases later : value? rest.reverse key with
      | some u =>
        rw [later] at h
        cases h
        obtain ⟨first, last, rfl, others⟩ := ih later
        exact ⟨(k, w) :: first, last, rfl, others⟩
      | none =>
        rw [later, Option.none_or] at h
        obtain ⟨rfl, rfl⟩ : k = key ∧ w = v := by simpa [value?] using h
        exact ⟨[], rest, rfl, (reversed rest).1 later⟩
  · rintro ⟨first, last, rfl, others⟩
    simp [value?_append, (reversed last).2 others, value?]

theorem value?_ofList (entries : List (String × α)) (key : String) :
    value? (ofList entries) key = value? entries.reverse key := by
  rw [ofList, value?_overlay]
  exact Option.or_none

theorem ascending_ofList (entries : List (String × α)) :
    (keys (ofList entries)).Pairwise (· < ·) :=
  ascending_overlay List.Pairwise.nil entries

theorem ofList_of_ascending {entries : Keyed α} (h : (keys entries).Pairwise (· < ·)) :
    ofList entries = entries := by
  refine eq_of_value? (ascending_ofList entries) h fun key => ?_
  rw [value?_ofList, value?_reverse (nodup_keys h)]

theorem mem_ofList {entries : List (String × α)} {key : String} {v : α} :
    (key, v) ∈ ofList entries ↔ value? entries.reverse key = some v := by
  rw [mem_iff_value? (ascending_ofList entries), value?_ofList]

/-- The entries that stay when the last one of a key wins are entries of the list. -/
theorem mem_of_mem_ofList {entries : List (String × α)} {e : String × α}
    (h : e ∈ ofList entries) : e ∈ entries :=
  List.mem_reverse.1 (mem_of_value? (mem_ofList.1 h))

/-- Entries set over others in two steps are set over them in one. -/
theorem overlay_overlay {a b c : Keyed α} (ha : (keys a).Pairwise (· < ·))
    (hb : (keys b).Pairwise (· < ·)) (hc : (keys c).Pairwise (· < ·)) :
    overlay (overlay a b) c = overlay a (overlay b c) := by
  refine eq_of_value? (ascending_overlay (ascending_overlay ha b) c)
    (ascending_overlay ha (overlay b c)) fun key => ?_
  simp only [value?_overlay_of_ascending _ hb, value?_overlay_of_ascending _ hc,
    value?_overlay_of_ascending _ (ascending_overlay hb c), Option.or_assoc]

theorem value?_filter (entries : Keyed α) (p : String → Bool) (key : String) :
    value? (entries.filter fun m => p m.1) key = if p key then value? entries key else none := by
  induction entries with
  | nil => simp [value?]
  | cons entry rest ih =>
    obtain ⟨k, v⟩ := entry
    rw [List.filter_cons]
    by_cases here : k = key
    · subst here
      by_cases keep : p k = true <;> simp [keep, value?, ih]
    · by_cases keep : p k = true <;> simp [keep, here, value?, ih]

end ReactiveResource.Keyed
