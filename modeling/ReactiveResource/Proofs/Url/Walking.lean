import Mathlib.Data.List.Induction
import ReactiveResource.Url.Read

/-!
# Walks along segments

A path that is read segment by segment is a walk from folder to folder, which ends with the name of
something in the last folder. A walk ends inside the folder in which it began exactly if from some
point on it stands there and does not leave it any more.

* `walk`, `leading`, `lastName`: a walk, the segments that lead to a folder, and the name at its
  end;
* `pushSegments_eq`: a path with more segments, as a walk;
* `descend`: where segments lead below a folder, unless they leave it;
* `Returns`, `prefix_walk_iff`: the walks that end inside the folder in which they began.
-/

namespace ReactiveResource.Url

/-! ### Folders and names -/

/-- The folder to which segments lead. -/
def walk (folder : List String) (segments : List (List Char)) : List String :=
  segments.foldl pushSegment folder

/-- Whether a segment is dots. It leads to a folder even if it is the last one. -/
def isDots (segment : List Char) : Bool := isDotDot segment || isDot segment

/-- The segments that lead to a folder. -/
def leading : List (List Char) → List (List Char)
  | [] => []
  | [last] => if isDots last then [last] else []
  | segment :: next :: rest => segment :: leading (next :: rest)

/-- The name of what the segments end with. After dots there is an empty one. -/
def lastName : List (List Char) → String
  | [] => ""
  | [last] => if isDots last then "" else encodeSegment last
  | _ :: next :: rest => lastName (next :: rest)

variable {folder below : List String} {segment : List Char} {segments : List (List Char)}

theorem walk_append (folder : List String) (xs ys : List (List Char)) :
    walk folder (xs ++ ys) = walk (walk folder xs) ys := List.foldl_append

@[simp] theorem walk_singleton (folder : List String) (segment : List Char) :
    walk folder [segment] = pushSegment folder segment := rfl

theorem pushSegment_of_not_dots (path : List String) (h : isDots segment = false) :
    pushSegment path segment = path ++ [encodeSegment segment] := by
  obtain ⟨notTwo, notOne⟩ := Bool.or_eq_false_iff.1 h
  simp [pushSegment, notTwo, notOne]

theorem pushSegment_of_dotDot (path : List String) (h : isDotDot segment = true) :
    pushSegment path segment = shorten path := if_pos h

theorem endPath_eq (path : List String) (last : List Char) :
    endPath path last = walk path (leading [last]) ++ [lastName [last]] := by
  rw [endPath, leading, lastName]
  show (if isDots last = true then _ else _) = _
  split <;> rfl

/-- A path with more segments is a walk that ends with a name. -/
theorem pushSegments_eq (path : List String) (nonempty : segments ≠ []) :
    pushSegments path segments = walk path (leading segments) ++ [lastName segments] := by
  induction segments generalizing path with
  | nil => exact absurd rfl nonempty
  | cons segment rest ih =>
    cases rest with
    | nil => rw [pushSegments, endPath_eq]
    | cons next rest =>
      rw [pushSegments, ih _ nofun, leading, lastName]
      · rfl
      · exact nofun

/-! ### Walks that stay below a folder -/

/-- Where segments lead below a folder; none if they leave it on the way. -/
def descend (below : List String) : List (List Char) → Option (List String)
  | [] => some below
  | segment :: rest =>
    if isDotDot segment && below.isEmpty then none
    else descend (pushSegment below segment) rest

theorem descend_append (below : List String) (xs ys : List (List Char)) :
    descend below (xs ++ ys) = (descend below xs).bind (descend · ys) := by
  induction xs generalizing below with
  | nil => rfl
  | cons segment rest ih =>
    rw [List.cons_append, descend, descend]
    split
    · rfl
    · exact ih _

/-- Segments without two dots do not leave a folder. -/
theorem isSome_descend (forth : ∀ segment ∈ segments, isDotDot segment = false)
    (below : List String) : (descend below segments).isSome = true := by
  induction segments generalizing below with
  | nil => rfl
  | cons segment rest ih =>
    rw [descend, if_neg (by simp [forth segment List.mem_cons_self])]
    exact ih (fun s mem => forth s (List.mem_cons_of_mem _ mem)) _

theorem shorten_append (folder : List String) (nonempty : below ≠ []) :
    shorten (folder ++ below) = folder ++ shorten below := by
  obtain ⟨front, last, rfl⟩ := List.eq_nil_or_concat below |>.resolve_left nonempty
  rw [List.concat_eq_append, shorten, shorten, ← List.append_assoc]
  simp only [List.getLast?_concat, List.dropLast_concat]
  split <;> simp

theorem pushSegment_append (folder : List String)
    (stays : (isDotDot segment && below.isEmpty) = false) :
    pushSegment (folder ++ below) segment = folder ++ pushSegment below segment := by
  rw [pushSegment, pushSegment]
  split
  · next back =>
    refine shorten_append folder fun none => ?_
    simp [back, none] at stays
  · split <;> simp

/-- The folders below a folder are parts of the same walk. -/
theorem walk_of_descend (folder : List String) {place : List String}
    (h : descend below segments = some place) :
    walk (folder ++ below) segments = folder ++ place := by
  induction segments generalizing below with
  | nil =>
    cases h
    rfl
  | cons segment rest ih =>
    rw [descend] at h
    split at h
    · cases h
    · next stays =>
      rw [walk, List.foldl_cons, pushSegment_append folder (by simpa using stays)]
      exact ih h

theorem isPrefix_shorten (path : List String) : shorten path <+: path := by
  rw [shorten]
  split
  · split
    · exact List.prefix_rfl
    · exact List.dropLast_prefix path
  · exact List.prefix_rfl

/-! ### Walks that come back -/

/-- From some point on, a walk stands in the folder in which it began and does not leave it any
more. -/
def Returns (folder : List String) (segments : List (List Char)) : Prop :=
  ∃ before after, segments = before ++ after ∧ walk folder before = folder
    ∧ (descend [] after).isSome = true

theorem returns_of_forth (folder : List String)
    (forth : ∀ segment ∈ segments, isDotDot segment = false) : Returns folder segments :=
  ⟨[], segments, rfl, rfl, isSome_descend forth []⟩

/-- **A walk ends inside the folder in which it began exactly if it comes back to it for good**,
provided that two dots lead out of the folder. -/
theorem prefix_walk_iff (out : ¬ folder <+: shorten folder) :
    folder <+: walk folder segments ↔ Returns folder segments := by
  constructor
  · intro inside
    induction segments using List.reverseRecOn with
    | nil => exact ⟨[], [], rfl, rfl, rfl⟩
    | append_singleton segments last ih =>
      rw [walk_append, walk_singleton] at inside
      -- a walk that was inside before the last segment stays there unless that leads out
      have goesOn (was : folder <+: walk folder segments) :
          Returns folder (segments ++ [last]) := by
        obtain ⟨before, after, rfl, back, stays⟩ := ih was
        obtain ⟨place, stays⟩ := Option.isSome_iff_exists.1 stays
        refine ⟨before, after ++ [last], List.append_assoc .., back, ?_⟩
        rw [descend_append, stays, Option.bind_some, descend]
        split
        · next leaves =>
          obtain ⟨two, none⟩ := Bool.and_eq_true_iff.1 leaves
          have stood : walk folder (before ++ after) = folder := by
            have there := walk_of_descend folder stays
            rw [List.append_nil] at there
            rw [walk_append, back, there, List.isEmpty_iff.1 none, List.append_nil]
          rw [stood] at inside
          exact absurd (pushSegment_of_dotDot folder two ▸ inside) out
        · rfl
      cases two : isDotDot last with
      | true => exact goesOn ((pushSegment_of_dotDot _ two ▸ inside).trans (isPrefix_shorten _))
      | false =>
        cases one : isDot last with
        | true =>
          refine goesOn ?_
          rwa [pushSegment, two, one] at inside
        | false =>
          have pushed := pushSegment_of_not_dots (walk folder segments)
            (show isDots last = false by simp [isDots, two, one])
          rw [pushed, List.prefix_concat_iff] at inside
          rcases inside with same | was
          · refine ⟨segments ++ [last], [], (List.append_nil _).symm, ?_, rfl⟩
            rw [walk_append, walk_singleton, pushed, ← same]
          · exact goesOn was
  · rintro ⟨before, after, rfl, back, stays⟩
    obtain ⟨place, stays⟩ := Option.isSome_iff_exists.1 stays
    have there := walk_of_descend folder stays
    rw [List.append_nil] at there
    rw [walk_append, back, there]
    exact List.prefix_append folder place

end ReactiveResource.Url
