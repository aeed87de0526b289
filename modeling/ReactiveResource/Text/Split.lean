/-!
# Texts between separators

* `split`, `splitOn`: the texts between characters of a kind, or between those that are the same;
* `split_ne_nil`: there always is one, since there is one more than there are separators.
-/

namespace ReactiveResource.Text

/-- The texts between the characters that separate. -/
def split (separates : Char → Bool) : List Char → List (List Char)
  | [] => [[]]
  | c :: rest =>
    if separates c then [] :: split separates rest
    else
      match split separates rest with
      | [] => [[c]]
      | piece :: pieces => (c :: piece) :: pieces

/-- The texts between the places at which a character stands. -/
def splitOn (separator : Char) (cs : List Char) : List (List Char) := split (· == separator) cs

theorem split_ne_nil (separates : Char → Bool) (cs : List Char) : split separates cs ≠ [] := by
  cases cs with
  | nil => simp [split]
  | cons c rest =>
    rw [split]
    split
    · simp
    · split <;> simp

end ReactiveResource.Text
