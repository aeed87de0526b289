import Mathlib.Data.Char
import Mathlib.Tactic.SplitIfs

/-!
# The order of texts

Texts are ordered by their characters, and characters by their numbers. The octets that encode a
text in UTF-8 keep this order, so that the keys of a map ascend octet by octet as well.

* `octets`: the octets of a text;
* `utf8_lt_utf8`: the octets of two characters, whatever follows them;
* `octets_lt_octets_iff`: the order of texts is that of their octets;
* `prefix_of_octets`: a text begins with the characters with whose octets it begins.
-/

namespace ReactiveResource.Text

/-- The octets that encode a text. -/
def octets (s : String) : List UInt8 := s.toUTF8.data.toList

theorem octets_eq_flatMap (s : String) : octets s = s.toList.flatMap String.utf8EncodeChar := by
  rw [octets, String.toUTF8_eq_toByteArray, ← String.utf8Encode_toList, List.utf8Encode,
    List.data_toByteArray]

theorem octet_cons_lt_cons_iff {a b : Nat} (ha : a < 256) (hb : b < 256) {xs ys : List UInt8} :
    UInt8.ofNat a :: xs < UInt8.ofNat b :: ys ↔ a < b ∨ a = b ∧ xs < ys := by
  rw [List.cons_lt_cons_iff, UInt8.lt_iff_toNat_lt, ← UInt8.toNat_inj, UInt8.toNat_ofNat',
    UInt8.toNat_ofNat', Nat.mod_eq_of_lt ha, Nat.mod_eq_of_lt hb]

/-- The octets of a character tell where it stands. Characters with more octets begin with a greater
one, and those with equally many carry the digits of their numbers. -/
theorem utf8_lt_utf8 {c d : Char} (h : c < d) (xs ys : List UInt8) :
    String.utf8EncodeChar c ++ xs < String.utf8EncodeChar d ++ ys := by
  have lt : c.val.toNat < d.val.toNat := h
  have bound : d.val.toNat < 0x110000 := by
    have valid := d.valid
    simp only [UInt32.isValidChar, Nat.isValidChar] at valid
    omega
  -- the digits to the base 64
  have second (n : Nat) : n / 4096 = n / 64 / 64 := by omega
  have third (n : Nat) : n / 262144 = n / 64 / 64 / 64 := by omega
  simp only [String.utf8EncodeChar, second, third]
  generalize c.val.toNat = v at *
  generalize d.val.toNat = w at *
  split_ifs
  all_goals
    simp (disch := omega) only [List.cons_append, List.nil_append, octet_cons_lt_cons_iff]
    omega

theorem flatMap_utf8_lt {s t : List Char} (h : s < t) :
    s.flatMap String.utf8EncodeChar < t.flatMap String.utf8EncodeChar := by
  induction h with
  | @nil c rest =>
    rw [List.flatMap_nil, List.flatMap_cons]
    cases encoded : String.utf8EncodeChar c with
    | nil => exact absurd encoded String.utf8EncodeChar_ne_nil
    | cons b more => exact List.nil_lt_cons b _
  | rel before => exact utf8_lt_utf8 before _ _
  | cons _ ih => exact List.append_left_lt ih

/-- **The order of texts is that of their octets.** -/
theorem octets_lt_octets_iff {s t : String} : octets s < octets t ↔ s < t := by
  have mono {s t : String} (h : s < t) : octets s < octets t := by
    rw [octets_eq_flatMap, octets_eq_flatMap]
    exact flatMap_utf8_lt h
  refine ⟨fun h => Decidable.byContradiction fun not => ?_, mono⟩
  by_cases before : t < s
  · exact List.lt_asymm h (mono before)
  · rw [String.le_antisymm (String.not_lt.1 before) (String.not_lt.1 not)] at h
    exact List.lt_irrefl _ h

theorem length_octets (s : String) : (octets s).length = s.utf8ByteSize := rfl

/-- The octets of a character are not those of another one, whatever follows them. -/
theorem eq_of_utf8_append {c d : Char} {xs ys : List UInt8}
    (h : String.utf8EncodeChar c ++ xs = String.utf8EncodeChar d ++ ys) : c = d := by
  rcases lt_trichotomy c d with before | same | after
  · exact absurd (utf8_lt_utf8 before xs ys) (h ▸ List.lt_irrefl _)
  · exact same
  · exact absurd (utf8_lt_utf8 after ys xs) (h ▸ List.lt_irrefl _)

/-- **A text begins with the characters with whose octets it begins.** -/
theorem prefix_of_octets {s t : List Char}
    (h : s.flatMap String.utf8EncodeChar <+: t.flatMap String.utf8EncodeChar) : s <+: t := by
  induction s generalizing t with
  | nil => exact List.nil_prefix
  | cons c s ih =>
    obtain ⟨more, same⟩ := h
    rw [List.flatMap_cons, List.append_assoc] at same
    cases t with
    | nil =>
      have empty := (List.append_eq_nil_iff.1 same).1
      exact absurd empty String.utf8EncodeChar_ne_nil
    | cons d t =>
      rw [List.flatMap_cons] at same
      obtain rfl := eq_of_utf8_append same
      exact List.cons_prefix_cons.2 ⟨rfl, ih ⟨more, List.append_cancel_left same⟩⟩

end ReactiveResource.Text
