import Mathlib.Algebra.Group.Int.Defs
import Mathlib.Algebra.Group.Nat.Defs
import Mathlib.Data.List.TakeWhile
import ReactiveResource.Proofs.Json.Lexing

/-!
# The text of integers

An integer that a 64-bit word holds, with or without sign, is written in decimal digits, without a
leading zero, and what is written is read as this integer.

* `Fits`: the integers that are read as such;
* `numberOf?_digits`, `numberOf?_minus`: the value of an integer's characters;
* `tokens_toString`: the token of an integer's text.
-/

namespace ReactiveResource.Json

/-- A 64-bit word holds the integer, with or without sign. -/
def Fits (n : Int) : Prop := -(2 ^ 63 : Int) ≤ n ∧ n < 2 ^ 64

section Digits

variable {ds : List Char} {m : Nat}

theorem natOfDigits_toDigits (m : Nat) : natOfDigits (Nat.toDigits 10 m) = m := by
  rw [natOfDigits, ← Nat.ofDigitChars_eq_foldl]
  exact Nat.ofDigitChars_toDigits (by decide) (by decide)

theorem isDigit_of_mem_toDigits {c : Char} (h : c ∈ Nat.toDigits 10 m) : c.isDigit = true :=
  Nat.isDigit_of_mem_toDigits (by decide) (by decide) h

/-- A number that is not zero has no leading zero. -/
theorem head?_toDigits_ne_zero (h : 0 < m) : (Nat.toDigits 10 m).head? ≠ some '0' := by
  induction m using Nat.strongRecOn with
  | ind m ih =>
    rw [Nat.toDigits_eq_if (by decide)]
    split
    · next small =>
      have digits : ∀ k < 10, 0 < k → [k.digitChar].head? ≠ some '0' := by decide
      exact digits m small h
    · next large =>
      have before := ih (m / 10) (by omega) (by omega)
      obtain ⟨d, rest, digits⟩ :=
        List.exists_cons_of_ne_nil (Nat.toDigits_ne_nil (n := m / 10) (b := 10))
      rw [digits] at before ⊢
      exact before

/-- The first digit and the others: a leading zero stands alone. -/
theorem exists_toDigits_eq (m : Nat) :
    ∃ d rest, Nat.toDigits 10 m = d :: rest ∧ d.isDigit = true
      ∧ (∀ c ∈ rest, c.isDigit = true) ∧ (d = '0' → m = 0 ∧ rest = []) := by
  obtain ⟨d, rest, digits⟩ := List.exists_cons_of_ne_nil (Nat.toDigits_ne_nil (n := m) (b := 10))
  have all : ∀ c ∈ d :: rest, c.isDigit = true := fun c hc =>
    isDigit_of_mem_toDigits (digits ▸ hc)
  refine ⟨d, rest, digits, all d List.mem_cons_self, fun c hc => all c (.tail _ hc), ?_⟩
  rintro rfl
  rcases Nat.eq_zero_or_pos m with rfl | positive
  · exact ⟨rfl, (List.cons.inj digits).2.symm⟩
  · exact absurd (congrArg List.head? digits) (head?_toDigits_ne_zero positive)

/-! ### The value -/

theorem numberOf?_digits (digits : ∀ c ∈ ds, c.isDigit = true)
    (fits : natOfDigits ds < UInt64.size) : numberOf? ds = some (.int (natOfDigits ds)) := by
  have unsigned : ds.head? ≠ some '-' := fun minus =>
    absurd (digits '-' (List.mem_of_head? minus)) (by decide)
  have whole : ds.takeWhile Char.isDigit = ds := List.takeWhile_eq_self_iff.2 digits
  have rest : ds.dropWhile Char.isDigit = [] := List.dropWhile_eq_nil_iff.2 digits
  simp [numberOf?, unsigned, whole, rest, fits]

theorem numberOf?_minus (digits : ∀ c ∈ ds, c.isDigit = true) (positive : 0 < natOfDigits ds)
    (fits : natOfDigits ds ≤ 2 ^ 63) : numberOf? ('-' :: ds) = some (.int (-natOfDigits ds)) := by
  have whole : ds.takeWhile Char.isDigit = ds := List.takeWhile_eq_self_iff.2 digits
  have rest : ds.dropWhile Char.isDigit = [] := List.dropWhile_eq_nil_iff.2 digits
  have fits' : natOfDigits ds ≤ Nat.pow 2 63 := fits
  simp [numberOf?, whole, rest, positive, fits']

/-! ### The token -/

theorem foldl_push_digits (digits : ∀ c ∈ ds, c.isDigit = true) (chars : List Char)
    (before : List Token) :
    ds.foldl Lexer.push { scan := .number .whole chars, tokens := before }
      = { scan := .number .whole (ds.reverse ++ chars), tokens := before } := by
  induction ds generalizing chars with
  | nil => rfl
  | cons d ds ih =>
    have digit : d.isDigit = true := digits d List.mem_cons_self
    have next : Lexer.push { scan := .number .whole chars, tokens := before } d
        = { scan := .number .whole (d :: chars), tokens := before } := by
      simp [Lexer.push, NumberPhase.next?, digit]
    rw [List.foldl_cons, next, ih fun c hc => digits c (.tail _ hc), List.reverse_cons,
      List.append_assoc]
    rfl

/-- Where a number may end, it is the token of its characters. -/
theorem tokens_of_number {cs chars : List Char} {phase : NumberPhase}
    (scan : cs.foldl Lexer.push {} = { scan := .number phase chars, tokens := [] })
    (complete : phase.isComplete = true) : tokens cs = [.number (numberOf? chars.reverse)] := by
  rw [tokens, scan, Lexer.finish]
  dsimp only
  rw [if_pos complete]
  rfl

theorem begin_digit {d : Char} (digit : d.isDigit = true) (zero : d ≠ '0') :
    ({} : Lexer).begin d = { scan := .number .whole [d], tokens := [] } := by
  unfold Lexer.begin
  split
  all_goals first | exact absurd digit (by decide) | exact absurd rfl zero | skip
  rw [if_pos digit]

theorem tokens_toDigits (m : Nat) :
    tokens (Nat.toDigits 10 m) = [.number (numberOf? (Nat.toDigits 10 m))] := by
  obtain ⟨d, rest, digits, digit, others, zero⟩ := exists_toDigits_eq m
  by_cases leading : d = '0'
  · obtain ⟨rfl, -⟩ := zero leading
    rfl
  · have scan : (d :: rest).foldl Lexer.push {}
        = { scan := .number .whole (rest.reverse ++ [d]), tokens := [] } := by
      rw [List.foldl_cons]
      show rest.foldl Lexer.push (({} : Lexer).begin d) = _
      rw [begin_digit digit leading, foldl_push_digits others]
    rw [digits, tokens_of_number scan rfl]
    simp

theorem tokens_minus_toDigits (positive : 0 < m) :
    tokens ('-' :: Nat.toDigits 10 m) = [.number (numberOf? ('-' :: Nat.toDigits 10 m))] := by
  obtain ⟨d, rest, digits, digit, others, zero⟩ := exists_toDigits_eq m
  have leading : d ≠ '0' := fun leading => by
    have none : m = 0 := (zero leading).1
    omega
  have first : Lexer.push { scan := .number .sign ['-'], tokens := [] } d
      = { scan := .number .whole [d, '-'], tokens := [] } := by
    simp [Lexer.push, NumberPhase.next?, leading, digit]
  have scan : ('-' :: d :: rest).foldl Lexer.push {}
      = { scan := .number .whole (rest.reverse ++ [d, '-']), tokens := [] } := by
    rw [List.foldl_cons]
    show (d :: rest).foldl Lexer.push { scan := .number .sign ['-'], tokens := [] } = _
    rw [List.foldl_cons, first, foldl_push_digits others]
  rw [digits, tokens_of_number scan rfl]
  simp

end Digits

/-- **An integer's text is read as the integer.** -/
theorem tokens_toString {n : Int} (fits : Fits n) :
    tokens (toString n).toList = [.number (some (.int n))] := by
  obtain ⟨least, greatest⟩ := fits
  show tokens n.repr.toList = _
  rw [Int.repr_eq_if]
  split
  · next natural =>
    rw [Nat.repr_eq_ofList_toDigits, String.toList_ofList, tokens_toDigits,
      numberOf?_digits fun c hc => isDigit_of_mem_toDigits hc]
    · rw [natOfDigits_toDigits, Int.toNat_of_nonneg natural]
    · rw [natOfDigits_toDigits]
      show n.toNat < 2 ^ 64
      omega
  · next negative =>
    have positive : 0 < (-n).toNat := by omega
    have chars : ("-" ++ (-n).toNat.repr).toList = '-' :: Nat.toDigits 10 (-n).toNat := by
      simp [Nat.repr_eq_ofList_toDigits]
    rw [chars, tokens_minus_toDigits positive,
      numberOf?_minus fun c hc => isDigit_of_mem_toDigits hc]
    · rw [natOfDigits_toDigits]
      congr 4
      omega
    · rwa [natOfDigits_toDigits]
    · rw [natOfDigits_toDigits]
      omega

end ReactiveResource.Json
