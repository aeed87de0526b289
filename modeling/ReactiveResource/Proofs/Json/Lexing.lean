import ReactiveResource.Json.Printer
import ReactiveResource.Json.Token

/-!
# Text cut into tokens

What a character does depends on what is under way only, not on the tokens before it. A text can
therefore be cut where nothing is under way, and each part is read on its own.

* `Lexer.foldl_push_onto`: the tokens before do not matter;
* `Lexes`: characters that are read as tokens, from between two tokens to between two tokens;
* `lexes_printText`: a text in quotes is read as that text;
* `lexes_ended`: a text, and a character after which nothing of it is under way.
-/

namespace ReactiveResource.Json

namespace Lexer

/-- The lexer with other tokens before its own. -/
def onto (l : Lexer) (before : List Token) : Lexer :=
  { l with tokens := l.tokens ++ before }

@[simp] theorem onto_scan (l : Lexer) (before : List Token) : (l.onto before).scan = l.scan := rfl

theorem begin_onto (l : Lexer) (before : List Token) (c : Char) :
    (l.onto before).begin c = (l.begin c).onto before := by
  unfold begin
  split
  all_goals first | rfl | (split <;> rfl)

theorem textUnit_onto (l : Lexer) (before : List Token) (chars : List Char) (high : Option Nat)
    (valid : Bool) (unit : Nat) :
    (l.onto before).textUnit chars high valid unit
      = (l.textUnit chars high valid unit).onto before := by
  unfold textUnit
  split
  · split <;> rfl
  · split
    · rfl
    · split <;> rfl

theorem emit_onto (l : Lexer) (before : List Token) (t : Token) :
    (l.onto before).emit t = (l.emit t).onto before := rfl

theorem push_onto (l : Lexer) (before : List Token) (c : Char) :
    (l.onto before).push c = (l.push c).onto before := by
  obtain ⟨scan, tokens⟩ := l
  unfold push
  dsimp only [onto_scan]
  cases scan with
  | idle => exact begin_onto _ before c
  | stopped => rfl
  | number phase chars =>
    dsimp only
    split
    · rfl
    · split
      · rw [emit_onto, begin_onto]
      · rfl
  | word rest token =>
    match rest with
    | [] => rfl
    | [d] | d :: _ :: _ =>
      dsimp only
      split <;> rfl
  | text phase chars high valid =>
    cases phase with
    | plain =>
      dsimp only
      split
      · rfl
      · split
        · rfl
        · split <;> rfl
    | escape =>
      dsimp only
      split
      · rfl
      · split <;> rfl
    | digits count value =>
      dsimp only
      split
      · rfl
      · split
        · exact textUnit_onto _ before _ _ _ _
        · rfl

theorem foldl_push_onto (cs : List Char) (l : Lexer) (before : List Token) :
    cs.foldl push (l.onto before) = (cs.foldl push l).onto before := by
  induction cs generalizing l with
  | nil => rfl
  | cons c cs ih => rw [List.foldl_cons, List.foldl_cons, push_onto, ih]

end Lexer

/-- The characters are read as the tokens: nothing is under way before them, and nothing after
them. -/
def Lexes (cs : List Char) (ts : List Token) : Prop :=
  cs.foldl Lexer.push {} = { scan := .idle, tokens := ts.reverse }

section Lexes

variable {cs ds : List Char} {ts us : List Token}

theorem Lexes.append (h : Lexes cs ts) (h' : Lexes ds us) : Lexes (cs ++ ds) (ts ++ us) := by
  have onto : (Lexer.mk .idle ts.reverse) = ({} : Lexer).onto ts.reverse := rfl
  rw [Lexes, List.foldl_append, h, onto, Lexer.foldl_push_onto, h', List.reverse_append]
  rfl

theorem Lexes.tokens_eq (h : Lexes cs ts) : tokens cs = ts := by
  rw [tokens, h]
  exact List.reverse_reverse ts

theorem hexDigit?_digitChar : ∀ n < 16, Lexer.hexDigit? (Nat.digitChar n) = some n := by decide

/-- An escape by number gives the character back. -/
theorem foldl_printChar_control {c : Char} (h : c.toNat < 0x20) (chars : List Char)
    (before : List Token) :
    ['\\', 'u', '0', '0', if c.toNat < 0x10 then '0' else '1',
        Nat.digitChar (c.toNat % 16)].foldl Lexer.push
        { scan := .text .plain chars none true, tokens := before }
      = { scan := .text .plain (c :: chars) none true, tokens := before } := by
  have last := hexDigit?_digitChar (c.toNat % 16) (Nat.mod_lt _ (by decide))
  have unit (high : Nat) (same : 16 * high + c.toNat % 16 = c.toNat) :
      Lexer.push { scan := .text (.digits 3 high) chars none true, tokens := before }
          (Nat.digitChar (c.toNat % 16))
        = { scan := .text .plain (c :: chars) none true, tokens := before } := by
    unfold Lexer.push
    dsimp only
    rw [last]
    dsimp only
    rw [if_pos rfl, same, Lexer.textUnit]
    dsimp only
    rw [if_neg (by omega), if_neg (by omega), Char.ofNat_toNat]
  by_cases low : c.toNat < 0x10
  · rw [if_pos low]
    exact unit 0 (by omega)
  · rw [if_neg low]
    exact unit 1 (by omega)

/-- A character inside quotes is read as that character. -/
theorem foldl_printChar (c : Char) (chars : List Char) (before : List Token) :
    (printChar c).foldl Lexer.push { scan := .text .plain chars none true, tokens := before }
      = { scan := .text .plain (c :: chars) none true, tokens := before } := by
  unfold printChar
  split
  · next h => subst h; rfl
  split
  · next h => subst h; rfl
  split
  · next h => subst h; rfl
  split
  · next h => subst h; rfl
  split
  · next h => subst h; rfl
  split
  · next h => subst h; rfl
  split
  · next h => subst h; rfl
  split
  · next h => exact foldl_printChar_control h chars before
  · next quote slash _ _ _ _ _ control =>
    rw [List.foldl_cons, List.foldl_nil]
    unfold Lexer.push
    dsimp only
    rw [if_neg quote, if_neg slash, if_neg control]
    rfl

theorem foldl_printChars (cs chars : List Char) (before : List Token) :
    (cs.flatMap printChar).foldl Lexer.push
        { scan := .text .plain chars none true, tokens := before }
      = { scan := .text .plain (cs.reverse ++ chars) none true, tokens := before } := by
  induction cs generalizing chars with
  | nil => rfl
  | cons c cs ih =>
    rw [List.flatMap_cons, List.foldl_append, foldl_printChar, ih, List.reverse_cons,
      List.append_assoc]
    rfl

/-- A text in quotes is read as that text. -/
theorem lexes_printText (s : String) : Lexes (printText s).toList [.text (some s)] := by
  have start : ({} : Lexer).push '"' = { scan := .text .plain [] none true, tokens := [] } := rfl
  rw [Lexes, printText, String.toList_ofList, List.cons_append, List.foldl_cons, start,
    List.foldl_append, foldl_printChars]
  show Lexer.mk .idle [.text (some (String.ofList (s.toList.reverse ++ []).reverse))] = _
  rw [List.append_nil, List.reverse_reverse, String.ofList_toList]
  rfl

end Lexes

/-! ### The end of a text -/

/-- A character that ends whatever stands before it, and its tokens. -/
inductive Ends : Char → List Token → Prop
  | comma : Ends ',' [.comma]
  | brace : Ends '}' [.rightBrace]
  | bracket : Ends ']' [.rightBracket]
  | line : Ends '\n' []

theorem Ends.begin {c : Char} {ts : List Token} (h : Ends c ts) {l : Lexer}
    (idle : l.scan = .idle) : l.begin c = { scan := .idle, tokens := ts.reverse ++ l.tokens } := by
  obtain ⟨scan, tokens⟩ := l
  cases idle
  cases h <;> rfl

theorem Ends.next? {c : Char} {ts : List Token} (h : Ends c ts) (p : NumberPhase) :
    p.next? c = none := by
  cases h <;> cases p <;> decide

theorem Ends.endsBefore {c : Char} {ts : List Token} (h : Ends c ts) {p : NumberPhase}
    (complete : p.isComplete = true) : p.endsBefore c = true := by
  cases h <;> cases p <;> first | rfl | cases complete

namespace Lexer

/-- Where the text left the grammar, there is a token that says so. -/
def Marked (l : Lexer) : Prop := l.scan = .stopped → .malformed ∈ l.tokens

theorem marked_stop (l : Lexer) : l.stop.Marked := fun _ => List.mem_cons_self

theorem marked_of_ne {l : Lexer} (h : l.scan ≠ .stopped) : l.Marked := fun stopped =>
  absurd stopped h

theorem marked_emit (l : Lexer) (t : Token) : (l.emit t).Marked := marked_of_ne Scan.noConfusion

theorem marked_begin (l : Lexer) (c : Char) : (l.begin c).Marked := by
  unfold begin
  split
  all_goals try first | exact marked_emit l _ | exact marked_of_ne Scan.noConfusion
  split
  · exact marked_of_ne Scan.noConfusion
  · exact marked_stop l

theorem marked_textUnit (l : Lexer) (chars : List Char) (high : Option Nat) (valid : Bool)
    (unit : Nat) : (l.textUnit chars high valid unit).Marked := by
  unfold textUnit
  split
  · split <;> exact marked_of_ne nofun
  · split
    · exact marked_of_ne nofun
    · split <;> exact marked_of_ne nofun

theorem Marked.push {l : Lexer} (h : l.Marked) (c : Char) : (l.push c).Marked := by
  obtain ⟨scan, tokens⟩ := l
  unfold Lexer.push
  cases scan with
  | idle => exact marked_begin _ c
  | stopped => exact h
  | number phase chars =>
    dsimp only
    split
    · exact marked_of_ne nofun
    · split
      · exact marked_begin _ c
      · exact marked_stop _
  | word rest token =>
    match rest with
    | [] => exact marked_stop _
    | [d] | d :: _ :: _ =>
      dsimp only
      split
      · exact marked_of_ne nofun
      · exact marked_stop _
  | text phase chars high valid =>
    cases phase with
    | plain =>
      dsimp only
      split
      · exact marked_of_ne nofun
      · split
        · exact marked_of_ne nofun
        · split
          · exact marked_stop _
          · exact marked_of_ne nofun
    | escape =>
      dsimp only
      split
      · exact marked_of_ne nofun
      · split
        · exact marked_of_ne nofun
        · exact marked_stop _
    | digits count value =>
      dsimp only
      split
      · exact marked_stop _
      · split
        · exact marked_textUnit _ _ _ _ _
        · exact marked_of_ne nofun

theorem marked_foldl (cs : List Char) {l : Lexer} (h : l.Marked) :
    (cs.foldl Lexer.push l).Marked := by
  induction cs generalizing l with
  | nil => exact h
  | cons c cs ih => exact ih (h.push c)

/-- If the text may end here, it may go on with a character that ends what is under way. -/
theorem push_of_finish {l : Lexer} (marked : l.Marked) (whole : .malformed ∉ l.finish) {c : Char}
    {ts : List Token} (ends : Ends c ts) :
    l.push c = { scan := .idle, tokens := ts.reverse ++ l.finish.reverse } := by
  obtain ⟨scan, tokens⟩ := l
  have stop : .malformed ∈ (Lexer.stop ⟨scan, tokens⟩).tokens.reverse := by simp [Lexer.stop]
  cases scan with
  | idle =>
    rw [finish, List.reverse_reverse]
    exact ends.begin rfl
  | stopped => exact absurd (List.mem_reverse.2 (marked rfl)) whole
  | number phase chars =>
    cases complete : phase.isComplete with
    | false =>
      rw [finish] at whole
      simp [complete, Lexer.stop] at whole
    | true =>
      simp only [finish, complete, if_true, List.reverse_reverse]
      unfold Lexer.push
      dsimp only
      rw [ends.next? phase]
      dsimp only
      rw [if_pos (ends.endsBefore complete), ends.begin rfl]
  | word rest token => exact absurd stop whole
  | text phase chars high valid => exact absurd stop whole

end Lexer

/-- A text, and a character that ends it. -/
theorem lexes_ended {cs : List Char} (whole : .malformed ∉ tokens cs) {c : Char} {ts : List Token}
    (ends : Ends c ts) : Lexes (cs ++ [c]) (tokens cs ++ ts) := by
  have marked : (cs.foldl Lexer.push {}).Marked := Lexer.marked_foldl cs (Lexer.marked_of_ne nofun)
  rw [Lexes, List.foldl_append]
  show (cs.foldl Lexer.push {}).push c = _
  rw [Lexer.push_of_finish marked whole ends, List.reverse_append]
  rfl

end ReactiveResource.Json
