import ReactiveResource.Proofs.Json.Building
import ReactiveResource.Proofs.Json.Lexing
import ReactiveResource.Proofs.Keyed

/-!
# The members of objects that are read

An object that is read has its members in the order of their keys. The tree of a number holds a
value without looking at it, so that it has to be known that the value of a number is one.

* `Token.Plain`, `Lexer.Plain`: tokens whose numbers are no objects, and a lexer that has read such
  tokens;
* `Builder.number_mem`: a document that is a number is made of the token of the number;
* `ascending_of_parse?`: the members of an object that is read.
-/

namespace ReactiveResource.Json

/-! ### Numbers among tokens -/

theorem numberOf?_ne_obj (cs : List Char) (members : Fields) :
    numberOf? cs ≠ some (.obj members) := by
  have scalar {p q : Prop} [Decidable p] [Decidable q] (m n : Int) (x : Option Binary64) :
      (if p then some (Json.int m) else if q then some (.int n) else x.map .float)
        ≠ some (.obj members) := by
    split
    · exact nofun
    · split
      · exact nofun
      · simp
  exact scalar _ _ _

/-- If the token is a number, its value is no object. -/
def Token.Plain (t : Token) : Prop := ∀ members, t ≠ .number (some (.obj members))

theorem plain_number (cs : List Char) : (Token.number (numberOf? cs)).Plain :=
  fun members same => numberOf?_ne_obj cs members (Token.number.inj same)

namespace Lexer

/-- Neither the tokens so far nor the one that a word will be hold an object. -/
structure Plain (l : Lexer) : Prop where
  tokens : ∀ t ∈ l.tokens, t.Plain
  word : ∀ rest t, l.scan = .word rest t → t.Plain

variable {l : Lexer}

/-- The lexer goes on with something else than a word. -/
theorem Plain.goesOn (h : l.Plain) {scan : Scan} (other : ∀ rest t, scan ≠ .word rest t) :
    Plain { l with scan } :=
  ⟨h.tokens, fun rest t same => absurd same (other rest t)⟩

theorem Plain.emit (h : l.Plain) {t : Token} (plain : t.Plain) : (l.emit t).Plain where
  tokens := List.forall_mem_cons.2 ⟨plain, h.tokens⟩
  word := nofun

theorem Plain.stop (h : l.Plain) : l.stop.Plain where
  tokens := List.forall_mem_cons.2 ⟨nofun, h.tokens⟩
  word := nofun

theorem Plain.begin (h : l.Plain) (c : Char) : (l.begin c).Plain := by
  have word (rest : List Char) {t : Token} (plain : t.Plain) :
      Plain { l with scan := .word rest t } :=
    ⟨h.tokens, fun _ _ same => by cases same; exact plain⟩
  unfold Lexer.begin
  split
  case h_12 | h_13 | h_14 => exact word _ nofun
  case h_17 =>
    split
    · exact h.goesOn nofun
    · exact h.stop
  all_goals first | exact h.emit nofun | exact h.goesOn nofun

theorem Plain.push (h : l.Plain) (c : Char) : (l.push c).Plain := by
  obtain ⟨scan, tokens⟩ := l
  unfold Lexer.push
  cases scan with
  | idle => exact h.begin c
  | stopped => exact h
  | number phase chars =>
    dsimp only
    split
    · exact h.goesOn nofun
    · split
      · exact (h.emit (plain_number _)).begin c
      · exact h.stop
  | word rest token =>
    have plain : token.Plain := h.word rest token rfl
    match rest with
    | [] => exact h.stop
    | [d] =>
      dsimp only
      split
      · exact h.emit plain
      · exact h.stop
    | d :: _ :: _ =>
      dsimp only
      split
      · exact ⟨h.tokens, fun _ _ same => by cases same; exact plain⟩
      · exact h.stop
  | text phase chars high valid =>
    cases phase with
    | plain =>
      dsimp only
      split
      · exact h.emit nofun
      · split
        · exact h.goesOn nofun
        · split
          · exact h.stop
          · exact h.goesOn nofun
    | escape =>
      dsimp only
      split
      · exact h.goesOn nofun
      · split
        · exact h.goesOn nofun
        · exact h.stop
    | digits count value =>
      dsimp only
      split
      · exact h.stop
      · split
        · unfold Lexer.textUnit
          repeat' split
          all_goals exact h.goesOn nofun
        · exact h.goesOn nofun

theorem Plain.foldl (h : l.Plain) (cs : List Char) : (cs.foldl Lexer.push l).Plain := by
  induction cs generalizing l with
  | nil => exact h
  | cons c cs ih => exact ih (h.push c)

theorem Plain.finish (h : l.Plain) : ∀ t ∈ l.finish, t.Plain := by
  have reversed {l : Lexer} (h : l.Plain) : ∀ t ∈ l.tokens.reverse, t.Plain :=
    fun t mem => h.tokens t (List.mem_reverse.1 mem)
  unfold Lexer.finish
  split
  · exact reversed h
  · exact reversed h
  · split
    · exact reversed (h.emit (plain_number _))
    · exact reversed h.stop
  · exact reversed h.stop

end Lexer

theorem plain_tokens (cs : List Char) : ∀ t ∈ tokens cs, t.Plain := by
  have empty : ({} : Lexer).Plain := ⟨nofun, nofun⟩
  exact (empty.foldl cs).finish

/-! ### Documents that are numbers -/

namespace Builder

variable {b : Builder} {v : Option Json}

theorem root_deliver {t : Tree} (h : (b.deliver t).root = some (.number v)) :
    b.root = some (.number v) ∨ t = .number v := by
  unfold deliver at h
  split at h
  · exact .inr (Option.some.inj h)
  · exact .inl h
  · exact .inl h

theorem root_pushValue {x : Token} (h : (b.pushValue x).root = some (.number v)) :
    b.root = some (.number v) ∨ x = .number v := by
  cases x with
  | number w => exact (root_deliver h).imp_right fun same => by cases same; rfl
  | null | bool | text => exact (root_deliver h).imp_right nofun
  | _ => exact .inl h

theorem root_close {x : Token} (h : (b.close x).root = some (.number v)) :
    b.root = some (.number v) := by
  unfold close at h
  split at h
  · split at h
    · exact (root_deliver h).resolve_right nofun
    · exact h
  · split at h
    · exact (root_deliver h).resolve_right nofun
    · exact h
  · exact h

theorem root_pushKey {x : Token} (h : (b.pushKey x).root = some (.number v)) :
    b.root = some (.number v) := by
  unfold pushKey at h
  repeat' split at h
  all_goals exact h

theorem root_push {x : Token} (h : (b.push x).root = some (.number v)) :
    b.root = some (.number v) ∨ x = .number v := by
  unfold push at h
  split at h
  · exact root_pushValue h
  · exact .inl (root_close h)
  · exact root_pushValue h
  · exact .inl (root_pushKey h)
  · exact .inl (root_close h)
  · exact .inl (root_pushKey h)
  · exact .inl h
  · refine .inl ?_
    unfold separate at h
    split at h <;> exact h
  · exact .inl (root_close h)
  · exact .inl h
  · exact .inl h

/-- A document that is a number is made of the token of the number. -/
theorem number_mem {ts : List Token} (h : (ts.foldl push b).root = some (.number v)) :
    b.root = some (.number v) ∨ .number v ∈ ts := by
  induction ts generalizing b with
  | nil => exact .inl h
  | cons x ts ih =>
    rcases ih h with before | mem
    · exact (root_push before).imp_right fun same => List.mem_cons.2 (.inl same.symm)
    · exact .inr (List.mem_cons_of_mem x mem)

end Builder

/-! ### Objects -/

/-- **An object that is read has its members in the order of their keys.** -/
theorem ascending_of_parse? {s : String} {members : Fields}
    (h : parse? s = some (.obj members)) : (Keyed.keys members).Pairwise (· < ·) := by
  rw [parse?] at h
  obtain ⟨complete, value⟩ : (Document.ofText s).complete = true
      ∧ (Document.ofText s).root.toJson? maxDepth = some (.obj members) := by
    split at h
    · next complete => exact ⟨complete, h⟩
    · cases h
  cases document : Document.ofText s with
  | mk root whole =>
    rw [document] at complete value
    obtain rfl : whole = true := complete
    have built := Document.of_complete document
    cases root with
    | object ms closed =>
      rw [show maxDepth = 126 + 1 from rfl, Tree.toJson?] at value
      split at value
      · obtain ⟨values, -, same⟩ := Option.map_eq_some_iff.1 value
        cases same
        exact Keyed.ascending_ofList values
      · cases value
    | number v =>
      obtain rfl : v = some (.obj members) := by rwa [Tree.toJson?] at value
      have token := (Builder.number_mem (congrArg Builder.root built)).resolve_left nofun
      exact absurd rfl (plain_tokens _ _ token members)
    | array items closed =>
      rw [show maxDepth = 126 + 1 from rfl, Tree.toJson?] at value
      split at value <;> simp at value
    | text v =>
      rw [Tree.toJson?] at value
      simp at value
    | null | bool | missing =>
      rw [Tree.toJson?] at value
      cases value

end ReactiveResource.Json
