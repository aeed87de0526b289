import ReactiveResource.Proofs.Json.Building
import ReactiveResource.Proofs.Json.Numerals
import ReactiveResource.Proofs.Keyed

/-!
# What is written is read back

The text of a value, over several lines, is the document of that value as it stands: its members in
the order in which they are written, and nothing missing. The value may hold every text, and every
integer that a 64-bit word holds; doubles are left out.

* `Integral`: the values without doubles and without integers beyond 64 bits;
* `spelling`, `toTree`: the tokens of a value, and its tree;
* `Spells`, `spells_prettyAt`: what is written is read as these tokens;
* `foldl_push_spelling`: the tokens build the tree;
* `ofText_pretty`: the document of a value's text;
* `Within`, `toJson?_toTree`: the values that are not too deep, which their trees stand for;
* `parse?_pretty`: the value of a value's text.
-/

namespace ReactiveResource.Json

/-! ### Values as tokens and as trees -/

mutual

/-- A value whose numbers are integers that a 64-bit word holds, with or without sign. -/
def Integral : Json → Prop
  | .int n => Fits n
  | .float _ => False
  | .arr items => IntegralItems items
  | .obj members => IntegralMembers members
  | _ => True

/-- `Integral`, item by item. -/
def IntegralItems : List Json → Prop
  | [] => True
  | v :: vs => Integral v ∧ IntegralItems vs

/-- `Integral`, member by member. -/
def IntegralMembers : List (String × Json) → Prop
  | [] => True
  | (_, v) :: ms => Integral v ∧ IntegralMembers ms

end

mutual

/-- The tokens of a value. -/
def spelling : Json → List Token
  | .null => [.null]
  | .bool v => [.bool v]
  | .int n => [.number (some (.int n))]
  | .float x => [.number (some (.float x))]
  | .str s => [.text (some s)]
  | .arr items => .leftBracket :: spellingOfItems items ++ [.rightBracket]
  | .obj members => .leftBrace :: spellingOfMembers members ++ [.rightBrace]

/-- The tokens of items, with commas between them. -/
def spellingOfItems : List Json → List Token
  | [] => []
  | [v] => spelling v
  | v :: w :: rest => spelling v ++ .comma :: spellingOfItems (w :: rest)

/-- The tokens of members, with commas between them. -/
def spellingOfMembers : List (String × Json) → List Token
  | [] => []
  | [(k, v)] => .text (some k) :: .colon :: spelling v
  | (k, v) :: m :: rest =>
    .text (some k) :: .colon :: spelling v ++ .comma :: spellingOfMembers (m :: rest)

end

mutual

/-- The tree of a value. -/
def toTree : Json → Tree
  | .null => .null
  | .bool v => .bool v
  | .int n => .number (some (.int n))
  | .float x => .number (some (.float x))
  | .str s => .text (some s)
  | .arr items => .array (toTrees items) true
  | .obj members => .object (toMemberTrees members) true

/-- The trees of items. -/
def toTrees : List Json → List Tree
  | [] => []
  | v :: vs => toTree v :: toTrees vs

/-- The trees of members, each with its key. -/
def toMemberTrees : List (String × Json) → List (Option String × Tree)
  | [] => []
  | (k, v) :: ms => (some k, toTree v) :: toMemberTrees ms

end

/-! ### From characters to tokens -/

/-- The characters, by themselves, are read as the tokens. -/
structure Spells (cs : List Char) (ts : List Token) : Prop where
  alone : tokens cs = ts
  whole : .malformed ∉ ts

section Spells

variable {cs ds : List Char} {ts us : List Token}

theorem Lexes.spells (h : Lexes cs ts) (whole : .malformed ∉ ts) : Spells cs ts :=
  ⟨h.tokens_eq, whole⟩

/-- The characters may stand before one that ends them. -/
theorem Spells.ended (h : Spells cs ts) {c : Char} (ends : Ends c us) :
    Lexes (cs ++ [c]) (ts ++ us) := by
  obtain ⟨rfl, whole⟩ := h
  exact lexes_ended whole ends

theorem Lexer.finish_onto (l : Lexer) (before : List Token) :
    (l.onto before).finish = before.reverse ++ l.finish := by
  obtain ⟨scan, tokens⟩ := l
  cases scan with
  | number phase chars =>
    rw [finish, finish]
    dsimp only [onto_scan]
    split <;> simp [onto, emit, stop]
  | _ => simp [finish, onto, stop]

/-- The characters may stand after others after which nothing is under way. -/
theorem Spells.after (h : Spells ds us) (before : Lexes cs ts) (whole : .malformed ∉ ts) :
    Spells (cs ++ ds) (ts ++ us) := by
  refine ⟨?_, List.not_mem_append whole h.whole⟩
  have onto : (Lexer.mk .idle ts.reverse) = ({} : Lexer).onto ts.reverse := rfl
  rw [tokens, List.foldl_append, before, onto, Lexer.foldl_push_onto, Lexer.finish_onto,
    List.reverse_reverse, ← h.alone]
  rfl

theorem lexes_blanks (n : Nat) : Lexes (List.replicate n ' ') [] := by
  induction n with
  | zero => rfl
  | succ n ih => exact ih

theorem lexes_newline (level : Nat) : Lexes (newline level).toList [] := by
  rw [newline, String.toList_ofList]
  exact lexes_blanks (2 * level)

/-- A line break ends what stands before it, and the next line may be indented. -/
theorem Spells.broken (h : Spells cs ts) (level : Nat) :
    Lexes (cs ++ (newline level).toList) ts := by
  have lines := (h.ended .line).append (lexes_blanks (2 * level))
  rw [List.append_nil, List.append_nil, List.append_assoc] at lines
  rwa [newline, String.toList_ofList]

/-- Parts between brackets, on lines of their own. -/
theorem Spells.enclosed (h : Spells cs ts) (level : Nat) {left right : Char} {l r : Token}
    (begins : Lexes [left] [l]) (ends : Lexes [right] [r]) (whole : .malformed ∉ [l, r]) :
    Spells (left :: (newline (level + 1)).toList ++ cs ++ (newline level).toList ++ [right])
      (l :: ts ++ [r]) := by
  have all := ((begins.append (lexes_newline (level + 1))).append (h.broken level)).append ends
  rw [← List.append_assoc] at all
  refine all.spells ?_
  simp only [List.mem_cons, List.not_mem_nil, or_false, not_or] at whole
  simp [whole, h.whole]

/-- A part, and others on the lines after it. -/
theorem Spells.separated (h : Spells cs ts) (level : Nat) (h' : Spells ds us) :
    Spells (cs ++ ',' :: (newline level).toList ++ ds) (ts ++ .comma :: us) := by
  have before := (h.ended .comma).append (lexes_newline level)
  have all := h'.after before (by simp [h.whole])
  simpa using all

/-- A value after its key. -/
theorem Spells.keyed (h : Spells cs ts) (key : String) :
    Spells ((printText key).toList ++ ':' :: ' ' :: cs) (.text (some key) :: .colon :: ts) := by
  have colon : Lexes [':', ' '] [.colon] := rfl
  have before := (lexes_printText key).append colon
  have all := h.after before (by simp)
  rwa [List.append_assoc] at all

theorem spells_null : Spells (printScalar .null).toList [.null] := ⟨rfl, by simp⟩

theorem spells_bool (b : Bool) : Spells (printScalar (.bool b)).toList [.bool b] := by
  cases b <;> exact ⟨rfl, by simp⟩

theorem spells_noItems :
    Spells (printScalar (.arr [])).toList [.leftBracket, .rightBracket] := ⟨rfl, by simp⟩

theorem spells_noMembers :
    Spells (printScalar (.obj [])).toList [.leftBrace, .rightBrace] := ⟨rfl, by simp⟩

mutual

/-- The text of a value is read as its tokens. -/
theorem spells_prettyAt (level : Nat) (v : Json) (integral : Integral v) :
    Spells (prettyAt level v).toList (spelling v) := by
  cases v with
  | null =>
    rw [prettyAt.eq_def, spelling]
    exact spells_null
  | bool b =>
    rw [prettyAt.eq_def, spelling]
    exact spells_bool b
  | int n =>
    rw [prettyAt.eq_def, spelling]
    rw [Integral] at integral
    exact ⟨tokens_toString integral, by simp⟩
  | float x =>
    rw [Integral] at integral
    exact integral.elim
  | str s =>
    rw [prettyAt.eq_def, spelling]
    exact (lexes_printText s).spells (by simp)
  | arr items =>
    match items with
    | [] =>
      rw [prettyAt.eq_def, spelling, spellingOfItems]
      exact spells_noItems
    | w :: rest =>
      rw [Integral] at integral
      have inside := spells_prettyItems (level + 1) (w :: rest) integral
      have begins : Lexes ['['] [.leftBracket] := rfl
      have all := inside.enclosed level begins (rfl : Lexes [']'] [.rightBracket]) (by simp)
      rw [prettyAt, spelling]
      simpa using all
  | obj members =>
    match members with
    | [] =>
      rw [prettyAt.eq_def, spelling, spellingOfMembers]
      exact spells_noMembers
    | m :: rest =>
      rw [Integral] at integral
      have inside := spells_prettyMembers (level + 1) (m :: rest) integral
      have begins : Lexes ['{'] [.leftBrace] := rfl
      have all := inside.enclosed level begins (rfl : Lexes ['}'] [.rightBrace]) (by simp)
      rw [prettyAt, spelling]
      simpa using all

/-- The text of items is read as their tokens. -/
theorem spells_prettyItems (level : Nat) (items : List Json) (integral : IntegralItems items) :
    Spells (prettyItems level items).toList (spellingOfItems items) := by
  match items with
  | [] =>
    rw [prettyItems, spellingOfItems]
    exact ⟨rfl, by simp⟩
  | [v] =>
    rw [prettyItems, spellingOfItems]
    rw [IntegralItems] at integral
    exact spells_prettyAt level v integral.1
  | v :: w :: rest =>
    rw [IntegralItems] at integral
    have all := (spells_prettyAt level v integral.1).separated level
      (spells_prettyItems level (w :: rest) integral.2)
    rw [prettyItems, spellingOfItems]
    simpa using all

/-- The text of members is read as their tokens. -/
theorem spells_prettyMembers (level : Nat) (members : List (String × Json))
    (integral : IntegralMembers members) :
    Spells (prettyMembers level members).toList (spellingOfMembers members) := by
  match members with
  | [] =>
    rw [prettyMembers, spellingOfMembers]
    exact ⟨rfl, by simp⟩
  | [(k, v)] =>
    rw [IntegralMembers] at integral
    have member := (spells_prettyAt level v integral.1).keyed k
    rw [prettyMembers, spellingOfMembers]
    simpa using member
  | (k, v) :: m :: rest =>
    rw [IntegralMembers] at integral
    have member := (spells_prettyAt level v integral.1).keyed k
    have all := member.separated level (spells_prettyMembers level (m :: rest) integral.2)
    rw [prettyMembers, spellingOfMembers]
    simpa using all

end

end Spells

/-! ### From tokens to a tree -/

namespace Builder

/-- A value may stand next. -/
def Ready (b : Builder) : Prop := b.expect = .value ∨ b.expect = .valueOrEnd

theorem Ready.push {b : Builder} (h : b.Ready) {t : Token} (inside : t ≠ .rightBracket) :
    b.push t = b.pushValue t := by
  obtain ⟨frames, expect, root⟩ := b
  rcases h with rfl | rfl
  · rfl
  · cases t <;> first | rfl | exact absurd rfl inside

/-- A key and a colon. -/
theorem push_key (key : String) {members : List (Option String × Tree)} {frames : List Frame}
    {root : Option Tree} {expect : Expectation} (ready : expect = .key ∨ expect = .keyOrEnd) :
    ({ frames := .object members none :: frames, expect, root : Builder }.push
        (.text (some key))).push .colon
      = { frames := .object members (some key) :: frames, expect := .value, root } := by
  rcases ready with rfl | rfl <;> rfl

/-- What is complete does not depend on what was expected. -/
theorem deliver_expecting (b : Builder) (expect : Expectation) (t : Tree) :
    { b with expect }.deliver t = b.deliver t := by
  obtain ⟨frames, before, root⟩ := b
  match frames with
  | [] | .array _ :: _ | .object _ _ :: _ => rfl

mutual

/-- The tokens of a value build its tree. -/
theorem foldl_push_spelling (v : Json) {b : Builder} (ready : b.Ready) :
    (spelling v).foldl push b = b.deliver v.toTree := by
  cases v with
  | null | bool v | int n | float x | str s =>
    rw [spelling, toTree]
    exact ready.push (by simp)
  | arr items =>
    rw [spelling, toTree, List.cons_append, List.foldl_cons, ready.push (by simp),
      List.foldl_append]
    match items with
    | [] =>
      rw [spellingOfItems, toTrees]
      exact deliver_expecting b _ _
    | v :: vs =>
      have inside := foldl_push_spellingOfItems (v :: vs) nofun [] b.frames b.root (.inr rfl)
      rw [List.append_nil] at inside
      show [.rightBracket].foldl push ((spellingOfItems (v :: vs)).foldl push
        { frames := .array [] :: b.frames, expect := .valueOrEnd, root := b.root }) = _
      rw [inside]
      show deliver { b with expect := .commaOrEnd }
        (.array (toTrees (v :: vs)).reverse.reverse true) = _
      rw [List.reverse_reverse, deliver_expecting]
  | obj members =>
    rw [spelling, toTree, List.cons_append, List.foldl_cons, ready.push (by simp),
      List.foldl_append]
    match members with
    | [] =>
      rw [spellingOfMembers, toMemberTrees]
      exact deliver_expecting b _ _
    | m :: ms =>
      have inside := foldl_push_spellingOfMembers (m :: ms) nofun [] b.frames b.root (.inr rfl)
      rw [List.append_nil] at inside
      show [.rightBrace].foldl push ((spellingOfMembers (m :: ms)).foldl push
        { frames := .object [] none :: b.frames, expect := .keyOrEnd, root := b.root }) = _
      rw [inside]
      show deliver { b with expect := .commaOrEnd }
        (.object (toMemberTrees (m :: ms)).reverse.reverse true) = _
      rw [List.reverse_reverse, deliver_expecting]

/-- The tokens of items add their trees to the innermost container. -/
theorem foldl_push_spellingOfItems (items : List Json) (nonempty : items ≠ []) (done : List Tree)
    (frames : List Frame) (root : Option Tree) {expect : Expectation}
    (ready : expect = .value ∨ expect = .valueOrEnd) :
    (spellingOfItems items).foldl push { frames := .array done :: frames, expect, root }
      = { frames := .array ((toTrees items).reverse ++ done) :: frames
          expect := .commaOrEnd, root } := by
  match items with
  | [v] =>
    rw [spellingOfItems,
      foldl_push_spelling v (b := { frames := .array done :: frames, expect, root }) ready]
    simp [toTrees, deliver]
  | v :: w :: rest =>
    have others :=
      foldl_push_spellingOfItems (w :: rest) nofun (v.toTree :: done) frames root (.inl rfl)
    rw [spellingOfItems, List.foldl_append,
      foldl_push_spelling v (b := { frames := .array done :: frames, expect, root }) ready,
      List.foldl_cons]
    show (spellingOfItems (w :: rest)).foldl push
      { frames := .array (v.toTree :: done) :: frames, expect := .value, root } = _
    rw [others]
    simp [toTrees]

/-- The tokens of members add their trees to the innermost container. -/
theorem foldl_push_spellingOfMembers (members : List (String × Json)) (nonempty : members ≠ [])
    (done : List (Option String × Tree)) (frames : List Frame) (root : Option Tree)
    {expect : Expectation} (ready : expect = .key ∨ expect = .keyOrEnd) :
    (spellingOfMembers members).foldl push
        { frames := .object done none :: frames, expect, root }
      = { frames := .object ((toMemberTrees members).reverse ++ done) none :: frames
          expect := .commaOrEnd, root } := by
  match members with
  | [(k, v)] =>
    rw [spellingOfMembers, List.foldl_cons, List.foldl_cons, push_key k ready,
      foldl_push_spelling v (.inl rfl)]
    simp [toMemberTrees, deliver]
  | (k, v) :: m :: rest =>
    have others := foldl_push_spellingOfMembers (m :: rest) nofun
      ((some k, v.toTree) :: done) frames root (.inl rfl)
    rw [spellingOfMembers, List.cons_append, List.cons_append, List.foldl_cons, List.foldl_cons,
      List.foldl_append, push_key k ready, foldl_push_spelling v (.inl rfl), List.foldl_cons]
    show (spellingOfMembers (m :: rest)).foldl push
      { frames := .object ((some k, v.toTree) :: done) none :: frames, expect := .key, root } = _
    rw [others]
    simp [toMemberTrees]

end

end Builder

/-- **The document of a value's text is the value as it stands.** -/
theorem ofText_pretty (v : Json) (integral : Integral v) :
    Document.ofText v.pretty = { root := v.toTree, complete := true } := by
  rw [Document.ofText, pretty, (spells_prettyAt 0 v integral).alone, Document.ofTokens,
    Builder.foldl_push_spelling v (.inl rfl)]
  rfl

/-! ### From a tree to a value -/

mutual

/-- A value with at most `depth` containers inside each other, the members of its objects in the
order of their keys. -/
def Within (depth : Nat) : Json → Prop
  | .arr items => 0 < depth ∧ ItemsWithin (depth - 1) items
  | .obj members =>
    0 < depth ∧ (Keyed.keys members).Pairwise (· < ·) ∧ MembersWithin (depth - 1) members
  | _ => True

/-- `Within`, item by item. -/
def ItemsWithin (depth : Nat) : List Json → Prop
  | [] => True
  | v :: vs => Within depth v ∧ ItemsWithin depth vs

/-- `Within`, member by member. -/
def MembersWithin (depth : Nat) : List (String × Json) → Prop
  | [] => True
  | (_, v) :: ms => Within depth v ∧ MembersWithin depth ms

end

mutual

/-- The tree of a value stands for the value. -/
theorem toJson?_toTree {depth : Nat} (v : Json) (within : Within depth v) :
    v.toTree.toJson? depth = some v := by
  cases v with
  | null | bool | int | float => rw [toTree, Tree.toJson?]
  | str =>
    rw [toTree, Tree.toJson?]
    rfl
  | arr items =>
    rw [Within] at within
    obtain ⟨d, rfl⟩ : ∃ d, depth = d + 1 := ⟨depth - 1, by omega⟩
    rw [Nat.add_sub_cancel] at within
    rw [toTree, Tree.toJson?, if_pos rfl, toItems?_toTrees items within.2]
    rfl
  | obj members =>
    rw [Within] at within
    obtain ⟨inside, ascending, within⟩ := within
    obtain ⟨d, rfl⟩ : ∃ d, depth = d + 1 := ⟨depth - 1, by omega⟩
    rw [Nat.add_sub_cancel] at within
    rw [toTree, Tree.toJson?, if_pos rfl, toMembers?_toMemberTrees members within,
      Option.map_some, Keyed.ofList_of_ascending ascending]

/-- The trees of items stand for the items. -/
theorem toItems?_toTrees {depth : Nat} (items : List Json) (within : ItemsWithin depth items) :
    Tree.toItems? depth (toTrees items) = some items := by
  match items with
  | [] => rw [toTrees, Tree.toItems?]
  | v :: vs =>
    rw [ItemsWithin] at within
    rw [toTrees, Tree.toItems?, toJson?_toTree v within.1, toItems?_toTrees vs within.2]
    rfl

/-- The trees of members stand for the members. -/
theorem toMembers?_toMemberTrees {depth : Nat} (members : List (String × Json))
    (within : MembersWithin depth members) :
    Tree.toMembers? depth (toMemberTrees members) = some members := by
  match members with
  | [] => rw [toMemberTrees, Tree.toMembers?]
  | (k, v) :: ms =>
    rw [MembersWithin] at within
    rw [toMemberTrees, Tree.toMembers?.eq_def]
    dsimp only
    rw [toJson?_toTree v within.1, toMembers?_toMemberTrees ms within.2]
    rfl

end

/-- **The text of a value is read back as the value.** -/
theorem parse?_pretty {v : Json} (integral : Integral v) (within : Within maxDepth v) :
    parse? v.pretty = some v := by
  rw [parse?, ofText_pretty v integral]
  exact toJson?_toTree v within

end ReactiveResource.Json
