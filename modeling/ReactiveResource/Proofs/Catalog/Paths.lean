import Mathlib.Algebra.Group.Int.Defs
import ReactiveResource.Proofs.Catalog.Entries
import ReactiveResource.Proofs.Config.Members
import ReactiveResource.Proofs.Json.Building
import ReactiveResource.Proofs.Json.Lexing

/-!
# The three ways to a config

A config is read from a text, from a value that has been parsed before, and from an entry of a
catalog. The readers meet the members of an object in different orders and at different depths, and
the last one reads the whole entry first. They agree nevertheless.

* `Config.ofText_of_members`, `Json.parse?_of_members`, `Catalog.entryOfTree_of_members`: each
  reader on the members of an object;
* `Catalog.Defines`, `Catalog.find?_of_defines`: the config of an entry in any file;
* `Catalog.soleFile`: the file with one entry;
* `Config.decoding_faithful`: nothing is lost or invented on any of the three ways.
-/

namespace ReactiveResource

open Members (whole)

/-! ### Values within a depth -/

namespace Json.Tree

theorem toMembers?_cons (depth : Nat) (key : Option String) (t : Tree)
    (trees : List (Option String × Tree)) :
    toMembers? depth ((key, t) :: trees)
      = match key, t.toJson? depth with
        | some k, some v => (toMembers? depth trees).map ((k, v) :: ·)
        | _, _ => none :=
  toMembers?.eq_def depth ((key, t) :: trees)

mutual

/-- A value within a depth is the same value within a greater one. -/
theorem toJson?_mono : ∀ {depth deeper : Nat} {t : Tree} {v : Json}, depth ≤ deeper →
    toJson? depth t = some v → toJson? deeper t = some v
  | _, _, .null, _, _, h | _, _, .bool _, _, _, h | _, _, .number _, _, _, h
  | _, _, .text _, _, _, h => by simpa [toJson?] using h
  | _, _, .missing, _, _, h => by simp [toJson?] at h
  | 0, _, .array _ _, _, _, h | 0, _, .object _ _, _, _, h => by simp [toJson?] at h
  | depth + 1, deeper + 1, .array items closed, v, le, h => by
    rw [toJson?] at h ⊢
    split at h
    · next closed =>
      obtain ⟨vs, read, rfl⟩ := Option.map_eq_some_iff.1 h
      rw [if_pos closed, toItems?_mono (Nat.le_of_succ_le_succ le) read]
      rfl
    · cases h
  | depth + 1, deeper + 1, .object members closed, v, le, h => by
    rw [toJson?] at h ⊢
    split at h
    · next closed =>
      obtain ⟨vs, read, rfl⟩ := Option.map_eq_some_iff.1 h
      rw [if_pos closed, toMembers?_mono (Nat.le_of_succ_le_succ le) read]
      rfl
    · cases h

theorem toItems?_mono : ∀ {depth deeper : Nat} {ts : List Tree} {vs : List Json},
    depth ≤ deeper → toItems? depth ts = some vs → toItems? deeper ts = some vs
  | _, _, [], _, _, h => by simpa [toItems?] using h
  | depth, deeper, t :: ts, vs, le, h => by
    rw [toItems?] at h ⊢
    split at h
    · cases h
    · next v read =>
      obtain ⟨ws, rest, rfl⟩ := Option.map_eq_some_iff.1 h
      rw [toJson?_mono le read, toItems?_mono le rest]
      rfl

theorem toMembers?_mono : ∀ {depth deeper : Nat} {trees : List (Option String × Tree)}
    {members : List (String × Json)}, depth ≤ deeper →
    toMembers? depth trees = some members → toMembers? deeper trees = some members
  | _, _, [], _, _, h => by simpa [toMembers?] using h
  | depth, deeper, (key, t) :: trees, members, le, h => by
    rw [toMembers?_cons] at h ⊢
    split at h
    · next k v read =>
      obtain ⟨ms, rest, rfl⟩ := Option.map_eq_some_iff.1 h
      rw [toJson?_mono le read, toMembers?_mono le rest]
      rfl
    · cases h

end

/-- The members have values within a depth exactly if a reader meets them with keys and values. -/
theorem toMembers?_eq_some_iff {depth : Nat} {trees : List (Option String × Tree)}
    {members : Members} :
    toMembers? depth trees = some members
      ↔ trees.map (fun m => (m.1, m.2.toJson? depth)) = whole members := by
  induction trees generalizing members with
  | nil => cases members <;> simp [toMembers?, whole]
  | cons m trees ih =>
    obtain ⟨key, t⟩ := m
    rw [toMembers?_cons, List.map_cons]
    cases key with
    | none => cases members <;> simp [whole]
    | some key =>
      cases value : t.toJson? depth with
      | none => cases members <;> simp [whole]
      | some v =>
        cases members with
        | nil => simp [whole]
        | cons m members =>
          obtain ⟨k, w⟩ := m
          have tail : whole ((k, w) :: members) = (some k, some w) :: whole members := rfl
          simp only [Option.map_eq_some_iff, ih, tail, List.cons.injEq, Prod.mk.injEq,
            Option.some.injEq]
          constructor
          · rintro ⟨ms, read, ⟨rfl, rfl⟩, rfl⟩
            exact ⟨⟨rfl, rfl⟩, read⟩
          · rintro ⟨⟨rfl, rfl⟩, read⟩
            exact ⟨members, read, ⟨rfl, rfl⟩, rfl⟩

end Json.Tree

/-! ### Each reader on the members of an object -/

section Readers

variable {s : String} {trees : List (Option String × Json.Tree)} {members : Members}

theorem Config.ofTree_of_members {depth : Nat}
    (read : Json.Tree.toMembers? depth trees = some members) :
    Config.ofTree (depth + 1) (.object trees true) = Config.ofMembers (whole members) true := by
  show Config.ofMembers (trees.map fun m => (m.1, m.2.toJson? depth)) true = _
  rw [Json.Tree.toMembers?_eq_some_iff.1 read]

theorem Config.ofText_of_members
    (doc : Json.Document.ofText s = { root := .object trees true, complete := true })
    (read : Json.Tree.toMembers? 126 trees = some members) :
    Config.ofText s = Config.ofMembers (whole members) true := by
  have tree : Config.ofTree Json.maxDepth (.object trees true)
      = Config.ofMembers (whole members) true := Config.ofTree_of_members read
  rw [Config.ofText, doc]
  simp only [tree]
  cases Config.ofMembers (whole members) true <;> rfl

theorem Json.parse?_of_members
    (doc : Json.Document.ofText s = { root := .object trees true, complete := true })
    (read : Json.Tree.toMembers? 126 trees = some members) :
    Json.parse? s = some (.obj (Keyed.ofList members)) := by
  rw [Json.parse?, doc]
  show Json.Tree.toJson? (126 + 1) (.object trees true) = _
  rw [Json.Tree.toJson?, if_pos rfl, read]
  rfl

theorem Catalog.entryOfTree_of_members {depth : Nat}
    (read : Json.Tree.toMembers? depth trees = some members) :
    Catalog.entryOfTree (depth + 1) (.object trees true)
      = Config.ofMembers (whole members) true := by
  have value : Json.Tree.toJson? (depth + 1) (.object trees true)
      = some (.obj (Keyed.ofList members)) := by
    rw [Json.Tree.toJson?, if_pos rfl, read]
    rfl
  rw [Catalog.entryOfTree, value]
  exact Config.ofTree_of_members read

/-- Of a text with a part that has no value no config is read, nor is there a value. -/
theorem Config.refused_of_no_members
    (doc : Json.Document.ofText s = { root := .object trees true, complete := true })
    (unread : Json.Tree.toMembers? 126 trees = none) :
    (∀ c, Config.ofText s ≠ .ok c) ∧ Json.parse? s = none := by
  constructor
  · intro c read
    have tree : Config.ofTree Json.maxDepth (.object trees true)
        = Config.ofMembers (trees.map fun m => (m.1, m.2.toJson? 126)) true := rfl
    rw [Config.ofText, doc] at read
    simp only [tree] at read
    cases members : Config.ofMembers (trees.map fun m => (m.1, m.2.toJson? 126)) true with
    | error e =>
      rw [members] at read
      cases read
    | ok d =>
      obtain ⟨members, met, -⟩ := Config.ofMembers_eq_ok_iff.1 members
      rw [Json.Tree.toMembers?_eq_some_iff.2 met] at unread
      cases unread
  · rw [Json.parse?, doc]
    show Json.Tree.toJson? (126 + 1) (.object trees true) = _
    rw [Json.Tree.toJson?, if_pos rfl, unread]
    rfl

end Readers

/-! ### A file with one entry -/

namespace Catalog

open Json

/-- The file with one entry, whose text is given. -/
def soleFile (key s : String) : String :=
  "\x7b" ++ printText "resources" ++ ":\x7b" ++ printText key ++ ":" ++ s ++ "\x7d\x7d"

/-- The tree of the entry stands in the tree of the file. -/
theorem ofText_soleFile (key : String) {s : String} {t : Tree}
    (doc : Document.ofText s = { root := t, complete := true }) :
    Document.ofText (soleFile key s)
      = { root := .object [(some "resources", .object [(some key, t)] true)] true
          complete := true } := by
  have ended : Lexes (s.toList ++ ['}']) (tokens s.toList ++ [.rightBrace]) :=
    lexes_ended (Document.malformed_notMem doc) .brace
  have start : Lexes ['{'] [.leftBrace] := rfl
  have inner : Lexes [':', '{'] [.colon, .leftBrace] := rfl
  have colon : Lexes [':'] [.colon] := rfl
  have last : Lexes ['}'] [.rightBrace] := rfl
  have all := (((((start.append (lexes_printText "resources")).append inner).append
    (lexes_printText key)).append colon).append ended).append last
  have chars : (soleFile key s).toList = ['{'] ++ (printText "resources").toList ++ [':', '{']
      ++ (printText key).toList ++ [':'] ++ (s.toList ++ ['}']) ++ ['}'] := by
    simp [soleFile]
  rw [Document.ofText, chars, all.tokens_eq]
  -- the tokens of the entry meet a builder that stands behind its key
  let around : Builder := { frames := [.object [] (some key), .object [] (some "resources")] }
  have entry : (tokens s.toList).foldl Builder.push (({} : Builder).within around)
      = around.deliver t :=
    Builder.foldl_push_within Builder.open_empty rfl (Document.of_complete doc)
  have built := congrArg (fun b => ([.rightBrace, .rightBrace].foldl Builder.push b).finish) entry
  simp only [Document.ofTokens, List.foldl_append]
  exact built

theorem defines_soleFile (key : String) {s : String} {t : Tree}
    (doc : Document.ofText s = { root := t, complete := true }) :
    Defines (Document.ofText (soleFile key s)) key t := by
  rw [ofText_soleFile key doc]
  exact ⟨[], [], .inl ⟨_, _, rfl, List.mem_singleton_self _⟩, nofun⟩

/-- The file with one entry is accepted if the entry is read and has a method. -/
theorem ofTexts_soleFile (key : String) {s : String} {t : Tree}
    (doc : Document.ofText s = { root := t, complete := true }) {c : Config}
    (read : entryOfTree (maxDepth - 2) t = .ok c) (method : Text.isBlank c.method = false) :
    ∃ catalog, ofTexts [soleFile key s] = .ok catalog := by
  have members : entriesOfMembers (maxDepth - 2) [(some key, t)] = .ok [(key, c)] :=
    entriesOfMembers_cons_eq_ok.2 ⟨key, c, [], rfl, read, rfl, rfl⟩
  have tree : entriesOfTree (maxDepth - 1) (.object [(some key, t)] true) = .ok [(key, c)] :=
    entriesOfTree_object_eq_ok.2 members
  have listed : entriesOfText (soleFile key s) = .ok [(key, c)] := by
    rw [entriesOfText_eq_ok, ofText_soleFile key doc]
    refine ⟨?_, rfl⟩
    rw [entriesOfRoot, entriesOfFields, tree]
    rfl
  rw [ofTexts_singleton]
  refine ⟨_, addText_eq_ok.2 ⟨_, listed, fun e mem => ?_, rfl⟩⟩
  obtain rfl : e = (key, c) := List.mem_singleton.1 (Keyed.mem_of_mem_ofList mem)
  exact method

end Catalog

/-! ### All three ways -/

namespace Config

open Members

/-- Nothing is lost or invented when a config is read of the members of an object, none of whose
known fields is given twice, and whose delay, as a double, is below `2 ^ 64`. This is true of every
value, and of every text that is one object. The text gives the same config as the value it has, and
as the entry that it is in any file: a file is refused if the config is, and where it is accepted,
the config is found; the file with this entry alone is accepted if the config has a method. Of a
text with a part that has no value nothing is read. -/
theorem decoding_faithful (fields : Fields) (s : String)
    (trees : List (Option String × Json.Tree)) :
    (GivenOnce fields → Brief fields → Faithful fields (ofJson (.obj fields)))
      ∧ (Json.Document.ofText s = { root := .object trees true, complete := true } →
        (∀ members, Json.Tree.toMembers? (Json.maxDepth - 1) trees = some members →
          GivenOnce members → Brief members →
          Faithful members (ofText s)
            ∧ (∃ v, Json.parse? s = some v ∧ ofJson v = ofText s)
            ∧ ((Json.Tree.toMembers? (Json.maxDepth - 3) trees).isSome = true → ∀ key,
              (∀ file catalog,
                Catalog.Defines (Json.Document.ofText file) key (.object trees true) →
                Catalog.ofTexts [file] = .ok catalog →
                ∃ c, ofText s = .ok c ∧ catalog.find? key = some c)
              ∧ ∀ c, ofText s = .ok c → Text.isBlank c.method = false →
                ∃ catalog, Catalog.ofTexts [Catalog.soleFile key s] = .ok catalog
                  ∧ catalog.find? key = some c))
        ∧ (Json.Tree.toMembers? (Json.maxDepth - 1) trees = none →
          (∀ c, ofText s ≠ .ok c) ∧ Json.parse? s = none)) := by
  refine ⟨faithful_ofMembers, fun doc => ⟨?_, refused_of_no_members doc⟩⟩
  intro members read once brief
  have text := ofText_of_members doc read
  refine ⟨text ▸ faithful_ofMembers once brief,
    ⟨_, Json.parse?_of_members doc read, ?_⟩, fun shallow key => ?_⟩
  · rw [text]
    exact ofMembers_ofList once brief
  · have entry : Catalog.entryOfTree (Json.maxDepth - 2) (.object trees true) = ofText s := by
      obtain ⟨others, inside⟩ := Option.isSome_iff_exists.1 shallow
      obtain rfl : members = others := by
        have deep : Json.Tree.toMembers? (Json.maxDepth - 1) trees = some others :=
          Json.Tree.toMembers?_mono (by decide) inside
        exact Option.some.inj (read.symm.trans deep)
      rw [text]
      exact Catalog.entryOfTree_of_members inside
    constructor
    · intro file catalog defines accepted
      obtain ⟨c, here, -, found⟩ := Catalog.find?_of_defines defines accepted
      exact ⟨c, entry ▸ here, found⟩
    · intro c here method
      obtain ⟨catalog, accepted⟩ := Catalog.ofTexts_soleFile key doc (entry ▸ here) method
      obtain ⟨d, there, -, found⟩ :=
        Catalog.find?_of_defines (Catalog.defines_soleFile key doc) accepted
      rw [entry, here] at there
      cases there
      exact ⟨catalog, accepted, found⟩

/-- The text of a paged list, with a delay of two seconds and a field that is passed through. -/
def pagedText : String :=
  "\x7b\x22size\x22:20,\x22method\x22:\x22list\x22,\x22paged\x22:true,\x22delay\x22:2\x7d"

/-- Its members. -/
def pagedMembers : Members :=
  [("size", .int 20), ("method", .str "list"), ("paged", .bool true), ("delay", .int 2)]

theorem paged_list_decoded :
    GivenOnce pagedMembers ∧ Brief pagedMembers
      ∧ Faithful pagedMembers (ofJson (.obj pagedMembers))
      ∧ ∃ c, ofText pagedText = .ok c ∧ c.Reflects pagedMembers
        ∧ (∃ v, Json.parse? pagedText = some v ∧ ofJson v = .ok c)
        ∧ ∃ catalog, Catalog.ofTexts [Catalog.soleFile "tickets" pagedText] = .ok catalog
          ∧ catalog.find? "tickets" = some c := by
  have once : GivenOnce pagedMembers := by simp [GivenOnce, pagedMembers, Field.ofName?]
  have two : Binary64.ofInt? 2
      = some { negative := false, bits := 1024 * Binary64.leadingBit } := by decide +kernel
  have brief : Brief pagedMembers := by
    intro v hv _
    obtain rfl : v = .int 2 := by simpa [pagedMembers] using hv
    exact ⟨_, two, .inr (by decide +kernel)⟩
  have typed : Typed pagedMembers := by
    simp [Typed, pagedMembers, Field.ofName?, Field.Takes, Json.IsNumber]
  have doc : Json.Document.ofText pagedText
      = { root := .object [(some "size", .number (some (.int 20))),
            (some "method", .text (some "list")), (some "paged", .bool true),
            (some "delay", .number (some (.int 2)))] true
          complete := true } := by rfl
  obtain ⟨value, text⟩ := decoding_faithful pagedMembers pagedText _
  obtain ⟨faithful, ⟨v, parsed, same⟩, entries⟩ := (text doc).1 pagedMembers rfl once brief
  obtain ⟨c, read⟩ := faithful.reads_iff.2 typed
  have reflects := faithful.reflects c read
  refine ⟨once, brief, value once brief, c, read, reflects,
    ⟨v, parsed, same.trans read⟩, (entries rfl "tickets").2 c read ?_⟩
  rw [reflects.method]
  decide +kernel

/-- The nearest double of the last whole second below `2 ^ 64` is `2 ^ 64`, so that an object whose
delay is below the bound is not always read. -/
theorem last_second_overlong :
    ¬∀ n : Int, -2 ^ 63 ≤ n → n < 2 ^ 64 →
      ∃ c, ofJson (.obj [("delay", .int n), ("method", .str "list")]) = .ok c := by
  intro all
  obtain ⟨c, read⟩ := all (2 ^ 64 - 1) (by decide) (by decide)
  have overlong : (ofJson (.obj [("delay", .int (2 ^ 64 - 1)), ("method", .str "list")])).map
      (fun _ => ()) = .error .delayTooLong := by decide +kernel
  rw [read] at overlong
  cases overlong

end Config

end ReactiveResource
