import ReactiveResource.Proofs.Catalog.Entries
import ReactiveResource.Proofs.Config.Decoding
import ReactiveResource.Proofs.Loop

/-!
# Delays beyond every duration

A delay of `2 ^ 64` seconds or more is no error that a caller can handle. Whether one is come upon
is a matter of what a document says up to that point: everything before it is in order, and what
follows it is not read. Nothing else keeps a config or a catalog from being read or refused.

* `Json.Overruns`, `Json.Tree.Overruns`, `Catalog.EntriesOverrun`, `Catalog.DocumentOverruns`: where
  a reader comes upon such a delay;
* `Catalog.loading_overruns_iff`: the values, the texts and the lists of documents of which this is
  true.
-/

namespace ReactiveResource

open Members (whole)

/-- Some element of a list has the one property, and all before it have the other. -/
def UpTo {α : Type} (fine found : α → Prop) (l : List α) : Prop :=
  ∃ before x after, l = before ++ x :: after ∧ (∀ y ∈ before, fine y) ∧ found x

@[simp] theorem upTo_nil {α : Type} {fine found : α → Prop} : ¬UpTo fine found [] := by
  rintro ⟨before, x, after, h, -⟩
  cases before <;> cases h

theorem upTo_cons {α : Type} {fine found : α → Prop} {x : α} {l : List α} :
    UpTo fine found (x :: l) ↔ found x ∨ fine x ∧ UpTo fine found l := by
  constructor
  · rintro ⟨_ | ⟨y, before⟩, z, after, h, all, here⟩
    · obtain ⟨rfl, -⟩ := List.cons.inj h
      exact .inl here
    · obtain ⟨rfl, rest⟩ := List.cons.inj h
      exact .inr ⟨all x List.mem_cons_self,
        before, z, after, rest, fun y hy => all y (List.mem_cons_of_mem _ hy), here⟩
  · rintro (here | ⟨first, before, z, after, rfl, all, here⟩)
    · exact ⟨[], x, l, rfl, by simp, here⟩
    · exact ⟨x :: before, z, after, rfl, List.forall_mem_cons.2 ⟨first, all⟩, here⟩

/-! ### Values and texts -/

/-- A reader of the value comes upon a delay that is too long before any other fault. -/
def Json.Overruns (v : Json) : Prop :=
  ∃ members, v = .obj members ∧ Members.Overruns (whole members)

/-- A reader of the tree, within a depth, comes upon a delay that is too long before any other
fault. The tree need not be complete. -/
def Json.Tree.Overruns : Nat → Json.Tree → Prop
  | depth + 1, .object members _ =>
    Members.Overruns (members.map fun m => (m.1, m.2.toJson? depth))
  | _, _ => False

namespace Config

theorem ofJson_overrun_iff (v : Json) : ofJson v = .error .delayTooLong ↔ v.Overruns := by
  cases v with
  | obj members =>
    have read : ofJson (.obj members) = ofMembers (whole members) true := rfl
    rw [read, ofMembers_overlong_iff]
    constructor
    · exact fun h => ⟨members, rfl, h⟩
    · rintro ⟨_, ⟨⟩, h⟩
      exact h
  | _ => simp [ofJson, Json.Overruns]

theorem ofTree_overrun_iff (depth : Nat) (t : Json.Tree) :
    ofTree depth t = .error .delayTooLong ↔ t.Overruns depth := by
  cases t with
  | object members closed =>
    cases depth with
    | zero => simp [ofTree, Json.Tree.Overruns]
    | succ depth => exact ofMembers_overlong_iff
  | _ => cases depth <;> simp [ofTree, Json.Tree.Overruns]

theorem ofText_overrun_iff (s : String) :
    ofText s = .error .delayTooLong
      ↔ (Json.Document.ofText s).root.Overruns Json.maxDepth := by
  rw [← ofTree_overrun_iff]
  simp only [ofText]
  cases ofTree Json.maxDepth (Json.Document.ofText s).root with
  | error e => simp
  | ok c => cases (Json.Document.ofText s).complete <;> simp

end Config

/-! ### Documents -/

namespace Catalog

open Config (ofTree_overrun_iff)

/-- An entry is read as a whole before its fields are looked at, so that only a complete one has a
delay that is too long. -/
def EntryOverruns (depth : Nat) (t : Json.Tree) : Prop :=
  (t.toJson? depth).isSome = true ∧ t.Overruns depth

/-- A reader of the entries comes upon a delay that is too long before any other fault. -/
def MembersOverrun (depth : Nat) : List (Option String × Json.Tree) → Prop :=
  UpTo (fun m => ∃ key config, m.1 = some key ∧ entryOfTree depth m.2 = .ok config)
    fun m => m.1.isSome = true ∧ EntryOverruns depth m.2

/-- `MembersOverrun`, for the value of `resources`. -/
def EntriesOverrun : Nat → Json.Tree → Prop
  | depth + 1, .object members _ => MembersOverrun depth members
  | _, _ => False

/-- A reader of the fields of a document comes upon a delay that is too long: what it reads is the
first field `resources`, the others only have to be well-formed. -/
def FieldsOverrun (depth : Nat) : List (Option String × Json.Tree) → Prop :=
  UpTo (fun m => ∃ name, m.1 = some name ∧ name ≠ "resources" ∧ m.2.isWellFormed = true)
    fun m => m.1 = some "resources" ∧ EntriesOverrun depth m.2

/-- A reader of a document comes upon a delay that is too long. -/
def DocumentOverruns (depth : Nat) : Json.Tree → Prop
  | .object fields _ => FieldsOverrun depth fields
  | .array (t :: _) _ => EntriesOverrun depth t
  | _ => False

theorem entryOfTree_overrun_iff (depth : Nat) (t : Json.Tree) :
    entryOfTree depth t = .error .delayTooLong ↔ EntryOverruns depth t := by
  rw [EntryOverruns, ← ofTree_overrun_iff, entryOfTree.eq_def]
  cases value : t.toJson? depth with
  | none => simp
  | some v =>
    rw [if_neg (by simp)]
    cases t with
    | object members closed => simp
    | text s => cases s <;> simp [Config.ofTree]
    | _ => simp [Config.ofTree]

theorem entriesOfMembers_overrun_iff (depth : Nat) (members : List (Option String × Json.Tree)) :
    entriesOfMembers depth members = .error .delayTooLong ↔ MembersOverrun depth members := by
  induction members with
  | nil => simp [entriesOfMembers, MembersOverrun]
  | cons m rest ih =>
    obtain ⟨key, t⟩ := m
    rw [MembersOverrun, upTo_cons, ← MembersOverrun, ← ih, ← entryOfTree_overrun_iff]
    cases key with
    | none => simp [entriesOfMembers]
    | some key =>
      rw [entriesOfMembers]
      cases entryOfTree depth t with
      | error e => simp
      | ok config => cases entriesOfMembers depth rest <;> simp [Except.map]

theorem entriesOfTree_overrun_iff (depth : Nat) (t : Json.Tree) :
    entriesOfTree depth t = .error .delayTooLong ↔ EntriesOverrun depth t := by
  cases t with
  | object members closed =>
    cases depth with
    | zero => simp [entriesOfTree, EntriesOverrun]
    | succ depth =>
      rw [EntriesOverrun, ← entriesOfMembers_overrun_iff, entriesOfTree]
      cases entriesOfMembers depth members with
      | error e => simp
      | ok entries => cases closed <;> simp
  | _ => cases depth <;> simp [entriesOfTree, EntriesOverrun]

/-- Once `resources` has been read, the other fields hold no delay. -/
theorem entriesOfFields_of_seen (depth : Nat) (entries : List (String × Config))
    (fields : List (Option String × Json.Tree)) :
    entriesOfFields depth (some entries) fields ≠ .error .delayTooLong := by
  induction fields with
  | nil => simp [entriesOfFields]
  | cons m rest ih =>
    obtain ⟨_ | key, t⟩ := m
    · simp [entriesOfFields]
    · by_cases resources : key = "resources"
      · subst resources
        simp [entriesOfFields]
      · rw [entriesOfFields_other _ _ resources]
        split
        · exact ih
        · simp

theorem entriesOfFields_overrun_iff (depth : Nat) (fields : List (Option String × Json.Tree)) :
    entriesOfFields depth none fields = .error .delayTooLong ↔ FieldsOverrun depth fields := by
  induction fields with
  | nil => simp [entriesOfFields, FieldsOverrun]
  | cons m rest ih =>
    obtain ⟨key, t⟩ := m
    rw [FieldsOverrun, upTo_cons, ← FieldsOverrun, ← ih, ← entriesOfTree_overrun_iff]
    cases key with
    | none => simp [entriesOfFields]
    | some key =>
      by_cases resources : key = "resources"
      · subst resources
        rw [entriesOfFields]
        cases entriesOfTree depth t with
        | error e => simp
        | ok entries => simpa using entriesOfFields_of_seen depth entries rest
      · rw [entriesOfFields_other _ _ resources]
        cases t.isWellFormed <;> simp [resources]

theorem entriesOfRoot_overrun_iff (depth : Nat) (root : Json.Tree) :
    entriesOfRoot depth root = .error .delayTooLong ↔ DocumentOverruns depth root := by
  cases root with
  | object fields closed =>
    rw [DocumentOverruns, ← entriesOfFields_overrun_iff, entriesOfRoot]
    cases entriesOfFields depth none fields <;> simp [Except.map]
  | array items closed =>
    rcases items with _ | ⟨t, _ | ⟨u, rest⟩⟩
    · simp [entriesOfRoot, DocumentOverruns]
    · exact entriesOfTree_overrun_iff depth t
    · rw [DocumentOverruns, ← entriesOfTree_overrun_iff, entriesOfRoot]
      cases entriesOfTree depth t <;> simp
  | _ => simp [entriesOfRoot, DocumentOverruns]

/-- A reader of the text of a document comes upon a delay that is too long. -/
def TextOverruns (s : String) : Prop :=
  DocumentOverruns (Json.maxDepth - 1) (Json.Document.ofText s).root

theorem entriesOfText_overrun_iff (s : String) :
    entriesOfText s = .error .delayTooLong ↔ TextOverruns s := by
  rw [TextOverruns, ← entriesOfRoot_overrun_iff, entriesOfText_eq]
  cases entriesOfRoot (Json.maxDepth - 1) (Json.Document.ofText s).root with
  | error e => simp
  | ok entries => cases (Json.Document.ofText s).complete <;> simp

theorem addText_overrun_iff (c : Catalog) (s : String) :
    c.addText s = .error .delayTooLong ↔ TextOverruns s := by
  rw [← entriesOfText_overrun_iff, addText]
  cases entriesOfText s with
  | error e => cases e <;> simp
  | ok entries =>
    show Except.mapError CatalogFault.definition (c.addEntries (Keyed.ofList entries)) = _ ↔ _
    cases c.addEntries (Keyed.ofList entries) <;> simp [Except.mapError]

/-- Loading gives a result or an error that a caller can handle, except exactly where a reader comes
upon a delay of `2 ^ 64` seconds or more: for values, for texts, and for lists of documents, where
the documents before the one with the delay make a catalog. -/
theorem loading_overruns_iff (v : Json) (s : String) (texts : List String) :
    (Config.ofJson v = .error .delayTooLong ↔ v.Overruns)
      ∧ (Config.ofText s = .error .delayTooLong
        ↔ (Json.Document.ofText s).root.Overruns Json.maxDepth)
      ∧ (ofTexts texts = .error .delayTooLong
        ↔ ∃ before file after catalog, texts = before ++ file :: after
          ∧ ofTexts before = .ok catalog ∧ TextOverruns file) := by
  refine ⟨Config.ofJson_overrun_iff v, Config.ofText_overrun_iff s, ?_⟩
  simp only [ofTexts, foldlM_error_iff, addText_overrun_iff]

/-- There are such texts: a delay of a hundred billion billion seconds. -/
theorem text_overruns :
    ¬((∀ v, Config.ofJson v ≠ .error .delayTooLong)
      ∧ (∀ s, Config.ofText s ≠ .error .delayTooLong)
      ∧ ∀ texts, ofTexts texts ≠ .error .delayTooLong) := by
  rintro ⟨-, texts, -⟩
  refine texts "\x7b\x22method\x22:\x22list\x22,\x22delay\x22:1e20\x7d" ?_
  have overlong :
      (Config.ofText "\x7b\x22method\x22:\x22list\x22,\x22delay\x22:1e20\x7d").map (fun _ => ())
        = .error .delayTooLong := by decide +kernel
  revert overlong
  generalize Config.ofText _ = result
  intro overlong
  cases result <;> cases overlong
  rfl

end Catalog

end ReactiveResource
