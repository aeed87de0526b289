import ReactiveResource.Catalog
import ReactiveResource.Proofs.Keyed

/-!
# Reading the entries of a catalog

What the readers of a document's parts give, part by part. If a document is read, each of its
entries is, and the last entry of a key is the one that is found.

* `entriesOfMembers_cons_eq_ok`, `entry_of_entriesOfMembers`: entries one by one;
* `value?_reverse_eq_some_iff`: the last entry of a key;
* `entriesOfFields_other`, `entriesOfFields_eq_ok`: the fields of a document;
* `entriesOfRoot`, `lists_of_entriesOfRoot`, `entriesOfText_eq`: a document;
* `Defines`, `find?_of_defines`: the entry of a key.
-/

namespace ReactiveResource.Catalog

theorem entriesOfMembers_cons_eq_ok {depth : Nat} {m : Option String × Json.Tree}
    {ms : List (Option String × Json.Tree)} {entries : List (String × Config)} :
    entriesOfMembers depth (m :: ms) = .ok entries
      ↔ ∃ key c rest, m.1 = some key ∧ entryOfTree depth m.2 = .ok c
        ∧ entriesOfMembers depth ms = .ok rest ∧ entries = (key, c) :: rest := by
  obtain ⟨_ | key, t⟩ := m
  · simp [entriesOfMembers]
  · rw [entriesOfMembers]
    cases entryOfTree depth t with
    | error e => simp
    | ok c => cases entriesOfMembers depth ms <;> simp [Except.map, eq_comm]

theorem keys_entriesOfMembers {depth : Nat} {ms : List (Option String × Json.Tree)}
    {entries : List (String × Config)} (h : entriesOfMembers depth ms = .ok entries) :
    entries.map (fun e => some e.1) = ms.map (·.1) := by
  induction ms generalizing entries with
  | nil =>
    cases h
    rfl
  | cons m ms ih =>
    obtain ⟨key, c, rest, named, -, tail, rfl⟩ := entriesOfMembers_cons_eq_ok.1 h
    simp [ih tail, named]

/-- If all entries are read, each of them is. -/
theorem entry_of_entriesOfMembers {depth : Nat} {before after : List (Option String × Json.Tree)}
    {key : String} {t : Json.Tree} {entries : List (String × Config)}
    (h : entriesOfMembers depth (before ++ (some key, t) :: after) = .ok entries) :
    ∃ c first last, entryOfTree depth t = .ok c ∧ entries = first ++ (key, c) :: last
      ∧ last.map (fun e => some e.1) = after.map (·.1) := by
  induction before generalizing entries with
  | nil =>
    obtain ⟨name, c, rest, named, read, tail, rfl⟩ := entriesOfMembers_cons_eq_ok.1 h
    cases named
    exact ⟨c, [], rest, read, rfl, keys_entriesOfMembers tail⟩
  | cons m before ih =>
    obtain ⟨name, c, rest, -, -, tail, rfl⟩ := entriesOfMembers_cons_eq_ok.1 h
    obtain ⟨d, first, last, read, rfl, keys⟩ := ih tail
    exact ⟨d, (name, c) :: first, last, read, rfl, keys⟩

/-- Each entry that is read stands in the text. -/
theorem member_of_entriesOfMembers {depth : Nat} {members : List (Option String × Json.Tree)}
    {first last : List (String × Config)} {key : String} {c : Config}
    (h : entriesOfMembers depth members = .ok (first ++ (key, c) :: last)) :
    ∃ before t after, members = before ++ (some key, t) :: after ∧ entryOfTree depth t = .ok c
      ∧ last.map (fun e => some e.1) = after.map (·.1) := by
  induction first generalizing members with
  | nil =>
    match members with
    | (name, t) :: after =>
      obtain ⟨_, _, _, rfl, read, tail, same⟩ := entriesOfMembers_cons_eq_ok.1 h
      cases same
      exact ⟨[], t, after, rfl, read, keys_entriesOfMembers tail⟩
  | cons e first ih =>
    match members with
    | m :: members =>
      obtain ⟨_, _, rest, -, -, tail, same⟩ := entriesOfMembers_cons_eq_ok.1 h
      obtain ⟨-, rfl⟩ := List.cons.inj same
      obtain ⟨before, t, after, rfl, read, keys⟩ := ih tail
      exact ⟨m :: before, t, after, rfl, read, keys⟩

/-- The last entry of a key is the one that stands last in the text. -/
theorem value?_reverse_eq_some_iff {depth : Nat} {members : List (Option String × Json.Tree)}
    {entries : List (String × Config)} {key : String} {c : Config}
    (h : entriesOfMembers depth members = .ok entries) :
    Keyed.value? entries.reverse key = some c
      ↔ ∃ before t after, members = before ++ (some key, t) :: after
        ∧ (∀ m ∈ after, m.1 ≠ some key) ∧ entryOfTree depth t = .ok c := by
  rw [Keyed.value?_reverse_eq_some_iff]
  constructor
  · rintro ⟨first, last, rfl, others⟩
    obtain ⟨before, t, after, rfl, read, keys⟩ := member_of_entriesOfMembers h
    refine ⟨before, t, after, rfl, fun m mem same => ?_, read⟩
    have named : some key ∈ last.map fun e => some e.1 := by
      rw [keys]
      exact same ▸ List.mem_map_of_mem mem
    obtain ⟨e, he, name⟩ := List.mem_map.1 named
    exact others e he (Option.some.inj name)
  · rintro ⟨before, t, after, rfl, others, read⟩
    obtain ⟨d, first, last, here, rfl, keys⟩ := entry_of_entriesOfMembers h
    cases here.symm.trans read
    refine ⟨first, last, rfl, fun e mem same => ?_⟩
    have named : some key ∈ after.map (·.1) := by
      rw [← keys]
      exact same ▸ List.mem_map_of_mem mem
    obtain ⟨m, hm, name⟩ := List.mem_map.1 named
    exact others m hm name

theorem entriesOfTree_object_eq_ok {depth : Nat} {members : List (Option String × Json.Tree)}
    {entries : List (String × Config)} :
    entriesOfTree (depth + 1) (.object members true) = .ok entries
      ↔ entriesOfMembers depth members = .ok entries := by
  rw [entriesOfTree]
  cases entriesOfMembers depth members <;> simp

theorem entriesOfTree_eq_ok {depth : Nat} {t : Json.Tree} {entries : List (String × Config)} :
    entriesOfTree (depth + 1) t = .ok entries
      ↔ ∃ members, t = .object members true ∧ entriesOfMembers depth members = .ok entries := by
  cases t with
  | object members closed =>
    cases closed with
    | true => simp [entriesOfTree_object_eq_ok]
    | false =>
      rw [entriesOfTree]
      cases entriesOfMembers depth members <;> simp
  | _ => simp [entriesOfTree]

theorem entriesOfFields_other (depth : Nat) (seen : Option (List (String × Config))) {key : String}
    (other : key ≠ "resources") (t : Json.Tree) (rest : List (Option String × Json.Tree)) :
    entriesOfFields depth seen ((some key, t) :: rest)
      = if t.isWellFormed then entriesOfFields depth seen rest else .error .malformed := by
  rw [entriesOfFields]
  simpa using other

/-- The entries of a document, before it is known to be complete. -/
def entriesOfRoot (depth : Nat) : Json.Tree → Except DecodeError (List (String × Config))
  | .object members _ => (entriesOfFields depth none members).map (·.getD [])
  | .array [] _ => .ok []
  | .array [t] _ => entriesOfTree depth t
  | .array (t :: _ :: _) _ =>
    match entriesOfTree depth t with
    | .error e => .error e
    | .ok _ => .error .malformed
  | _ => .error .malformed

theorem entriesOfText_eq (s : String) :
    entriesOfText s
      = match entriesOfRoot (Json.maxDepth - 1) (Json.Document.ofText s).root with
        | .error e => .error e
        | .ok entries =>
          if (Json.Document.ofText s).complete then .ok entries else .error .malformed := rfl

/-- The entries that a document has under `resources`. -/
def Lists (root : Json.Tree) (entries : List (Option String × Json.Tree)) : Prop :=
  (∃ fields closed, root = .object fields closed
      ∧ (some "resources", .object entries true) ∈ fields)
    ∨ ∃ closed, root = .array [.object entries true] closed

/-- A document has a tree as its entry of a key: of several entries of the key it is the last. -/
def Defines (d : Json.Document) (key : String) (t : Json.Tree) : Prop :=
  ∃ before after, Lists d.root (before ++ (some key, t) :: after) ∧ ∀ m ∈ after, m.1 ≠ some key

/-- If `resources` has been read, the fields that follow change nothing. -/
theorem entriesOfFields_of_seen_eq_ok {depth : Nat} {entries : List (String × Config)}
    {fields : List (Option String × Json.Tree)} {result : Option (List (String × Config))}
    (h : entriesOfFields depth (some entries) fields = .ok result) :
    result = some entries ∧ ∀ m ∈ fields, m.1 ≠ some "resources" := by
  induction fields with
  | nil =>
    cases h
    exact ⟨rfl, nofun⟩
  | cons m rest ih =>
    obtain ⟨_ | key, t⟩ := m
    · cases h
    · by_cases resources : key = "resources"
      · subst resources
        cases h
      · rw [entriesOfFields_other _ _ resources] at h
        split at h
        · obtain ⟨same, none⟩ := ih h
          exact ⟨same, List.forall_mem_cons.2 ⟨by simpa using resources, none⟩⟩
        · cases h

/-- What is read of a document is what stands under `resources`. -/
theorem entriesOfFields_eq_ok {depth : Nat} {fields : List (Option String × Json.Tree)}
    {t : Json.Tree} {result : Option (List (String × Config))}
    (h : entriesOfFields depth none fields = .ok result) (mem : (some "resources", t) ∈ fields) :
    ∃ entries, entriesOfTree depth t = .ok entries ∧ result = some entries := by
  induction fields with
  | nil => cases mem
  | cons m rest ih =>
    obtain ⟨_ | key, u⟩ := m
    · cases h
    · by_cases resources : key = "resources"
      · subst resources
        rw [entriesOfFields] at h
        cases read : entriesOfTree depth u with
        | error e =>
          rw [read] at h
          cases h
        | ok entries =>
          rw [read] at h
          obtain ⟨rfl, none⟩ := entriesOfFields_of_seen_eq_ok h
          rcases List.mem_cons.1 mem with here | later
          · cases here
            exact ⟨entries, read, rfl⟩
          · exact absurd rfl (none _ later)
      · rw [entriesOfFields_other _ _ resources] at h
        split at h
        · rcases List.mem_cons.1 mem with here | later
          · cases here
            exact absurd rfl resources
          · exact ih h later
        · cases h

/-- Without `resources` there are no entries. -/
theorem entriesOfFields_of_unlisted {depth : Nat} {fields : List (Option String × Json.Tree)}
    {result : Option (List (String × Config))} (unlisted : ∀ t, (some "resources", t) ∉ fields)
    (h : entriesOfFields depth none fields = .ok result) : result = none := by
  induction fields with
  | nil =>
    cases h
    rfl
  | cons m rest ih =>
    obtain ⟨_ | name, t⟩ := m
    · cases h
    · have other : name ≠ "resources" := fun same => unlisted t (same ▸ List.mem_cons_self)
      rw [entriesOfFields_other _ _ other] at h
      split at h
      · exact ih (fun u hu => unlisted u (.tail _ hu)) h
      · cases h

theorem entriesOfRoot_eq_ok {depth : Nat} {root : Json.Tree}
    {members : List (Option String × Json.Tree)} {entries : List (String × Config)}
    (lists : Lists root members) (h : entriesOfRoot (depth + 1) root = .ok entries) :
    entriesOfMembers depth members = .ok entries := by
  rcases lists with ⟨fields, closed, rfl, mem⟩ | ⟨closed, rfl⟩
  · rw [entriesOfRoot] at h
    cases read : entriesOfFields (depth + 1) none fields with
    | error e =>
      rw [read] at h
      cases h
    | ok result =>
      rw [read] at h
      obtain ⟨listed, here, rfl⟩ := entriesOfFields_eq_ok read mem
      cases h
      exact entriesOfTree_object_eq_ok.1 here
  · exact entriesOfTree_object_eq_ok.1 h

/-- A document whose entries are read lists them, or has none. -/
theorem lists_of_entriesOfRoot {depth : Nat} {root : Json.Tree} {entries : List (String × Config)}
    (h : entriesOfRoot (depth + 1) root = .ok entries) :
    entries = []
      ∨ ∃ members, Lists root members ∧ entriesOfMembers depth members = .ok entries := by
  cases root with
  | object fields closed =>
    rw [entriesOfRoot] at h
    cases read : entriesOfFields (depth + 1) none fields with
    | error e =>
      rw [read] at h
      cases h
    | ok result =>
      rw [read] at h
      cases h
      by_cases listed : ∃ t, (some "resources", t) ∈ fields
      · obtain ⟨t, mem⟩ := listed
        obtain ⟨entries, here, rfl⟩ := entriesOfFields_eq_ok read mem
        obtain ⟨members, rfl, all⟩ := entriesOfTree_eq_ok.1 here
        exact .inr ⟨members, .inl ⟨fields, closed, rfl, mem⟩, all⟩
      · cases entriesOfFields_of_unlisted (not_exists.1 listed) read
        exact .inl rfl
  | array items closed =>
    match items with
    | [] =>
      cases h
      exact .inl rfl
    | [t] =>
      obtain ⟨members, rfl, all⟩ := entriesOfTree_eq_ok.1 h
      exact .inr ⟨members, .inr ⟨closed, rfl⟩, all⟩
    | t :: _ :: _ =>
      rw [entriesOfRoot] at h
      split at h <;> cases h
  | _ => cases h

theorem entriesOfText_eq_ok {s : String} {entries : List (String × Config)} :
    entriesOfText s = .ok entries
      ↔ entriesOfRoot (Json.maxDepth - 1) (Json.Document.ofText s).root = .ok entries
        ∧ (Json.Document.ofText s).complete = true := by
  rw [entriesOfText_eq]
  cases entriesOfRoot (Json.maxDepth - 1) (Json.Document.ofText s).root with
  | error e => simp
  | ok entries => cases (Json.Document.ofText s).complete <;> simp

/-- Whether entries can be set over a catalog is up to them alone: one without a method is named, or
they all have one. -/
theorem addEntries_cases (entries : Keyed Config) :
    (∃ e ∈ entries, Text.isBlank e.2.method = true
      ∧ ∀ c : Catalog, c.addEntries entries = .error (.missingMethod e.1))
    ∨ (∀ e ∈ entries, Text.isBlank e.2.method = false)
      ∧ ∀ c : Catalog, c.addEntries entries
        = .ok { entries := Keyed.overlay c.entries entries } := by
  simp only [addEntries]
  generalize found : entries.find? _ = blank
  cases blank with
  | some e =>
    exact .inl ⟨e, List.mem_of_find?_eq_some found, by simpa using List.find?_some found,
      fun _ => rfl⟩
  | none => exact .inr ⟨by simpa using List.find?_eq_none.1 found, fun _ => rfl⟩

/-- A document is added if it can be read and all its entries, the last ones of their keys, have a
method. -/
theorem addText_eq_ok {c c' : Catalog} {s : String} :
    c.addText s = .ok c'
      ↔ ∃ entries, entriesOfText s = .ok entries
        ∧ (∀ e ∈ Keyed.ofList entries, Text.isBlank e.2.method = false)
        ∧ c' = { entries := Keyed.overlay c.entries (Keyed.ofList entries) } := by
  rw [addText]
  cases entriesOfText s with
  | error e => cases e <;> simp
  | ok entries =>
    show Except.mapError CatalogFault.definition (c.addEntries (Keyed.ofList entries)) = _ ↔ _
    rcases addEntries_cases (Keyed.ofList entries) with ⟨e, mem, blank, added⟩ | ⟨all, added⟩
    · simp only [added, Except.mapError, reduceCtorEq, Except.ok.injEq, exists_eq_left', false_iff,
        not_and]
      exact fun all => absurd (all e mem) (by simp [blank])
    · simp only [added, Except.mapError, Except.ok.injEq, exists_eq_left']
      exact ⟨fun h => ⟨all, h.symm⟩, fun h => h.2.symm⟩

theorem ofTexts_singleton (s : String) : ofTexts [s] = addText {} s := by
  rw [ofTexts, List.foldlM_cons]
  cases addText {} s <;> rfl

/-- The entry of a key in a file that is read as a catalog is read, it has a method, and it is the
one that is found. -/
theorem find?_of_defines {file key : String} {t : Json.Tree} {catalog : Catalog}
    (defines : Defines (Json.Document.ofText file) key t)
    (read : ofTexts [file] = .ok catalog) :
    ∃ c, entryOfTree (Json.maxDepth - 2) t = .ok c ∧ Text.isBlank c.method = false
      ∧ catalog.find? key = some c := by
  obtain ⟨before, after, lists, last⟩ := defines
  rw [ofTexts_singleton] at read
  obtain ⟨entries, listed, methods, rfl⟩ := addText_eq_ok.1 read
  have all := entriesOfRoot_eq_ok lists (entriesOfText_eq_ok.1 listed).1
  obtain ⟨c, -, -, here, -, -⟩ := entry_of_entriesOfMembers all
  have value : Keyed.value? entries.reverse key = some c :=
    (value?_reverse_eq_some_iff all).2 ⟨before, t, after, rfl, last, here⟩
  refine ⟨c, here, methods _ (Keyed.mem_ofList.2 value), ?_⟩
  show Keyed.value? (Keyed.ofList (Keyed.ofList entries)) key = some c
  rw [Keyed.value?_ofList, Keyed.value?_reverse (Keyed.nodup_keys (Keyed.ascending_ofList _)),
    Keyed.value?_ofList, value]

end ReactiveResource.Catalog
