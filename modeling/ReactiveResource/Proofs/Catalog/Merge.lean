import Mathlib.Data.List.Induction
import ReactiveResource.Proofs.Catalog.Overrun
import ReactiveResource.Proofs.Places
import ReactiveResource.Proofs.Text.Order

/-!
# Files merged into one catalog

A catalog is made of files, one after another. Each file must be readable, and each config that it
ends up with must have a method, whatever the files after it say. The catalog then has, for every
key, the config of the last file that gives one; otherwise the first file that is at fault decides.

* `Gives`, `gives_iff`: the config that a file has for a key;
* `Sound`, `addText_of_sound`, `addText_error`: the files that can be added, and what becomes of the
  others;
* `GivesLast`, `find?_of_files`: the config of a key in the catalog of several files;
* `ofTexts_ok_iff`, `Merges`, `ofTexts_append`: the catalog of files;
* `AsPromised`, `merge_of_files`: what becomes of any files.
-/

namespace ReactiveResource.Catalog

open Json (Document)

variable {files : List String} {file key : String} {c : Config} {catalog next : Catalog}
  {entries : List (String × Config)} {fault : CatalogFault}

/-! ### One file -/

/-- A file has a config for a key: of several entries of the key the last one counts. -/
def Gives (file key : String) (c : Config) : Prop :=
  ∃ t, Defines (Document.ofText file) key t ∧ entryOfTree (Json.maxDepth - 2) t = .ok c

/-- A method name alone is short for a config that fetches by itself. -/
theorem entryOfTree_text (depth : Nat) (method : String) :
    entryOfTree (depth + 1) (.text (some method))
      = entryOfTree (depth + 1)
          (.object [(some "method", .text (some method)), (some "auto", .bool true)] true) := rfl

theorem gives_iff (h : entriesOfText file = .ok entries) :
    Gives file key c ↔ Keyed.value? (Keyed.ofList entries) key = some c := by
  have root := (entriesOfText_eq_ok.1 h).1
  rw [Keyed.value?_ofList]
  constructor
  · rintro ⟨t, ⟨before, after, lists, last⟩, read⟩
    have all := entriesOfRoot_eq_ok lists root
    exact (value?_reverse_eq_some_iff all).2 ⟨before, t, after, rfl, last, read⟩
  · intro value
    rcases lists_of_entriesOfRoot root with rfl | ⟨members, lists, all⟩
    · cases value
    · obtain ⟨before, t, after, rfl, last, read⟩ := (value?_reverse_eq_some_iff all).1 value
      exact ⟨t, ⟨before, after, lists, last⟩, read⟩

/-- A file can be read as a list of entries. -/
def Readable (file : String) : Prop := ∃ entries, entriesOfText file = .ok entries

/-- A file can be read, and every config that it ends up with has a method. -/
structure Sound (file : String) : Prop where
  readable : Readable file
  method : ∀ key c, Gives file key c → Text.isBlank c.method = false

/-- The fault that a file is refused for: it cannot be read, or a config in it has no method. -/
def Blames (file : String) (fault : CatalogFault) : Prop :=
  (¬Readable file ∧ ∃ text, fault = .definition (.catalog text))
    ∨ Readable file ∧ ∃ key c, Gives file key c ∧ Text.isBlank c.method = true
      ∧ fault = .definition (.missingMethod key)

/-- The catalog with the definitions of another one set over its own. -/
def overlaid (base top : Catalog) : Catalog :=
  { entries := Keyed.overlay base.entries top.entries }

/-- A file is added by setting its own catalog over what there is. -/
theorem addText_eq (catalog : Catalog) (file : String) :
    catalog.addText file = (addText {} file).map catalog.overlaid := by
  cases read : entriesOfText file with
  | error e => cases e <;> simp [addText, read, Except.map]
  | ok entries =>
    have own : Keyed.overlay [] (Keyed.ofList entries) = Keyed.ofList entries :=
      Keyed.ofList_of_ascending (Keyed.ascending_ofList entries)
    rcases addEntries_cases (Keyed.ofList entries) with ⟨e, -, -, added⟩ | ⟨-, added⟩
    · simp [addText, read, added, Except.mapError, Except.map]
    · simp [addText, read, added, Except.mapError, Except.map, overlaid, own]

theorem addText_of_sound (sound : Sound file) (catalog : Catalog) :
    ∃ entries, entriesOfText file = .ok entries
      ∧ catalog.addText file
        = .ok { entries := Keyed.overlay catalog.entries (Keyed.ofList entries) } := by
  obtain ⟨entries, read⟩ := sound.readable
  refine ⟨entries, read, addText_eq_ok.2 ⟨entries, read, ?_, rfl⟩⟩
  rintro ⟨key, c⟩ mem
  have value := (Keyed.mem_iff_value? (Keyed.ascending_ofList entries)).1 mem
  exact sound.method key c ((gives_iff read).2 value)

theorem sound_of_addText (h : catalog.addText file = .ok next) : Sound file := by
  obtain ⟨entries, read, methods, -⟩ := addText_eq_ok.1 h
  refine ⟨⟨entries, read⟩, fun key c gives => methods (key, c) ?_⟩
  exact (Keyed.mem_iff_value? (Keyed.ascending_ofList entries)).2 ((gives_iff read).1 gives)

/-- A file that is refused is to blame for it, unless a delay in it is too long. -/
theorem addText_error (h : catalog.addText file = .error fault) :
    Blames file fault ∨ fault = .delayTooLong ∧ TextOverruns file := by
  cases read : entriesOfText file with
  | error e =>
    have unreadable : ¬Readable file := by
      rintro ⟨entries, readable⟩
      cases read.symm.trans readable
    cases e with
    | malformed =>
      rw [addText, read] at h
      cases h
      exact .inl (.inl ⟨unreadable, _, rfl⟩)
    | delayTooLong =>
      rw [addText, read] at h
      cases h
      exact .inr ⟨rfl, (entriesOfText_overrun_iff file).1 read⟩
  | ok entries =>
    rcases addEntries_cases (Keyed.ofList entries) with ⟨e, mem, blank, added⟩ | ⟨-, added⟩
    · simp only [addText, read, added] at h
      cases h
      have value := (Keyed.mem_iff_value? (Keyed.ascending_ofList entries)).1 mem
      exact .inl (.inr ⟨⟨entries, read⟩, e.1, e.2, (gives_iff read).2 value, blank, rfl⟩)
    · simp only [addText, read, added] at h
      cases h

/-! ### Several files -/

/-- Of several files, the last one that has a config for the key has this one. -/
def GivesLast (files : List String) (key : String) (c : Config) : Prop :=
  ∃ before file after, files = before ++ file :: after ∧ Gives file key c
    ∧ ∀ later ∈ after, ∀ d, ¬Gives later key d

theorem givesLast_concat :
    GivesLast (files ++ [file]) key c
      ↔ Gives file key c ∨ (∀ d, ¬Gives file key d) ∧ GivesLast files key c := by
  constructor
  · rintro ⟨before, middle, after, split, gives, none⟩
    rcases concat_eq_append_cons_iff.1 split with ⟨-, rfl, -⟩ | ⟨rest, rfl, rfl⟩
    · exact .inl gives
    · exact .inr ⟨none file (by simp), before, middle, rest, rfl, gives,
        fun later mem => none later (by simp [mem])⟩
  · rintro (gives | ⟨none, before, middle, after, rfl, gives, others⟩)
    · exact ⟨files, file, [], rfl, gives, nofun⟩
    · refine ⟨before, middle, after ++ [file], by simp, gives, fun later mem => ?_⟩
      rcases List.mem_append.1 mem with mem | mem
      · exact others later mem
      · cases List.mem_singleton.1 mem
        exact none

/-- Some file has the last word on a key if any file has a config for it. -/
theorem exists_givesLast_iff :
    (∃ c, GivesLast files key c) ↔ ∃ file ∈ files, ∃ c, Gives file key c := by
  constructor
  · rintro ⟨c, before, file, after, rfl, gives, -⟩
    exact ⟨file, by simp, c, gives⟩
  · rintro ⟨file, mem, given⟩
    induction files using List.reverseRecOn with
    | nil => cases mem
    | append_singleton files last ih =>
      by_cases here : ∃ c, Gives last key c
      · obtain ⟨c, gives⟩ := here
        exact ⟨c, givesLast_concat.2 (.inl gives)⟩
      · have earlier : file ∈ files := by
          rcases List.mem_append.1 mem with mem | mem
          · exact mem
          · cases List.mem_singleton.1 mem
            exact absurd given here
        obtain ⟨c, gives⟩ := ih earlier
        exact ⟨c, givesLast_concat.2 (.inr ⟨not_exists.1 here, gives⟩)⟩

/-- The catalog of files: for each key the config of the last file that has one, and no other
keys, which ascend octet by octet. -/
structure Merges (files : List String) (catalog : Catalog) : Prop where
  config : ∀ key c, catalog.find? key = some c ↔ GivesLast files key c
  keys : ∀ key, key ∈ catalog.keys ↔ ∃ file ∈ files, ∃ c, Gives file key c
  ascending : (catalog.keys.map Text.octets).Pairwise (· < ·)
  size : catalog.size = catalog.keys.length

/-- What the last file says of a key counts, or else what was said before. -/
theorem find?_addText (h : catalog.addText file = .ok next) :
    next.find? key = some c
      ↔ Gives file key c ∨ (∀ d, ¬Gives file key d) ∧ catalog.find? key = some c := by
  obtain ⟨entries, read, -, rfl⟩ := addText_eq_ok.1 h
  simp only [gives_iff read, find?,
    Keyed.value?_overlay_of_ascending _ (Keyed.ascending_ofList entries)]
  cases Keyed.value? (Keyed.ofList entries) key <;> simp

theorem ascending_addText (before : (Keyed.keys catalog.entries).Pairwise (· < ·))
    (h : catalog.addText file = .ok next) : (Keyed.keys next.entries).Pairwise (· < ·) := by
  obtain ⟨entries, -, -, rfl⟩ := addText_eq_ok.1 h
  exact Keyed.ascending_overlay before _

theorem ascending_ofTexts (h : ofTexts files = .ok catalog) :
    (Keyed.keys catalog.entries).Pairwise (· < ·) :=
  foldlM_ok (P := fun c : Catalog => (Keyed.keys c.entries).Pairwise (· < ·))
    (fun _ _ _ _ before added => ascending_addText before added) List.Pairwise.nil h

theorem find?_of_files (h : ofTexts files = .ok catalog) (key : String) (c : Config) :
    catalog.find? key = some c ↔ GivesLast files key c := by
  induction files using List.reverseRecOn generalizing catalog with
  | nil =>
    cases h
    constructor
    · nofun
    · rintro ⟨before, file, after, split, -⟩
      cases before <;> cases split
  | append_singleton files file ih =>
    obtain ⟨earlier, taken, last⟩ := foldlM_append_ok h
    obtain ⟨_, added, ⟨⟩⟩ := foldlM_cons_ok last
    rw [find?_addText added, givesLast_concat, ih taken]

theorem merges_of_ofTexts (h : ofTexts files = .ok catalog) : Merges files catalog where
  config := find?_of_files h
  keys key := by
    rw [← exists_givesLast_iff, keys, Keyed.mem_keys, Option.isSome_iff_exists]
    exact exists_congr (find?_of_files h key)
  ascending := by
    rw [List.pairwise_map]
    exact (ascending_ofTexts h).imp Text.octets_lt_octets_iff.2
  size := (List.length_map _).symm

/-- Files make a catalog exactly if each of them could be added to any. -/
theorem ofTexts_ok_iff :
    (∃ catalog, ofTexts files = .ok catalog) ↔ ∀ file ∈ files, Sound file := by
  constructor
  · rintro ⟨catalog, h⟩ file mem
    obtain ⟨before, after, rfl⟩ := List.append_of_mem mem
    obtain ⟨earlier, -, rest⟩ := foldlM_append_ok h
    obtain ⟨next, added, -⟩ := foldlM_cons_ok rest
    exact sound_of_addText added
  · intro sound
    cases h : ofTexts files with
    | ok catalog => exact ⟨catalog, rfl⟩
    | error fault =>
      obtain ⟨before, file, after, earlier, rfl, -, refused⟩ := foldlM_error_iff.1 h
      obtain ⟨entries, -, added⟩ := addText_of_sound (sound file (by simp)) earlier
      cases refused.symm.trans added

/-- Files are added by setting their own catalog over what there is. -/
theorem foldlM_addText (ascending : (Keyed.keys catalog.entries).Pairwise (· < ·))
    (files : List String) :
    files.foldlM addText catalog = (ofTexts files).map catalog.overlaid := by
  induction files using List.reverseRecOn with
  | nil => rfl
  | append_singleton files file ih =>
    have last (c : Catalog) :
        (files ++ [file]).foldlM addText c = files.foldlM addText c >>= (addText · file) := by
      simp
    rw [ofTexts, last, last, ih, ← ofTexts]
    cases own : ofTexts files with
    | error fault => rfl
    | ok top =>
      show (catalog.overlaid top).addText file = (top.addText file).map catalog.overlaid
      rw [addText_eq, addText_eq top]
      cases added : addText {} file with
      | error fault => rfl
      | ok new =>
        have empty : (Keyed.keys ({} : Catalog).entries).Pairwise (· < ·) := List.Pairwise.nil
        have ordered := ascending_addText empty added
        simp only [Except.map, overlaid,
          Keyed.overlay_overlay ascending (ascending_ofTexts own) ordered]

theorem ofTexts_append (xs ys : List String) :
    ofTexts (xs ++ ys) = do
      let base ← ofTexts xs
      let top ← ofTexts ys
      return base.overlaid top := by
  rw [ofTexts, List.foldlM_append, ← ofTexts]
  cases first : ofTexts xs with
  | error fault => rfl
  | ok base =>
    show ys.foldlM addText base = (ofTexts ys).bind fun top => .ok (base.overlaid top)
    rw [foldlM_addText (ascending_ofTexts first)]
    cases ofTexts ys <;> rfl

/-! ### Any files -/

/-- What becomes of files, but for delays beyond every duration: the catalog that has what the last
ones say, if all are sound, or else the error that the first other one is to blame for. -/
def AsPromised (files : List String) : Except CatalogFault Catalog → Prop
  | .ok catalog => (∀ file ∈ files, Sound file) ∧ Merges files catalog
  | .error fault =>
    ∃ before file after, files = before ++ file :: after ∧ (∀ g ∈ before, Sound g)
      ∧ Blames file fault

/-- **The catalog of files.** There is one exactly if every file can be read and every config that
it ends up with has a method. It has for each key the config of the last file that has one, its keys
ascend octet by octet, and that of files in two parts is the catalog of the second part set over
that of the first. Otherwise the error is that of the first file at fault, except exactly where a
reader comes upon a delay of `2 ^ 64` seconds or more before any fault. -/
theorem merge_of_files (files : List String) :
    ((∃ catalog, ofTexts files = .ok catalog) ↔ ∀ file ∈ files, Sound file)
      ∧ (∀ catalog, ofTexts files = .ok catalog → Merges files catalog)
      ∧ (∀ xs ys, ofTexts (xs ++ ys) = do
          let base ← ofTexts xs
          let top ← ofTexts ys
          return base.overlaid top)
      ∧ (∀ depth method, entryOfTree (depth + 1) (.text (some method))
          = entryOfTree (depth + 1)
            (.object [(some "method", .text (some method)), (some "auto", .bool true)] true))
      ∧ (AsPromised files (ofTexts files)
          ↔ ¬∃ before file after, files = before ++ file :: after ∧ (∀ g ∈ before, Sound g)
            ∧ TextOverruns file) := by
  refine ⟨ofTexts_ok_iff, fun _ => merges_of_ofTexts, ofTexts_append, entryOfTree_text, ?_⟩
  constructor
  · rintro promised ⟨before, file, after, rfl, sound, overrun⟩
    obtain ⟨catalog, taken⟩ := ofTexts_ok_iff.2 sound
    have stopped : ofTexts (before ++ file :: after) = .error .delayTooLong :=
      foldlM_error_iff.2 ⟨before, file, after, catalog, rfl, taken,
        (addText_overrun_iff catalog file).2 overrun⟩
    rw [stopped] at promised
    obtain ⟨-, blamed, -, -, -, ⟨-, _, ⟨⟩⟩ | ⟨-, _, _, -, -, ⟨⟩⟩⟩ := promised
  · intro short
    cases result : ofTexts files with
    | ok catalog => exact ⟨ofTexts_ok_iff.1 ⟨catalog, result⟩, merges_of_ofTexts result⟩
    | error fault =>
      obtain ⟨before, file, after, earlier, rfl, taken, refused⟩ := foldlM_error_iff.1 result
      have sound := ofTexts_ok_iff.1 ⟨earlier, taken⟩
      rcases addText_error refused with blamed | ⟨-, overrun⟩
      · exact ⟨before, file, after, rfl, sound, blamed⟩
      · exact absurd ⟨before, file, after, rfl, sound, overrun⟩ short

/-- A file with a delay of a hundred billion billion seconds. -/
def overlongFile : String :=
  "\x7b\x22resources\x22:\x7b\x22tickets\x22:\x7b"
    ++ "\x22method\x22:\x22list\x22,\x22delay\x22:1e20\x7d\x7d\x7d"

/-- Such a file is refused, but no file is to blame for that. -/
theorem overlong_file_unpromised : ¬AsPromised [overlongFile] (ofTexts [overlongFile]) := by
  have stopped : (ofTexts [overlongFile]).map (fun _ => ()) = .error .delayTooLong := by
    decide +kernel
  cases result : ofTexts [overlongFile] with
  | ok catalog =>
    rw [result] at stopped
    cases stopped
  | error fault =>
    rw [result] at stopped
    cases stopped
    rintro ⟨-, blamed, -, -, -, ⟨-, _, ⟨⟩⟩ | ⟨-, _, _, -, -, ⟨⟩⟩⟩

end ReactiveResource.Catalog
