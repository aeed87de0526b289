import Mathlib.Data.List.Basic
import ReactiveResource.Proofs.Url.Walking

/-!
# Folders of the web

The URL of a web page has a path of segments, none of which holds a slash. So the text of its path
tells the segments apart: a path begins with the text of a folder exactly if it has the segments of
the folder and more.

* `Unslashed`: segments without slashes, as reading gives them;
* `prefix_print_iff`: paths that begin with the text of a folder;
* `IsWeb`, `ofText?_web`: what is known of the URL of a web page;
* `Path.folderText`, `print_withTrailingSlash`: the text of a folder.
-/

namespace ReactiveResource

theorem Text.separates_of_mem_split {separates : Char → Bool} {cs piece : List Char}
    (mem : piece ∈ split separates cs) : ∀ c ∈ piece, separates c = false := by
  induction cs generalizing piece with
  | nil => simp_all [split]
  | cons c rest ih =>
    rw [split] at mem
    split at mem
    · rcases List.mem_cons.1 mem with rfl | mem
      · intro d hd
        cases hd
      · exact ih mem
    · next inside =>
      have here : separates c = false := Bool.eq_false_iff.2 inside
      split at mem
      · simp_all
      · next first others pieces =>
        rcases List.mem_cons.1 mem with rfl | mem
        · intro d hd
          rcases List.mem_cons.1 hd with rfl | hd
          · exact here
          · exact ih (pieces ▸ List.mem_cons_self) d hd
        · exact ih (pieces ▸ List.mem_cons_of_mem _ mem)

namespace Url

/-! ### Segments without slashes -/

/-- No segment holds a slash. -/
def Unslashed (list : List String) : Prop := ∀ s ∈ list, '/' ∉ s.toList

variable {list folder : List String} {segment : List Char} {segments : List (List Char)}

theorem Unslashed.append {a b : List String} (ha : Unslashed a) (hb : Unslashed b) :
    Unslashed (a ++ b) := fun s mem =>
  (List.mem_append.1 mem).elim (ha s) (hb s)

theorem unslashed_singleton {s : String} (h : '/' ∉ s.toList) : Unslashed [s] :=
  fun _ mem => List.mem_singleton.1 mem ▸ h

theorem Unslashed.of_isPrefix {a b : List String} (h : Unslashed b) (hp : a <+: b) : Unslashed a :=
  fun s mem => h s (hp.subset mem)

theorem hexDigit_ne_slash (n : Nat) : Percent.hexDigit n ≠ '/' := by
  have digits : ∀ n < 16, Percent.hexDigit n ≠ '/' := by decide
  rcases Nat.lt_or_ge n 16 with low | high
  · exact digits n low
  · have other : Nat.digitChar n = '*' := by simp (disch := omega) only [Nat.digitChar, if_neg]
    rw [Percent.hexDigit, other]
    decide

theorem slash_not_mem_encode {reserved : Char → Bool} {cs : List Char} (h : '/' ∉ cs) :
    '/' ∉ Percent.encode reserved cs := by
  intro mem
  obtain ⟨c, hc, mem⟩ := List.mem_flatMap.1 mem
  rw [Percent.encodeChar] at mem
  split at mem
  · obtain ⟨octet, -, mem⟩ := List.mem_flatMap.1 mem
    simp [Percent.encodeOctet, eq_comm (a := '/'), hexDigit_ne_slash] at mem
  · exact h (List.mem_singleton.1 mem ▸ hc)

theorem slash_not_mem_encodeSegment (h : '/' ∉ segment) :
    '/' ∉ (encodeSegment segment).toList := by
  rw [encodeSegment, String.toList_ofList]
  exact slash_not_mem_encode h

theorem slash_not_mem_of_mem_split {special : Bool} {cs : List Char}
    (mem : segment ∈ splitSegments special cs) : '/' ∉ segment := fun slash => by
  have other := Text.separates_of_mem_split mem '/' slash
  simp [isSlash] at other

theorem Unslashed.pushSegment (h : Unslashed folder) (plain : '/' ∉ segment) :
    Unslashed (pushSegment folder segment) := by
  rw [Url.pushSegment]
  split
  · exact h.of_isPrefix (isPrefix_shorten folder)
  · split
    · exact h
    · exact h.append (unslashed_singleton (slash_not_mem_encodeSegment plain))

theorem Unslashed.walk (h : Unslashed folder) (plain : ∀ segment ∈ segments, '/' ∉ segment) :
    Unslashed (walk folder segments) := by
  induction segments generalizing folder with
  | nil => exact h
  | cons segment rest ih =>
    exact ih (h.pushSegment (plain segment List.mem_cons_self))
      fun s mem => plain s (List.mem_cons_of_mem _ mem)

theorem leading_subset (segments : List (List Char)) : leading segments ⊆ segments := by
  induction segments with
  | nil => exact List.Subset.refl []
  | cons segment rest ih =>
    cases rest with
    | nil =>
      rw [leading]
      split <;> simp
    | cons next rest => exact List.cons_subset_cons segment ih

theorem slash_not_mem_lastName (plain : ∀ segment ∈ segments, '/' ∉ segment) :
    '/' ∉ (lastName segments).toList := by
  induction segments with
  | nil => simp [lastName]
  | cons segment rest ih =>
    cases rest with
    | nil =>
      rw [lastName]
      split
      · simp
      · exact slash_not_mem_encodeSegment (plain segment List.mem_cons_self)
    | cons next rest => exact ih fun s mem => plain s (List.mem_cons_of_mem _ mem)

theorem Unslashed.pushSegments (h : Unslashed folder) (nonempty : segments ≠ [])
    (plain : ∀ segment ∈ segments, '/' ∉ segment) : Unslashed (pushSegments folder segments) := by
  rw [pushSegments_eq folder nonempty]
  exact (h.walk fun s mem => plain s (leading_subset segments mem)).append
    (unslashed_singleton (slash_not_mem_lastName plain))

/-! ### The text of a path -/

theorem toList_print_cons (s : String) (list : List String) :
    (Path.segments (s :: list)).print.toList
      = '/' :: s.toList ++ (Path.segments list).print.toList := by
  simp [Path.print, String.toList_join]

theorem print_append (a b : List String) :
    (Path.segments (a ++ b)).print = (Path.segments a).print ++ (Path.segments b).print := by
  simp [Path.print, String.join_append]

theorem print_concat_empty (list : List String) :
    (Path.segments (list ++ [""])).print = (Path.segments list).print ++ "/" := by
  rw [print_append]
  rfl

/-- A text without slashes ends where the first slash stands. -/
theorem prefix_iff_of_slash {a b x : List Char} {list : List String} (ha : '/' ∉ a)
    (hb : '/' ∉ b) :
    a ++ '/' :: x <+: b ++ (Path.segments list).print.toList
      ↔ a = b ∧ '/' :: x <+: (Path.segments list).print.toList := by
  induction a generalizing b with
  | nil =>
    cases b with
    | nil => simp
    | cons d b =>
      simp only [List.nil_append, List.cons_append, List.cons_prefix_cons]
      constructor
      · rintro ⟨rfl, -⟩
        exact absurd List.mem_cons_self hb
      · rintro ⟨h, -⟩
        cases h
  | cons c a ih =>
    obtain ⟨hc, ha⟩ : '/' ≠ c ∧ '/' ∉ a := by simpa using ha
    cases b with
    | nil =>
      -- what follows `b` is a slash or nothing
      cases list with
      | nil => simp [Path.print]
      | cons s list => simp [toList_print_cons, Ne.symm hc]
    | cons d b =>
      obtain ⟨-, hb⟩ : '/' ≠ d ∧ '/' ∉ b := by simpa using hb
      simp only [List.cons_append, List.cons_prefix_cons, ih ha hb, List.cons.injEq, and_assoc]

/-- **A path begins with the text of a folder exactly if it has the segments of the folder, and
more.** -/
theorem prefix_print_iff (hf : Unslashed folder) (hl : Unslashed list) :
    (Path.segments (folder ++ [""])).print.toList <+: (Path.segments list).print.toList
      ↔ ∃ rest, rest ≠ [] ∧ list = folder ++ rest := by
  induction folder generalizing list with
  | nil =>
    cases list with
    | nil => simp [Path.print]
    | cons s list => simp [Path.print]
  | cons s folder ih =>
    cases list with
    | nil => simp [Path.print]
    | cons t list =>
      obtain ⟨hs, hf⟩ := List.forall_mem_cons.1 hf
      obtain ⟨ht, hl⟩ := List.forall_mem_cons.1 hl
      have begins : ∃ x, (Path.segments (folder ++ [""])).print.toList = '/' :: x := by
        cases folder <;> exact ⟨_, toList_print_cons _ _⟩
      obtain ⟨x, begins⟩ := begins
      rw [List.cons_append, toList_print_cons, toList_print_cons, begins, List.cons_append,
        List.cons_append, List.cons_prefix_cons, and_iff_right rfl, prefix_iff_of_slash hs ht,
        ← begins, ih hf hl]
      constructor
      · rintro ⟨same, rest, more, rfl⟩
        rw [String.toList_inj.1 same]
        exact ⟨rest, more, rfl⟩
      · rintro ⟨rest, more, same⟩
        cases same
        exact ⟨rfl, rest, more, rfl⟩

/-! ### The URLs of the web -/

/-- The URL of a web page. -/
def IsWeb (u : Url) : Prop := u.scheme = "http" ∨ u.scheme = "https"

theorem IsWeb.isSpecial {u : Url} (web : u.IsWeb) : u.isSpecial = true := by
  rcases web with scheme | scheme <;> rw [Url.isSpecial, scheme] <;> decide

theorem IsWeb.scheme_ne_file {u : Url} (web : u.IsWeb) : u.scheme ≠ "file" := by
  rcases web with scheme | scheme <;> rw [scheme] <;> decide

theorem unslashed_readSegments (cs : List Char) :
    Unslashed (readSegments true cs) ∧ readSegments true cs ≠ [] := by
  cases cs with
  | nil => exact ⟨unslashed_singleton (by simp), by simp [readSegments]⟩
  | cons c rest =>
    rw [readSegments]
    generalize (if isSlash true c = true then rest else c :: rest) = path
    have some : splitSegments true path ≠ [] := Text.split_ne_nil _ path
    refine ⟨Unslashed.pushSegments nofun some fun _ => slash_not_mem_of_mem_split, ?_⟩
    simp [pushSegments_eq [] some]

theorem readHierarchy?_eq_ok {scheme : String} {cs : List Char} {u : Url}
    (read : readHierarchy? scheme cs = .ok u) :
    u.scheme = scheme ∧ (∃ a, u.authority = some a)
      ∧ ∃ rest, u.path = .segments (readSegments (Scheme.isSpecial scheme) rest) := by
  rw [readHierarchy?] at read
  cases authority : readAuthority? scheme
      (cs.dropWhile (!endsAuthority (Scheme.isSpecial scheme) ·)).isEmpty
      (cs.takeWhile (!endsAuthority (Scheme.isSpecial scheme) ·)) with
  | error e =>
    simp only [authority] at read
    cases read
  | ok pair =>
    simp only [authority] at read
    cases read
    exact ⟨rfl, ⟨_, rfl⟩, _, rfl⟩

theorem readFile?_scheme {cs : List Char} {u : Url} (read : readFile? cs = .ok u) :
    u.scheme = "file" := by
  simp only [readFile?] at read
  split at read
  · cases read
    rfl
  · next rest _ =>
    split at read
    · cases read
      rfl
    · cases host : readFileHost? (solid (rest.takeWhile (!isSlash true ·))) with
      | error e =>
        rw [host] at read
        cases read
      | ok host' =>
        rw [host] at read
        cases read
        rfl

/-- The URL of a web page is one with an authority. -/
theorem readHierarchy?_of_web {s : String} {u : Url} (read : ofText? s = .ok u) (web : u.IsWeb) :
    ∃ scheme rest, Scheme.isSpecial scheme = true ∧ readHierarchy? scheme rest = .ok u := by
  have special := web.isSpecial
  simp only [ofText?] at read
  split at read
  · cases read
  · exact absurd (readFile?_scheme read) web.scheme_ne_file
  · next scheme rest _ _ =>
    split at read
    · next isSpecial => exact ⟨scheme, _, isSpecial, read⟩
    · next other =>
      refine absurd ?_ other
      split at read
      · rw [← (readHierarchy?_eq_ok read).1]
        exact special
      · cases read
        exact special

/-- **The URL of a web page has a path of segments without slashes**, and there is at least one. -/
theorem ofText?_web {s : String} {u : Url} (read : ofText? s = .ok u) (web : u.IsWeb) :
    ∃ list, u.path = .segments list ∧ Unslashed list ∧ list ≠ [] := by
  obtain ⟨scheme, cs, special, read⟩ := readHierarchy?_of_web read web
  obtain ⟨-, -, rest, path⟩ := readHierarchy?_eq_ok read
  rw [special] at path
  exact ⟨_, path, unslashed_readSegments rest⟩

theorem exists_authority_of_web {s : String} {u : Url} (read : ofText? s = .ok u)
    (web : u.IsWeb) : ∃ a, u.authority = some a := by
  obtain ⟨scheme, cs, -, read⟩ := readHierarchy?_of_web read web
  exact (readHierarchy?_eq_ok read).2.1

/-! ### The text of a folder -/

end Url

/-- The text of a path as that of a folder: with a slash at its end. -/
def Path.folderText (p : Path) : String :=
  if p.print.toList.getLast? = some '/' then p.print else p.print ++ "/"

namespace Url

/-- The text of a path ends in a slash exactly if the last segment is empty. -/
theorem getLast?_print_iff (hl : Unslashed list) (nonempty : list ≠ []) :
    (Path.segments list).print.toList.getLast? = some '/' ↔ list.getLast? = some "" := by
  obtain ⟨front, last, rfl⟩ := List.eq_nil_or_concat list |>.resolve_left nonempty
  rw [List.concat_eq_append] at hl ⊢
  have plain : '/' ∉ last.toList := hl last (by simp)
  have text : (Path.segments (front ++ [last])).print.toList
      = (Path.segments front).print.toList ++ '/' :: last.toList := by
    rw [print_append, String.toList_append, toList_print_cons]
    simp [Path.print]
  rw [text, List.getLast?_concat, Option.some.injEq]
  constructor
  · intro ends
    by_contra full
    have chars : last.toList ≠ [] := fun none => full (String.toList_inj.1 none)
    rw [List.append_cons, List.getLast?_append_of_ne_nil _ chars] at ends
    exact plain (List.mem_of_getLast? ends)
  · rintro rfl
    simp

/-- **A page becomes a folder by a slash at the end of its path.** -/
theorem print_withTrailingSlash {u : Url} (web : u.IsWeb) (path : u.path = .segments list)
    (hl : Unslashed list) (nonempty : list ≠ []) :
    ∃ folder, u.withTrailingSlash = { u with path := .segments (folder ++ [""]) }
      ∧ Unslashed folder ∧ (Path.segments (folder ++ [""])).print = u.path.folderText := by
  have ends := getLast?_print_iff hl nonempty
  rw [Path.folderText, path]
  by_cases slash : list.getLast? = some ""
  · obtain ⟨folder, rfl⟩ := List.getLast?_eq_some_iff.1 slash
    refine ⟨folder, ?_, hl.of_isPrefix (List.prefix_append folder [""]), ?_⟩
    · simp only [withTrailingSlash, path, if_pos slash]
      rw [← path]
    · rw [if_pos (ends.2 slash)]
  · refine ⟨list, ?_, hl, ?_⟩
    · simp only [withTrailingSlash, path, if_neg slash, if_neg web.scheme_ne_file]
    · rw [if_neg (mt ends.1 slash), print_concat_empty]

end Url

end ReactiveResource
