import ReactiveResource.Config.Decode
import ReactiveResource.ConfigError
import ReactiveResource.Text.Blank

/-!
# Catalogs

A catalog holds configs by key. It is read from documents, each with an object of entries under
`resources`; an entry is a config, or a method name that stands for a config that fetches by itself.
Later documents win, and every entry that a document ends up with must have a method.

* `Catalog`, `Catalog.require`: the definitions, and one of them;
* `CatalogFault`: why documents hold no catalog;
* `Catalog.entriesOfText`: the entries of one document;
* `Catalog.ofTexts`: the catalog of several documents;
* `Catalog.embedded`: the definitions that come with the program.
-/

namespace ReactiveResource

/-- Configs by key. -/
structure Catalog where
  entries : Keyed Config := []
  deriving Inhabited

/-- Why documents hold no catalog: an error in a definition, or a delay beyond every duration. -/
inductive CatalogFault where
  | definition (error : ConfigError)
  | delayTooLong
  deriving DecidableEq, Repr, Inhabited

namespace Catalog

/-- The config of a key. -/
def find? (c : Catalog) (key : String) : Option Config := Keyed.value? c.entries key

/-- The config of a key, or the error that there is none. -/
def require (c : Catalog) (key : String) : Except ConfigError Config :=
  match c.find? key with
  | some config => .ok config
  | none => .error (.unknownResource key)

/-- The keys, ascending. -/
def keys (c : Catalog) : List String := Keyed.keys c.entries

/-- How many definitions there are. -/
def size (c : Catalog) : Nat := c.entries.length

/-- The config of an entry. The whole entry is read before its fields are looked at. -/
def entryOfTree (depth : Nat) (t : Json.Tree) : Except DecodeError Config :=
  if (t.toJson? depth).isNone then .error .malformed
  else match t with
    | .text (some method) => .ok (.shorthand method)
    | .object _ _ => Config.ofTree depth t
    | _ => .error .malformed

/-- The entries under `resources`, in order of appearance. -/
def entriesOfMembers (depth : Nat) :
    List (Option String × Json.Tree) → Except DecodeError (List (String × Config))
  | [] => .ok []
  | (none, _) :: _ => .error .malformed
  | (some key, t) :: rest =>
    match entryOfTree depth t with
    | .error e => .error e
    | .ok config => (entriesOfMembers depth rest).map ((key, config) :: ·)

/-- The entries of the value of `resources`. -/
def entriesOfTree (depth : Nat) : Json.Tree → Except DecodeError (List (String × Config))
  | .object members closed =>
    match depth with
    | 0 => .error .malformed
    | depth + 1 =>
      match entriesOfMembers depth members with
      | .error e => .error e
      | .ok entries => if closed then .ok entries else .error .malformed
  | _ => .error .malformed

/-- The fields of a document: `resources` at most once, and others that only have to be
well-formed. -/
def entriesOfFields (depth : Nat) (seen : Option (List (String × Config))) :
    List (Option String × Json.Tree) → Except DecodeError (Option (List (String × Config)))
  | [] => .ok seen
  | (none, _) :: _ => .error .malformed
  | (some "resources", t) :: rest =>
    match seen with
    | some _ => .error .malformed
    | none =>
      match entriesOfTree depth t with
      | .error e => .error e
      | .ok entries => entriesOfFields depth (some entries) rest
  | (some _, t) :: rest =>
    if t.isWellFormed then entriesOfFields depth seen rest else .error .malformed

/-- The entries of a document: an object with `resources`, or an array with the same object as its
only item; both may leave it out. -/
def entriesOfText (s : String) : Except DecodeError (List (String × Config)) :=
  let d := Json.Document.ofText s
  let depth := Json.maxDepth - 1
  let entries : Except DecodeError (List (String × Config)) :=
    match d.root with
    | .object members _ => (entriesOfFields depth none members).map (·.getD [])
    | .array [] _ => .ok []
    | .array [t] _ => entriesOfTree depth t
    | .array (t :: _ :: _) _ =>
      match entriesOfTree depth t with
      | .error e => .error e
      | .ok _ => .error .malformed
    | _ => .error .malformed
  match entries with
  | .error e => .error e
  | .ok entries => if d.complete then .ok entries else .error .malformed

/-- The catalog with the entries of one document set over it. Of several entries without a method
the least key is named. -/
def addEntries (c : Catalog) (entries : Keyed Config) : Except ConfigError Catalog :=
  match entries.find? fun (_, config) => Text.isBlank config.method with
  | some (key, _) => .error (.missingMethod key)
  | none => .ok { entries := Keyed.overlay c.entries entries }

/-- The catalog with one more document. -/
def addText (c : Catalog) (s : String) : Except CatalogFault Catalog :=
  match entriesOfText s with
  | .error .malformed => .error (.definition (.catalog "the document is malformed"))
  | .error .delayTooLong => .error .delayTooLong
  | .ok entries => (c.addEntries (Keyed.ofList entries)).mapError .definition

/-- The catalog of several documents, the later ones winning. -/
def ofTexts (texts : List String) : Except CatalogFault Catalog :=
  texts.foldlM addText {}

/-- The parameters with which a list of pages begins. -/
def firstPage : Params := [("page_length", .int 20), ("start", .int 0)]

/-- The definitions that come with the program. -/
def embedded : Catalog :=
  { entries := Keyed.ofList
      [("account", .shorthand "press.api.account.get"),
        ("team-members",
          { method := "press.api.account.team_members", defaultData := some (.arr []) }),
        ("billing-overview", { method := "press.api.billing.info" }),
        ("server-list", { method := "press.api.server.all", auto := true }),
        ("server-overview", { method := "press.api.server.overview", keepData := true }),
        ("bench-list",
          { method := "press.api.bench.all", auto := true, paginated := true,
            params := firstPage }),
        ("site-list",
          { method := "press.api.site.all", auto := true, paginated := true,
            params := firstPage }),
        ("site-overview", { method := "press.api.site.overview", keepData := true }),
        ("site-jobs",
          { method := "press.api.site.jobs", paginated := true, defaultData := some (.arr []) }),
        ("site-backups", .shorthand "press.api.site.backups"),
        ("site-domains", .shorthand "press.api.site.domains")] }

end Catalog

end ReactiveResource
