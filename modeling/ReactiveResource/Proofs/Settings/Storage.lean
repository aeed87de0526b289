import ReactiveResource.Proofs.Json.Printing
import ReactiveResource.Settings

/-!
# Settings that are kept

The text of settings is a document with all fields, each as it was chosen, so that reading it back
gives the settings themselves and not those that stand for a text without settings.

* `readText?_textOrNull`, `readSeconds?_secondsOrNull`, `ofName?_name`: a field is read as it was
  written;
* `document_render`, `read?_render`: the text of settings, and the settings that it holds;
* `load_saved`: what is saved is loaded, and saving it again changes nothing.
-/

namespace ReactiveResource.Settings

open Json (Integral)

/-! ### One field -/

theorem readText?_textOrNull (s : Option String) : readText? (textOrNull s).toTree = some s := by
  cases s <;> rw [textOrNull, Json.toTree] <;> rfl

/-- A number of seconds, or null for none, as a value. -/
def secondsOrNull : Option UInt64 → Json
  | none => .null
  | some n => .int n.toNat

theorem readSeconds?_secondsOrNull (n : Option UInt64) :
    readSeconds? (secondsOrNull n).toTree = some n := by
  cases n with
  | none =>
    rw [secondsOrNull, Json.toTree]
    rfl
  | some n =>
    have bound : n.toNat < UInt64.size := n.toNat_lt
    rw [secondsOrNull, Json.toTree, readSeconds?, Json.natural?]
    simp [bound]

theorem ofName?_name (f : OutputFormat) : OutputFormat.ofName? f.name = some f := by
  cases f <;> rfl

/-! ### All fields -/

/-- The fields of settings, in the order in which they are written. -/
def fields (s : Settings) : List (String × Json) :=
  [("base_url", textOrNull s.baseUrl), ("team", textOrNull s.team),
    ("site_name", textOrNull s.siteName), ("csrf_token", textOrNull s.csrfToken),
    ("timeout_secs", secondsOrNull s.timeoutSecs), ("output", .str s.output.name)]

theorem render_eq (s : Settings) : s.render = Json.pretty (.obj s.fields) := by
  obtain ⟨baseUrl, team, siteName, csrfToken, timeoutSecs, output⟩ := s
  cases timeoutSecs <;> rfl

theorem integral_textOrNull (s : Option String) : Integral (textOrNull s) := by
  cases s <;> simp [textOrNull, Integral]

theorem integral_secondsOrNull (n : Option UInt64) : Integral (secondsOrNull n) := by
  cases n with
  | none => simp [secondsOrNull, Integral]
  | some n =>
    have bound := n.toNat_lt
    rw [secondsOrNull, Integral]
    constructor <;> omega

/-- The text of settings is a document with these fields. -/
theorem document_render (s : Settings) :
    Json.Document.ofText s.render
      = { root := .object (Json.toMemberTrees s.fields) true, complete := true } := by
  have integral : Integral (.obj s.fields) := by
    simp [Integral, Json.IntegralMembers, fields, integral_textOrNull, integral_secondsOrNull]
  rw [render_eq, Json.ofText_pretty _ integral, Json.toTree]

theorem ofMembers?_fields (s : Settings) :
    ofMembers? [] {} (Json.toMemberTrees s.fields) = some s := by
  simp [fields, Json.toMemberTrees, ofMembers?, setField?, readText?_textOrNull,
    readSeconds?_secondsOrNull, Json.toTree, readFormat?, ofName?_name, fieldNames]

theorem read?_render (s : Settings) : read? s.render = some s := by
  rw [read?, document_render]
  exact ofMembers?_fields s

/-- **What is saved is loaded.** The text of settings holds them, in all fields, so that loading
does not fall back to settings without choices; and the text of what has been loaded is the same. -/
theorem load_saved (s : Settings) :
    read? s.render = some s ∧ ofText s.render = s ∧ (ofText s.render).render = s.render := by
  have loaded : ofText s.render = s := by rw [ofText, read?_render, Option.getD_some]
  exact ⟨read?_render s, loaded, congrArg render loaded⟩

end ReactiveResource.Settings
