import Mathlib.Data.List.Forall2
import ReactiveResource.Gateway.Body
import ReactiveResource.Proofs.Json.Printing

/-!
# Reports of errors

A backend reports an error as an object of texts. Two of them are lists that are written as JSON
once more: the exceptions, and the messages, of which each may be wrapped into an object of its own.
The error of such a body holds what was reported, however the layers were written as JSON.

* `Message`, `Report`: what a backend reports;
* `Message.SentAs`, `Report.SentAs`: the texts that stand for it;
* `Report.error`: the error that it amounts to;
* `Report.body`: one of the bodies, each layer over several lines;
* `errors_survive`: that body is one of those that stand for the report, and every one of them is
  read as the error.
-/

namespace ReactiveResource.Gateway

/-! ### Reports -/

/-- A message of a backend: a text that is no JSON as it stands, or any text wrapped into an
object. -/
inductive Message where
  | bare (text : String) (plain : Json.parse? text = none)
  | wrapped (text : String)

/-- The text that is meant for the user. -/
def Message.text : Message → String
  | .bare text _ => text
  | .wrapped text => text

/-- The texts that a message may be sent as. -/
def Message.SentAs : Message → String → Prop
  | .bare text _, raw => raw = text
  | .wrapped text, raw => ∃ v, Json.parse? raw = some v ∧ v.member? "message" = some (.str text)

/-- What a backend says of an error. There is at least one exception; the texts may be empty. -/
structure Report where
  excType : Option String := none
  errorMessage : Option String := none
  exception : String
  others : List String := []
  messages : List Message := []
  message : Option Message := none

/-- A text that holds a list of texts as JSON. -/
def HoldsList (encoded : String) (texts : List String) : Prop :=
  Json.parse? encoded = some (.arr (texts.map .str))

/-- The members of an object report an error, whatever other members there are. -/
structure Report.Within (r : Report) (error : Json) : Prop where
  excType : error.member? "exc_type" = r.excType.map .str
  errorMessage : error.member? "_error_message" = r.errorMessage.map .str
  exceptions : ∃ encoded, error.member? "exc" = some (.str encoded)
    ∧ HoldsList encoded (r.exception :: r.others)
  messages : ∃ encoded raws, error.member? "_server_messages" = some (.str encoded)
    ∧ HoldsList encoded raws ∧ List.Forall₂ Message.SentAs r.messages raws
  message : r.message.elim (error.member? "message" = none) fun m =>
    ∃ raw, error.member? "message" = some (.str raw) ∧ m.SentAs raw

/-- The bodies that stand for a report. -/
def Report.SentAs (r : Report) (body : String) : Prop :=
  ∃ error, Json.parse? body = some error ∧ r.Within error

/-! ### What a report amounts to -/

namespace Report

/-- The messages that are not empty, that of the body's own field last. -/
def texts (r : Report) : List String :=
  ((r.messages ++ r.message.toList).map Message.text).filter (· ≠ "")

/-- The method, the type of the exception and the error message, as far as they are not empty. -/
def headline (r : Report) (method : String) : String :=
  " ".intercalate
    ([method, r.excType.getD "", r.errorMessage.getD ""].filter (· ≠ ""))

/-- The error that a report amounts to. -/
def error (r : Report) (method : String) (status : Nat) : RemoteError :=
  { message := r.headline method ++ "\n" ++ r.exception
    messages := if r.texts = [] then [internalServerError] else r.texts
    excType := r.excType.filter (· ≠ "")
    exception := some r.exception
    status := some status }

end Report

/-! ### Reading -/

theorem parse?_empty : Json.parse? "" = none := by decide +kernel

theorem HoldsList.ne_empty {encoded : String} {texts : List String}
    (h : HoldsList encoded texts) : encoded ≠ "" := by
  rintro rfl
  cases parse?_empty.symm.trans h

theorem HoldsList.listedTexts {encoded : String} {texts : List String}
    (h : HoldsList encoded texts) : listedTexts encoded = texts := by
  rw [Gateway.listedTexts, show Json.parse? encoded = _ from h]
  simp [List.filterMap_map, Function.comp_def, Json.text?]

theorem HoldsList.firstException {encoded first : String} {rest : List String}
    (h : HoldsList encoded (first :: rest)) : firstException encoded = first := by
  rw [Gateway.firstException, show Json.parse? encoded = _ from h]
  simp [Json.text?]

theorem fieldText?_of_member {error : Json} {name : String} (text : Option String)
    (h : error.member? name = text.map .str) :
    fieldText? error name = text.filter (· ≠ "") := by
  rw [fieldText?, h]
  cases text <;> rfl

theorem fieldText?_of_ne_empty {error : Json} {name text : String}
    (h : error.member? name = some (.str text)) (full : text ≠ "") :
    fieldText? error name = some text := by
  rw [fieldText?_of_member (some text) h]
  simp [full]

/-- A message is unwrapped, however it was sent. -/
theorem Message.SentAs.unwrap {m : Message} {raw : String} (h : m.SentAs raw) :
    unwrapMessage raw = m.text := by
  cases m with
  | bare text plain =>
    cases h
    rw [unwrapMessage, plain, Message.text]
  | wrapped text =>
    obtain ⟨v, parsed, member⟩ := h
    rw [unwrapMessage, parsed]
    simp [member, Json.text?, Message.text]

theorem unwrap_all {messages : List Message} {raws : List String}
    (h : List.Forall₂ Message.SentAs messages raws) :
    raws.map unwrapMessage = messages.map Message.text := by
  induction h with
  | nil => rfl
  | cons sent _ ih => rw [List.map_cons, List.map_cons, sent.unwrap, ih]

/-- The message in a field of its own counts unless it is empty. -/
theorem unwrap_field {error : Json} {message : Option Message}
    (h : message.elim (error.member? "message" = none) fun m =>
      ∃ raw, error.member? "message" = some (.str raw) ∧ m.SentAs raw) :
    ((fieldText? error "message").toList.map unwrapMessage).filter (· ≠ "")
      = (message.toList.map Message.text).filter (· ≠ "") := by
  cases message with
  | none => rw [fieldText?_of_member none h]; rfl
  | some m =>
    obtain ⟨raw, member, sent⟩ := h
    rw [fieldText?_of_member (some raw) member]
    by_cases empty : raw = ""
    · have none : m.text = "" := by
        rw [← sent.unwrap, empty, unwrapMessage, parse?_empty]
      simp [Option.filter, empty, none]
    · simp [Option.filter, empty, sent.unwrap]

/-- **A body that stands for a report is read as the error that the report amounts to.** -/
theorem Report.SentAs.read {r : Report} {body : String} (sent : r.SentAs body) (method : String)
    (status : Nat) : errorOfBody method status body = r.error method status := by
  obtain ⟨error, parsed, within⟩ := sent
  obtain ⟨excs, excField, excList⟩ := within.exceptions
  obtain ⟨encoded, raws, listField, list, each⟩ := within.messages
  have excType := fieldText?_of_member _ within.excType
  have errorMessage := fieldText?_of_member _ within.errorMessage
  have exception : (fieldText? error "exc").map firstException = some r.exception := by
    rw [fieldText?_of_ne_empty excField excList.ne_empty, Option.map_some, excList.firstException]
  have listed : ((fieldText? error "_server_messages").map listedTexts).getD [] = raws := by
    rw [fieldText?_of_ne_empty listField list.ne_empty, Option.map_some, list.listedTexts]
    rfl
  have texts : ((raws ++ (fieldText? error "message").toList).map unwrapMessage).filter (· ≠ "")
      = r.texts := by
    rw [Report.texts, List.map_append, List.filter_append, List.map_append, List.filter_append,
      unwrap_all each, unwrap_field within.message]
  have parts : ([some method, fieldText? error "exc_type",
        fieldText? error "_error_message"].filterMap id).filter (· ≠ "")
      = [method, r.excType.getD "", r.errorMessage.getD ""].filter (· ≠ "") := by
    rw [excType, errorMessage]
    cases r.excType <;> cases r.errorMessage <;> simp [Option.filter, List.filter_cons] <;> grind
  simp only [errorOfBody, parsed, Option.getD_some, exception, listed, texts, parts,
    List.isEmpty_iff]
  rw [excType]
  rfl

/-! ### Writing -/

/-- Items that are texts can be written and read back. -/
theorem writable_texts (texts : List String) (depth : Nat) :
    Json.IntegralItems (texts.map .str) ∧ Json.ItemsWithin depth (texts.map .str) := by
  induction texts with
  | nil => simp [Json.IntegralItems, Json.ItemsWithin]
  | cons text rest ih =>
    simp [Json.IntegralItems, Json.ItemsWithin, Json.Integral, Json.Within, ih]

/-- Members that are texts can be written and read back. -/
theorem writable_fields (members : List (String × Json)) (depth : Nat)
    (texts : ∀ m ∈ members, ∃ text, m.2 = .str text) :
    Json.IntegralMembers members ∧ Json.MembersWithin depth members := by
  induction members with
  | nil => simp [Json.IntegralMembers, Json.MembersWithin]
  | cons m rest ih =>
    obtain ⟨key, v⟩ := m
    obtain ⟨text, rfl⟩ : ∃ text, v = .str text := texts _ List.mem_cons_self
    have others := ih fun m mem => texts m (List.mem_cons_of_mem _ mem)
    simp [Json.IntegralMembers, Json.MembersWithin, Json.Integral, Json.Within, others]

/-- The text of a list of texts. -/
def writeList (texts : List String) : String := Json.pretty (.arr (texts.map .str))

theorem holdsList_writeList (texts : List String) : HoldsList (writeList texts) texts := by
  obtain ⟨integral, within⟩ := writable_texts texts (Json.maxDepth - 1)
  refine Json.parse?_pretty ?_ ?_
  · rwa [Json.Integral]
  · rw [Json.Within]
    exact ⟨by decide, within⟩

/-- The text of an object of texts. -/
theorem parse?_fields {members : List (String × Json)}
    (texts : ∀ m ∈ members, ∃ text, m.2 = .str text) :
    Json.parse? (Json.pretty (.obj (Keyed.ofList members)))
      = some (.obj (Keyed.ofList members)) := by
  obtain ⟨integral, within⟩ := writable_fields (Keyed.ofList members) (Json.maxDepth - 1)
    fun m mem => texts m (Keyed.mem_of_mem_ofList mem)
  refine Json.parse?_pretty ?_ ?_
  · rwa [Json.Integral]
  · rw [Json.Within]
    exact ⟨by decide, Keyed.ascending_ofList members, within⟩

/-- A message as it is sent: one that is wrapped is the only member of its object. -/
def Message.raw : Message → String
  | .bare text _ => text
  | .wrapped text => Json.pretty (.obj (Keyed.ofList [("message", .str text)]))

theorem Message.sentAs_raw (m : Message) : m.SentAs m.raw := by
  cases m with
  | bare text plain => rfl
  | wrapped text =>
    refine ⟨_, parse?_fields (by simp), ?_⟩
    simp [Json.member?, Keyed.value?_ofList, Keyed.value?]

namespace Report

/-- The members of a body: those that are left out have nothing to say. -/
def members (r : Report) : List (String × Json) :=
  (r.excType.map fun text => ("exc_type", .str text)).toList
    ++ (r.errorMessage.map fun text => ("_error_message", .str text)).toList
    ++ [("exc", .str (writeList (r.exception :: r.others))),
      ("_server_messages", .str (writeList (r.messages.map Message.raw)))]
    ++ (r.message.map fun m => ("message", .str m.raw)).toList

/-- A body that stands for a report. -/
def body (r : Report) : String := Json.pretty (.obj (Keyed.ofList r.members))

theorem within_members (r : Report) : r.Within (.obj (Keyed.ofList r.members)) := by
  have value (key : String) : (Json.obj (Keyed.ofList r.members)).member? key
      = Keyed.value? r.members.reverse key := Keyed.value?_ofList _ _
  have sent : List.Forall₂ Message.SentAs r.messages (r.messages.map Message.raw) := by
    rw [List.forall₂_map_right_iff, List.forall₂_same]
    exact fun m _ => m.sentAs_raw
  obtain ⟨excType, errorMessage, exception, others, messages, message⟩ := r
  refine ⟨?_, ?_, ⟨_, ?_, holdsList_writeList (exception :: others)⟩,
    ⟨_, _, ?_, holdsList_writeList (messages.map Message.raw), sent⟩, ?_⟩
  case refine_5 =>
    cases message with
    | none =>
      rw [Option.elim_none, value]
      cases excType <;> cases errorMessage <;> simp [members, Keyed.value?]
    | some m =>
      refine ⟨m.raw, ?_, m.sentAs_raw⟩
      rw [value]
      simp [members, Keyed.value?]
  all_goals
    rw [value]
    cases excType <;> cases errorMessage <;> cases message <;> simp [members, Keyed.value?]

end Report

/-- **The errors of a backend survive their encoding.** Every report has a body, and of every body
that stands for it, however its layers are written, the error holds the texts that are not empty in
their order, the first exception, the type of the exception and the status. -/
theorem errors_survive (r : Report) (method : String) (status : Nat) :
    r.SentAs r.body
      ∧ ∀ body, r.SentAs body → errorOfBody method status body = r.error method status := by
  refine ⟨⟨_, parse?_fields ?_, r.within_members⟩, fun body sent => sent.read method status⟩
  obtain ⟨excType, errorMessage, exception, others, messages, message⟩ := r
  cases excType <;> cases errorMessage <;> cases message <;> simp [Report.members]

end ReactiveResource.Gateway
