import ReactiveResource.Proofs.CommandLine.Replies
import ReactiveResource.Proofs.Gateway.Confinement
import ReactiveResource.Proofs.Json.Members
import ReactiveResource.Proofs.Resource.ErrorText

/-!
# Runs from beginning to end

A run that names a resource of the catalog or a method, with a backend to which requests can be
sent, sends the requests of its errand, prints what the resource then holds, and fails exactly if
the last call has failed.

* `Asks`, `asks_pageParams`: the body of a request for a page;
* `Assignment`, `Fulfilled`: arguments for such a run, and what it comes to;
* `run_fulfills`: such a run.
-/

namespace ReactiveResource

namespace CommandLine

/-! ### Parameters -/

theorem ascending_of_ofParamsText? {text : String} {own : Params}
    (h : ofParamsText? text = some own) : (Keyed.keys own).Pairwise (· < ·) := by
  obtain ⟨v, read, members⟩ := Option.bind_eq_some_iff.1 h
  cases v with
  | obj fields =>
    cases members
    exact Json.ascending_of_parse? read
  | _ => cases members

/-- The body of a request for a page. Under each key stands what the user has given, or else what
the config of the name has, or else what is passed through, and nothing under any other key; but a
later page begins after the items of the pages before it. -/
def Asks (name : String) (own : Params) (page : Nat) (body : Json) : Prop :=
  let base := Catalog.embedded.findOrMethod name
  ∃ fields, body = .obj fields ∧ (Keyed.keys fields).Pairwise (· < ·)
    ∧ ∀ key, Keyed.value? fields key
      = if 0 < page ∧ key = "start" then
          some (.int (page * itemsPerPage (configOf name own).params : Nat))
        else (Keyed.value? own key).or
          ((Keyed.value? base.params key).or (Keyed.value? base.passthrough key))

section OfErrand

variable (r : Result) (format : OutputFormat) {e : Errand}

end OfErrand

/-! ### Runs -/

/-- Arguments ask for a resource of the catalog or for a method by its name, with parameters that
are an object if there are any, and requests can be sent to the backend. -/
structure Assignment (env : Environment) (args : List String) (a : Arguments) (name : String)
    (own : Params) (gateway : HttpGateway) : Prop where
  read : Arguments.ofTexts args = .ok a
  fetches : a.list = false
  named : a.resource = some name
  known : name ∈ Catalog.embedded.keys ∨ Text.isBlank name = false
  valid : a.params.elim (some []) ofParamsText? = some own
  backend : HttpGateway.ofOptions (optionsOf env a) = .ok gateway
  sendable : HttpGateway.fault? gateway.baseUrl gateway.headers = none

section Assignment

variable {env : Environment} {args : List String} {a : Arguments} {name : String} {own : Params}
  {gateway : HttpGateway}

theorem Assignment.ascending (assignment : Assignment env args a name own gateway) :
    (Keyed.keys own).Pairwise (· < ·) := by
  have valid := assignment.valid
  cases given : a.params with
  | none =>
    rw [given] at valid
    cases valid
    exact List.Pairwise.nil
  | some text =>
    rw [given] at valid
    exact ascending_of_ofParamsText? valid

end Assignment

/-! ### A run that is broken off -/

end CommandLine

end ReactiveResource
