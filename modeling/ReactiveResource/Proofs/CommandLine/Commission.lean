import ReactiveResource.CommandLine.Run
import ReactiveResource.Proofs.CommandLine.Fetching
import ReactiveResource.Proofs.Keyed

/-!
# Runs that fetch

Arguments that name a resource of the catalog, parameters that can be read and a backend that can be
reached by name make a run whose requests are those of one errand.

* `embedded_entries`: what the definitions that come with the program have in common;
* `configOf`, `target?_eq_some_iff`: the config that a name and parameters of the user stand for;
* `optionsOf`, `errandOf`, `run_eq_ofErrand`: the backend and the errand of a run, and the run;
* `Commission`: arguments for such a run;
* `Commission.rested`, `Commission.requests`: nothing holds up the first fetch, and the run sends
  what the errand sends.
-/

namespace ReactiveResource.CommandLine

/-! ### Configs -/

/-- What the definitions that come with the program have in common. -/
theorem embedded_entries :
    ∀ entry ∈ Catalog.embedded.entries, Text.isBlank entry.2.method = false
      ∧ entry.2.precondition.isNone = true ∧ entry.2.validator.isNone = true
      ∧ entry.2.passthrough.isEmpty = true
      ∧ (Keyed.keys entry.2.params).Pairwise (· < ·) := by
  decide +kernel

/-- The config of a name, with parameters set over its own. It does not fetch by itself. -/
def configOf (name : String) (own : Params) : Config :=
  let base := Catalog.embedded.findOrMethod name
  { base with auto := false, params := Keyed.overlay base.params own }

variable {name : String} {own : Params}

/-- The config of a name is that of a key, or else that of a method. -/
theorem findOrMethod_cases (name : String) :
    (name, Catalog.embedded.findOrMethod name) ∈ Catalog.embedded.entries
      ∨ name ∉ Catalog.embedded.keys ∧ Catalog.embedded.findOrMethod name = .ofMethod name := by
  rw [Catalog.findOrMethod]
  cases found : Catalog.embedded.find? name with
  | some base => exact .inl (Keyed.mem_of_value? found)
  | none =>
    refine .inr ⟨fun known => ?_, rfl⟩
    rw [Catalog.find?] at found
    simpa [found] using Keyed.mem_keys.1 known

theorem unheld_configOf (name : String) (own : Params) : (configOf name own).Unheld := by
  rcases findOrMethod_cases name with mem | ⟨-, method⟩
  · obtain ⟨-, precondition, validator, -, -⟩ := embedded_entries _ mem
    exact ⟨Option.isNone_iff_eq_none.1 precondition, Option.isNone_iff_eq_none.1 validator⟩
  · rw [configOf, method]
    exact ⟨rfl, rfl⟩

theorem passthrough_findOrMethod (name : String) :
    (Catalog.embedded.findOrMethod name).passthrough = [] := by
  rcases findOrMethod_cases name with mem | ⟨-, method⟩
  · exact List.isEmpty_iff.1 (embedded_entries _ mem).2.2.2.1
  · rw [method]
    rfl

theorem ascending_configOf (name : String) (own : Params) :
    (Keyed.keys (configOf name own).params).Pairwise (· < ·) := by
  refine Keyed.ascending_overlay ?_ own
  rcases findOrMethod_cases name with mem | ⟨-, method⟩
  · exact (embedded_entries _ mem).2.2.2.2
  · rw [method]
    exact List.Pairwise.nil

/-- A resource is made for every key and for every method that is not blank. -/
theorem create_configOf (known : name ∈ Catalog.embedded.keys ∨ Text.isBlank name = false)
    (own : Params) :
    Resource.create name (configOf name own) = .ok (.fresh name (configOf name own)) := by
  have full : Text.isBlank (configOf name own).method = false := by
    rcases findOrMethod_cases name with mem | ⟨unknown, method⟩
    · exact (embedded_entries _ mem).1
    · rw [configOf, method]
      exact known.resolve_left unknown
  rw [Resource.create, if_neg (by simp [full])]

/-- The parameters of the user are set over those of the config; without any it stays as it is. -/
theorem target?_eq_some_iff {params : Option String} {config : Config} :
    Catalog.embedded.target? name params = some config
      ↔ ∃ own, params.elim (some []) ofParamsText? = some own ∧ config = configOf name own := by
  cases params with
  | none => simp [Catalog.target?, configOf, Keyed.overlay, eq_comm]
  | some text =>
    rw [Catalog.target?, Option.elim_some]
    dsimp only
    rw [Option.map_eq_some_iff]
    exact exists_congr fun own => and_congr_right fun _ => eq_comm

/-! ### Runs -/

/-- What a run knows of the backend. -/
def optionsOf (env : Environment) (a : Arguments) : HttpOptions :=
  let settings := (env.file.map Settings.ofText).getD {}
  { baseUrl := settings.effectiveBaseUrl a.baseUrl env.backend
    siteName := a.site <|> settings.siteName
    team := settings.effectiveTeam a.team
    csrfToken := settings.csrfToken }

/-- The form in which a run prints. -/
def formatOf (env : Environment) (a : Arguments) : OutputFormat :=
  a.output.getD ((env.file.map Settings.ofText).getD {}).output

/-- The errand of a run, before its first fetch. -/
def errandOf (env : Environment) (gateway : HttpGateway) (name : String) (config : Config) :
    Errand :=
  { gateway, network := env.network, now := env.now, live := .fresh name config }

variable {env : Environment} {args : List String} {a : Arguments} {config : Config}
  {gateway : HttpGateway}

/-- Nothing holds up the first fetch. -/
theorem rested_errandOf (env : Environment) (gateway : HttpGateway) (name : String)
    (unheld : config.Unheld) : (errandOf env gateway name config).Rested where
  alive := rfl
  config := unheld
  free := rfl
  fence := Nat.le_refl 0

/-- **A run that fetches is one errand,** but for what it saves. -/
theorem run_eq_ofErrand (read : Arguments.ofTexts args = .ok a) (fetches : a.list = false)
    (named : a.resource = some name)
    (known : name ∈ Catalog.embedded.keys ∨ Text.isBlank name = false)
    (target : Catalog.embedded.target? name a.params = some config)
    (backend : HttpGateway.ofOptions (optionsOf env a) = .ok gateway) :
    ∃ saved, run env args = ({ saved } : Result).ofErrand (formatOf env a)
      ((errandOf env gateway name config).run a.pageCount) := by
  have created : Resource.create name config = .ok (.fresh name config) := by
    obtain ⟨own, -, rfl⟩ := target?_eq_some_iff.1 target
    exact create_configOf known own
  simp only [optionsOf] at backend
  simp only [run, read, runArguments, fetches, named, runTarget, backend, target, created,
    Bool.false_eq_true, if_false]
  exact ⟨_, rfl⟩

theorem requests_ofErrand (r : Result) (format : OutputFormat) (e : Errand) :
    (r.ofErrand format e).requests = e.requests := by
  rw [Result.ofErrand]
  split <;> rfl

/-- Arguments ask for a resource of the catalog, and nothing keeps the run from fetching it. -/
structure Commission (env : Environment) (args : List String) (a : Arguments) (name : String)
    (config : Config) (gateway : HttpGateway) : Prop where
  read : Arguments.ofTexts args = .ok a
  fetches : a.list = false
  named : a.resource = some name
  known : name ∈ Catalog.embedded.keys
  target : Catalog.embedded.target? name a.params = some config
  backend : HttpGateway.ofOptions (optionsOf env a) = .ok gateway

namespace Commission

/-- The config is that of a name, with the parameters of the arguments set over its own. -/
theorem config_eq (commission : Commission env args a name config gateway) :
    ∃ own, config = configOf name own := by
  obtain ⟨own, -, eq⟩ := target?_eq_some_iff.1 commission.target
  exact ⟨own, eq⟩

theorem rested (commission : Commission env args a name config gateway) :
    (errandOf env gateway name config).Rested := by
  obtain ⟨own, rfl⟩ := commission.config_eq
  exact rested_errandOf env gateway name (unheld_configOf name own)

/-- What a run sends is what its errand sends. -/
theorem requests (commission : Commission env args a name config gateway) :
    (run env args).requests = ((errandOf env gateway name config).run a.pageCount).requests := by
  obtain ⟨saved, same⟩ := run_eq_ofErrand commission.read commission.fetches commission.named
    (.inl commission.known) commission.target commission.backend
  rw [same, requests_ofErrand]

end Commission

end ReactiveResource.CommandLine
