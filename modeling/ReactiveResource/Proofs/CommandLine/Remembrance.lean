import ReactiveResource.Proofs.CommandLine.Commission
import ReactiveResource.Proofs.Settings.Storage

/-!
# Backends that are remembered

A run that saves keeps the backend and the team that it uses itself, wherever it has them from, and
leaves the other settings as it has found them. A later run that is given neither of the two does
what it would have done without the earlier one, had it been given both.

* `Environment.settings`: the settings that a run loads;
* `Settings.effectiveBaseUrl_withBackend`, `Settings.effectiveTeam_withBackend`: what is chosen is
  in effect;
* `saved_of_run`: what a run saves;
* `runArguments_of_kept`: a run with the settings that another one has saved;
* `backend_remembered`: a run that saves, and those after it.
-/

namespace ReactiveResource

namespace Settings

theorem ofText_render (s : Settings) : ofText s.render = s := by
  rw [ofText, read?_render, Option.getD_some]

variable (s : Settings) (baseUrl : String) (given : Option String)

/-- A backend that has been chosen is in effect, whatever the environment names. -/
theorem effectiveBaseUrl_withBackend (team environment : Option String) :
    (s.withBackend baseUrl team).effectiveBaseUrl none environment = baseUrl := rfl

/-- The team in effect stays in effect when it is chosen. -/
theorem effectiveTeam_withBackend :
    (s.withBackend baseUrl (s.effectiveTeam given)).effectiveTeam none = s.effectiveTeam given := by
  cases given with
  | none => cases team : s.team <;> simp [withBackend, effectiveTeam, team]
  | some _ => rfl

/-- It makes no difference to choose the team in effect. -/
theorem effectiveTeam_effectiveTeam :
    s.effectiveTeam (s.effectiveTeam given) = s.effectiveTeam given := by
  cases given with
  | none => cases team : s.team <;> simp [effectiveTeam, team]
  | some _ => rfl

/-- A choice that has been made is not changed by making it again. -/
theorem withBackend_withBackend (team : Option String) :
    (s.withBackend baseUrl team).withBackend baseUrl team = s.withBackend baseUrl team := by
  cases team <;> rfl

end Settings

namespace CommandLine

/-- The settings that a run loads. A file that holds none counts as one without choices. -/
def Environment.settings (env : Environment) : Settings :=
  (env.file.map Settings.ofText).getD {}

/-- The settings that a run saves: those that it loads, with the backend and the team that it
uses. -/
def kept (env : Environment) (a : Arguments) : Settings :=
  env.settings.withBackend (optionsOf env a).baseUrl (optionsOf env a).team

variable {env later : Environment} {args : List String} {a b : Arguments} {name : String}

theorem saved_ofErrand (r : Result) (format : OutputFormat) (e : Errand) :
    (r.ofErrand format e).saved = r.saved := by
  rw [Result.ofErrand]
  split <;> rfl

/-- A run for a resource saves what it keeps if it is asked to, whatever becomes of the fetch. -/
theorem saved_of_run (read : Arguments.ofTexts args = .ok a) (saves : a.save = true)
    (fetches : a.list = false) (named : a.resource = some name) :
    (run env args).saved = some (kept env a).render := by
  simp only [run, read, runArguments, fetches, named, Bool.false_eq_true, if_false, runTarget,
    saves, if_true]
  split
  · rfl
  · split
    · rfl
    · split
      · rfl
      · exact saved_ofErrand ..

/-! ### Later runs -/

/-- A later run loads the settings that have been saved. -/
theorem settings_of_saved (file : later.file = some (kept env a).render) :
    later.settings = kept env a := by
  rw [Environment.settings, file, Option.map_some, Option.getD_some, Settings.ofText_render]

/-- Arguments that name neither a backend nor a team. -/
structure Arguments.Unaddressed (b : Arguments) : Prop where
  baseUrl : b.baseUrl = none
  team : b.team = none

/-- The same arguments with a backend and a team. -/
def Arguments.withBackend (b : Arguments) (baseUrl : String) (team : Option String) : Arguments :=
  { b with baseUrl := some baseUrl, team }

theorem baseUrl_of_kept (loaded : later.settings = kept env a) (unaddressed : b.Unaddressed) :
    (optionsOf later b).baseUrl = (optionsOf env a).baseUrl := by
  show later.settings.effectiveBaseUrl b.baseUrl later.backend = _
  rw [loaded, unaddressed.baseUrl, kept, Settings.effectiveBaseUrl_withBackend]

theorem team_of_kept (loaded : later.settings = kept env a) (unaddressed : b.Unaddressed) :
    (optionsOf later b).team = (optionsOf env a).team := by
  show later.settings.effectiveTeam b.team = _
  rw [loaded, unaddressed.team]
  exact Settings.effectiveTeam_withBackend ..

/-- A run lists the catalog, or goes for the resource that is named. -/
theorem runArguments_eq (env : Environment) (a : Arguments) :
    runArguments env a
      = if a.list then
          { stdout := (a.output.getD env.settings.output).print
              (.arr (Catalog.embedded.keys.map .str)) ++ "\n" }
        else
          a.resource.elim
            (({} : Result).failed "No resource given. Use --list to see catalog resources")
            (runTarget env env.settings a) := by
  rw [runArguments]
  cases a.resource <;> rfl

/-- A run with the settings that another one has saved does what it would do with those that the
other one has loaded, if it were given the backend and the team. -/
theorem runArguments_of_kept (loaded : later.settings = kept env a)
    (unaddressed : b.Unaddressed) :
    runArguments later b = runArguments { later with file := env.file }
      (b.withBackend (optionsOf env a).baseUrl (optionsOf env a).team) := by
  have base : (kept env a).effectiveBaseUrl b.baseUrl later.backend = (optionsOf env a).baseUrl :=
    loaded ▸ baseUrl_of_kept loaded unaddressed
  have team : (kept env a).effectiveTeam b.team = (optionsOf env a).team :=
    loaded ▸ team_of_kept loaded unaddressed
  have given : env.settings.effectiveTeam (optionsOf env a).team = (optionsOf env a).team :=
    Settings.effectiveTeam_effectiveTeam ..
  have target (name : String) : runTarget later (kept env a) b name
      = runTarget { later with file := env.file } env.settings
          (b.withBackend (optionsOf env a).baseUrl (optionsOf env a).team) name := by
    have saved : (kept env a).withBackend (optionsOf env a).baseUrl (optionsOf env a).team
        = env.settings.withBackend (optionsOf env a).baseUrl (optionsOf env a).team :=
      Settings.withBackend_withBackend ..
    simp only [runTarget, base, team, Arguments.withBackend, given, saved]
    rfl
  rw [runArguments_eq, runArguments_eq, loaded]
  show (if b.list = true then _ else b.resource.elim _ _)
    = if b.list = true then _ else b.resource.elim _ _
  congr 2
  exact funext target

/-- **A backend that is saved is remembered.** A run for a resource that saves leaves a file with
the backend and the team that it uses itself; what else is in the file is as the run has found it.
Later runs that name neither a backend nor a team use the same, whatever the environment names by
then: they do what they would do with the former file, had they been given both. Whoever saves the
same backend and the same team again leaves the file as it is. -/
theorem backend_remembered (read : Arguments.ofTexts args = .ok a) (saves : a.save = true)
    (fetches : a.list = false) (named : a.resource = some name) :
    ∃ text, (run env args).saved = some text
      ∧ ∀ later : Environment, later.file = some text →
        later.settings = { env.settings with
          baseUrl := some (optionsOf env a).baseUrl, team := (optionsOf env a).team }
        ∧ (∀ args' b, Arguments.ofTexts args' = .ok b → b.Unaddressed →
          (optionsOf later b).baseUrl = (optionsOf env a).baseUrl
          ∧ (optionsOf later b).team = (optionsOf env a).team
          ∧ run later args' = runArguments { later with file := env.file }
            (b.withBackend (optionsOf env a).baseUrl (optionsOf env a).team))
        ∧ ∀ args' b name', Arguments.ofTexts args' = .ok b → b.save = true → b.list = false →
          b.resource = some name' → (optionsOf later b).baseUrl = (optionsOf env a).baseUrl →
          (optionsOf later b).team = (optionsOf env a).team →
          (run later args').saved = some text := by
  refine ⟨_, saved_of_run read saves fetches named, fun later file => ?_⟩
  have loaded := settings_of_saved file
  refine ⟨?_, fun args' b read' unaddressed => ?_, ?_⟩
  · have team : ((optionsOf env a).team <|> env.settings.team) = (optionsOf env a).team :=
      Settings.effectiveTeam_effectiveTeam ..
    rw [loaded, kept, Settings.withBackend, team]
  · refine ⟨baseUrl_of_kept loaded unaddressed, team_of_kept loaded unaddressed, ?_⟩
    rw [run, read']
    exact runArguments_of_kept loaded unaddressed
  · intro args' b name' read' saves' fetches' named' sameBase sameTeam
    rw [saved_of_run read' saves' fetches' named', kept, loaded, sameBase, sameTeam, kept,
      Settings.withBackend_withBackend]

/-! ### A team that is remembered -/

/-- A file names a team and a token, and the environment names a backend. -/
def formerTeam : Environment :=
  { file := some "\x7b\x22team\x22:\x22t0\x22,\x22csrf_token\x22:\x22c\x22\x7d"
    backend := some "http://[::1]:8000" }

/-- A team is given, to be remembered. -/
def anotherTeam : List String := ["site-list", "--team", "t1", "--save"]

/-- What these arguments stand for. -/
def anotherTeamArguments : Arguments :=
  { resource := some "site-list", team := some "t1", save := true }

/-- Later runs are for the team given then, with the backend named then and the token of the former
file. -/
theorem anotherTeam_remembered :
    Arguments.ofTexts anotherTeam = .ok anotherTeamArguments
      ∧ ∃ text, (run formerTeam anotherTeam).saved = some text
        ∧ ∀ backend : Option String,
          optionsOf { file := some text, backend } { resource := some "site-list" }
            = { baseUrl := "http://[::1]:8000", team := some "t1", csrfToken := some "c" } := by
  have read : Arguments.ofTexts anotherTeam = .ok anotherTeamArguments := by decide +kernel
  refine ⟨read, ?_⟩
  obtain ⟨text, saved, remembered⟩ :=
    @backend_remembered formerTeam anotherTeam anotherTeamArguments "site-list" read rfl rfl rfl
  refine ⟨text, saved, fun backend => ?_⟩
  obtain ⟨settings, later, -⟩ := remembered { file := some text, backend } rfl
  obtain ⟨base, team, -⟩ := later ["site-list"] { resource := some "site-list" } (by decide +kernel)
    ⟨rfl, rfl⟩
  let env : Environment := { file := some text, backend }
  let options := optionsOf env { resource := some "site-list" }
  calc options
    _ = { baseUrl := options.baseUrl, siteName := env.settings.siteName, team := options.team
          csrfToken := env.settings.csrfToken } := rfl
    _ = { baseUrl := "http://[::1]:8000", team := some "t1", csrfToken := some "c" } := by
      rw [base, team, settings]
      decide +kernel

end CommandLine

end ReactiveResource
