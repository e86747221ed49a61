import QueryAgent.Agent.Assembly
import QueryAgent.Cli.Program
import QueryAgent.Proofs.Connector.Addresses

namespace QueryAgent

/-!
# What validation foresees

A configuration is checked before anything is started.  What is checked again
later, in other places and in other words, has then been settled: no connection
is refused for want of an address, no agent for its intervals, and no pool is
made larger than it was asked to be.
-/

/-! ## Validation -/

/-- A rule that is kept leaves the result to the rules behind it. -/
theorem rule_eq_ok_iff
    {broken : Prop}
    [Decidable broken]
    {cause : AgentError}
    {further : Result α}
    {value : α} :
    (if broken then .error cause else further) = .ok value ↔
      ¬ broken ∧ further = .ok value := by
  split <;>
    simp [*]

/-- A configuration is accepted when it breaks no rule. -/
theorem AgentConfig.validate_eq_ok_iff
    (config : AgentConfig) :
    config.validate = .ok () ↔
      Text.allBlank config.controller.url = false
        ∧ Text.allBlank config.controller.connectorId = false
        ∧ Text.allBlank config.controller.authToken = false
        ∧ config.database.lacksUrl = false
        ∧ (0 < config.schedule.pollInterval ∧ 0 < config.schedule.heartbeatInterval)
        ∧ 0 < config.database.maxConnections := by
  simp only [validate, rule_eq_ok_iff, Bool.not_eq_true, Bool.or_eq_true, decide_eq_true_eq,
    not_or, Nat.pos_iff_ne_zero, and_true, ne_eq]

/-- A text that is kept is the one that was given. -/
theorem eq_some_of_nonBlank?
    {text : Option String}
    {kept : String}
    (keeps : Text.nonBlank? text = some kept) :
    text = some kept :=
  (Option.filter_eq_some_iff.mp keeps).1

/-- A database that does not lack an address is the mock one or has an address to connect to. -/
theorem DatabaseConfig.lacksUrl_eq_false_iff
    (database : DatabaseConfig) :
    database.lacksUrl = false ↔
      (database.backend ≠ .mock →
        ∃ url,
          database.url = some url
            ∧ (ConnectionSettings.ofConfig database).requireUrl = .ok url) := by
  have given : (ConnectionSettings.ofConfig database).url = database.url :=
    rfl
  unfold lacksUrl ConnectionSettings.requireUrl
  rw [given]
  cases keeps : Text.nonBlank? database.url with
  | none =>
      simp
  | some url =>
      simp [eq_some_of_nonBlank? keeps]

/-! ## What comes later -/

/-- The size that is asked for is that of the pool when it is not zero. -/
theorem ConnectionSettings.poolSize_ofConfig
    {database : DatabaseConfig}
    (positive : 0 < database.maxConnections) :
    (ofConfig database).poolSize = database.maxConnections :=
  Nat.max_eq_left (Nat.succ_le_of_lt positive)

/-- An agent with intervals that are not zero is not refused for them. -/
theorem Agent.Assembly.build_withSchedule_ne_intervalsRequired
    {schedule : ScheduleConfig}
    (polls : 0 < schedule.pollInterval)
    (beats : 0 < schedule.heartbeatInterval)
    (assembly : Assembly χ δ) :
    (assembly.withSchedule schedule).build ≠ .error intervalsRequired := by
  have pollPositive : 0 < schedule.pollInterval * 1000 :=
    Nat.mul_pos polls (by decide)
  have heartbeatPositive : 0 < schedule.heartbeatInterval * 1000 :=
    Nat.mul_pos beats (by decide)
  obtain ⟨id, controller, dispatcher, _, _⟩ := assembly
  unfold build withSchedule
  cases controller with
  | none =>
      simp [intervalsRequired]
  | some controller =>
      cases dispatcher with
      | none =>
          simp [intervalsRequired]
      | some dispatcher =>
          simp [pollPositive, heartbeatPositive]

/-- A probe is refused for want of an address by a database that lacks one, and by no other. -/
theorem Cli.exists_probe_wantsUrl_iff
    (network : Backend.Network)
    (database : DatabaseConfig) :
    (∃ error, Cli.probe network database = .error error ∧ error.WantsUrl) ↔
      database.lacksUrl = true := by
  have unanswered :
      ∀ {error},
        Cli.probe network database = .error error ↔
          Backend.reach network database = .error error := by
    intro error
    unfold probe
    rw [Json.bind_eq_error]
    simp
  simp only [unanswered]
  constructor
  · rintro ⟨error, fails, wants⟩
    by_contra hasUrl
    rw [Bool.not_eq_true] at hasUrl
    have supplied :
        database.backend ≠ .mock →
          ∃ url, (ConnectionSettings.ofConfig database).requireUrl = .ok url :=
      fun real => (database.lacksUrl_eq_false_iff.mp hasUrl real).imp fun _ found => found.2
    -- Behind the check there is an address, and neither connecting nor probing wants another.
    simp only [Backend.reach, hasUrl, Bool.false_eq_true, if_false] at fails
    split at fails
    next cause refused =>
        cases fails
        exact Backend.Session.addressed_start network supplied _ refused wants
    next =>
        exact Backend.Session.addressed_probeAndClose network _ _ fails wants
  · intro lacks
    refine ⟨database.urlRequired, ?_, .inl ⟨database, rfl⟩⟩
    rw [Backend.reach, if_pos lacks]

/--
Validation covers what is checked again at the start.  Where a configuration is
accepted, its database has an address to connect to unless it is the mock one,
its intervals put an agent together, its pool has the size that was asked for,
and no probe is refused for want of an address.  A database whose probe is
refused for that is accepted in no configuration.
-/
theorem validation_covers_start :
    (∀ config : AgentConfig,
      config.validate = .ok () →
        (config.database.backend ≠ .mock →
          ∃ url,
            config.database.url = some url
              ∧ (ConnectionSettings.ofConfig config.database).requireUrl = .ok url)
          ∧ (∀ {χ δ : Type} (assembly : Agent.Assembly χ δ),
            (assembly.withSchedule config.schedule).build ≠ .error intervalsRequired)
          ∧ (ConnectionSettings.ofConfig config.database).poolSize =
            config.database.maxConnections
          ∧ ∀ network error,
            Cli.probe network config.database = .error error → ¬ error.WantsUrl)
      ∧ ∀ network database error,
        Cli.probe network database = .error error →
          error.WantsUrl →
            ∀ config : AgentConfig,
              config.database = database → ∃ cause, config.validate = .error cause := by
  constructor
  · intro config accepted
    obtain ⟨-, -, -, hasUrl, ⟨polls, beats⟩, connects⟩ := config.validate_eq_ok_iff.mp accepted
    refine ⟨config.database.lacksUrl_eq_false_iff.mp hasUrl, ?_,
      ConnectionSettings.poolSize_ofConfig connects, ?_⟩
    · intro χ δ assembly
      exact assembly.build_withSchedule_ne_intervalsRequired polls beats
    · intro network error fails wants
      have lacks := (Cli.exists_probe_wantsUrl_iff network _).mp ⟨error, fails, wants⟩
      rw [hasUrl] at lacks
      cases lacks
  · rintro network _ error fails wants config rfl
    have lacks := (Cli.exists_probe_wantsUrl_iff network _).mp ⟨error, fails, wants⟩
    cases validated : config.validate with
    | error cause =>
        exact ⟨cause, rfl⟩
    | ok =>
        have hasUrl := (config.validate_eq_ok_iff.mp validated).2.2.2.1
        rw [lacks] at hasUrl
        cases hasUrl

/-- A configuration that is accepted, with one connection to a server of MySQL. -/
def AgentConfig.smallest : AgentConfig where
  controller :=
    { ControllerConfig.standard with
      connectorId := "conn-1"
      authToken := "secret" }
  database :=
    { DatabaseConfig.standard with
      backend := .mysql
      url := some " mysql://db/app "
      maxConnections := 1 }
  schedule := ⟨1, 1⟩
  logging := .standard

/-- The one is accepted and connects once; the standard database has no address. -/
theorem validation_covers_start_smallest :
    AgentConfig.smallest.validate = .ok ()
      ∧ (ConnectionSettings.ofConfig AgentConfig.smallest.database).poolSize = 1
      ∧ (∀ network error,
        Cli.probe network AgentConfig.smallest.database = .error error → ¬ error.WantsUrl)
      ∧ ∃ error,
        Cli.probe .unreachable DatabaseConfig.standard = .error error
          ∧ error.WantsUrl
          ∧ ∃ cause, AgentConfig.standard.validate = .error cause := by
  have accepted : AgentConfig.smallest.validate = .ok () := by
    decide
  obtain ⟨-, -, size, probes⟩ := validation_covers_start.1 AgentConfig.smallest accepted
  obtain ⟨error, fails, wants⟩ :=
    (Cli.exists_probe_wantsUrl_iff .unreachable DatabaseConfig.standard).mpr (by decide)
  exact
    ⟨accepted, size, probes, error, fails, wants,
      validation_covers_start.2 .unreachable _ error fails wants AgentConfig.standard rfl⟩

end QueryAgent
