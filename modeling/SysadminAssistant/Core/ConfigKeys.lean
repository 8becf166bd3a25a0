import SysadminAssistant.Python.Dict
import SysadminAssistant.Python.Text

namespace SysadminAssistant.Core

open Python

/-! Keys in config.yaml that no model declares (`sysadmin/core/config_keys.py`), over the models of
`sysadmin/core/config.py`. -/

/-- The models of `config.py`. -/
inductive ConfigModel where
  | apiConfig | serviceConfig | databaseConfig | personalAssistantConfig | llmConfig | thresholds
  | anomalyConfig
  | reliabilityGradeBands | reliabilityConfig | serviceActionsConfig | collationCheckConfig
  | journalHorizonConfig
  | sysAdminAgentConfig | fileActionsConfig | fileOrganiserConfig | portCheckConfig
  | serviceDiscoveryConfig
  | estateJudgeConfig | logSource | logNoiseEntry | logAggregatorConfig | dndScheduleWindow | dndConfig
  | desktopNotificationsConfig | paNotificationsConfig | mqttNotificationsConfig
  | trayNotificationsConfig
  | notificationsConfig | schedulesConfig | selfMonitorConfig | eventsConfig | gameDetectorConfig
  | agentsConfig
  | appConfig
deriving DecidableEq, Repr

inductive Container where
  | list | dict | tuple | union
deriving DecidableEq, Repr

/-- The type of a field.  `plain` is one with no type in it, or a `Literal`. -/
inductive Annotation where
  | plain
  | model (model : ConfigModel)
  | generic (container : Container) (arguments : List Annotation)

/-- What `model_fields` says of a field. -/
structure FieldInfo where
  name : Text
  aliased : Option Text
  annotation : Annotation

def typed (name : String) ( annotation : Annotation) : FieldInfo := ⟨text name, none, annotation⟩

def nested (name : String) (model : ConfigModel) : FieldInfo := typed name (.model model)

def plain (names : List String) : List FieldInfo := names.map fun name => typed name .plain

/-- `model_fields`. -/
def ConfigModel.fields : ConfigModel → List FieldInfo
  | .apiConfig => [typed "auth_token" (.generic .union [.plain, .plain])]
  | .serviceConfig =>
    plain ["name", "port", "host", "log_level", "log_format"] ++
    [typed "cors_origins" (.generic .list [.plain])]
  | .databaseConfig => plain ["url", "sync_url"] ++ [⟨text "schema_", some (text "schema"), .plain⟩]
  | .personalAssistantConfig => plain ["enabled", "url", "notify_endpoint", "briefing_endpoint"]
  | .llmConfig => plain ["url", "model", "timeout_seconds", "gpu_pci_slot", "gpu_busy_threshold"]
  | .thresholds =>
    plain ["disk_warning_percent", "disk_critical_percent", "ram_warning_percent",
      "gpu_temp_warning_c", "gpu_vram_warning_percent"]
  | .anomalyConfig => plain ["enabled", "window_days", "z_threshold", "min_samples", "min_stdev",
      "severity"]
  | .reliabilityGradeBands => plain ["reliable_min", "degraded_min", "unreliable_min"]
  | .reliabilityConfig =>
    plain ["enabled", "window_days"] ++ [nested "grade_bands" .reliabilityGradeBands]
  | .serviceActionsConfig =>
    plain ["enabled", "flap_min_episodes", "timer_stale_multiplier", "timer_lookback_days", "limit"]
  | .collationCheckConfig => plain ["enabled"]
  | .journalHorizonConfig => plain ["enabled", "min_window_days", "loop_count", "loop_window_minutes"]
  | .sysAdminAgentConfig =>
    plain ["enabled", "health_check_interval_seconds"] ++
    [nested "thresholds" .thresholds, nested "anomaly" .anomalyConfig,
      nested "reliability" .reliabilityConfig, nested "service_actions" .serviceActionsConfig,
      nested "collation" .collationCheckConfig, nested "journal_horizon" .journalHorizonConfig] ++
    plain ["weekly_review"]
  | .fileActionsConfig =>
    plain ["enabled"] ++
    [typed "category_folders" (.generic .dict [.plain, .plain])] ++
    plain ["downloads_dir", "archive_dir", "duplicate_strategy", "pdf_book_min_pages",
      "pdf_book_min_mb", "max_operations", "allow_permanent_delete"] ++
    [typed "trash_dir" (.generic .union [.plain, .plain]),
      typed "code_extensions" (.generic .list [.plain])]
  | .fileOrganiserConfig =>
    plain ["enabled", "scan_interval_hours", "scan_root", "stale_days", "downloads_stale_days",
      "large_file_mb", "similarity_threshold", "weekly_review"] ++
    [typed "reclaimable_milestones_mb" (.generic .list [.plain]),
      typed "skip_dirs" (.generic .list [.plain]), nested "actions" .fileActionsConfig]
  | .portCheckConfig =>
    plain ["enabled", "document"] ++
    [typed "audited_ranges" (.generic .list [.generic .tuple [.plain, .plain]]),
      typed "ignore_ports" (.generic .list [.plain])]
  | .serviceDiscoveryConfig =>
    plain ["enabled", "scan_interval_hours", "user_unit_dir", "system_unit_dir", "alert_threshold"] ++
    [nested "ports" .portCheckConfig]
  | .estateJudgeConfig =>
    plain ["enabled", "base_url", "poll_interval_hours", "scan_max_age_hours",
      "audit_max_age_hours", "queue_max_depth", "queue_max_wait_seconds", "port_breach_max_rows",
      "attention_max_rows"]
  | .logSource =>
    plain ["name", "type"] ++
    [typed "unit" (.generic .union [.plain, .plain])] ++
    plain ["user"] ++
    [typed "path" (.generic .union [.plain, .plain])] ++
    plain ["severity_filter", "format"]
  | .logNoiseEntry => plain ["source", "signature", "reason"]
  | .logAggregatorConfig =>
    plain ["enabled", "poll_interval_seconds"] ++
    [typed "sources" (.generic .list [.model .logSource])] ++
    plain ["retention_days", "weekly_review", "alert_quiet_minutes", "critical_repeat_hours",
      "max_entries_per_read", "trend_window_days", "trend_max_groups"] ++
    [typed "known_noise" (.generic .list [.model .logNoiseEntry])]
  | .dndScheduleWindow => plain ["start", "end"]
  | .dndConfig =>
    plain ["enabled"] ++
    [typed "schedule" (.generic .list [.model .dndScheduleWindow])] ++
    plain ["allow_critical"]
  | .desktopNotificationsConfig => plain ["enabled", "min_severity", "tray_grace_seconds",
      "reminder_hours"]
  | .paNotificationsConfig => plain ["enabled", "min_severity"]
  | .mqttNotificationsConfig =>
    plain ["enabled", "min_severity", "host", "port", "username", "credential", "topic",
      "timeout_seconds"]
  | .trayNotificationsConfig => [typed "mute_services" (.generic .list [.plain])]
  | .notificationsConfig =>
    [nested "desktop" .desktopNotificationsConfig, nested "tray" .trayNotificationsConfig,
      nested "pa_notify" .paNotificationsConfig, nested "mqtt" .mqttNotificationsConfig,
      nested "dnd" .dndConfig]
  | .schedulesConfig =>
    plain ["briefing_hour", "briefing_minute", "retention_hour", "retention_minute",
      "review_day_of_week", "review_lease_margin_minutes", "disk_review_hour",
      "disk_review_minute", "log_review_hour", "log_review_minute", "health_review_hour",
      "health_review_minute", "reliability_hour", "reliability_minute",
      "agent_first_run_delay_seconds"]
  | .selfMonitorConfig =>
    plain ["enabled", "stall_grace_multiplier", "min_stall_grace_seconds", "recent_runs",
      "escalate_after_hours", "failure_alert_threshold"]
  | .eventsConfig => plain ["heartbeat_seconds", "max_queued_events", "retry_ms"]
  | .gameDetectorConfig =>
    plain ["enabled", "poll_interval_seconds", "steam_root"] ++
    [typed "games" (.generic .dict [.plain, .plain])]
  | .agentsConfig =>
    [nested "sysadmin" .sysAdminAgentConfig, nested "file_organiser" .fileOrganiserConfig,
      nested "log_aggregator" .logAggregatorConfig, nested "service_discovery" .serviceDiscoveryConfig,
      nested "estate_judge" .estateJudgeConfig, nested "game_detector" .gameDetectorConfig]
  | .appConfig =>
    [nested "service" .serviceConfig, nested "api" .apiConfig, nested "database" .databaseConfig,
      nested "personal_assistant" .personalAssistantConfig, nested "llm" .llmConfig,
      nested "notifications" .notificationsConfig, nested "schedules" .schedulesConfig,
      nested "self_monitor" .selfMonitorConfig, nested "events" .eventsConfig] ++
    plain ["projects_root", "discovery_depth"] ++
    [nested "agents" .agentsConfig]

/-- `model_config["populate_by_name"]`. -/
def ConfigModel.populateByName (model : ConfigModel) : Bool := model = .databaseConfig

/-- `FOREIGN_KEYS`. -/
def foreignKeys : List Text :=
  ["tray", "notifications.tray.flap_cooldown_minutes", "notifications.tray.escalation_polls",
    "notifications.tray.coalesce_threshold", "notifications.tray.snooze_minutes",
    "notifications.tray.digest_mode", "notifications.tray.digest_interval_minutes",
    "notifications.tray.respect_desktop_dnd", "notifications.tray.reminder_hours",
    "notifications.tray.backend_unreachable_grace_seconds"].map text

/-- What `yaml.safe_load` returns.  `scalar` is any value that holds no others. -/
inductive Yaml where
  | null
  | scalar (value : Text)
  | sequence (items : List Yaml)
  | mapping (entries : List (Text × Yaml))
  | set (members : List Text)

/-- A report of a walk, its paths as they are printed or as lists of steps. -/
structure KeyReport (π : Type) where
  unknown : List π := []
  unwalkable : List π := []

namespace KeyReport

variable {π ρ : Type}

def append (first second : KeyReport π) : KeyReport π :=
  ⟨first.unknown ++ second.unknown, first.unwalkable ++ second.unwalkable⟩

instance : Append (KeyReport π) := ⟨append⟩

def map (rename : π → ρ) (report : KeyReport π) : KeyReport ρ :=
  ⟨report.unknown.map rename, report.unwalkable.map rename⟩

/-- Some of the unknown keys left out. -/
def keep (wanted : π → Bool) (report : KeyReport π) : KeyReport π :=
  ⟨report.unknown.filter wanted, report.unwalkable⟩

end KeyReport

mutual

/-- `model_in`. -/
def modelIn : Annotation → Option ConfigModel
  | .plain => none
  | .model model => some model
  | .generic _ arguments => modelInArguments arguments

def modelInArguments : List Annotation → Option ConfigModel
  | [] => none
  | argument :: rest =>
    match modelIn argument with
    | some found => some found
    | none => modelInArguments rest

end

/-- The spellings that `_accepted_names` goes through, in its order. -/
def ConfigModel.spellings (model : ConfigModel) : List (Text × FieldInfo) :=
  model.fields.flatMap fun info => (info.name, info) :: (info.aliased.map fun spelling =>
    (spelling, info)).toList

/-- `_accepted_names`. -/
def acceptedNames (model : ConfigModel) : Dict Text FieldInfo := .ofEntries model.spellings

/-- `f"{prefix}.{key}" if prefix else str(key)`. -/
def keyPath (before key : Text) : Text := if before = [] then key else before ++ text "." ++ key

/-- `f"{path}[{index}]"`. -/
def itemPath (before : Text) (index : Nat) : Text := before ++ text "[" ++ intText index ++ text "]"

mutual

/-- `_walk_into`: what it appends to the report. -/
def walkInto (foreign : List Text) (before : Text) (model : ConfigModel) : Yaml → KeyReport Text
  | .null => {}
  | .mapping entries => walkEntries foreign before model entries
  | _ => { unwalkable := [if before = [] then text "<root>" else before] }

/-- The loop of `_walk_into` over the keys. -/
def walkEntries (foreign : List Text) (before : Text) (model : ConfigModel) :
    List (Text × Yaml) → KeyReport Text
  | [] => {}
  | (key, value) :: rest =>
    let path := keyPath before key
    let here : KeyReport Text :=
      if path ∈ foreign then {}
      else match (acceptedNames model).get? key with
        | none => { unknown := [path] }
        | some info =>
          match modelIn info.annotation with
          | none => {}
          | some submodel =>
            match value with
            | .mapping entries => walkEntries foreign path submodel entries
            | .sequence items => walkItems foreign path submodel 0 items
            | .null => {}
            | _ => { unwalkable := [path] }
    here ++ walkEntries foreign before model rest

/-- Its loop over a sequence, from an index on. -/
def walkItems (foreign : List Text) (before : Text) (model : ConfigModel) (index : Nat) :
    List Yaml → KeyReport Text
  | [] => {}
  | item :: rest =>
    walkInto foreign (itemPath before index) model item ++ walkItems foreign before model
      (index + 1) rest

end

/-- `walk`. -/
def walk (raw : Yaml) (model : ConfigModel) (foreign : List Text) : KeyReport Text :=
  walkInto foreign [] model raw

end SysadminAssistant.Core
