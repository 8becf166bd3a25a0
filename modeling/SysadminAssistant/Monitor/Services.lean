import SysadminAssistant.Core.Alerts

namespace SysadminAssistant.Monitor

open Python SysadminAssistant.Core

/-! Services as `services.yaml` declares them and as a check measures them, and the
titles of their alerts. -/

/-- `SysAdminAgent.name`. -/
def sysadmin : Text := text "sysadmin"

/-- The values `chk_health_status` admits. -/
inductive ServiceStatus where
  | ok | degraded | warning | critical | unreachable | error | skipped
deriving DecidableEq, Repr

structure ServiceEntry where
  name : Text
  autoRestart : Bool
  controllable : Bool
  systemdUnit : Option Text
  autoRestartAfterChecks : Int

/-- `SERVICE_ALERT_KINDS`. -/
inductive ServiceAlertKind where
  | degraded | warning | critical | unreachable | autoRestarted
deriving DecidableEq, Repr

namespace ServiceAlertKind

def all : List ServiceAlertKind := [degraded, warning, critical, unreachable, autoRestarted]

def word : ServiceAlertKind → Text
  | .degraded => text "degraded"
  | .warning => text "warning"
  | .critical => text "critical"
  | .unreachable => text "unreachable"
  | .autoRestarted => text "auto-restarted"

theorem mem_all (kind : ServiceAlertKind) : kind ∈ all := by cases kind <;> decide

end ServiceAlertKind

def serviceAlertTitle (serviceName : Text) (kind : ServiceAlertKind) : Text :=
  serviceName ++ text " " ++ kind.word

theorem words_apart {left right : ServiceAlertKind}
    (ends : text " " ++ left.word <:+ text " " ++ right.word) : left = right := by
  revert ends
  cases left <;> cases right <;> decide

theorem serviceAlertTitle_injective {left right : Text} {leftKind rightKind : ServiceAlertKind}
    (same : serviceAlertTitle left leftKind = serviceAlertTitle right rightKind) :
    left = right ∧ leftKind = rightKind := by
  simp only [serviceAlertTitle, List.append_assoc] at same
  have leftEnds : text " " ++ leftKind.word <:+ left ++ (text " " ++ leftKind.word) :=
    List.suffix_append _ _
  have rightEnds : text " " ++ rightKind.word <:+ left ++ (text " " ++ leftKind.word) :=
    same ▸ List.suffix_append _ _
  have kinds : leftKind = rightKind := by
    rcases List.suffix_or_suffix_of_suffix leftEnds rightEnds with shorter | longer
    · exact words_apart shorter
    · exact (words_apart longer).symm
  subst kinds
  exact ⟨List.append_cancel_right same, rfl⟩

/-- The estate's active lease, as the run read it. -/
structure ArbitratedStops where
  reading : Text
  units : List Text
  leaseId : Option Int
  profile : Option Text

def ArbitratedStops.stopped (stops : ArbitratedStops) (unit : Option Text) : Bool :=
  unit.any fun unit => decide (unit ∈ stops.units)

def arbitratedStopSeverity : Severity := quietestSeverity

end SysadminAssistant.Monitor
