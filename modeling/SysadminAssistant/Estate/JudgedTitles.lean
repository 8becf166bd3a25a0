import Mathlib.Data.List.Infix
import SysadminAssistant.Estate.EstateJudge
import SysadminAssistant.Library.RaisingLoops

namespace SysadminAssistant.Estate

open Python SysadminAssistant.Core SysadminAssistant.Units Library

/-! The titles of one surface are not another's. -/

/-- What the titles of a surface look like. -/
def TitleOf : Surface → Text → Prop
  | .projectsInvariants, title => text "Estate scan " <+: title
  | .projectsAttention, title => text "Project " <+: title ∨ text "Estate project " <+: title
  | .auditInvariants, title => text "Estate audit " <+: title
  | .auditFindings, title => text "Estate port " <+: title ∨
      (text "Estate hook " <+: title ∧ text " not wired for " <:+: title)
  | .queueInvariants, title => text "Estate queue " <+: title
  | .hookWiring, title => title = wiringFileTitle
  | .settingsPath, title => title = settingsPathTitle

/-- A text that opens the titles of a surface, and no other surface's where it can be. -/
def openings : Surface → List Text
  | .projectsInvariants => [text "Estate scan "]
  | .projectsAttention => [text "Project ", text "Estate project "]
  | .auditInvariants => [text "Estate audit "]
  | .auditFindings => [text "Estate port ", text "Estate hook "]
  | .queueInvariants => [text "Estate queue "]
  | .hookWiring => [wiringFileTitle]
  | .settingsPath => [settingsPathTitle]

theorem TitleOf.opening {surface : Surface} {title : Text} (titled : TitleOf surface title) :
    ∃ opening ∈ openings surface, opening <+: title := by
  cases surface with
  | projectsInvariants => exact ⟨_, List.mem_cons_self, titled⟩
  | projectsAttention =>
    rcases titled with project | rollup
    · exact ⟨_, List.mem_cons_self, project⟩
    · exact ⟨_, List.mem_cons_of_mem _ List.mem_cons_self, rollup⟩
  | auditInvariants => exact ⟨_, List.mem_cons_self, titled⟩
  | auditFindings =>
    rcases titled with port | hook
    · exact ⟨_, List.mem_cons_self, port⟩
    · exact ⟨_, List.mem_cons_of_mem _ List.mem_cons_self, hook.1⟩
  | queueInvariants => exact ⟨_, List.mem_cons_self, titled⟩
  | hookWiring => exact ⟨_, List.mem_cons_self, titled ▸ List.prefix_refl _⟩
  | settingsPath => exact ⟨_, List.mem_cons_self, titled ▸ List.prefix_refl _⟩

/-- Neither text begins the other. -/
def Apart (left right : Text) : Prop := ¬ left <+: right ∧ ¬ right <+: left

instance (left right : Text) : Decidable (Apart left right) := inferInstanceAs (Decidable (_ ∧ _))

theorem openings_apart {surface other : Surface} (different : surface ≠ other)
    (hooks : ¬ (surface = .auditFindings ∧ other = .hookWiring))
    (hooks' : ¬ (surface = .hookWiring ∧ other = .auditFindings)) :
    ∀ left ∈ openings surface, ∀ right ∈ openings other, Apart left right := by
  revert different hooks hooks'
  cases surface <;> cases other <;> decide

theorem wiringFileTitle_not_finding : ¬ TitleOf .auditFindings wiringFileTitle := by
  intro titled
  rcases titled with port | hook
  · revert port
    decide
  · revert hook
    decide

theorem TitleOf.unique {surface other : Surface} {title : Text} (titled : TitleOf surface title)
    (otherwise : TitleOf other title) : surface = other := by
  by_contra different
  by_cases hooks : surface = .auditFindings ∧ other = .hookWiring
  · rw [hooks.2] at otherwise
    rw [hooks.1, show title = wiringFileTitle from otherwise] at titled
    exact wiringFileTitle_not_finding titled
  · by_cases hooks' : surface = .hookWiring ∧ other = .auditFindings
    · rw [hooks'.1] at titled
      rw [hooks'.2, show title = wiringFileTitle from titled] at otherwise
      exact wiringFileTitle_not_finding otherwise
    · obtain ⟨left, inLeft, leftOpens⟩ := titled.opening
      obtain ⟨right, inRight, rightOpens⟩ := otherwise.opening
      have apart := openings_apart different hooks hooks' left inLeft right inRight
      rcases List.prefix_or_prefix_of_prefix leftOpens rightOpens with shorter | longer
      · exact apart.1 shorter
      · exact apart.2 longer

/-! ## What the judges title -/

def Judgement.Titled (surface : Surface) (judgement : Judgement) : Prop :=
  judgement.surface = surface ∧ TitleOf surface judgement.title

/-- Whatever a judge returns is titled for its surface. -/
def Titled (surface : Surface) (result : Option (List Judgement)) : Prop :=
  ∀ judged, result = some judged → ∀ judgement ∈ judged, judgement.Titled surface

namespace Titled

variable {surface : Surface}

theorem bind {α : Type} {first : Option α} {rest : α → Option (List Judgement)}
    (titled : ∀ value, Titled surface (rest value)) : Titled surface (first >>= rest) := by
  intro judged ran
  obtain ⟨value, _, ran⟩ := Option.bind_eq_some_iff.mp ran
  exact titled value judged ran

theorem andThen {first : Option (List Judgement)} {rest : List Judgement → Option (List Judgement)}
    (titled : Titled surface first)
    (later : ∀ judged, (∀ judgement ∈ judged, judgement.Titled surface) →
      Titled surface (rest judged)) :
    Titled surface (first >>= rest) := by
  intro judged ran
  obtain ⟨found, ranFirst, ran⟩ := Option.bind_eq_some_iff.mp ran
  exact later found (titled found ranFirst) judged ran

theorem nil : Titled surface (some []) := by
  intro judged ran judgement member
  cases ran
  cases member

theorem one {judgement : Judgement} (titled : judgement.Titled surface) :
    Titled surface (some [judgement]) := by
  intro judged ran other member
  cases ran
  rw [List.mem_singleton.mp member]
  exact titled

theorem append {first second : List Judgement} (left : ∀ judgement ∈ first, judgement.Titled surface)
    (right : ∀ judgement ∈ second, judgement.Titled surface) :
    Titled surface (some (first ++ second)) := by
  intro judged ran judgement member
  cases ran
  exact (List.mem_append.mp member).elim (left judgement) (right judgement)

theorem mapM {α : Type} {inputs : List α} {row : α → Option Judgement}
    (titled : ∀ input judgement, row input = some judgement → judgement.Titled surface) :
    Titled surface (inputs.mapM row) := by
  intro judged ran judgement member
  obtain ⟨input, _, result⟩ := mapM_mem ran member
  exact titled input judgement result

end Titled

section

variable {wording : Wording}

theorem scan_opening :
    ∀ title ∈ ["Estate scan stale", "Estate scan failed", "Estate scan did not finish",
    "Estate scan could not reach sources", "Estate scan did not write estate.json",
      "Estate scan never ran"], text "Estate scan " <+: text title := by
  decide

theorem audit_opening :
    ∀ title ∈ ["Estate audit stale", "Estate audit checks errored", "Estate audit publish failed",
    "Estate audit failed", "Estate audit never ran"], text "Estate audit " <+: text title := by
  decide

theorem queue_opening : ∀ title ∈ ["Estate queue backlog", "Estate queue starved"],
    text "Estate queue " <+: text title := by
  decide

theorem scanStale_titled (payload : Payload) (last age : Json) (maxAgeHours : PyFloat) :
    Titled .projectsInvariants (scanStale wording payload last age maxAgeHours) := by
  unfold scanStale
  refine .bind fun stale => ?_
  split
  · repeat refine .bind fun _ => ?_
    exact .one ⟨rfl, scan_opening "Estate scan stale" (by simp)⟩
  · exact .nil

theorem scanFailed_titled (last : Json) : Titled .projectsInvariants (scanFailed wording last) := by
  unfold scanFailed
  refine .bind fun error => ?_
  split
  · refine .bind fun _ => ?_
    exact .one ⟨rfl, scan_opening "Estate scan failed" (by simp)⟩
  · exact .nil

theorem scanUnfinished_titled (last age : Json) :
    Titled .projectsInvariants (scanUnfinished wording last age) := by
  unfold scanUnfinished
  refine .bind fun finished => ?_
  split
  · repeat refine .bind fun _ => ?_
    exact .one ⟨rfl, scan_opening "Estate scan did not finish" (by simp)⟩
  · exact .nil

theorem scanCounted_titled (last : Json) (key title before after : String) :
    Titled .projectsInvariants (scanCounted wording last key title before after) := by
  unfold scanCounted
  refine .bind fun count => ?_
  dsimp only
  split
  · refine .bind fun _ => ?_
    exact .one ⟨rfl, List.prefix_append _ _⟩
  · exact .nil

theorem scanSources_titled (last : Json) : Titled .projectsInvariants (scanSources last) := by
  unfold scanSources
  refine .bind fun sources => ?_
  dsimp only
  split
  · refine .bind fun _ => ?_
    exact .one ⟨rfl, scan_opening "Estate scan could not reach sources" (by simp)⟩
  · exact .nil

theorem scanUnwritten_titled (last : Json) : Titled .projectsInvariants (scanUnwritten last) := by
  unfold scanUnwritten
  refine .bind fun written => ?_
  split
  · refine .bind fun error => ?_
    split
    · exact .nil
    · refine .bind fun _ => ?_
      exact .one ⟨rfl, scan_opening "Estate scan did not write estate.json" (by simp)⟩
  · exact .nil

theorem judgeProjectsInvariants_titled (payload : Payload) (maxAgeHours : PyFloat) :
    Titled .projectsInvariants (judgeProjectsInvariants wording payload maxAgeHours) := by
  unfold judgeProjectsInvariants
  dsimp only
  split
  · exact .one ⟨rfl, scan_opening "Estate scan never ran" (by simp)⟩
  · refine .bind fun age => ?_
    refine .andThen (scanStale_titled payload _ age maxAgeHours) fun stale staleTitled => ?_
    refine .andThen (scanFailed_titled _) fun failed failedTitled => ?_
    refine .andThen (scanUnfinished_titled _ age) fun unfinished unfinishedTitled => ?_
    refine .andThen (scanCounted_titled _ _ _ _ _) fun parseFailures parseTitled => ?_
    refine .andThen (scanCounted_titled _ _ _ _ _) fun skipped skippedTitled => ?_
    refine .andThen (scanSources_titled _) fun sources sourcesTitled => ?_
    refine .andThen (scanUnwritten_titled _) fun unwritten unwrittenTitled => ?_
    intro judged ran judgement member
    cases ran
    simp only [List.mem_append] at member
    rcases member with (((((here | here) | here) | here) | here) | here) | here
    · exact staleTitled judgement here
    · exact failedTitled judgement here
    · exact unfinishedTitled judgement here
    · exact parseTitled judgement here
    · exact skippedTitled judgement here
    · exact sourcesTitled judgement here
    · exact unwrittenTitled judgement here

/-! ## Attention -/

theorem Titled.rowsOrRollup {surface : Surface} {entries : List Json} {maxRows : Int}
    {row : Json → Option Judgement} {rollup : List Json → Int → Option Judgement}
    (ofRow : ∀ entry judgement, row entry = some judgement → judgement.Titled surface)
    (ofRollup : ∀ judgement, rollup entries maxRows = some judgement → judgement.Titled surface) :
    Titled surface (Estate.rowsOrRollup entries maxRows row rollup) := by
  rw [Estate.rowsOrRollup]
  split
  · intro judged ran judgement member
    obtain ⟨one, rolled, same⟩ := Option.map_eq_some_iff.mp ran
    rw [← same, List.mem_singleton] at member
    exact member ▸ ofRollup one rolled
  · exact .mapM ofRow

/-- The same of a single judgement. -/
def RowTitled (surface : Surface) (result : Option Judgement) : Prop :=
  ∀ judgement, result = some judgement → judgement.Titled surface

theorem RowTitled.bind {surface : Surface} {α : Type} {first : Option α}
    {rest : α → Option Judgement} (titled : ∀ value, RowTitled surface (rest value)) :
    RowTitled surface (first >>= rest) := by
  intro judgement ran
  obtain ⟨value, _, ran⟩ := Option.bind_eq_some_iff.mp ran
  exact titled value judgement ran

theorem RowTitled.one {surface : Surface} {judgement : Judgement}
    (titled : judgement.Titled surface) : RowTitled surface (some judgement) := by
  intro other ran
  cases ran
  exact titled

theorem healthRow_titled (entry : Json) : RowTitled .projectsAttention (healthRow wording entry) := by
  unfold healthRow
  repeat refine .bind fun _ => ?_
  exact .one ⟨rfl, .inl (by simp only [List.append_assoc]; exact List.prefix_append _ _)⟩

theorem nudgeRow_titled (nudge : Json) : RowTitled .projectsAttention (nudgeRow wording nudge) := by
  unfold nudgeRow
  repeat refine .bind fun _ => ?_
  exact .one ⟨rfl, .inl (by simp only [List.append_assoc]; exact List.prefix_append _ _)⟩

theorem manifestRow_titled (entry : Json) :
    RowTitled .projectsAttention (manifestRow wording entry) := by
  unfold manifestRow
  repeat refine .bind fun _ => ?_
  refine .one ⟨rfl, .inl ?_⟩
  simp only [List.append_assoc]
  exact (show text "Project " <+: text "Project manifest " by decide).trans (List.prefix_append _ _)

theorem healthRollup_titled (health : List Json) (maxRows : Int) :
    RowTitled .projectsAttention (healthRollup wording health maxRows) := by
  unfold healthRollup
  repeat refine .bind fun _ => ?_
  exact .one ⟨rfl, .inr (show text "Estate project " <+: healthRollupTitle by decide)⟩

theorem nudgeRollup_titled (nudges : List Json) (maxRows : Int) :
    RowTitled .projectsAttention (nudgeRollup wording nudges maxRows) := by
  unfold nudgeRollup
  repeat refine .bind fun _ => ?_
  exact .one ⟨rfl, .inr (show text "Estate project " <+: nudgeRollupTitle by decide)⟩

theorem manifestRollup_titled (refused : List Json) (maxRows : Int) :
    RowTitled .projectsAttention (manifestRollup wording refused maxRows) := by
  unfold manifestRollup
  repeat refine .bind fun _ => ?_
  exact .one ⟨rfl, .inr (show text "Estate project " <+: manifestRollupTitle by decide)⟩

theorem judgeAttention_titled (payload : Payload) (maxRows : Int) :
    Titled .projectsAttention (judgeAttention wording payload maxRows) := by
  unfold judgeAttention
  refine .bind fun health => .bind fun nudges => ?_
  refine .andThen (.rowsOrRollup healthRow_titled (healthRollup_titled _ _))
    fun rows healthTitled => ?_
  refine .andThen (.rowsOrRollup nudgeRow_titled (nudgeRollup_titled _ _))
    fun nudged nudgesTitled => ?_
  refine .bind fun refused => ?_
  refine .andThen (.rowsOrRollup manifestRow_titled (manifestRollup_titled _ _))
    fun manifests manifestsTitled => ?_
  refine .append (fun judgement member => ?_) manifestsTitled
  exact (List.mem_append.mp member).elim (healthTitled judgement) (nudgesTitled judgement)

/-! ## The audit -/

theorem auditStale_titled (last : Json) (maxAgeHours : PyFloat) :
    Titled .auditInvariants (auditStale wording last maxAgeHours) := by
  unfold auditStale
  refine .bind fun age => .bind fun stale => ?_
  split
  · repeat refine .bind fun _ => ?_
    exact .one ⟨rfl, audit_opening "Estate audit stale" (by simp)⟩
  · exact .nil

theorem auditErrored_titled (last : Json) : Titled .auditInvariants (auditErrored wording last) := by
  unfold auditErrored
  refine .bind fun errored => ?_
  dsimp only
  split
  · repeat refine .bind fun _ => ?_
    exact .one ⟨rfl, audit_opening "Estate audit checks errored" (by simp)⟩
  · exact .nil

theorem auditPublishFailed_titled (last : Json) :
    Titled .auditInvariants (auditPublishFailed wording last) := by
  unfold auditPublishFailed
  refine .bind fun error => ?_
  split
  · exact .one ⟨rfl, audit_opening "Estate audit publish failed" (by simp)⟩
  · exact .nil

theorem auditFailed_titled (last : Json) : Titled .auditInvariants (auditFailed wording last) := by
  unfold auditFailed
  refine .bind fun error => ?_
  split
  · exact .one ⟨rfl, audit_opening "Estate audit failed" (by simp)⟩
  · exact .nil

theorem judgeAuditInvariants_titled (payload : Payload) (maxAgeHours : PyFloat) :
    Titled .auditInvariants (judgeAuditInvariants wording payload maxAgeHours) := by
  unfold judgeAuditInvariants
  dsimp only
  split
  · exact .one ⟨rfl, audit_opening "Estate audit never ran" (by simp)⟩
  · refine .andThen (auditStale_titled _ maxAgeHours) fun stale staleTitled => ?_
    refine .andThen (auditErrored_titled _) fun errored erroredTitled => ?_
    refine .andThen (auditPublishFailed_titled _) fun unpublished unpublishedTitled => ?_
    refine .andThen (auditFailed_titled _) fun failed failedTitled => ?_
    intro judged ran judgement member
    cases ran
    simp only [List.mem_append] at member
    rcases member with ((here | here) | here) | here
    · exact staleTitled judgement here
    · exact erroredTitled judgement here
    · exact unpublishedTitled judgement here
    · exact failedTitled judgement here

theorem breachRow_titled (attribution : PortAttribution) (breach : Int × Json) :
    RowTitled .auditFindings (breachRow wording attribution breach) := by
  unfold breachRow
  dsimp only
  repeat refine .bind fun _ => ?_
  exact .one ⟨rfl, .inl (by simp only [breachTitle, List.append_assoc]; exact List.prefix_append _ _)⟩

theorem judgeAuditFindings_titled (payload : Payload) (maxRows : Int) (attribution : PortAttribution) :
    Titled .auditFindings (judgeAuditFindings wording payload maxRows attribution) := by
  unfold judgeAuditFindings
  refine .bind fun ported => ?_
  dsimp only
  split
  · split
    · exact .nil
    · exact .one ⟨rfl,
        .inl (show text "Estate port " <+: text "Estate port registry breach" by decide)⟩
  · exact .mapM (breachRow_titled attribution)

theorem wiringRow_titled (finding : Json) : Titled .auditFindings (wiringRow wording finding) := by
  unfold wiringRow
  refine .bind fun subject => ?_
  split
  · rename_i subject event _ _
    repeat refine .bind fun _ => ?_
    refine .one ⟨rfl, .inr ⟨?_, ?_⟩⟩
    · simp only [wiringTitle, List.append_assoc]
      exact List.prefix_append _ _
    · exact ⟨text "Estate hook " ++ subject, event, rfl⟩
  · exact .nil

theorem judgeAuditWiring_titled (payload : Payload) :
    Titled .auditFindings (judgeAuditWiring wording payload) := by
  intro judged ran judgement member
  obtain ⟨rows, ran, same⟩ := Option.map_eq_some_iff.mp ran
  rw [← same] at member
  obtain ⟨row, inRows, inside⟩ := List.mem_flatten.mp member
  obtain ⟨finding, _, result⟩ := mapM_mem ran inRows
  exact wiringRow_titled finding row result judgement inside

theorem queueBacklog_titled (payload : Payload) (maxDepth : Int) :
    Titled .queueInvariants (queueBacklog wording payload maxDepth) := by
  unfold queueBacklog
  dsimp only
  refine .bind fun deep => ?_
  split
  · exact .one ⟨rfl, queue_opening "Estate queue backlog" (by simp)⟩
  · exact .nil

theorem queueStarved_titled (payload : Payload) (maxWaitSeconds : PyFloat) (now : Int) :
    Titled .queueInvariants (queueStarved wording payload maxWaitSeconds now) := by
  unfold queueStarved
  dsimp only
  refine .bind fun starved => ?_
  split
  · repeat refine .bind fun _ => ?_
    exact .one ⟨rfl, queue_opening "Estate queue starved" (by simp)⟩
  · exact .nil

theorem judgeSurface_titled (inputs : EstateInputs) (now : Int) (surface : Surface) :
    Titled surface (judgeSurface wording inputs now surface) := by
  unfold judgeSurface
  split
  · exact .nil
  · cases surface with
    | projectsInvariants => exact judgeProjectsInvariants_titled _ _
    | projectsAttention => exact judgeAttention_titled _ _
    | auditInvariants => exact judgeAuditInvariants_titled _ _
    | auditFindings =>
      refine .andThen (judgeAuditFindings_titled _ _ _) fun ports portsTitled => ?_
      exact .andThen (judgeAuditWiring_titled _) fun hooks hooksTitled =>
        .append portsTitled hooksTitled
    | hookWiring =>
      dsimp only
      unfold judgeHookWiring
      split
      · exact .nil
      · exact .one ⟨rfl, rfl⟩
    | settingsPath =>
      dsimp only
      unfold judgeSettingsPath
      split
      · exact .one ⟨rfl, rfl⟩
      · exact .nil
    | queueInvariants =>
      refine .andThen (queueBacklog_titled _ _) fun backlog backlogTitled => ?_
      exact .andThen (queueStarved_titled _ _ now) fun starved starvedTitled =>
        .append backlogTitled starvedTitled

theorem judge_titled {inputs : EstateInputs} {now : Int} {judged : List Judgement}
    (ran : judge wording inputs now = some judged) {judgement : Judgement}
    (member : judgement ∈ judged) :
    TitleOf judgement.surface judgement.title ∧
      (inputs.pulled.result judgement.surface).read = true := by
  obtain ⟨rows, ran, same⟩ := Option.map_eq_some_iff.mp ran
  rw [← same] at member
  obtain ⟨row, inRows, inside⟩ := List.mem_flatten.mp member
  obtain ⟨surface, _, result⟩ := mapM_mem ran inRows
  obtain ⟨named, titled⟩ := judgeSurface_titled inputs now surface row result judgement inside
  rw [named]
  refine ⟨titled, ?_⟩
  rw [judgeSurface] at result
  cases found : inputs.pulled.result surface with
  | payload fields => rfl
  | error reason =>
    rw [found] at result
    cases result
    cases inside

theorem mem_judgedSurfaces (surface : Surface) : surface ∈ judgedSurfaces := by
  cases surface <;> decide

end

end SysadminAssistant.Estate
