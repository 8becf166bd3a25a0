import SysadminAssistant.Python.Rounding
import SysadminAssistant.Units.StartLimits
import SysadminAssistant.Units.UnitScan

namespace SysadminAssistant.Units

open Python

/-! Advice for a unit whose restart loop its start limit never stops
(`sysadmin/units/recommendations.py`), against the arithmetic that found it. -/

def startLimitLadder : List ℚ := [60, 120, 300, 600, 1800, 3600]

def startLimitMargin : ℚ := 3 / 2

/-- The smallest window that clears the span of the starts by the margin. -/
def windowFor (span : PyFloat) : Option ℚ :=
  if span = .infinite false then none
  else startLimitLadder.find? fun candidate =>
    exceeds candidate span && reaches candidate (span.mul startLimitMargin)

/-- `suggested_start_limit_interval`; the outer `none` is an `OverflowError`. -/
def suggestedStartLimitInterval (restartSec : Option PyFloat) (burst : Option Int) :
    Option (Option ℚ) :=
  let cadence := restartSec.getD defaultRestartSec
  let limit := burst.getD defaultStartLimitBurst
  if limit ≤ 1 then some none
  else (PyFloat.ofInt? (limit - 1)).map fun starts => windowFor (cadence.mul starts)

structure UnitRecommendation where
  kind : Text
  severity : Text
  unit : Text
  scope : Scope
  project : Option Text
  monitorUnit : Text
  title : Text
  detail : Text
  action : Text
  snippet : Text
  snippetTarget : Option Text

section

variable (decimal : ℚ → Text)

/-- `_seconds`, where `decimal` is `str` of a double that is no integer. -/
def seconds (value : ℚ) : Text :=
  (if value.den = 1 then intText value.num else decimal value) ++ text "s"

/-- `_seconds` of any double; `none` is an error of `int(value)`. -/
def secondsOf (value : PyFloat) : Option Text :=
  match value with
  | .finite value => some (seconds decimal value)
  | .infinite _ | .nan => none

def ordinal (n : Int) : Text :=
  intText n ++
    if 10 ≤ n % 100 ∧ n % 100 ≤ 20 then text "th"
    else if n % 10 = 1 then text "st"
    else if n % 10 = 2 then text "nd"
    else if n % 10 = 3 then text "rd"
    else text "th"

def reloadCommand : Scope → Text
  | .user => text "systemctl --user daemon-reload"
  | .system => text "sudo systemctl daemon-reload"

/-- `restart_sec or 0`. -/
def shownRestartSec (finding : UnitFinding) : PyFloat :=
  (finding.restartSec.filter PyFloat.truthy).getD (.finite 0)

/-- `_start_limit_snippet`; `none` is an error. -/
def startLimitSnippet (finding : UnitFinding) (interval : ℚ) (burst : Int) : Option Text := do
  let cadence ← secondsOf decimal (shownRestartSec finding)
  let starts ← PyFloat.ofInt? (burst - 1)
  let last ← secondsOf decimal ((shownRestartSec finding).mul starts)
  some (Text.joinLines ((((finding.description.filter (· ≠ [])).map (text "# " ++ ·)).toList) ++
    [text "[Unit]",
      text "# Restart=" ++ finding.restart.getD (text "None") ++ text " with RestartSec=" ++ cadence ++
        text " puts the " ++ ordinal burst ++ text " start " ++ last ++
        text " after the first; the window must be wider than that or the limit is unreachable.",
      text "StartLimitIntervalSec=" ++ seconds decimal interval,
      text "StartLimitBurst=" ++ intText burst]))

/-- `finding.start_limit_burst or DEFAULT_START_LIMIT_BURST`. -/
def suggestedBurst (finding : UnitFinding) : Int :=
  (finding.startLimitBurst.filter (· ≠ 0)).getD defaultStartLimitBurst

/-- `_restart_recommendation`; `none` is an error. -/
def restartRecommendation (duplicates : List Text) (finding : UnitFinding) :
    Option UnitRecommendation := do
  let burst := suggestedBurst finding
  let interval ← suggestedStartLimitInterval finding.restartSec (some burst)
  let label :=
    if finding.unit ∈ duplicates then finding.unit ++ text " (" ++ finding.scope.name ++ text ")"
    else finding.unit
  let detail := label ++ text " " ++ finding.reason ++ text "." ++
    (if finding.startLimitInterval = none ∧ finding.startLimitBurst = none then
      text " It declares no start limit at all, so systemd's defaults apply (" ++
        seconds decimal 10 ++ text ", " ++ intText defaultStartLimitBurst ++
        text " starts) — a limit does exist, it is simply unreachable at this restart cadence."
          else []) ++
    match finding.project with
    | none | some [] => []
    | some project => text " The unit belongs to " ++ project ++
        text ", so the edit is that repository's to make."
  let made (more action snippet : Text) (target : Option Text) : UnitRecommendation :=
    { kind := text "restart"
      severity := text "advice"
      unit := finding.unit
      scope := finding.scope
      project := finding.project
      monitorUnit := if finding.monitorUnit = [] then finding.unit else finding.monitorUnit
      title := text "Bound the restart loop in " ++ label
      detail := detail ++ more
      action
      snippet
      snippetTarget := target }
  match interval with
  | none =>
    some (made
      (text (" No StartLimitIntervalSec= would help at this RestartSec — lower RestartSec first, then " ++
        "set a window wider than RestartSec x (StartLimitBurst - 1)."))
      (text "Lower RestartSec= in " ++ finding.path ++ text ", then re-run the sweep") [] none)
  | some interval => do
    let snippet ← startLimitSnippet decimal finding interval burst
    some (made (text " Setting StartLimitIntervalSec=" ++ seconds decimal interval ++ text " makes " ++
        intText burst ++ text " failed starts inside " ++ seconds decimal interval ++
        text " terminal, so the unit reaches `failed` and an OnFailure= hook can fire.")
      (text "Add the lines below to the [Unit] section of " ++ finding.path ++ text ", then " ++
        reloadCommand finding.scope) snippet (some finding.path))

/-- The lines to paste set these limits. -/
def SnippetSets (snippet : Text) (interval : ℚ) (burst : Int) : Prop :=
  ∃ front, snippet = Text.joinLines (front ++
    [text "StartLimitIntervalSec=" ++ seconds decimal interval,
      text "StartLimitBurst=" ++ intText burst])

/-- With these limits in place of its own, does the unit's loop end? -/
def boundedWith (tools : CaseTools) (finding : UnitFinding) (interval : ℚ) (burst : Int) :
    Option Bool :=
  restartIsBounded tools finding.restart finding.restartSec (some (.finite interval)) (some burst)

/-- A snippet bounds the loop, and it is withheld only if no window does. -/
structure AdviceBounds (tools : CaseTools) (finding : UnitFinding) (advice : UnitRecommendation) :
    Prop where
  snippet : advice.snippet ≠ [] → ∃ interval ∈ startLimitLadder,
    SnippetSets decimal advice.snippet interval (suggestedBurst finding) ∧
      boundedWith tools finding interval (suggestedBurst finding) = some true
  withheld : advice.snippet = [] → ∀ interval ∈ startLimitLadder,
    boundedWith tools finding interval (suggestedBurst finding) = some false

end

/-- From the first start to the last that the limit would admit. -/
def burstSpan (finding : UnitFinding) : Option PyFloat :=
  (PyFloat.ofInt? (suggestedBurst finding - 1)).map (finding.restartSec.getD defaultRestartSec).mul

/-- The limit is none of one start, unless starts never come; and its span is not between an hour
and two thirds of one. -/
structure WindowsServe (finding : UnitFinding) : Prop where
  several : suggestedBurst finding = 1 → finding.restartSec = some (.infinite false)
  clear : 1 < suggestedBurst finding → ∀ span, burstSpan finding = some span →
    exceeds 3600 span = true → reaches 3600 (span.mul startLimitMargin) = true

section

variable {tools : CaseTools} {finding : UnitFinding}

/-- The unit restarts. -/
def Restarts (tools : CaseTools) (finding : UnitFinding) : Prop :=
  ∃ restart, finding.restart = some restart ∧ tools.lower restart.strip ∉ [text "", text "no"]

theorem restarts_of_unbounded (unbounded : restartIsBounded tools finding.restart finding.restartSec
    finding.startLimitInterval finding.startLimitBurst = some false) : Restarts tools finding := by
  cases declared : finding.restart with
  | none =>
    rw [declared] at unbounded
    cases unbounded
  | some restart =>
    refine ⟨restart, declared, fun quiet => ?_⟩
    rw [declared, restartIsBounded, if_pos quiet] at unbounded
    cases unbounded

theorem less_finite (span : PyFloat) (interval : ℚ) :
    span.less (.finite interval) = exceeds interval span := by
  cases span <;> rfl

theorem boundedWith_eq (restarts : Restarts tools finding) {interval : ℚ}
    (listed : interval ∈ startLimitLadder) (burst : Int) :
    boundedWith tools finding interval burst =
      if burst ≤ 0 then some false
      else if finding.restartSec.getD defaultRestartSec = .infinite false then some false
      else if burst = 1 then some true
      else (PyFloat.ofInt? (burst - 1)).map fun starts =>
        exceeds interval ((finding.restartSec.getD defaultRestartSec).mul starts) := by
  obtain ⟨restart, declared, loops⟩ := restarts
  have positive : PyFloat.isNonPositive (.finite interval) = false := by
    have all : ∀ window ∈ startLimitLadder, 0 < window := by decide
    simpa [PyFloat.isNonPositive] using all interval listed
  simp only [boundedWith, restartIsBounded, declared, if_neg loops, Option.getD_some, positive,
    Bool.false_or, decide_eq_true_eq, less_finite]

theorem ofInt?_pos {n : Int} (some_ : 1 ≤ n) {starts : ℚ}
    (converted : PyFloat.ofInt? n = some starts) : 0 < starts := by
  have one : roundToDouble 1 = 1 := by decide +kernel
  have more : roundToDouble 1 ≤ roundToDouble (n : ℚ) :=
    roundToDouble_mono (by norm_num) (by exact_mod_cast some_)
  simp only [PyFloat.ofInt?] at converted
  split at converted
  · cases converted
    rw [one] at more
    linarith
  · cases converted

theorem mem_of_windowFor {span : PyFloat} {interval : ℚ} (found : windowFor span = some interval) :
    interval ∈ startLimitLadder ∧ exceeds interval span = true ∧ reaches interval
      (span.mul startLimitMargin) = true := by
  rw [windowFor] at found
  split at found
  · cases found
  · have passed := List.find?_some found
    rw [Bool.and_eq_true] at passed
    exact ⟨List.mem_of_find?_eq_some found, passed⟩

theorem windowFor_none_iff {span : PyFloat} : windowFor span = none ↔
    ¬ (exceeds 3600 span = true ∧ reaches 3600 (span.mul startLimitMargin) = true) := by
  have widest : ∀ interval ∈ startLimitLadder, interval ≤ 3600 := by decide
  constructor
  · intro none both
    rw [windowFor] at none
    split at none
    · rename_i endless
      rw [endless] at both
      exact absurd both.1 (by simp [exceeds])
    · have refused := List.find?_eq_none.mp none 3600 (by simp [startLimitLadder])
      rw [both.1, both.2] at refused
      exact refused rfl
  · intro neither
    cases found : windowFor span with
    | none => rfl
    | some interval =>
      obtain ⟨member, clears, margin⟩ := mem_of_windowFor found
      exact absurd ⟨exceeds_mono (widest interval member) clears,
        reaches_mono (widest interval member) margin⟩ neither

section

variable (decimal : ℚ → Text) (duplicates : List Text)

theorem restartRecommendation_withheld (none_ : suggestedStartLimitInterval finding.restartSec
    (some (suggestedBurst finding)) = some none) :
    ∃ advice, restartRecommendation decimal duplicates finding = some advice ∧
      advice.snippet = [] := by
  simp only [restartRecommendation, none_, Option.bind_eq_bind, Option.bind_some]
  exact ⟨_, rfl, rfl⟩

theorem restartRecommendation_snippet {interval : ℚ}
    (found : suggestedStartLimitInterval finding.restartSec
    (some (suggestedBurst finding)) = some (some interval)) :
    (restartRecommendation decimal duplicates finding).map UnitRecommendation.snippet =
      startLimitSnippet decimal finding interval (suggestedBurst finding) := by
  simp only [restartRecommendation, found, Option.bind_eq_bind, Option.bind_some]
  cases startLimitSnippet decimal finding interval (suggestedBurst finding) <;> rfl

theorem restartRecommendation_raises (raised : suggestedStartLimitInterval finding.restartSec
    (some (suggestedBurst finding)) = none) :
      restartRecommendation decimal duplicates finding = none := by
  simp only [restartRecommendation, raised, Option.bind_eq_bind, Option.bind_none]

theorem mem_joinLines {lines : List Text} {line : Text} (member : line ∈ lines) {c : CodePoint}
    (inside : c ∈ line) : c ∈ Text.joinLines lines := by
  refine List.mem_flatten.mpr ⟨line, ?_, inside⟩
  induction lines with
  | nil => cases member
  | cons first rest ih =>
    cases rest with
    | nil => exact member
    | cons second later =>
      rw [List.intersperse_cons_cons]
      rcases List.mem_cons.mp member with here | after
      · exact here ▸ List.mem_cons_self
      · exact List.mem_cons_of_mem _ (List.mem_cons_of_mem _ (ih after))

theorem SnippetSets.ne_nil {snippet : Text} {interval : ℚ} {burst : Int}
    (sets : SnippetSets decimal snippet interval burst) : snippet ≠ [] := by
  obtain ⟨front, rfl⟩ := sets
  intro empty
  have letter : codePoint 'S' ∈ Text.joinLines (front ++
      [text "StartLimitIntervalSec=" ++ seconds decimal interval,
        text "StartLimitBurst=" ++ intText burst]) :=
    mem_joinLines (List.mem_append_right _ (List.mem_cons_of_mem _ List.mem_cons_self))
      (by simp [text])
  rw [empty] at letter
  cases letter

theorem round_finite {value interval : ℚ} (nonneg : 0 ≤ value)
    (clears : exceeds interval (PyFloat.round value) = true) :
    ∃ nearest, PyFloat.round value = .finite nearest := by
  simp only [PyFloat.round] at clears ⊢
  split at clears
  · rename_i small
    exact ⟨_, if_pos small⟩
  · simp only [exceeds, decide_eq_true_eq] at clears
    exact absurd clears (not_lt.mpr nonneg)

theorem snippetSets_lines (front : List Text) (header comment : Text) (interval : ℚ) (burst : Int) :
    SnippetSets decimal (Text.joinLines (front ++ [header, comment,
      text "StartLimitIntervalSec=" ++ seconds decimal interval,
        text "StartLimitBurst=" ++ intText burst])) interval
      burst :=
  ⟨front ++ [header, comment], by rw [List.append_assoc]; rfl⟩

theorem startLimitSnippet_sets {interval cadence starts : ℚ} {burst : Int} (forward : 0 ≤ cadence)
    (positive : 0 < starts) (finite : finding.restartSec.getD defaultRestartSec = .finite cadence)
    (converted : PyFloat.ofInt? (burst - 1) = some starts)
    (clears : exceeds interval (PyFloat.mul starts (.finite cadence)) = true) :
    ∃ snippet, startLimitSnippet decimal finding interval burst = some snippet ∧
      SnippetSets decimal snippet interval burst := by
  have shown : ∃ value last, shownRestartSec finding = .finite value ∧
      (shownRestartSec finding).mul starts = .finite last := by
    have still : PyFloat.mul starts (.finite 0) = .finite 0 := by
      rw [PyFloat.mul, mul_zero]
      decide +kernel
    cases declared : finding.restartSec with
    | none =>
      exact ⟨0, 0,
        by rw [shownRestartSec, declared]; rfl, by rw [shownRestartSec, declared]; exact still⟩
    | some delay =>
      rw [declared, Option.getD_some] at finite
      by_cases zero : cadence = 0
      · have quiet : shownRestartSec finding = .finite 0 := by
          simp [shownRestartSec, declared, finite, zero, PyFloat.truthy, Option.filter]
        exact ⟨0, 0, quiet, by rw [quiet]; exact still⟩
      · have own : shownRestartSec finding = .finite cadence := by
          simp [shownRestartSec, declared, finite, zero, PyFloat.truthy, Option.filter]
        obtain ⟨last, product⟩ := round_finite (mul_nonneg positive.le forward) clears
        exact ⟨cadence, last, own, by rw [own]; exact product⟩
  obtain ⟨value, last, shown, product⟩ := shown
  rw [shown] at product
  simp only [startLimitSnippet, shown, secondsOf, converted, product, Option.bind_eq_bind,
    Option.bind_some]
  exact ⟨_, rfl, snippetSets_lines decimal _ _ _ interval burst⟩

/-- What the sweep lets a unit be advised about: it restarts without bound, and never after less
than no time. -/
structure Advisable (tools : CaseTools) (finding : UnitFinding) : Prop where
  unbounded : restartIsBounded tools finding.restart finding.restartSec finding.startLimitInterval
    finding.startLimitBurst = some false
  forward : ∀ delay ∈ finding.restartSec, delay = .infinite false ∨ ∃ seconds,
    delay = .finite seconds ∧ 0 ≤ seconds

def AlwaysBounds (tools : CaseTools) (finding : UnitFinding) : Prop :=
  ∀ advice, restartRecommendation decimal duplicates finding = some advice →
    AdviceBounds decimal tools finding advice

theorem alwaysBounds_withheld (none_ : suggestedStartLimitInterval finding.restartSec
    (some (suggestedBurst finding)) = some none) : AlwaysBounds decimal duplicates tools finding ↔
      ∀ interval ∈ startLimitLadder, boundedWith tools finding interval
        (suggestedBurst finding) = some false := by
  obtain ⟨advice, made, empty⟩ := restartRecommendation_withheld decimal duplicates none_
  constructor
  · exact fun all => (all advice made).withheld empty
  · intro never other same
    obtain rfl : advice = other := Option.some.inj (made.symm.trans same)
    exact ⟨fun filled => absurd empty filled, fun _ => never⟩

theorem alwaysBounds_negative (advisable : Advisable tools finding)
    (none_ : suggestedBurst finding < 1) : AlwaysBounds decimal duplicates tools finding := by
  rw [alwaysBounds_withheld decimal duplicates
    (by rw [suggestedStartLimitInterval, Option.getD_some, if_pos none_.le])]
  intro interval listed
  rw [boundedWith_eq (restarts_of_unbounded advisable.unbounded) listed,
    if_pos (Int.lt_add_one_iff.mp none_)]

theorem alwaysBounds_one_iff (advisable : Advisable tools finding) (one : suggestedBurst finding = 1) :
    AlwaysBounds decimal duplicates tools finding ↔ finding.restartSec = some (.infinite false) := by
  have restarts := restarts_of_unbounded advisable.unbounded
  rw [alwaysBounds_withheld decimal duplicates
    (by rw [suggestedStartLimitInterval, Option.getD_some, if_pos one.le])]
  have endless : finding.restartSec.getD defaultRestartSec = .infinite false ↔
      finding.restartSec = some (.infinite false) := by
    cases finding.restartSec <;> simp [defaultRestartSec]
  constructor
  · intro never
    have answer := never 60 (by simp [startLimitLadder])
    rw [boundedWith_eq restarts (by simp [startLimitLadder]), if_neg (by omega)] at answer
    by_contra ends
    rw [if_neg (mt endless.mp ends), if_pos one] at answer
    cases answer
  · intro never interval listed
    rw [boundedWith_eq restarts listed, if_neg (by omega), if_pos (endless.mpr never)]

section

variable {starts : ℚ}

theorem boundedWith_several (advisable : Advisable tools finding)
    (several : 1 < suggestedBurst finding)
    (converted : PyFloat.ofInt? (suggestedBurst finding - 1) = some starts) {interval : ℚ}
    (listed : interval ∈ startLimitLadder) :
    boundedWith tools finding interval (suggestedBurst finding) =
      some (exceeds interval ((finding.restartSec.getD defaultRestartSec).mul starts)) := by
  have positive := ofInt?_pos (by omega) converted
  rw [boundedWith_eq (restarts_of_unbounded advisable.unbounded) listed, if_neg (by omega),
    if_neg several.ne', converted]
  split
  · rename_i endless
    rw [endless]
    simp [PyFloat.mul, positive.ne', positive.le, exceeds]
  · rfl

theorem alwaysBounds_of_window (advisable : Advisable tools finding)
    (several : 1 < suggestedBurst finding)
    (converted : PyFloat.ofInt? (suggestedBurst finding - 1) = some starts) {interval : ℚ}
    (found : windowFor ((finding.restartSec.getD defaultRestartSec).mul starts) = some interval) :
    AlwaysBounds decimal duplicates tools finding := by
  have positive := ofInt?_pos (by omega) converted
  obtain ⟨listed, clears, margin⟩ := mem_of_windowFor found
  obtain ⟨cadence, finite, nonneg⟩ : ∃ cadence,
      finding.restartSec.getD defaultRestartSec = .finite cadence ∧ 0 ≤ cadence := by
    cases declared : finding.restartSec with
    | none => exact ⟨_, rfl, by decide +kernel⟩
    | some delay =>
      rcases advisable.forward delay declared with endless | ⟨seconds, finite, nonneg⟩
      · rw [declared, endless] at clears
        simp only [Option.getD_some, PyFloat.mul, if_neg positive.ne',
          decide_eq_false positive.asymm, Bool.xor_false, exceeds, Bool.false_eq_true] at clears
      · exact ⟨seconds, finite, nonneg⟩
  have suggested : suggestedStartLimitInterval finding.restartSec (some (suggestedBurst finding)) =
      some (some interval) := by
    rw [suggestedStartLimitInterval, Option.getD_some, if_neg (not_le.mpr several), converted]
    exact congrArg some found
  obtain ⟨snippet, made, sets⟩ :=
    startLimitSnippet_sets decimal nonneg positive finite converted (finite ▸ clears)
  have recommended := restartRecommendation_snippet decimal duplicates suggested
  intro advice same
  rw [same, made, Option.map_some, Option.some.injEq] at recommended
  refine ⟨fun _ => ⟨interval, listed, recommended ▸ sets, ?_⟩, ?_⟩
  · rw [boundedWith_several advisable several converted listed, clears]
  · exact fun empty => absurd (recommended.symm.trans empty) (sets.ne_nil decimal)

/-- With several starts it comes down to the widest window: it may not clear the span and miss the
margin. -/
theorem alwaysBounds_several_iff (advisable : Advisable tools finding)
    (several : 1 < suggestedBurst finding)
    (converted : PyFloat.ofInt? (suggestedBurst finding - 1) = some starts) :
    AlwaysBounds decimal duplicates tools finding ↔
      (exceeds 3600 ((finding.restartSec.getD defaultRestartSec).mul starts) = true →
        reaches 3600
          (((finding.restartSec.getD defaultRestartSec).mul starts).mul startLimitMargin) =
          true) := by
  have widest : ∀ window ∈ startLimitLadder, window ≤ 3600 := by decide
  have top : (3600 : ℚ) ∈ startLimitLadder := by simp [startLimitLadder]
  cases found : windowFor ((finding.restartSec.getD defaultRestartSec).mul starts) with
  | none =>
    have neither := windowFor_none_iff.mp found
    rw [alwaysBounds_withheld decimal duplicates (by
      rw [suggestedStartLimitInterval, Option.getD_some, if_neg (not_le.mpr several), converted]
      exact congrArg some found)]
    constructor
    · intro never clears
      have answer := never 3600 top
      rw [boundedWith_several advisable several converted top, clears] at answer
      cases answer
    · intro clear interval listed
      rw [boundedWith_several advisable several converted listed, Option.some.injEq, Bool.eq_false_iff]
      intro clears
      have most := exceeds_mono (widest interval listed) clears
      exact neither ⟨most, clear most⟩
  | some interval =>
    obtain ⟨listed, _, margin⟩ := mem_of_windowFor found
    exact iff_of_true (alwaysBounds_of_window decimal duplicates advisable several converted found)
      fun _ => reaches_mono (widest interval listed) margin

end

/-- The advice bounds the loop, and is withheld only where no window would, exactly if the windows
serve. -/
theorem restartRecommendation_bounds_iff (tools : CaseTools) (finding : UnitFinding)
    (advisable : Advisable tools finding) :
    (∀ advice, restartRecommendation decimal duplicates finding = some advice →
        AdviceBounds decimal tools finding advice) ↔ WindowsServe finding := by
  change AlwaysBounds decimal duplicates tools finding ↔ _
  rcases lt_trichotomy (suggestedBurst finding) 1 with none_ | one | several
  · exact iff_of_true (alwaysBounds_negative decimal duplicates advisable none_)
      ⟨fun same => absurd same none_.ne, fun more => absurd none_ more.asymm⟩
  · rw [alwaysBounds_one_iff decimal duplicates advisable one]
    exact ⟨fun never => ⟨fun _ => never, fun more => absurd one more.ne'⟩, fun serves =>
      serves.several one⟩
  · cases converted : PyFloat.ofInt? (suggestedBurst finding - 1) with
    | none =>
      have raised := @restartRecommendation_raises finding decimal duplicates (by
        rw [suggestedStartLimitInterval, Option.getD_some, if_neg (not_le.mpr several), converted]
        rfl)
      refine iff_of_true (by simp [AlwaysBounds, raised]) ⟨fun same => absurd same several.ne',
        fun _ span found => ?_⟩
      rw [burstSpan, converted] at found
      cases found
    | some starts =>
      rw [alwaysBounds_several_iff decimal duplicates advisable several converted]
      constructor
      · refine fun clear => ⟨fun same => absurd same several.ne', fun _ span found => ?_⟩
        rw [burstSpan, converted, Option.map_some, Option.some.injEq] at found
        exact found ▸ clear
      · exact fun serves => serves.clear several _ (by rw [burstSpan, converted]; rfl)

end

end

/-! A unit that restarts every 700 s. -/

def slowRestarts : UnitFinding where
  unit := text "slow.service"
  scope := .system
  category := .restartUnbounded
  path := text "/etc/systemd/system/slow.service"
  description := none
  project := none
  projectPath := none
  matchedBy := none
  monitorUnit := text "slow.service"
  deadPath := none
  manual := false
  reason := []
  enabled := true
  restart := some (text "always")
  restartBounded := false
  restartSec := some (.finite 700)
  startLimitInterval := none
  startLimitBurst := none

theorem slowRestarts_advisable : Advisable ⟨id, id⟩ slowRestarts where
  unbounded := by decide +kernel
  forward := by
    intro delay declared
    cases declared
    exact Or.inr ⟨700, rfl, by norm_num⟩

/-- The same unit, restarting every 90 s. -/
def steadyRestarts : UnitFinding := { slowRestarts with restartSec := some (.finite 90) }

theorem steadyRestarts_bounds : (restartRecommendation (fun _ => []) [] steadyRestarts).isSome ∧
    ∀ advice, restartRecommendation (fun _ => []) [] steadyRestarts = some advice →
      AdviceBounds (fun _ => []) ⟨id, id⟩ steadyRestarts advice := by
  have advisable : Advisable ⟨id, id⟩ steadyRestarts := by
    refine ⟨by decide +kernel, ?_⟩
    intro delay declared
    cases declared
    exact Or.inr ⟨90, rfl, by norm_num⟩
  refine ⟨by decide +kernel,
    (restartRecommendation_bounds_iff (fun _ => []) [] ⟨id, id⟩ steadyRestarts advisable).mpr ⟨?_, ?_⟩⟩
  · intro one
    exact absurd one (by decide)
  · intro _ span declared _
    have near : ((burstSpan steadyRestarts).all fun span =>
        reaches 3600 (span.mul startLimitMargin)) = true := by
      decide +kernel
    rwa [declared, Option.all_some] at near

/-- The fifth start comes 2800 s after the first, and an hour is no window for the advice. -/
theorem slowRestarts_withheld : Advisable ⟨id, id⟩ slowRestarts ∧
    (∃ advice, restartRecommendation (fun _ => []) [] slowRestarts = some advice ∧
      advice.snippet = []) ∧
    boundedWith ⟨id, id⟩ slowRestarts 3600 (suggestedBurst slowRestarts) = some true :=
  ⟨slowRestarts_advisable, restartRecommendation_withheld _ _ (by decide +kernel), by decide +kernel⟩

end SysadminAssistant.Units
