import SysadminAssistant.Library.PolledTokens
import SysadminAssistant.Monitor.ServiceAdvice
import SysadminAssistant.Python.DecimalText

namespace SysadminAssistant.Monitor.Reliability

open Python Library

/-! What the checks of a timer show of its firings. -/

def TimerSeries.ordered (series : TimerSeries) : List TimerPoint :=
  series.points.insertionSort fun left right => left.checkedAt ≤ right.checkedAt

def firesOf (points : List TimerPoint) : List Int :=
  observedFires (points.head?.bind TimerPoint.lastRun) (points.drop 1)

/-- The neighbouring checks that a fire is recorded between. -/
def firePairs (points : List TimerPoint) : List (TimerPoint × TimerPoint) :=
  (adjacent points).filter fun pair => pair.2.lastRun ≠ pair.1.lastRun

theorem firesOf_pairs (points : List TimerPoint) :
    firesOf points = (firePairs points).map fun pair => pair.2.checkedAt := by
  cases points with
  | nil => rfl
  | cons first rest =>
    change observedFires first.lastRun rest = _
    induction rest generalizing first with
    | nil => rfl
    | cons second rest ih =>
      rw [firePairs, adjacent_cons_cons, List.filter_cons, observedFires]
      by_cases same : second.lastRun = first.lastRun
      · rw [if_pos same, if_neg (by simp [same]), ← same]
        exact ih second
      · rw [if_neg same, if_pos (by simpa using same), List.map_cons]
        exact congrArg _ (ih second)

theorem firesOf_cons (first second : TimerPoint) (rest : List TimerPoint) :
    firesOf (first :: second :: rest) =
      if second.lastRun = first.lastRun then firesOf (second :: rest)
      else second.checkedAt :: firesOf (second :: rest) := by
  change observedFires first.lastRun (second :: rest) = _
  rw [observedFires]
  by_cases same : second.lastRun = first.lastRun
  · rw [if_pos same, if_pos same, ← same]
    rfl
  · rw [if_neg same, if_neg same]
    rfl

theorem quiet_token {first latest : TimerPoint} {rest : List TimerPoint}
    (quiet : firesOf (first :: rest) = []) (ends : (first :: rest).getLast? = some latest) :
    latest.lastRun = first.lastRun := by
  induction rest generalizing first with
  | nil =>
    cases ends
    rfl
  | cons second rest ih =>
    rw [firesOf_cons] at quiet
    by_cases same : second.lastRun = first.lastRun
    · rw [if_pos same] at quiet
      rw [List.getLast?_cons_cons] at ends
      exact (ih quiet ends).trans same
    · rw [if_neg same] at quiet
      cases quiet

theorem first_le_latest {first latest : TimerPoint} {rest : List TimerPoint}
    (sorted : (first :: rest).Pairwise fun earlier later => earlier.checkedAt ≤ later.checkedAt)
    (ends : (first :: rest).getLast? = some latest) : first.checkedAt ≤ latest.checkedAt := by
  rcases List.mem_cons.mp (List.mem_of_getLast? ends) with own | later
  · rw [own]
  · exact (List.pairwise_cons.mp sorted).1 latest later

theorem since_last_change {first : TimerPoint} {rest : List TimerPoint} {since : Int}
    (sorted : (first :: rest).Pairwise fun earlier later => earlier.checkedAt ≤ later.checkedAt)
    (changed : (firesOf (first :: rest)).getLast? = some since) {latest : TimerPoint}
    (ends : (first :: rest).getLast? = some latest) :
    ∃ point ∈ first :: rest, point.checkedAt = since ∧ point.lastRun = latest.lastRun ∧
      since ≤ latest.checkedAt := by
  induction rest generalizing first since with
  | nil => cases changed
  | cons second rest ih =>
    have tailSorted := (List.pairwise_cons.mp sorted).2
    rw [List.getLast?_cons_cons] at ends
    have onward : ∀ {since : Int}, (firesOf (second :: rest)).getLast? = some since →
        ∃ point ∈ first :: second :: rest,
          point.checkedAt = since ∧ point.lastRun = latest.lastRun ∧ since ≤ latest.checkedAt := by
      intro since last
      obtain ⟨point, member, facts⟩ := ih tailSorted last ends
      exact ⟨point, List.mem_cons_of_mem _ member, facts⟩
    rw [firesOf_cons] at changed
    by_cases same : second.lastRun = first.lastRun
    · rw [if_pos same] at changed
      exact onward changed
    · rw [if_neg same] at changed
      cases later : (firesOf (second :: rest)).getLast? with
      | some fired =>
        rw [List.getLast?_cons, later] at changed
        cases changed
        exact onward later
      | none =>
        have quiet := List.getLast?_eq_none_iff.mp later
        rw [quiet] at changed
        cases changed
        exact ⟨second, List.mem_cons_of_mem _ List.mem_cons_self, rfl,
          (quiet_token quiet ends).symm, first_le_latest tailSorted ends⟩

/-- Each check carries the token of its time, or none. -/
def Sampled (history : TokenHistory Text) (points : List TimerPoint) : Prop :=
  ∀ point ∈ points, point.lastRun = none ∨ point.lastRun = history.token point.checkedAt

/-- No hole of the checks reaches into the span. -/
def Watched (checkIntervalSeconds : Int) (points : List TimerPoint) (span : Int × Int) : Prop :=
  ∀ pair ∈ adjacent points, span.1 < pair.2.checkedAt → pair.1.checkedAt < span.2 →
    2 * (pair.2.checkedAt - pair.1.checkedAt) ≤ 5 * checkIntervalSeconds * 1000000

instance (checkIntervalSeconds : Int) (points : List TimerPoint) (span : Int × Int) :
    Decidable (Watched checkIntervalSeconds points span) :=
  inferInstanceAs (Decidable (∀ pair ∈ adjacent points, span.1 < pair.2.checkedAt →
    pair.1.checkedAt < span.2 →
    2 * (pair.2.checkedAt - pair.1.checkedAt) ≤ 5 * checkIntervalSeconds * 1000000))

def changeTimes (points : List TimerPoint) : List Int :=
  (firePairs points).map fun pair => pair.2.checkedAt

def watchedSpans (checkIntervalSeconds : Int) (points : List TimerPoint) : List (Int × Int) :=
  (adjacent (changeTimes points)).filter fun span => Watched checkIntervalSeconds points span

theorem seriesHoles_watched (checkIntervalSeconds : Int) (points : List TimerPoint)
    (span : Int × Int) :
    (!(seriesHoles checkIntervalSeconds points).any fun hole => span.1 < hole.2 &&
      hole.1 < span.2) = decide (Watched checkIntervalSeconds points span) := by
  rw [Bool.eq_iff_iff, Bool.not_eq_true', List.any_eq_false, decide_eq_true_eq]
  constructor
  · intro clear pair member after before
    by_contra wide
    have hole : (pair.1.checkedAt, pair.2.checkedAt) ∈ seriesHoles checkIntervalSeconds points :=
      List.mem_filterMap.mpr ⟨pair, member, if_pos (not_le.mp wide)⟩
    exact clear _ hole (by simp [after, before])
  · intro watched hole member reaches
    obtain ⟨pair, neighbours, made⟩ := List.mem_filterMap.mp member
    by_cases wide : 5 * checkIntervalSeconds * 1000000 < 2 * (pair.2.checkedAt - pair.1.checkedAt)
    · rw [if_pos wide] at made
      cases made
      simp only [Bool.and_eq_true, decide_eq_true_eq] at reaches
      exact absurd wide (not_lt.mpr (watched pair neighbours reaches.1 reaches.2))
    · rw [if_neg wide] at made
      cases made

theorem observedCadence_watched (checkIntervalSeconds : Int) (points : List TimerPoint) :
    observedCadence checkIntervalSeconds (firesOf points) points =
      if minCadenceSamples ≤ (watchedSpans checkIntervalSeconds points).length then
        some (medianOf ((seconds (watchedSpans checkIntervalSeconds points)).insertionSort (· ≤ ·)))
      else none := by
  have spans : ((firesOf points).zip ((firesOf points).drop 1)).filter (fun gap =>
      !(seriesHoles checkIntervalSeconds points).any fun hole => gap.1 < hole.2 && hole.1 < gap.2) =
        watchedSpans checkIntervalSeconds points := by
    rw [watchedSpans, changeTimes, ← firesOf_pairs, adjacent]
    exact List.filter_congr fun gap _ => seriesHoles_watched checkIntervalSeconds points gap
  have fewer : (watchedSpans checkIntervalSeconds points).length ≤ (firesOf points).length - 1 := by
    rw [← spans]
    refine (List.length_filter_le _ _).trans ?_
    rw [List.length_zip, List.length_drop]
    exact Nat.min_le_right _ _
  rw [observedCadence]
  by_cases few : (firesOf points).length < minCadenceSamples + 1
  · rw [if_pos few, if_neg (by simp only [minCadenceSamples] at few ⊢; omega)]
  · rw [if_neg few]
    simp only [spans]
    by_cases short : (watchedSpans checkIntervalSeconds points).length < minCadenceSamples
    · rw [if_pos short, if_neg (not_le.mpr short)]
    · rw [if_neg short, if_pos (not_lt.mp short)]

/-- The last check found the timer armed, and its token changed last at `since`, longer ago than the
cadence allows. -/
structure Overdue (series : TimerSeries) (settings : ServiceActionsConfig)
    (checkIntervalSeconds now since : Int) : Prop where
  armed : series.ordered.getLast?.any TimerPoint.isActive = true
  changed : (changeTimes series.ordered).getLast? = some since
  rated : minCadenceSamples ≤ (watchedSpans checkIntervalSeconds series.ordered).length
  late : roundToDouble
    (medianOf ((seconds (watchedSpans checkIntervalSeconds series.ordered)).insertionSort (· ≤ ·)) *
    settings.timerStaleMultiplier) < totalSeconds (now - since)

section

variable {numbers : NumberText} {series : TimerSeries} {settings : ServiceActionsConfig}
  {checkIntervalSeconds now since : Int} {row : ServiceRecommendationInfo}

def staleTitle (numbers : NumberText) (series : TimerSeries) (elapsed : Int) : Text :=
  series.service ++ text ": armed but has not fired for " ++ hoursText numbers (totalSeconds elapsed)

theorem timerStaleRow_overdue
    (made : timerStaleRow numbers series series.ordered settings checkIntervalSeconds now = some row) :
    ∃ since, Overdue series settings checkIntervalSeconds now since ∧ row.kind = .timerStale ∧
      row.title = staleTitle numbers series (now - since) := by
  rw [timerStaleRow] at made
  by_cases armed : series.ordered.getLast?.any TimerPoint.isActive = true
  · rw [if_neg (by simp [armed])] at made
    dsimp only at made
    rw [show observedFires (series.ordered.head?.bind TimerPoint.lastRun) (series.ordered.drop 1) =
      firesOf series.ordered from rfl, observedCadence_watched] at made
    by_cases rated : minCadenceSamples ≤ (watchedSpans checkIntervalSeconds series.ordered).length
    · rw [if_pos rated] at made
      cases changed : (firesOf series.ordered).getLast? with
      | none =>
        rw [changed] at made
        cases made
      | some since =>
        simp only [changed] at made
        rw [Option.ite_none_left_eq_some] at made
        rw [firesOf_pairs] at changed
        refine ⟨since, ⟨armed, changed, rated, not_le.mp made.1⟩, ?_⟩
        rw [← Option.some.inj made.2]
        exact ⟨rfl, rfl⟩
    · rw [if_neg rated] at made
      cases made
  · rw [if_pos (by simpa using armed)] at made
    cases made

theorem overdue_row (overdue : Overdue series settings checkIntervalSeconds now since) :
    ∃ row, timerStaleRow numbers series series.ordered settings checkIntervalSeconds now =
      some row ∧ row.kind = .timerStale := by
  have changed : (firesOf series.ordered).getLast? = some since := by
    rw [firesOf_pairs]
    exact overdue.changed
  have rated :=
    (observedCadence_watched checkIntervalSeconds series.ordered).trans (if_pos overdue.rated)
  rw [firesOf] at changed rated
  rw [timerStaleRow, if_neg (by simp [overdue.armed])]
  simp only [changed, rated]
  exact ⟨_, if_neg (not_le.mpr overdue.late), rfl⟩

theorem timerRows_stale (member : row ∈ timerRows numbers series settings checkIntervalSeconds now)
    (stale : row.kind = .timerStale) :
    timerStaleRow numbers series series.ordered settings checkIntervalSeconds now = some row := by
  cases latest : (series.points.insertionSort fun left right =>
    left.checkedAt ≤ right.checkedAt).getLast? with
  | none =>
    rw [timerRows, latest] at member
    cases member
  | some point =>
    rw [timerRows, latest] at member
    rcases List.mem_append.mp member with failed | stalled
    · cases result : point.lastResult with
      | none =>
        rw [result] at failed
        cases failed
      | some result =>
        simp only [*] at failed
        split at failed
        · cases failed
        · rw [List.mem_singleton.mp failed] at stale
          cases stale
    · exact Option.mem_toList.mp stalled

theorem overdue_timerRows (overdue : Overdue series settings checkIntervalSeconds now since) :
    ∃ row ∈ timerRows numbers series settings checkIntervalSeconds now, row.kind = .timerStale := by
  obtain ⟨row, made, kind⟩ := overdue_row overdue
  obtain ⟨latest, found, _⟩ := (Option.any_eq_true _ _).mp overdue.armed
  have found : (series.points.insertionSort fun left right =>
      left.checkedAt ≤ right.checkedAt).getLast? = some latest :=
    found
  refine ⟨row, ?_, kind⟩
  rw [timerRows, found]
  exact List.mem_append_right _ (Option.mem_toList.mpr made)

/-- What the firings recorded, the cadence and the row of a stale timer say holds of the history. -/
structure TimersSound (history : TokenHistory Text) (numbers : NumberText) (series : TimerSeries)
    (settings : ServiceActionsConfig) (checkIntervalSeconds now : Int) : Prop where
  recorded : firesOf series.ordered = (firePairs series.ordered).map fun pair => pair.2.checkedAt
  real : ∀ pair ∈ firePairs series.ordered, history.FiredBetween pair.1.checkedAt pair.2.checkedAt
  cadence : ∀ cadence,
    observedCadence checkIntervalSeconds (firesOf series.ordered) series.ordered = some cadence →
    ∃ spans, spans.Sublist (adjacent (firesOf series.ordered)) ∧
      cadence = medianOf ((seconds spans).insertionSort (· ≤ ·)) ∧
      ∀ span ∈ spans, Watched checkIntervalSeconds series.ordered span
  stale : ∀ row ∈ timerRows numbers series settings checkIntervalSeconds now, row.kind = .timerStale →
    ∃ since, (firesOf series.ordered).getLast? = some since ∧
      row.title = staleTitle numbers series (now - since) ∧ ¬ history.FiredBetween since now

/-- The token is lost or found again only where the timer fired, and an overdue timer fired neither
after its last check nor, where that found no token, since the token was lost. -/
structure TokensTell (history : TokenHistory Text) (series : TimerSeries)
    (settings : ServiceActionsConfig) (checkIntervalSeconds now : Int) : Prop where
  lost : ∀ pair ∈ adjacent series.ordered, (pair.1.lastRun = none ↔ pair.2.lastRun ≠ none) →
    history.FiredBetween pair.1.checkedAt pair.2.checkedAt
  quiet : ∀ since latest, Overdue series settings checkIntervalSeconds now since →
    series.ordered.getLast? = some latest → ¬ history.FiredBetween latest.checkedAt now ∧
      (latest.lastRun = none → ¬ history.FiredBetween since latest.checkedAt)

theorem ordered_sorted (series : TimerSeries) :
    series.ordered.Pairwise fun earlier later => earlier.checkedAt ≤ later.checkedAt :=
  List.pairwise_insertionSort (fun left right : TimerPoint => left.checkedAt ≤ right.checkedAt)
    series.points

theorem mem_ordered {point : TimerPoint} : point ∈ series.ordered ↔ point ∈ series.points :=
  List.mem_insertionSort _

variable {history : TokenHistory Text}

theorem cadence_watched (checkIntervalSeconds : Int) (points : List TimerPoint) {cadence : ℚ}
    (observed : observedCadence checkIntervalSeconds (firesOf points) points = some cadence) :
    ∃ spans, spans.Sublist (adjacent (firesOf points)) ∧ cadence = medianOf
      ((seconds spans).insertionSort (· ≤ ·)) ∧
      ∀ span ∈ spans, Watched checkIntervalSeconds points span := by
  rw [observedCadence_watched, Option.ite_none_right_eq_some] at observed
  refine ⟨watchedSpans checkIntervalSeconds points, ?_, (Option.some.inj observed.2).symm, ?_⟩
  · rw [watchedSpans, changeTimes, ← firesOf_pairs]
    exact List.filter_sublist
  · intro span member
    exact of_decide_eq_true (List.mem_filter.mp member).2

theorem Sampled.token {points : List TimerPoint} (sampled : Sampled history points)
    {point : TimerPoint} {shown : Text} (member : point ∈ points)
    (carries : point.lastRun = some shown) : history.token point.checkedAt = some shown := by
  rcases sampled point member with gone | kept
  · rw [carries] at gone
    cases gone
  · exact kept.symm.trans carries

theorem real_of_lost (sampled : Sampled history series.ordered)
    (lost : ∀ pair ∈ adjacent series.ordered, (pair.1.lastRun = none ↔ pair.2.lastRun ≠ none) →
      history.FiredBetween pair.1.checkedAt pair.2.checkedAt)
    {pair : TimerPoint × TimerPoint} (member : pair ∈ firePairs series.ordered) :
    history.FiredBetween pair.1.checkedAt pair.2.checkedAt := by
  obtain ⟨neighbours, differ⟩ := List.mem_filter.mp member
  have differ : pair.2.lastRun ≠ pair.1.lastRun := of_decide_eq_true differ
  obtain ⟨early, late⟩ := adjacent_mem neighbours
  cases before : pair.1.lastRun with
  | none => exact lost pair neighbours ⟨fun _ gone => differ (gone.trans before.symm), fun _ => before⟩
  | some first =>
    cases after : pair.2.lastRun with
    | none =>
      refine lost pair neighbours ⟨fun gone => ?_, fun kept => absurd after kept⟩
      rw [before] at gone
      cases gone
    | some second =>
      rw [TokenHistory.firedBetween_iff (adjacent_rel (ordered_sorted series) neighbours)
        (sampled.token early before) (sampled.token late after)]
      intro same
      exact differ (by rw [before, after, same])

theorem change_noticed {latest : TimerPoint} (changed : (firesOf series.ordered).getLast? = some since)
    (ends : series.ordered.getLast? = some latest) : ∃ point ∈ series.ordered,
      point.checkedAt = since ∧ point.lastRun = latest.lastRun ∧ since ≤ latest.checkedAt := by
  have sorted := ordered_sorted series
  cases points : series.ordered with
  | nil =>
    rw [points] at ends
    cases ends
  | cons first rest =>
    rw [points] at changed ends sorted
    exact since_last_change sorted changed ends

theorem quiet_since_change (sampled : Sampled history series.ordered) {latest : TimerPoint}
    {shown : Text} (changed : (firesOf series.ordered).getLast? = some since)
    (ends : series.ordered.getLast? = some latest) (carries : latest.lastRun = some shown) :
    ¬ history.FiredBetween since latest.checkedAt := by
  obtain ⟨point, member, fired, same, early⟩ := change_noticed changed ends
  have start := sampled.token member (same.trans carries)
  rw [fired] at start
  rw [TokenHistory.firedBetween_iff early start (sampled.token (List.mem_of_getLast? ends) carries)]
  exact fun differ => differ rfl

/-- The firings, the cadence and the stale rows are true of the history if and only if the tokens
tell. -/
theorem timers_sound_iff (sampled : Sampled history series.points)
    (past : ∀ point ∈ series.points, point.checkedAt ≤ now) :
    TimersSound history numbers series settings checkIntervalSeconds now ↔
      TokensTell history series settings checkIntervalSeconds now := by
  have sampled : Sampled history series.ordered :=
    fun point member => sampled point (mem_ordered.mp member)
  have split : ∀ {since latest}, (firesOf series.ordered).getLast? = some since →
      series.ordered.getLast? = some latest → (history.FiredBetween since now ↔
        history.FiredBetween since latest.checkedAt ∨ history.FiredBetween latest.checkedAt now) := by
    intro since latest changed ends
    obtain ⟨_, _, _, _, early⟩ := change_noticed changed ends
    exact TokenHistory.firedBetween_split early
      (past latest (mem_ordered.mp (List.mem_of_getLast? ends)))
  constructor
  · intro sound
    refine ⟨fun pair neighbours lost => ?_, fun since latest overdue ends => ?_⟩
    · refine sound.real pair (List.mem_filter.mpr ⟨neighbours, decide_eq_true fun same => ?_⟩)
      rw [same] at lost
      exact absurd lost (by simp)
    · obtain ⟨row, member, kind⟩ := @overdue_timerRows numbers _ _ _ _ _ overdue
      obtain ⟨fired, changed, _, quiet⟩ := sound.stale row member kind
      have own : since = fired := by
        have last := overdue.changed
        rw [changeTimes, ← firesOf_pairs, changed] at last
        exact (Option.some.inj last).symm
      subst own
      rw [split changed ends, not_or] at quiet
      exact ⟨quiet.2, fun _ => quiet.1⟩
  · intro tell
    refine ⟨firesOf_pairs _, fun pair member => real_of_lost sampled tell.lost member,
      fun cadence observed => cadence_watched _ _ observed, fun row member kind => ?_⟩
    obtain ⟨since, overdue, _, title⟩ := timerStaleRow_overdue (timerRows_stale member kind)
    obtain ⟨latest, ends, _⟩ := (Option.any_eq_true _ _).mp overdue.armed
    have changed : (firesOf series.ordered).getLast? = some since := by
      rw [firesOf_pairs]
      exact overdue.changed
    obtain ⟨after, lost⟩ := tell.quiet since latest overdue ends
    refine ⟨since, changed, title, ?_⟩
    rw [split changed ends, not_or]
    refine ⟨?_, after⟩
    cases carries : latest.lastRun with
    | none => exact lost carries
    | some shown => exact quiet_since_change sampled changed ends carries

end

def nightly (points : List TimerPoint) : TimerSeries :=
  { service := text "backup", unit := text "backup.timer", points }

def armed (checkedAt : Int) (lastRun : Option Text) : TimerPoint :=
  { checkedAt, lastRun, lastResult := none, triggeredUnit := none, isActive := true }

def usual : ServiceActionsConfig :=
  { flapMinEpisodes := 3, timerStaleMultiplier := 3, timerLookbackDays := 14 }

theorem nightly_ordered {first second : TimerPoint} (sorted : first.checkedAt ≤ second.checkedAt) :
    (nightly [first, second]).ordered = [first, second] :=
  if_pos sorted

/-- It fires at midnight, and its token is the day; from the ninth day on it does not fire. -/
def abandoned : TokenHistory Text where
  fired instant := instant % day = 0 ∧ instant ≤ 8 * day
  token instant := some (intText (min (instant / day) 8))
  changes := by
    intro earlier later before after ordered first second
    cases first
    cases second
    rw [intText_injective.eq_iff]
    simp only [day]
    constructor
    · intro same instant above below fires
      omega
    · intro quiet
      by_contra differ
      exact quiet (min (later / 86400000000) 8 * 86400000000) (by omega) (by omega) (by omega)

/-- A check at noon. -/
def noon (date : Int) (lastRun : Option Text) : TimerPoint := armed (date * day + day / 2) lastRun

/-- The token is missing on the fourth day, and there are no checks on the two after the fifth. -/
def noonChecks : TimerSeries :=
  nightly [noon 0 (some (intText 0)), noon 1 (some (intText 1)), noon 2 (some (intText 2)),
    noon 3 (some (intText 3)), noon 4 none, noon 5 (some (intText 5)), noon 8 (some (intText 8)),
    noon 9 (some (intText 8)), noon 10 (some (intText 8)), noon 11 (some (intText 8)),
    noon 12 (some (intText 8))]

/-- The token is lost and found where the timer fired, and the row says since when it is quiet. -/
theorem noonChecks_sound :
    TimersSound abandoned ⟨fun _ => [], fun _ _ => []⟩ noonChecks usual 43200 (13 * day) ∧
      (timerRows ⟨fun _ => [], fun _ _ => []⟩ noonChecks usual 43200 (13 * day)).map
        ServiceRecommendationInfo.kind = [.timerStale] := by
  refine ⟨(timers_sound_iff ?_ (by decide)).mpr ⟨?_, ?_⟩, by decide +kernel⟩
  · have sampled : (noonChecks.points.all fun point =>
        point.lastRun = none || point.lastRun = abandoned.token point.checkedAt) = true := by decide
    simpa only [Sampled, List.all_eq_true, Bool.or_eq_true, decide_eq_true_eq] using sampled
  · have between : ((adjacent noonChecks.ordered).all fun pair =>
        !(pair.1.lastRun = none ↔ pair.2.lastRun ≠ none) ||
          pair.1.checkedAt / day < pair.2.checkedAt / day &&
            pair.2.checkedAt / day ≤ 8) = true := by decide +kernel
    intro pair neighbours lost
    have later := List.all_eq_true.mp between pair neighbours
    simp only [decide_eq_true lost, Bool.not_true, Bool.false_or, Bool.and_eq_true,
      decide_eq_true_eq] at later
    refine ⟨pair.2.checkedAt / day * day, ?_, ?_, ?_, ?_⟩ <;>
      simp only [day] at later ⊢ <;> omega
  · have ending : noonChecks.ordered.getLast?.all (fun latest =>
        latest.lastRun.isSome && latest.checkedAt = 12 * day + day / 2) = true := by decide +kernel
    intro since latest _ ends
    rw [ends, Option.all_some, Bool.and_eq_true, decide_eq_true_eq] at ending
    refine ⟨?_, fun lost => by simp [lost] at ending⟩
    intro fires
    obtain ⟨instant, above, _, fired⟩ := fires
    rw [ending.2] at above
    simp only [abandoned, day] at above fired
    omega

def never : TokenHistory Text where
  fired _ := False
  token _ := some (text "Mon 03:00")
  changes := by
    intro earlier later before after _ first second
    rw [← Option.some.inj first, ← Option.some.inj second]
    exact ⟨fun _ _ _ _ fires => fires, fun _ => rfl⟩

/-- A token that systemd no longer reports is recorded as a firing. -/
theorem forgotten_token_recorded :
    ¬ ∀ (history : TokenHistory Text) (numbers : NumberText) (series : TimerSeries)
    (settings : ServiceActionsConfig) (checkIntervalSeconds now : Int),
      Sampled history series.points → (∀ point ∈ series.points, point.checkedAt ≤ now) →
        TimersSound history numbers series settings checkIntervalSeconds now := by
  intro claimed
  have sound := claimed never ⟨fun _ => [], fun _ _ => []⟩
    (nightly [armed 0 (some (text "Mon 03:00")), armed 60000000 none]) usual 60 60000000
      (by
        intro point member
        simp only [nightly, List.mem_cons, List.not_mem_nil, or_false] at member
        rcases member with own | own
        · rw [own]
          exact Or.inr rfl
        · rw [own]
          exact Or.inl rfl) (by decide)
  have recorded : firePairs (nightly [armed 0 (some (text "Mon 03:00")),
      armed 60000000 none]).ordered =
      [(armed 0 (some (text "Mon 03:00")), armed 60000000 none)] := by
    rw [nightly_ordered (by decide)]
    rfl
  obtain ⟨_, _, _, fires⟩ := sound.real _ (by rw [recorded]; exact List.mem_singleton_self _)
  exact fires

end SysadminAssistant.Monitor.Reliability
