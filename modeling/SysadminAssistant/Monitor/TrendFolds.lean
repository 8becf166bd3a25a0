import SysadminAssistant.Monitor.LogTrends
import SysadminAssistant.Python.GroupedFolds

namespace SysadminAssistant.Monitor

open Python

/-! What the fold of the message groups keeps of them: their sums, their first and their last line. -/

def SignatureTrend.key (trend : SignatureTrend) : TrendKey :=
  (trend.source, trend.severity, trend.signature)

/-- A trend that says of some groups what they amount to. -/
structure Summarises (groups : List MessageGroup) (windowStart : Int) (trend : SignatureTrend) :
    Prop where
  current : trend.current = (groups.map MessageGroup.current).sum
  previous : trend.previous = (groups.map MessageGroup.previous).sum
  total : trend.total = (groups.map MessageGroup.total).sum
  firstSeen : IsLeast {instant | ∃ group ∈ groups, group.firstSeen = instant} trend.firstSeen
  lastSeen : IsGreatest {instant | ∃ group ∈ groups, group.lastSeen = instant} trend.lastSeen
  sample : ∃ group ∈ groups, group.lastSeen = trend.lastSeen ∧ group.message = trend.sample
  new : trend.change = .new ↔ windowStart ≤ trend.firstSeen

/-- The lines that a source wrote at these rungs in the window. -/
def currentAt (groups : List MessageGroup) (source : Text) (rungs : List LogSeverity) : Nat :=
  ((groups.filter fun group => group.source = source && group.severity ∈ rungs).map
    MessageGroup.current).sum

/-- A report that has one trend for each signature and one for each source, the new ones first. -/
structure ReportsGroups (database : CharDatabase) (groups : List MessageGroup)
    (report : LogTrendReport) : Prop where
  signature : ∀ group ∈ groups, ∃ trend,
    report.signatures.filter (fun listed => listed.key = group.key database) = [trend] ∧
      Summarises (groups.filter fun other => other.key database = group.key database)
        report.windowStart trend
  signatures : ∀ trend ∈ report.signatures, ∃ group ∈ groups, group.key database = trend.key
  source : ∀ group ∈ groups, ∃ total,
    report.sources.filter (fun listed => listed.source = group.source) = [total] ∧
      total.currentErrors = currentAt groups group.source [.error, .critical] ∧
      total.currentWarnings = currentAt groups group.source [.warning]
  sources : ∀ total ∈ report.sources, ∃ group ∈ groups, group.source = total.source
  newFirst : report.signatures.Pairwise fun earlier later => later.change = .new →
    earlier.change = .new

/-! ## The groups of one signature -/

/-- A group alone, or beside what came before it. -/
def merge (known : Option Accumulated) (group : MessageGroup) : Accumulated :=
  match known with
  | none => ⟨group.current, group.previous, group.total, group.firstSeen, group.lastSeen,
      group.message⟩
  | some known =>
    { current := known.current + group.current
      previous := known.previous + group.previous
      total := known.total + group.total
      firstSeen := min known.firstSeen group.firstSeen
      lastSeen := if group.lastSeen > known.lastSeen then group.lastSeen else known.lastSeen
      sample := if group.lastSeen > known.lastSeen then group.message else known.sample }

structure Amounts (groups : List MessageGroup) (known : Accumulated) : Prop where
  current : known.current = (groups.map MessageGroup.current).sum
  previous : known.previous = (groups.map MessageGroup.previous).sum
  total : known.total = (groups.map MessageGroup.total).sum
  firstSeen : IsLeast {instant | ∃ group ∈ groups, group.firstSeen = instant} known.firstSeen
  lastSeen : IsGreatest {instant | ∃ group ∈ groups, group.lastSeen = instant} known.lastSeen
  sample : ∃ group ∈ groups, group.lastSeen = known.lastSeen ∧ group.message = known.sample

section

variable {database : CharDatabase} {windowStart : Int}

theorem accumulate_eq : accumulate database = Dict.joinAt (MessageGroup.key database) merge := by
  funext acc group
  unfold accumulate Dict.joinAt merge
  cases acc.get? (group.key database) <;> rfl

theorem amounts_single (group : MessageGroup) : Amounts [group] (merge none group) := by
  refine
    ⟨by simp [merge], by simp [merge], by simp [merge], ?_, ?_, ⟨group, List.mem_cons_self, rfl, rfl⟩⟩
  · simp [merge, IsLeast, lowerBounds]
  · simp [merge, IsGreatest, upperBounds]

theorem Amounts.snoc {groups : List MessageGroup} {known : Accumulated}
    (amounts : Amounts groups known) (group : MessageGroup) :
    Amounts (groups ++ [group]) (merge (some known) group) := by
  obtain ⟨⟨earliest, early, first⟩, below⟩ := amounts.firstSeen
  obtain ⟨_, above⟩ := amounts.lastSeen
  obtain ⟨newest, inside, last, message⟩ := amounts.sample
  have same : ∀ {instant : Int} {read : MessageGroup → Int},
      (∃ other ∈ groups ++ [group], read other = instant) ↔
        (∃ other ∈ groups, read other = instant) ∨ read group = instant := by
    intro instant read
    simp only [List.mem_append, List.mem_singleton, or_and_right, exists_or, exists_eq_left]
  refine
    ⟨by simp [merge, amounts.current], by simp [merge, amounts.previous], by simp [merge, amounts.total], ⟨?_, ?_⟩,
    ⟨?_, ?_⟩, ?_⟩
  · rw [Set.mem_ofPred_eq, same]
    rcases min_choice known.firstSeen group.firstSeen with older | newer
    · exact Or.inl ⟨earliest, early, by simp only [merge, older, first]⟩
    · exact Or.inr (by simp only [merge, newer])
  · intro instant seen
    rcases same.mp seen with before | here
    · exact (min_le_left _ _).trans (below before)
    · exact here ▸ min_le_right _ _
  · rw [Set.mem_ofPred_eq, same]
    by_cases later : group.lastSeen > known.lastSeen
    · exact Or.inr (by simp only [merge, if_pos later])
    · exact Or.inl ⟨newest, inside, by simp only [merge, if_neg later, last]⟩
  · intro instant seen
    rcases same.mp seen with before | here
    · have old := above before
      simp only [merge]
      split <;> omega
    · simp only [merge]
      split <;> omega
  · by_cases later : group.lastSeen > known.lastSeen
    · exact ⟨group, by simp, by simp only [merge, if_pos later, and_self]⟩
    · exact ⟨newest, List.mem_append_left _ inside,
        by simp only [merge, if_neg later, last, message, and_self]⟩

theorem amounts_foldl {groups : List MessageGroup} {known : Accumulated}
    (amounts : Amounts groups known) (rest : List MessageGroup) : ∃ folded,
      rest.foldl (fun old group => some (merge old group)) (some known) = some folded ∧
        Amounts (groups ++ rest) folded := by
  induction rest generalizing groups known with
  | nil => exact ⟨known, rfl, by rwa [List.append_nil]⟩
  | cons group rest ih =>
    obtain ⟨folded, ran, all⟩ := ih (amounts.snoc group)
    exact ⟨folded, ran, by rwa [List.append_assoc] at all⟩

theorem accumulated_amounts {groups : List MessageGroup} {group : MessageGroup}
    (member : group ∈ groups) :
    ∃ known, (groups.foldl (accumulate database) Dict.empty).get? (group.key database) = some known ∧
      Amounts (groups.filter fun other => other.key database = group.key database) known := by
  rw [accumulate_eq, Dict.get?_foldl_joinAt]
  have own : group ∈ groups.filter fun other => other.key database = group.key database :=
    List.mem_filter.mpr ⟨member, by simp⟩
  cases shape : groups.filter fun other => other.key database = group.key database with
  | nil =>
    rw [shape] at own
    cases own
  | cons first rest => exact amounts_foldl (amounts_single first) rest

theorem classify_new {current previous : Nat} {firstSeen : Int} :
    (classify current previous firstSeen windowStart).1 = .new ↔ windowStart ≤ firstSeen := by
  by_cases first : firstSeen ≥ windowStart
  · exact iff_of_true (by rw [classify, if_pos first]) first
  · refine iff_of_false ?_ first
    rw [classify, if_neg first]
    split
    · nofun
    · split
      · nofun
      · split
        · nofun
        · dsimp only
          split
          · nofun
          · split
            · nofun
            · split <;> nofun

theorem Amounts.summarises {groups : List MessageGroup} {known : Accumulated}
    (amounts : Amounts groups known) (tools : TitleTools) (key : TrendKey) :
    Summarises groups windowStart (trendOf database tools windowStart key known) :=
  ⟨amounts.current, amounts.previous, amounts.total, amounts.firstSeen, amounts.lastSeen,
    amounts.sample, classify_new⟩

/-! ## The groups of one source -/

def addTo (old : Option SourceTotals) (group : MessageGroup) : SourceTotals :=
  let bucket := old.getD ⟨0, 0, 0, 0⟩
  match group.severity with
  | .error | .critical =>
    { bucket with
      currentErrors := bucket.currentErrors + group.current
      previousErrors := bucket.previousErrors + group.previous }
  | .warning =>
    { bucket with
      currentWarnings := bucket.currentWarnings + group.current
      previousWarnings := bucket.previousWarnings + group.previous }
  | .debug | .info => bucket

theorem addGroup_eq : addGroup = Dict.joinAt MessageGroup.source addTo := by
  funext totals group
  rfl

theorem addTo_foldl (groups : List MessageGroup) (old : Option SourceTotals) :
    ((groups.foldl (fun old group => some (addTo old group)) old).getD ⟨0, 0, 0, 0⟩).currentErrors =
        (old.getD ⟨0, 0, 0, 0⟩).currentErrors +
          ((groups.filter fun group => group.severity ∈ [LogSeverity.error, .critical]).map
            MessageGroup.current).sum ∧
      ((groups.foldl (fun old group => some (addTo old group)) old).getD
        ⟨0, 0, 0, 0⟩).currentWarnings = (old.getD ⟨0, 0, 0, 0⟩).currentWarnings +
          ((groups.filter fun group => group.severity ∈ [LogSeverity.warning]).map
            MessageGroup.current).sum := by
  induction groups generalizing old with
  | nil => exact ⟨rfl, rfl⟩
  | cons group rest ih =>
    obtain ⟨errors, warnings⟩ := ih (some (addTo old group))
    rw [List.foldl_cons, errors, warnings, Option.getD_some]
    cases rung : group.severity <;> simp [addTo, rung, Nat.add_assoc]

theorem currentAt_eq (groups : List MessageGroup) (source : Text) (rungs : List LogSeverity) :
    currentAt groups source rungs =
      (((groups.filter fun group => group.source = source).filter fun group =>
      group.severity ∈ rungs).map MessageGroup.current).sum := by
  rw [currentAt, List.filter_filter]
  simp only [Bool.and_comm]

theorem accumulated_totals {groups : List MessageGroup} {group : MessageGroup}
    (member : group ∈ groups) :
    ∃ totals, (groups.foldl addGroup Dict.empty).get? group.source = some totals ∧
      totals.currentErrors = currentAt groups group.source [.error, .critical] ∧
      totals.currentWarnings = currentAt groups group.source [.warning] := by
  rw [addGroup_eq, Dict.get?_foldl_joinAt, currentAt_eq, currentAt_eq]
  have own : group ∈ groups.filter fun other => other.source = group.source :=
    List.mem_filter.mpr ⟨member, by simp⟩
  cases shape : groups.filter fun other => other.source = group.source with
  | nil =>
    rw [shape] at own
    cases own
  | cons first rest =>
    obtain ⟨errors, warnings⟩ := addTo_foldl (first :: rest) none
    cases ran : (first :: rest).foldl (fun old group => some (addTo old group)) none with
    | none =>
      have kept : ∀ (later : List MessageGroup) (totals : SourceTotals),
          later.foldl (fun old group => some (addTo old group)) (some totals) ≠ none := by
        intro later
        induction later with
        | nil => exact fun _ => nofun
        | cons next later ih => exact fun totals => ih (addTo (some totals) next)
      exact absurd ran (kept rest (addTo none first))
    | some totals =>
      rw [ran] at errors warnings
      exact ⟨totals,
        by rw [Dict.get?_empty]; exact ran, by simpa using errors, by simpa using warnings⟩

end

/-! ## The report -/

theorem trendOrder_new {earlier later : SignatureTrend}
    (ordered : trendOrder earlier ≤ trendOrder later) (new : later.change = .new) :
    earlier.change = .new := by
  by_contra other
  rcases Prod.Lex.le_iff.mp ordered with less | ⟨same, _⟩
  · simp only [trendOrder, new, ofLex_toLex, ne_eq, not_true_eq_false, other, not_false_eq_true,
      decide_true, decide_false] at less
    exact absurd less (by decide)
  · simp [trendOrder, new, other] at same

theorem signatureTrends_perm (database : CharDatabase) (tools : TitleTools) (windowStart : Int)
    (groups : List MessageGroup) : (signatureTrends database tools windowStart groups).Perm
      ((groups.foldl (accumulate database) Dict.empty).entries.map fun entry =>
        trendOf database tools windowStart entry.1 entry.2) := List.perm_insertionSort _ _

/-- The row of one source. -/
def sourceTrendOf (trends : List SignatureTrend) (source : Text) (totals : SourceTotals) :
    SourceTrend :=
  let ours := trends.filter fun trend => trend.source = source
  { source
    currentErrors := totals.currentErrors
    previousErrors := totals.previousErrors
    currentWarnings := totals.currentWarnings
    previousWarnings := totals.previousWarnings
    signatures := ours.length
    newSignatures := (ours.filter fun trend => trend.change = .new).length }

theorem sourceTrends_perm (groups : List MessageGroup) (trends : List SignatureTrend) :
    (sourceTrends groups trends).Perm
      ((groups.foldl addGroup Dict.empty).entries.map fun entry =>
        sourceTrendOf trends entry.1 entry.2) :=
  List.perm_insertionSort _ _

/-- Each signature and each source has one trend, with the sums and the ends of its groups, and what
is new comes first. -/
theorem buildReport_reportsGroups (database : CharDatabase) (tools : TitleTools)
    (window : TrendWindow) (groups : List MessageGroup) :
    ReportsGroups database groups (buildReport database tools window groups) where
  signature := by
    intro group member
    obtain ⟨known, found, amounts⟩ := @accumulated_amounts database groups group member
    exact ⟨_, Dict.rows_filter (fun _ _ => rfl)
      (signatureTrends_perm database tools window.windowStart groups) found,
        amounts.summarises tools _⟩
  signatures := by
    intro trend listed
    obtain ⟨key, known, found, rfl⟩ := mem_signatureTrends.mp listed
    rw [accumulate_eq] at found
    exact Dict.exists_of_get?_foldl_joinAt found
  source := by
    intro group member
    obtain ⟨totals, found, errors, warnings⟩ := accumulated_totals member
    exact ⟨_, Dict.rows_filter (fun _ _ => rfl) (sourceTrends_perm groups
      (signatureTrends database tools window.windowStart groups)) found, errors, warnings⟩
  sources := by
    intro total listed
    obtain ⟨entry, inside, rfl⟩ := List.mem_map.mp ((sourceTrends_perm groups
      (signatureTrends database tools window.windowStart groups)).mem_iff.mp listed)
    have found := Dict.get?_eq_some.mpr inside
    rw [addGroup_eq] at found
    exact Dict.exists_of_get?_foldl_joinAt found
  newFirst := by
    have sorted := List.pairwise_insertionSort (fun left right : SignatureTrend =>
        trendOrder left ≤ trendOrder right)
      ((groups.foldl (accumulate database) Dict.empty).entries.map fun entry =>
        trendOf database tools window.windowStart entry.1 entry.2)
    exact sorted.imp fun ordered => trendOrder_new ordered

end SysadminAssistant.Monitor
