import Mathlib.Algebra.Order.BigOperators.Group.List
import Mathlib.Data.List.MinMax
import Mathlib.Data.List.Perm.Subperm
import SysadminAssistant.Library.FirstRows
import SysadminAssistant.Monitor.LogQuery
import SysadminAssistant.Monitor.TrendFolds

namespace SysadminAssistant.Monitor.LogQuery

open Python Library

/-! What a cap on the grouped query leaves of the trends. -/

def shapes (present : List LogLine) : List GroupKey :=
  (present.map fun line => shapeOf line.groupKey).dedup

/-- No shape covers two signatures. -/
def Separate (database : CharDatabase) (present : List LogLine) : Prop :=
  ∀ line ∈ present, ∀ other ∈ present, shapeOf line.groupKey = shapeOf other.groupKey →
    line.trendKey database = other.trendKey database

/-- How many lines of a signature there are, in the period that `p` picks. -/
def linesOf (database : CharDatabase) (present : List LogLine) (key : TrendKey)
    (p : Int → Bool) : Nat :=
  present.countP fun line => decide (line.trendKey database = key) && p line.loggedAt

def inCurrent (window : TrendWindow) (instant : Int) : Bool := window.windowStart ≤ instant

def inPrevious (window : TrendWindow) (instant : Int) : Bool :=
  window.previousStart ≤ instant ∧ instant < window.windowStart

/-- What the trends of a table say of the lines `present`. -/
structure TrendsOf (database : CharDatabase) (tools : TitleTools) (window : TrendWindow)
    (lines : List LogLine) (cap : Nat) (present : List LogLine) : Prop where
  served : ∀ line ∈ present, ∃ trend, (trendReport database tools window lines cap).signatures.filter
    (fun trend => trend.key = line.trendKey database) = [trend]
  isPresent : ∀ trend ∈ (trendReport database tools window lines cap).signatures, ∃ line ∈ present,
    line.trendKey database = trend.key
  new : ∀ trend ∈ (trendReport database tools window lines cap).signatures, trend.change = .new ↔
    ∀ line ∈ present, line.trendKey database = trend.key → window.windowStart ≤ line.loggedAt
  bounded : ∀ trend ∈ (trendReport database tools window lines cap).signatures,
    trend.current ≤ linesOf database present trend.key (inCurrent window) ∧
      trend.previous ≤ linesOf database present trend.key (inPrevious window) ∧
      trend.total ≤ linesOf database present trend.key fun _ => true
  exact : (trendReport database tools window lines cap).truncated = false →
    ∀ trend ∈ (trendReport database tools window lines cap).signatures,
      trend.current = linesOf database present trend.key (inCurrent window) ∧
        trend.previous = linesOf database present trend.key (inPrevious window) ∧
        trend.total = linesOf database present trend.key fun _ => true
  truncated : (trendReport database tools window lines cap).truncated = true ↔ ∃ line ∈ present,
    ∀ group ∈ (trendGroups window.windowStart window.previousStart lines cap).1,
      groupKeyOf group ≠ line.groupKey
  unordered : ∀ other, lines.Perm other →
    trendGroups window.windowStart window.previousStart other cap =
      trendGroups window.windowStart window.previousStart lines cap

/-! ## The groups -/

section

variable {windowStart previousStart : Int} {lines : List LogLine} {group : MessageGroup}

theorem mem_messageGroups : group ∈ messageGroups windowStart previousStart lines ↔
    ∃ line ∈ lines, messageGroup windowStart previousStart lines line.groupKey = group := by
  simp [messageGroups]

theorem messageGroups_keys (windowStart previousStart : Int) (lines : List LogLine) :
    (messageGroups windowStart previousStart lines).map groupKeyOf =
      (lines.map LogLine.groupKey).dedup := by
  rw [messageGroups, List.map_map]
  exact List.map_id _

theorem messageGroups_nodup : (messageGroups windowStart previousStart lines).Nodup := by
  refine List.Nodup.of_map groupKeyOf ?_
  rw [messageGroups_keys]
  exact List.nodup_dedup _

theorem messageGroups_injective {other : MessageGroup}
    (member : group ∈ messageGroups windowStart previousStart lines)
    (inside : other ∈ messageGroups windowStart previousStart lines)
    (same : groupKeyOf group = groupKeyOf other) :
    group = other := by
  refine List.inj_on_of_nodup_map ?_ member inside same
  rw [messageGroups_keys]
  exact List.nodup_dedup _

theorem firstSeen_isLeast {line : LogLine} (member : line ∈ lines) :
    IsLeast {instant | ∃ other ∈ lines, other.groupKey = line.groupKey ∧ other.loggedAt = instant}
      (messageGroup windowStart previousStart lines line.groupKey).firstSeen := by
  have listed : line.loggedAt ∈ (lines.filter fun other => other.groupKey = line.groupKey).map
      LogLine.loggedAt :=
    List.mem_map_of_mem (List.mem_filter.mpr ⟨member, by simp⟩)
  simp only [messageGroup]
  cases found : ((lines.filter fun other => other.groupKey = line.groupKey).map
    LogLine.loggedAt).min? with
  | none =>
    rw [List.min?_eq_none_iff.mp found] at listed
    cases listed
  | some least =>
    obtain ⟨inside, below⟩ := List.min?_eq_some_iff.mp found
    constructor
    · obtain ⟨other, kept, same⟩ := List.mem_map.mp inside
      obtain ⟨there, named⟩ := List.mem_filter.mp kept
      exact ⟨other, there, of_decide_eq_true named, same⟩
    · intro instant seen
      obtain ⟨other, there, named, rfl⟩ := seen
      exact below _ (List.mem_map_of_mem (List.mem_filter.mpr ⟨there, decide_eq_true named⟩))

/-! ## The oldest group of each shape -/

/-- Where a group stands among those of its shape. -/
def seniority (group : MessageGroup) : Int ×ₗ Text := toLex (group.firstSeen, group.message)

theorem shapeRank_first {groups : List MessageGroup} : ¬ shapeRank groups group > 1 ↔
    ∀ other ∈ groups, shapeOf (groupKeyOf other) = shapeOf (groupKeyOf group) →
      seniority group ≤ seniority other := by
  simp [shapeRank, seniority]

theorem exists_first {groups : List MessageGroup} (member : group ∈ groups) : ∃ first ∈ groups,
    ¬ shapeRank groups first > 1 ∧ shapeOf (groupKeyOf first) = shapeOf (groupKeyOf group) ∧
      first.firstSeen ≤ group.firstSeen := by
  have own : group ∈ groups.filter fun other =>
      shapeOf (groupKeyOf other) = shapeOf (groupKeyOf group) :=
    List.mem_filter.mpr ⟨member, by simp⟩
  cases found : (groups.filter fun other => shapeOf (groupKeyOf other) = shapeOf
    (groupKeyOf group)).argmin seniority with
  | none =>
    rw [List.argmin_eq_none.mp found] at own
    cases own
  | some first =>
    obtain ⟨inside, shape⟩ := List.mem_filter.mp (List.argmin_mem found)
    have alike := of_decide_eq_true shape
    refine ⟨first, inside, shapeRank_first.mpr ?_, alike, ?_⟩
    · intro other there same
      exact List.le_of_mem_argmin (List.mem_filter.mpr ⟨there,
        decide_eq_true (same.trans alike)⟩) found
    · rcases Prod.Lex.le_iff.mp (List.le_of_mem_argmin own found) with less | ⟨same, _⟩
      · exact less.le
      · exact same.le

theorem firsts_length (windowStart previousStart : Int) (lines : List LogLine) :
    (messageGroups windowStart previousStart lines).countP (fun group =>
      ¬ shapeRank (messageGroups windowStart previousStart lines) group > 1) ≤
        (shapes lines).length := by
  rw [List.countP_eq_length_filter, ← List.length_map fun group => shapeOf (groupKeyOf group)]
  refine (List.Nodup.subperm ?_ ?_).length_le
  · refine List.Nodup.map_on ?_ (messageGroups_nodup.filter _)
    intro left leftMember right rightMember shape
    obtain ⟨leftInside, leftFirst⟩ := List.mem_filter.mp leftMember
    obtain ⟨rightInside, rightFirst⟩ := List.mem_filter.mp rightMember
    have ahead := shapeRank_first.mp (of_decide_eq_true leftFirst) right rightInside shape.symm
    have behind := shapeRank_first.mp (of_decide_eq_true rightFirst) left leftInside shape
    have same := toLex.injective (le_antisymm ahead behind)
    refine messageGroups_injective leftInside rightInside ?_
    simp only [shapeOf, groupKeyOf, Prod.mk.injEq] at shape
    simp only [groupKeyOf, Prod.mk.injEq]
    exact ⟨shape.1, shape.2.1, (Prod.mk.inj same).2⟩
  · intro shape listed
    obtain ⟨group, member, rfl⟩ := List.mem_map.mp listed
    obtain ⟨line, inside, rfl⟩ := mem_messageGroups.mp (List.mem_of_mem_filter member)
    exact List.mem_dedup.mpr (List.mem_map_of_mem inside)

/-! ## What is served -/

/-- The stated order as an arrangement: the oldest groups of their shapes are ahead. -/
def firstsAhead (groups : List MessageGroup) :
    NewestFirst (fun group : MessageGroup => if shapeRank groups group > 1 then 0 else 1) where
  arrange rows := rows.insertionSort fun left right => groupOrder groups left ≤ groupOrder groups right
  perm rows := List.perm_insertionSort _ rows
  falling rows := by
    have sorted :=
      List.pairwise_insertionSort (fun left right =>
        groupOrder groups left ≤ groupOrder groups right) rows
    refine sorted.imp fun {left right} ordered => ?_
    by_cases ahead : shapeRank groups left > 1
    · by_cases behind : shapeRank groups right > 1
      · rw [if_pos ahead, if_pos behind]
      · rcases Prod.Lex.le_iff.mp ordered with less | ⟨same, _⟩
        · simp only [groupOrder, ofLex_toLex, ahead, behind, decide_true, decide_false] at less
          exact absurd less (by decide)
        · simp [groupOrder, ahead, behind] at same
    · rw [if_neg ahead]
      split <;> decide

def ordered (windowStart previousStart : Int) (lines : List LogLine) : List MessageGroup :=
  (firstsAhead (messageGroups windowStart previousStart lines)).arrange
    (messageGroups windowStart previousStart lines)

theorem ordered_perm :
    (ordered windowStart previousStart lines).Perm
    (messageGroups windowStart previousStart lines) :=
  (firstsAhead _).perm _

theorem trendGroups_eq (cap : Nat) : trendGroups windowStart previousStart lines cap =
    ((ordered windowStart previousStart (covered lines)).take cap,
      decide (cap < (messageGroups windowStart previousStart (covered lines)).length)) := by
  have whole : (ordered windowStart previousStart (covered lines)).length =
      (messageGroups windowStart previousStart (covered lines)).length := ordered_perm.length_eq
  simp only [trendGroups]
  change ((List.take (cap + 1) (ordered windowStart previousStart (covered lines))).take cap, _) = _
  rw [List.take_take, min_eq_left (Nat.le_succ cap), Prod.mk.injEq]
  refine ⟨rfl, ?_⟩
  change decide ((List.take (cap + 1) (ordered windowStart previousStart (covered lines))).length >
    cap) = _
  rw [List.length_take, whole, decide_eq_decide]
  omega

theorem first_served {cap : Nat} (room : (shapes lines).length ≤ cap)
    (member : group ∈ messageGroups windowStart previousStart lines)
    (first : ¬ shapeRank (messageGroups windowStart previousStart lines) group > 1) :
    group ∈ (ordered windowStart previousStart lines).take cap := by
  refine NewestFirst.mem_page _ messageGroups_nodup member
    (le_trans (le_of_eq ?_) ((firsts_length windowStart previousStart lines).trans room))
  refine List.countP_congr fun other _ => ?_
  rw [if_neg first]
  by_cases behind : shapeRank (messageGroups windowStart previousStart lines) other > 1
  · simp [behind]
  · simp [behind]

theorem line_served {database : CharDatabase} {cap : Nat} (separate : Separate database lines)
    (room : (shapes lines).length ≤ cap) {line : LogLine} (member : line ∈ lines) :
    ∃ first ∈ (ordered windowStart previousStart lines).take cap,
      first.key database = line.trendKey database ∧ first.firstSeen ≤ line.loggedAt := by
  have inside : messageGroup windowStart previousStart lines line.groupKey ∈
      messageGroups windowStart previousStart lines :=
    mem_messageGroups.mpr ⟨line, member, rfl⟩
  obtain ⟨first, listed, rank, shape, older⟩ := exists_first inside
  refine ⟨first, first_served room listed rank, ?_,
    older.trans ((firstSeen_isLeast member).2 ⟨line, member, rfl, rfl⟩)⟩
  obtain ⟨other, there, rfl⟩ := mem_messageGroups.mp listed
  exact separate other there line member shape

theorem served_line {database : CharDatabase} {cap : Nat}
    (served : group ∈ (ordered windowStart previousStart lines).take cap) :
    ∃ line ∈ lines, line.trendKey database = group.key database ∧ line.loggedAt = group.firstSeen := by
  obtain ⟨line, member, rfl⟩ :=
    mem_messageGroups.mp (ordered_perm.mem_iff.mp (List.mem_of_mem_take served))
  obtain ⟨other, there, named, first⟩ := (@firstSeen_isLeast windowStart previousStart _ _ member).1
  refine ⟨other, there, ?_, first⟩
  change (other.source, other.severity, signature database other.message) = _
  have key : (other.source, other.severity, other.message) = line.groupKey := named
  rw [← key]
  rfl

/-! ## What the groups count -/

theorem messageGroup_counts (key : GroupKey) :
    (messageGroup windowStart previousStart lines key).current =
        lines.countP
          (fun line => decide (line.groupKey = key) && decide (windowStart ≤ line.loggedAt)) ∧
      (messageGroup windowStart previousStart lines key).previous =
        lines.countP (fun line => decide (line.groupKey = key) &&
          decide (previousStart ≤ line.loggedAt ∧ line.loggedAt < windowStart)) ∧
      (messageGroup windowStart previousStart lines key).total =
        lines.countP fun line => decide (line.groupKey = key) && true := by
  simp only [messageGroup, List.countP_map, List.countP_filter, List.length_map, Bool.and_true]
  refine ⟨?_, ?_, List.countP_eq_length_filter.symm⟩
  · exact List.countP_congr fun line _ => by rw [Bool.and_comm]; rfl
  · exact List.countP_congr fun line _ => by rw [Bool.and_comm]; rfl

theorem sum_counts {database : CharDatabase} {read : MessageGroup → Nat} {p : LogLine → Bool}
    (counts : ∀ key, read (messageGroup windowStart previousStart lines key) =
      lines.countP fun line => decide (line.groupKey = key) && p line) (key : TrendKey) :
    (((messageGroups windowStart previousStart lines).filter fun group =>
      group.key database = key).map read).sum =
      lines.countP fun line => decide (line.trendKey database = key) && p line := by
  have keyed : ∀ wanted : GroupKey,
      (messageGroup windowStart previousStart lines wanted).key database =
      (wanted.1, wanted.2.1, signature database wanted.2.2) := fun _ => rfl
  rw [messageGroups, List.filter_map, List.map_map]
  have distinct := (List.nodup_dedup (lines.map LogLine.groupKey)).filter
    ((fun group => decide (group.key database = key)) ∘ messageGroup windowStart previousStart lines)
  have counted : ∀ wanted : GroupKey, (read ∘ messageGroup windowStart previousStart lines) wanted =
      lines.countP fun line => decide (line.groupKey = wanted) && p line := counts
  rw [List.map_congr_left fun wanted _ => counted wanted, sum_countP_keys LogLine.groupKey p distinct]
  refine List.countP_congr fun line member => ?_
  have listed : line.groupKey ∈ lines.map LogLine.groupKey := List.mem_map_of_mem member
  simp only [List.mem_filter, List.mem_dedup, listed, true_and, Function.comp_apply, keyed,
    Bool.and_eq_true, decide_eq_true_eq]
  rfl

theorem take_sum_le {groups : List MessageGroup} {read : MessageGroup → Nat}
    {p : MessageGroup → Bool} (cap : Nat) :
    (((groups.take cap).filter p).map read).sum ≤ ((groups.filter p).map read).sum :=
  List.Sublist.sum_le_sum (((List.take_sublist cap groups).filter p).map read) fun _ _ => Nat.zero_le _

theorem ordered_sum (read : MessageGroup → Nat) (p : MessageGroup → Bool) :
    (((ordered windowStart previousStart lines).filter p).map read).sum =
      (((messageGroups windowStart previousStart lines).filter p).map read).sum :=
  ((ordered_perm.filter p).map read).sum_eq

/-! ## Whatever order the rows are visited in -/

theorem messageGroup_perm {other : List LogLine} (perm : lines.Perm other) :
    messageGroup windowStart previousStart other = messageGroup windowStart previousStart lines := by
  funext key
  have instants : ((other.filter fun line => line.groupKey = key).map LogLine.loggedAt).Perm
      ((lines.filter fun line => line.groupKey = key).map LogLine.loggedAt) :=
        ((perm.filter _).map _).symm
  have least : ∀ left right : List Int, left.Perm right → left.min? = right.min? := by
    intro left right same
    refine Option.ext fun instant => ?_
    simp only [List.min?_eq_some_iff, same.mem_iff]
  have greatest : ∀ left right : List Int, left.Perm right → left.max? = right.max? := by
    intro left right same
    refine Option.ext fun instant => ?_
    simp only [List.max?_eq_some_iff, same.mem_iff]
  simp only [messageGroup, instants.countP_eq, instants.length_eq, least _ _ instants,
    greatest _ _ instants]

theorem messageGroups_perm {other : List LogLine} (perm : lines.Perm other) :
    (messageGroups windowStart previousStart other).Perm
      (messageGroups windowStart previousStart lines) := by
  rw [messageGroups, messageGroup_perm perm]
  exact ((perm.symm.map _).dedup).map _

theorem groupOrder_perm {left right : List MessageGroup} (perm : left.Perm right) :
    groupOrder left = groupOrder right := by
  funext group
  rw [groupOrder, groupOrder, shapeRank, shapeRank, perm.countP_eq]

theorem severity_name_injective : Function.Injective LogSeverity.name := by
  intro left right same
  cases left <;> cases right <;> first | rfl | exact absurd same (by decide)

theorem groupOrder_injective {groups : List MessageGroup} {other : MessageGroup}
    (member : group ∈ messageGroups windowStart previousStart lines)
    (inside : other ∈ messageGroups windowStart previousStart lines)
    (same : groupOrder groups group = groupOrder groups other) :
    group = other := by
  simp only [groupOrder, EmbeddingLike.apply_eq_iff_eq, Prod.mk.injEq] at same
  obtain ⟨_, _, _, _, _, source, severity, message⟩ := same
  refine messageGroups_injective member inside ?_
  rw [groupKeyOf, groupKeyOf, source, severity_name_injective severity, message]

theorem ordered_unordered {other : List LogLine} (perm : lines.Perm other) :
    ordered windowStart previousStart other = ordered windowStart previousStart lines := by
  have groups := @messageGroups_perm windowStart previousStart _ _ perm
  change List.insertionSort (fun left right =>
    groupOrder (messageGroups windowStart previousStart other) left ≤
    groupOrder (messageGroups windowStart previousStart other) right) _ = _
  rw [groupOrder_perm groups]
  exact insertionSort_eq_of_perm (fun first member second inside same =>
    groupOrder_injective (groups.mem_iff.mp member) (groups.mem_iff.mp inside) same) groups

theorem trendGroups_unordered {other : List LogLine} (perm : lines.Perm other) (cap : Nat) :
    trendGroups windowStart previousStart other cap =
      trendGroups windowStart previousStart lines cap := by
  have kept : (covered lines).Perm (covered other) := perm.filter _
  rw [trendGroups_eq, trendGroups_eq, ordered_unordered kept, (messageGroups_perm kept).length_eq]

end

/-! ## The trends -/

section

variable {database : CharDatabase} {tools : TitleTools} {window : TrendWindow}
  {lines : List LogLine} {cap : Nat} {trend : SignatureTrend}

/-- The groups behind a report. -/
def servedGroups (window : TrendWindow) (lines : List LogLine) (cap : Nat) : List MessageGroup :=
  (ordered window.windowStart window.previousStart (covered lines)).take cap

theorem trendGroups_fst : (trendGroups window.windowStart window.previousStart lines cap).1 =
    servedGroups window lines cap := by
  rw [trendGroups_eq, servedGroups]

theorem trendReport_reportsGroups (database : CharDatabase) (tools : TitleTools)
    (window : TrendWindow) (lines : List LogLine) (cap : Nat) :
    ReportsGroups database (servedGroups window lines cap)
      (trendReport database tools window lines cap) := by
  rw [← trendGroups_fst]
  exact buildReport_reportsGroups database tools _ _

theorem trend_summarises (listed : trend ∈ (trendReport database tools window lines cap).signatures) :
    Summarises ((servedGroups window lines cap).filter fun group => group.key database = trend.key)
      window.windowStart trend := by
  have report := trendReport_reportsGroups database tools window lines cap
  obtain ⟨group, served, keyed⟩ := report.signatures trend listed
  obtain ⟨only, alone, summarises⟩ := report.signature group served
  have here : trend ∈ (trendReport database tools window lines cap).signatures.filter fun other =>
      other.key = group.key database := List.mem_filter.mpr ⟨listed, by simp [keyed]⟩
  rw [alone, List.mem_singleton] at here
  rw [here, ← here, ← keyed]
  exact here ▸ summarises

theorem trend_new_iff (separate : Separate database (covered lines))
    (room : (shapes (covered lines)).length ≤ cap)
    (listed : trend ∈ (trendReport database tools window lines cap).signatures) : trend.change = .new ↔
      ∀ line ∈ covered lines, line.trendKey database = trend.key →
        window.windowStart ≤ line.loggedAt := by
  have summarises := trend_summarises listed
  rw [summarises.new]
  constructor
  · intro since line member keyed
    obtain ⟨first, served, firstKey, older⟩ :=
      @line_served window.windowStart window.previousStart _ database cap separate room line member
    have seen := summarises.firstSeen.2 ⟨first, List.mem_filter.mpr
      ⟨served, decide_eq_true (firstKey.trans keyed)⟩, rfl⟩
    exact since.trans (seen.trans older)
  · intro young
    obtain ⟨group, kept, first⟩ := summarises.firstSeen.1
    obtain ⟨served, keyed⟩ := List.mem_filter.mp kept
    obtain ⟨line, member, lineKey, instant⟩ := @served_line _ _ _ _ database _ served
    rw [← first, ← instant]
    exact young line member (lineKey.trans (of_decide_eq_true keyed))

theorem trend_sums (key : TrendKey) (read : MessageGroup → Nat) (p : Int → Bool)
    (counts : ∀ wanted,
      read (messageGroup window.windowStart window.previousStart (covered lines) wanted) =
      (covered lines).countP fun line => decide (line.groupKey = wanted) && p line.loggedAt) :
    (((servedGroups window lines cap).filter fun group => group.key database = key).map read).sum ≤
        linesOf database (covered lines) key p ∧
      ((messageGroups window.windowStart window.previousStart (covered lines)).length ≤ cap →
        (((servedGroups window lines cap).filter fun group => group.key database = key).map
          read).sum = linesOf database (covered lines) key p) := by
  have whole := (ordered_sum read fun group => decide (group.key database = key)).trans
    (sum_counts (p := fun line => p line.loggedAt) counts key)
  constructor
  · exact (take_sum_le cap).trans whole.le
  · intro uncut
    rw [servedGroups, List.take_of_length_le (ordered_perm.length_eq.trans_le uncut)]
    exact whole

theorem truncated_iff : (trendReport database tools window lines cap).truncated = true ↔
    cap < (messageGroups window.windowStart window.previousStart (covered lines)).length := by
  change (trendGroups window.windowStart window.previousStart lines cap).2 = true ↔ _
  rw [trendGroups_eq]
  exact decide_eq_true_iff

theorem cut_iff :
    cap < (messageGroups window.windowStart window.previousStart (covered lines)).length ↔
    ∃ line ∈ covered lines, ∀ group ∈ servedGroups window lines cap,
      groupKeyOf group ≠ line.groupKey := by
  have perm := @ordered_perm window.windowStart window.previousStart (covered lines)
  have nodup := perm.nodup_iff.mpr messageGroups_nodup
  constructor
  · intro more
    obtain ⟨cut, rest, shape⟩ := List.exists_cons_of_length_pos
      (l := (ordered window.windowStart window.previousStart (covered lines)).drop cap)
      (by rw [List.length_drop, perm.length_eq]; omega)
    have dropped : cut ∈ (ordered window.windowStart window.previousStart (covered lines)).drop cap :=
      shape ▸ List.mem_cons_self
    obtain ⟨line, member, made⟩ :=
      mem_messageGroups.mp (perm.mem_iff.mp (List.mem_of_mem_drop dropped))
    refine ⟨line, member, fun group served same => ?_⟩
    have equal : group = cut := messageGroups_injective (perm.mem_iff.mp (List.mem_of_mem_take served))
      (perm.mem_iff.mp (List.mem_of_mem_drop dropped)) (same.trans (by rw [← made]; rfl))
    rw [← List.take_append_drop cap (ordered window.windowStart window.previousStart
      (covered lines))] at nodup
    exact (List.nodup_append.mp nodup).2.2 group served cut dropped equal
  · intro missing
    obtain ⟨line, member, absent⟩ := missing
    by_contra few
    have inside : messageGroup window.windowStart window.previousStart (covered lines) line.groupKey ∈
        ordered window.windowStart window.previousStart (covered lines) :=
      perm.mem_iff.mpr (mem_messageGroups.mpr ⟨line, member, rfl⟩)
    rw [← List.take_of_length_le (perm.length_eq.trans_le (not_lt.mp few))] at inside
    exact absent _ inside rfl

/-- Of the lines at the rungs it covers, a trend whose cap has room for every shape serves every
signature, calls none new that is not, and counts none beyond what is there. -/
theorem trends_capped (database : CharDatabase) (tools : TitleTools) (window : TrendWindow)
    (lines : List LogLine) (cap : Nat) (separate : Separate database (covered lines))
    (room : (shapes (covered lines)).length ≤ cap) :
    TrendsOf database tools window lines cap (covered lines) where
  served := by
    intro line member
    obtain ⟨first, served, keyed, _⟩ :=
      @line_served window.windowStart window.previousStart _ database cap separate room line member
    obtain ⟨trend, alone, _⟩ :=
      (trendReport_reportsGroups database tools window lines cap).signature first served
    exact ⟨trend, keyed ▸ alone⟩
  isPresent := by
    intro trend listed
    obtain ⟨group, served, keyed⟩ :=
      (trendReport_reportsGroups database tools window lines cap).signatures trend listed
    obtain ⟨line, member, lineKey, _⟩ := @served_line _ _ _ _ database _ served
    exact ⟨line, member, lineKey.trans keyed⟩
  new := fun trend listed => trend_new_iff separate room listed
  bounded := by
    intro trend listed
    have summarises := trend_summarises listed
    rw [summarises.current, summarises.previous, summarises.total]
    exact ⟨(trend_sums trend.key _ (inCurrent window) fun key => (messageGroup_counts key).1).1,
      (trend_sums trend.key _ (inPrevious window) fun key => (messageGroup_counts key).2.1).1,
      (trend_sums trend.key _ (fun _ => true) fun key => (messageGroup_counts key).2.2).1⟩
  exact := by
    intro whole trend listed
    have summarises := trend_summarises listed
    have uncut := not_lt.mp fun cut => Bool.false_ne_true (whole.symm.trans (truncated_iff.mpr cut))
    rw [summarises.current, summarises.previous, summarises.total]
    exact ⟨(trend_sums trend.key _ (inCurrent window) fun key =>
      (messageGroup_counts key).1).2 uncut, (trend_sums trend.key _ (inPrevious window) fun key =>
      (messageGroup_counts key).2.1).2 uncut, (trend_sums trend.key _ (fun _ => true) fun key =>
        (messageGroup_counts key).2.2).2 uncut⟩
  truncated := by
    rw [trendGroups_fst]
    exact truncated_iff.trans cut_iff
  unordered := fun _ perm => trendGroups_unordered perm cap

end

def letterTools : TitleTools where
  truncateAtWord value length := value.take length
  truncationMarker := text "..."
  signatureDigest value := value.take 8

def weekOf : TrendWindow := ⟨7, 100, 50, 150, none, false⟩

/-- One fault under two pids, the older line from before both periods. -/
def twoPids : List LogLine :=
  [⟨text "kernel", .error, text "pid 12 hung", 120⟩, ⟨text "kernel", .error, text "pid 7 hung", 10⟩]

theorem twoPids_capped : TrendsOf .ascii letterTools weekOf twoPids 1 (covered twoPids) :=
  trends_capped .ascii letterTools weekOf twoPids 1 (by unfold Separate; decide) (by decide)

/-- What the kernel says of itself. -/
def linkUp : List LogLine := [⟨text "kernel", .info, text "link up", 120⟩]

/-- The trend does not cover it. -/
theorem linkUp_unserved : Separate .ascii linkUp ∧ (shapes linkUp).length ≤ 1 ∧
    ¬ TrendsOf .ascii letterTools weekOf linkUp 1 linkUp := by
  refine ⟨by unfold Separate; decide, by decide, fun trends => ?_⟩
  obtain ⟨trend, alone⟩ := trends.served _ (List.mem_singleton_self _)
  have listed : trend ∈ [trend] := List.mem_singleton_self trend
  rw [← alone] at listed
  cases List.mem_of_mem_filter listed

end SysadminAssistant.Monitor.LogQuery
