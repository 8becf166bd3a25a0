import SysadminAssistant.Monitor.LogAdvice

namespace SysadminAssistant.Monitor.Advice

open Python Library

/-! Which trends the rows of `recommend` stand for. -/

/-- A row and the trends it was made from, the first of which is its subject. -/
structure StandsFor (row : LogRecommendation) (trends : List SignatureTrend) : Prop where
  subject : ∃ anchor claimed, trends = anchor :: claimed ∧ row.source = anchor.source ∧
    row.signature = anchor.signature ∧ row.alertTitle = anchor.alertTitle
  members : row.members = if trends.length = 1 then [] else trends.map memberOf
  occurrences : row.occurrences = (trends.map SignatureTrend.current).sum

abbrev Made := LogRecommendation × List SignatureTrend

def Made.kind (made : Made) : RecommendationKind := made.1.kind

/-- Advice over the undeclared trends: what its rows were made from, and in what order. -/
structure Covers (report : LogTrendReport) (declaredNoise : Option (List (Text × Text)))
    (rows : List LogRecommendation) : Prop where
  made : ∃ made : List Made, made.map Prod.fst = rows ∧ (∀ row ∈ made, StandsFor row.1 row.2) ∧
    ((made.filter fun row => row.kind = .new).flatMap Prod.snd).Perm
      ((undeclared report declaredNoise).filter fun trend => trend.change = .new) ∧
    ((made.filter fun row => row.kind = .surge).map Prod.snd).Perm
      (((undeclared report declaredNoise).filter fun trend =>
        trend.change = .surged).map fun trend => [trend]) ∧
    ((made.filter fun row => row.kind = .noise).map Prod.snd).Perm
      (((undeclared report declaredNoise).filter fun trend =>
        isNoiseCandidate trend report.confidence).map fun trend => [trend])
  undeclared : ∀ row ∈ rows, (row.source, row.signature) ∉ declaredNoise.getD [] ∧
    ∀ member ∈ row.members, (member.source, member.signature) ∉ declaredNoise.getD []
  summed : ∀ row ∈ rows, row.members ≠ [] →
    row.occurrences = (row.members.map IncidentMember.occurrences).sum
  confident : report.confidence = .low → ∀ row ∈ rows, row.kind ≠ .noise
  ranked : rows.Pairwise fun earlier later => earlier.kind.rank < later.kind.rank ∨
    (earlier.kind = later.kind ∧ later.occurrences ≤ earlier.occurrences)

section

variable {wording : Wording} {report : LogTrendReport} {declaredNoise : Option (List (Text × Text))}
  {scopes : Option Scopes} {related : Option Relations}

theorem groupRow_made {group : List SignatureTrend} {row : LogRecommendation}
    (made : groupRow wording scopes group = some row) : row.kind = .new ∧ StandsFor row group := by
  match group with
  | [] => cases made
  | [trend] =>
    cases made
    exact ⟨rfl, ⟨trend, [], rfl, rfl, rfl, rfl⟩, rfl, rfl⟩
  | anchor :: second :: claimed =>
    cases made
    exact ⟨rfl, ⟨anchor, second :: claimed, rfl, rfl, rfl, rfl⟩, by simp [incidentRecommendation], rfl⟩

theorem standingRow_made {trend : SignatureTrend} {row : LogRecommendation}
    (made : standingRow wording report scopes trend = some row) : StandsFor row [trend] ∧
      ((row.kind = .surge ∧ trend.change = .surged) ∨
        (row.kind = .noise ∧ isNoiseCandidate trend report.confidence = true)) := by
  have alone : ∀ {row : LogRecommendation}, row.source = trend.source →
      row.signature = trend.signature →
      row.alertTitle = trend.alertTitle → row.members = [] → row.occurrences = trend.current →
      StandsFor row [trend] := by
    intro row source signature title members occurrences
    exact ⟨⟨trend, [], rfl, source, signature, title⟩, by rw [members]; rfl, by rw [occurrences]; rfl⟩
  simp only [standingRow] at made
  split at made
  · cases made
  · split at made
    · rename_i surged
      cases made
      exact ⟨alone rfl rfl rfl rfl rfl, Or.inl ⟨rfl, surged⟩⟩
    · split at made
      · rename_i candidate
        cases made
        exact ⟨alone rfl rfl rfl rfl rfl, Or.inr ⟨rfl, candidate⟩⟩
      · cases made

theorem noiseCandidate_change {trend : SignatureTrend} {confidence : Confidence}
    (candidate : isNoiseCandidate trend confidence = true) :
    confidence ≠ .low ∧ trend.change ≠ .new ∧ trend.change ≠ .surged := by
  simp only [isNoiseCandidate] at candidate
  split at candidate
  · cases candidate
  · rename_i confident
    split at candidate
    · cases candidate
    · refine ⟨confident, ?_, ?_⟩ <;>
        · intro same
          simp [same] at candidate

theorem standingRow_isSome {trend : SignatureTrend} :
    (standingRow wording report scopes trend).isSome ↔
    trend.change = .surged ∨ isNoiseCandidate trend report.confidence = true := by
  simp only [standingRow]
  split
  · rename_i isNew
    simp only [Option.isSome_none, Bool.false_eq_true, false_iff, not_or]
    refine ⟨by simp [isNew], fun candidate => (noiseCandidate_change candidate).2.1 isNew⟩
  · split
    · rename_i surged
      simp [surged]
    · rename_i calm
      split
      · rename_i candidate
        simp [candidate]
      · rename_i quiet
        simp [calm, quiet]

/-- The rows before they are sorted, with what each was made from. -/
def groupsMade (wording : Wording) (scopes : Option Scopes) (groups : List (List SignatureTrend)) :
    List Made :=
  groups.filterMap fun group => (groupRow wording scopes group).map fun row => (row, group)

def standingMade (wording : Wording) (report : LogTrendReport) (scopes : Option Scopes)
    (trends : List SignatureTrend) : List Made :=
  trends.filterMap fun trend => (standingRow wording report scopes trend).map fun row => (row, [trend])

theorem groupsMade_fst (groups : List (List SignatureTrend)) :
    (groupsMade wording scopes groups).map Prod.fst = groups.filterMap (groupRow wording scopes) := by
  rw [groupsMade, List.map_filterMap]
  refine List.filterMap_congr fun group _ => ?_
  cases groupRow wording scopes group <;> rfl

theorem standingMade_fst (trends : List SignatureTrend) :
    (standingMade wording report scopes trends).map Prod.fst =
      trends.filterMap (standingRow wording report scopes) := by
  rw [standingMade, List.map_filterMap]
  refine List.filterMap_congr fun trend _ => ?_
  cases standingRow wording report scopes trend <;> rfl

theorem mem_groupsMade {groups : List (List SignatureTrend)} {made : Made}
    (member : made ∈ groupsMade wording scopes groups) :
    made.kind = .new ∧ StandsFor made.1 made.2 := by
  obtain ⟨group, _, shape⟩ := List.mem_filterMap.mp member
  obtain ⟨row, found, rfl⟩ := Option.map_eq_some_iff.mp shape
  exact groupRow_made found

theorem groupsMade_flatMap (groups : List (List SignatureTrend)) :
    (groupsMade wording scopes groups).flatMap Prod.snd = groups.flatten := by
  induction groups with
  | nil => rfl
  | cons group rest ih =>
    rw [List.flatten_cons, ← ih]
    match group with
    | [] => rfl
    | [_] => rfl
    | _ :: _ :: _ => rfl

theorem mem_standingMade {trends : List SignatureTrend} {made : Made}
    (member : made ∈ standingMade wording report scopes trends) :
    ∃ trend ∈ trends, made.2 = [trend] ∧ StandsFor made.1 [trend] ∧
      ((made.kind = .surge ∧ trend.change = .surged) ∨
        (made.kind = .noise ∧ isNoiseCandidate trend report.confidence = true)) := by
  obtain ⟨trend, inside, shape⟩ := List.mem_filterMap.mp member
  obtain ⟨row, found, rfl⟩ := Option.map_eq_some_iff.mp shape
  exact ⟨trend, inside, rfl, standingRow_made found⟩

theorem standingMade_kind {kind : RecommendationKind} {wanted : SignatureTrend → Bool}
    (decides : ∀ trend row, standingRow wording report scopes trend = some row →
      (row.kind = kind ↔ wanted trend = true))
    (present : ∀ trend, wanted trend = true → (standingRow wording report scopes trend).isSome)
    (trends : List SignatureTrend) :
    ((standingMade wording report scopes trends).filter fun made => made.kind = kind).map Prod.snd =
      (trends.filter wanted).map fun trend => [trend] := by
  induction trends with
  | nil => rfl
  | cons trend rest ih =>
    cases found : standingRow wording report scopes trend with
    | none =>
      have unwanted : wanted trend = false := by
        cases asked : wanted trend with
        | false => rfl
        | true =>
          have some_ := present trend asked
          rw [found] at some_
          cases some_
      rw [List.filter_cons_of_neg (by simp [unwanted]), ← ih]
      simp [standingMade, found]
    | some row =>
      have cons : standingMade wording report scopes (trend :: rest) =
          (row, [trend]) :: standingMade wording report scopes rest := by
        simp [standingMade, found]
      rw [cons]
      by_cases ofKind : row.kind = kind
      · have asked := (decides trend row found).mp ofKind
        have shown : decide (Made.kind (row, [trend]) = kind) = true := decide_eq_true ofKind
        rw [List.filter_cons, List.filter_cons, if_pos shown, if_pos asked, List.map_cons,
          List.map_cons, ih]
      · have unasked := mt (decides trend row found).mpr ofKind
        have hidden : ¬ decide (Made.kind (row, [trend]) = kind) = true :=
          fun shown => ofKind (of_decide_eq_true shown)
        rw [List.filter_cons, List.filter_cons, if_neg hidden, if_neg unasked, ih]

theorem standingMade_surge (trends : List SignatureTrend) :
    ((standingMade wording report scopes trends).filter fun made => made.kind = .surge).map
      Prod.snd = (trends.filter fun trend => trend.change = .surged).map fun trend => [trend] := by
  refine standingMade_kind ?_ ?_ trends
  · intro trend row found
    rcases (standingRow_made found).2 with ⟨kind, surged⟩ | ⟨kind, candidate⟩
    · simp [kind, surged]
    · simp [kind, (noiseCandidate_change candidate).2.2]
  · intro trend surged
    exact standingRow_isSome.mpr (Or.inl (by simpa using surged))

theorem standingMade_noise (trends : List SignatureTrend) :
    ((standingMade wording report scopes trends).filter fun made => made.kind = .noise).map Prod.snd =
      (trends.filter fun trend => isNoiseCandidate trend report.confidence).map fun trend =>
        [trend] := by
  refine standingMade_kind ?_ ?_ trends
  · intro trend row found
    rcases (standingRow_made found).2 with ⟨kind, surged⟩ | ⟨kind, candidate⟩
    · cases noisy : isNoiseCandidate trend report.confidence with
      | false => simp [kind]
      | true => exact absurd surged (noiseCandidate_change noisy).2.2
    · simp [kind, candidate]
  · intro trend candidate
    exact standingRow_isSome.mpr (Or.inr candidate)

/-- All rows, unsorted. -/
def allMade (wording : Wording) (report : LogTrendReport)
    (declaredNoise : Option (List (Text × Text))) (scopes : Option Scopes)
    (related : Option Relations) : List Made :=
  groupsMade wording scopes (groupIncidents (undeclared report declaredNoise) related) ++
    standingMade wording report scopes (undeclared report declaredNoise)

theorem allMade_stands {made : Made}
    (member : made ∈ allMade wording report declaredNoise scopes related) :
    StandsFor made.1 made.2 := by
  rcases List.mem_append.mp member with grouped | standing
  · exact (mem_groupsMade grouped).2
  · obtain ⟨trend, _, shape, stands, _⟩ := mem_standingMade standing
    rw [shape]
    exact stands

theorem groupIncidents_perm (trends : List SignatureTrend) :
    (groupIncidents trends related).flatten.Perm (trends.filter fun trend => trend.change = .new) :=
  correlate_perm _ _ _

theorem allMade_undeclared {made : Made}
    (member : made ∈ allMade wording report declaredNoise scopes related) {trend : SignatureTrend}
    (inside : trend ∈ made.2) : trend ∈ undeclared report declaredNoise := by
  rcases List.mem_append.mp member with grouped | standing
  · obtain ⟨group, listed, shape⟩ := List.mem_filterMap.mp grouped
    obtain ⟨row, _, rfl⟩ := Option.map_eq_some_iff.mp shape
    have flat := (groupIncidents_perm _).mem_iff.mp (List.mem_flatten.mpr ⟨group, listed, inside⟩)
    exact (List.mem_filter.mp flat).1
  · obtain ⟨other, listed, shape, _⟩ := mem_standingMade standing
    rw [shape, List.mem_singleton] at inside
    rw [inside]
    exact listed

theorem allMade_new : ((allMade wording report declaredNoise scopes related).filter fun made =>
    made.kind = .new).flatMap Prod.snd =
      (groupIncidents (undeclared report declaredNoise) related).flatten := by
  have grouped :
      ∀ made ∈ groupsMade wording scopes (groupIncidents (undeclared report declaredNoise) related),
      decide (made.kind = .new) = true := fun made member => decide_eq_true (mem_groupsMade member).1
  have standing : ∀ made ∈ standingMade wording report scopes (undeclared report declaredNoise),
      ¬ decide (made.kind = .new) = true := by
    intro made member
    obtain ⟨_, _, _, _, ⟨kind, _⟩ | ⟨kind, _⟩⟩ := mem_standingMade member <;> simp [kind]
  rw [allMade, List.filter_append, List.filter_eq_self.mpr grouped,
    List.filter_eq_nil_iff.mpr standing, List.append_nil, groupsMade_flatMap]

theorem allMade_standing {kind : RecommendationKind} (other : kind ≠ .new) :
    (allMade wording report declaredNoise scopes related).filter (fun made => made.kind = kind) =
      (standingMade wording report scopes (undeclared report declaredNoise)).filter fun made =>
        made.kind = kind := by
  have grouped :
      ∀ made ∈ groupsMade wording scopes (groupIncidents (undeclared report declaredNoise) related),
      ¬ decide (made.kind = kind) = true := by
    intro made member shown
    exact other ((of_decide_eq_true shown).symm.trans (mem_groupsMade member).1)
  rw [allMade, List.filter_append, List.filter_eq_nil_iff.mpr grouped, List.nil_append]

theorem order_ranked {earlier later : LogRecommendation} (ordered : earlier.order ≤ later.order) :
    earlier.kind.rank < later.kind.rank ∨
      (earlier.kind = later.kind ∧ later.occurrences ≤ earlier.occurrences) := by
  rcases Prod.Lex.toLex_le_toLex.mp ordered with before | ⟨same, volume⟩
  · exact Or.inl before
  · refine Or.inr ⟨?_, ?_⟩
    · cases left : earlier.kind <;> cases right : later.kind <;>
        simp [left, right, RecommendationKind.rank] at same ⊢
    · rcases Prod.Lex.toLex_le_toLex.mp volume with louder | ⟨equal, _⟩ <;> omega

theorem recommend_covers (wording : Wording) (report : LogTrendReport)
    (declaredNoise : Option (List (Text × Text))) (scopes : Option Scopes)
    (related : Option Relations) :
    Covers report declaredNoise (recommend wording report declaredNoise scopes related) := by
  have madeBy := @allMade_stands wording report declaredNoise scopes related
  have sources := @allMade_undeclared wording report declaredNoise scopes related
  have perm := List.perm_insertionSort (fun left right : Made => left.1.order ≤ right.1.order)
    (allMade wording report declaredNoise scopes related)
  have rows : ((allMade wording report declaredNoise scopes related).insertionSort fun left right =>
      left.1.order ≤ right.1.order).map Prod.fst =
        recommend wording report declaredNoise scopes related := by
    rw [List.map_insertionSort (fun left right : Made => left.1.order ≤ right.1.order)
      (fun left right : LogRecommendation => left.order ≤ right.order)]
    · rw [allMade, List.map_append, groupsMade_fst, standingMade_fst, recommend]
    · exact fun _ _ _ _ => Iff.rfl
  have origin : ∀ row ∈ recommend wording report declaredNoise scopes related,
      ∃ made ∈ allMade wording report declaredNoise scopes related, made.1 = row := by
    intro row member
    rw [← rows] at member
    obtain ⟨made, inside, same⟩ := List.mem_map.mp member
    exact ⟨made, perm.mem_iff.mp inside, same⟩
  refine ⟨⟨_, rows, fun made member => madeBy (perm.mem_iff.mp member), ?_, ?_, ?_⟩, ?_, ?_, ?_, ?_⟩
  · refine ((perm.filter _).flatMap_right _).trans ?_
    rw [allMade_new]
    exact groupIncidents_perm _
  · refine ((perm.filter _).map _).trans ?_
    rw [allMade_standing (by decide), standingMade_surge]
  · refine ((perm.filter _).map _).trans ?_
    rw [allMade_standing (by decide), standingMade_noise]
  · intro row member
    obtain ⟨made, inside, rfl⟩ := origin row member
    have stands := madeBy inside
    have judged : ∀ trend ∈ made.2, (trend.source, trend.signature) ∉ declaredNoise.getD [] := by
      intro trend held
      simpa using (List.mem_filter.mp (sources inside held)).2
    obtain ⟨anchor, claimed, shape, source, signature, _⟩ := stands.subject
    refine ⟨?_, ?_⟩
    · rw [source, signature]
      exact judged anchor (by rw [shape]; exact List.mem_cons_self)
    · intro other listed
      rw [stands.members] at listed
      split at listed
      · cases listed
      · obtain ⟨trend, held, rfl⟩ := List.mem_map.mp listed
        exact judged trend held
  · intro row member several
    obtain ⟨made, inside, rfl⟩ := origin row member
    have stands := madeBy inside
    rw [stands.members] at several ⊢
    rw [stands.occurrences]
    split at several
    · exact absurd rfl several
    · rename_i roll
      rw [if_neg roll, List.map_map]
      rfl
  · intro low row member
    obtain ⟨made, inside, rfl⟩ := origin row member
    rcases List.mem_append.mp inside with grouped | standing
    · intro noisy
      have kind : made.1.kind = .new := (mem_groupsMade grouped).1
      rw [kind] at noisy
      cases noisy
    · obtain ⟨_, _, _, _, ⟨kind, _⟩ | ⟨_, candidate⟩⟩ := mem_standingMade standing
      · intro noisy
        have surge : made.1.kind = .surge := kind
        rw [surge] at noisy
        cases noisy
      · exact absurd low (noiseCandidate_change candidate).1
  · have sorted := List.pairwise_insertionSort
      (fun left right : LogRecommendation => left.order ≤ right.order)
      ((groupIncidents (undeclared report declaredNoise) related).filterMap
        (groupRow wording scopes) ++
        (undeclared report declaredNoise).filterMap (standingRow wording report scopes))
    exact sorted.imp order_ranked

end

end SysadminAssistant.Monitor.Advice
