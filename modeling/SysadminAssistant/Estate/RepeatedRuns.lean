import SysadminAssistant.Estate.JudgedRows

namespace SysadminAssistant.Estate

open Python SysadminAssistant.Core SysadminAssistant.Units Library

/-! Runs of the judge one after another, and the same payloads twice. -/

section

variable (wording : Wording) (accepts : Draft → Bool)

/-- The tables a run may find.  A run that raises is rolled back; whatever else writes to the
table between runs opens no row of the judge and rewrites none. -/
inductive EstateReached : AlertTable → Prop
  | start (table : AlertTable) (none_ : ∀ row ∈ table.openRows, row.agent ≠ estateJudge) :
      EstateReached table
  | run (before after : AlertTable) (run : EstateRun) (summary : EstateSummary)
      (earlier : EstateReached before)
      (ran : execute wording accepts before run = some (after, summary)) : EstateReached after
  | elsewhere (before after : AlertTable) (earlier : EstateReached before)
      (untouched : ∀ row ∈ after.openRows, row.agent = estateJudge →
        row ∈ before.openRows) : EstateReached after

/-- The rows of the judge are its judgements: of every surface read, no row of one not read is
touched, a title has one row, and the same payloads again change nothing. -/
structure RowsExact (before after : AlertTable) (run : EstateRun) (judged : List Judgement) :
    Prop where
  titles : ∀ (surface : Surface) (title : Text), (run.inputs.pulled.result surface).read = true →
    ((∃ row ∈ after.openRows, row.agent = estateJudge ∧ rowSurface row = some surface.name ∧
      row.title = title) ↔
      ∃ judgement ∈ judged, judgement.surface = surface ∧ judgement.title = title)
  untouched : ∀ row, OfUnread run.inputs.pulled row → (row ∈ after.rows ↔ row ∈ before.rows)
  single : ∀ left ∈ after.openRows, ∀ right ∈ after.openRows, left.agent = estateJudge →
    right.agent = estateJudge → left.title = right.title → left = right
  repeated : ∀ again : EstateRun, again.inputs = run.inputs →
    execute wording accepts after again = some (after, ⟨0, 0, 0⟩)

/-- The judges return, and say the same at any time; the columns take every row; two judgements
under one title say the same; and one of them that is `info` finds the title standing, or is not
the first to be louder. -/
structure SaysOnce (before : AlertTable) (run : EstateRun) (judged : List Judgement) : Prop where
  judges : ∀ now, judge wording run.inputs now = some judged
  accepted : ∀ judgement ∈ judged, accepts judgement.draft = true
  agree : ∀ judgement ∈ judged, ∀ other ∈ judged, judgement.title = other.title →
    judgement.message = other.message ∧
      Json.equal (.obj judgement.draft.details.entries) (.obj other.draft.details.entries) = true
  rung : ∀ judgement ∈ judged, judgement.severity = .info →
    (before.openRow? (estateJudge, judgement.title)).isSome ∨
      ∀ first, judged.find? (fun other => other.title = judgement.title) = some first →
        first.severity = .info

end

section

variable {wording : Wording} {accepts : Draft → Bool} {before after : AlertTable} {run : EstateRun}
  {judged : List Judgement}

theorem EstateReached.filed (reached : EstateReached wording accepts before) : Filed before := by
  induction reached with
  | start table none_ =>
    intro row member ours
    exact absurd ours (none_ row member)
  | run before after run summary earlier ran filed =>
    obtain ⟨judged, _, left⟩ := execute_ran filed ran
    exact left.filed
  | elsewhere before after earlier untouched filed =>
    intro row member ours
    exact filed row (untouched row member ours) ours

theorem exists_first {judgement : Judgement} (member : judgement ∈ judged) :
    ∃ first, judged.find? (fun other => other.title = judgement.title) = some first :=
  Option.isSome_iff_exists.mp (List.find?_isSome.mpr ⟨judgement, member, decide_eq_true rfl⟩)

theorem Ran.open_of_judged {pulled : Pulled} (ran : Ran pulled before after judged)
    {judgement : Judgement} (member : judgement ∈ judged) :
    ∃ row, after.openRow? (estateJudge, judgement.title) = some row := by
  cases found : before.openRow? (estateJudge, judgement.title) with
  | some row => exact ⟨_, ran.stood _ row found (List.mem_map_of_mem member)⟩
  | none =>
    obtain ⟨first, isFirst⟩ := exists_first member
    obtain ⟨row, stands, _⟩ := ran.raised _ first found isFirst
    exact ⟨row, stands⟩

theorem Ran.titles {pulled : Pulled} (ran : Ran pulled before after judged)
    (titled : ∀ judgement ∈ judged, TitleOf judgement.surface judgement.title) {surface : Surface}
    {title : Text} (read : (pulled.result surface).read = true) :
    (∃ row ∈ after.openRows, row.agent = estateJudge ∧ rowSurface row = some surface.name ∧
      row.title = title) ↔
      ∃ judgement ∈ judged, judgement.surface = surface ∧ judgement.title = title := by
  constructor
  · intro found
    obtain ⟨row, inOpen, agent, named, same⟩ := found
    have stands : after.openRow? (estateJudge, title) = some row :=
      Table.openRow?_eq_some.mpr ⟨inOpen, Prod.ext agent same⟩
    by_cases judgedTitle : title ∈ judged.map Judgement.title
    · obtain ⟨judgement, member, itsTitle⟩ := List.mem_map.mp judgedTitle
      obtain ⟨filedUnder, filedName, filed⟩ := ran.filed row inOpen agent
      have one : filedUnder = surface :=
        surface_name_injective (Option.some.inj (filedName.symm.trans named))
      refine ⟨judgement, member, ?_, itsTitle⟩
      rw [← one]
      exact (titled judgement member).unique (itsTitle ▸ same ▸ filed)
    · rw [((ran.others title row judgedTitle).mp stands).2 surface named] at read
      cases read
  · intro found
    obtain ⟨judgement, member, itsSurface, itsTitle⟩ := found
    obtain ⟨row, stands⟩ := ran.open_of_judged member
    obtain ⟨inOpen, key⟩ := Table.openRow?_eq_some.mp stands
    have agent : row.agent = estateJudge := congrArg Prod.fst key
    have same : row.title = judgement.title := congrArg Prod.snd key
    obtain ⟨filedUnder, filedName, filed⟩ := ran.filed row inOpen agent
    have one : filedUnder = surface := by
      rw [← itsSurface]
      exact filed.unique (same ▸ titled judgement member)
    exact ⟨row, inOpen, agent, one ▸ filedName, same.trans itsTitle⟩

theorem SaysOnce.still (once : SaysOnce wording accepts before run judged)
    (ran : Ran run.inputs.pulled before after judged) : ∀ judgement ∈ judged,
      ∃ row, after.openRow? (estateJudge, judgement.title) = some row ∧
        refreshAlert row judgement.draft = none := by
  intro judgement member
  cases found : before.openRow? (estateJudge, judgement.title) with
  | some row =>
    refine ⟨_, ran.stood _ row found (List.mem_map_of_mem member), ?_⟩
    refine refreshAll_quiet (fun left inLeft right inRight => ?_) judgement ?_
    · obtain ⟨leftMember, leftTitle⟩ := List.mem_filter.mp inLeft
      obtain ⟨rightMember, rightTitle⟩ := List.mem_filter.mp inRight
      exact once.agree left leftMember right rightMember
        ((of_decide_eq_true leftTitle).trans (of_decide_eq_true rightTitle).symm)
    · exact List.mem_filter.mpr ⟨member, decide_eq_true rfl⟩
  | none =>
    obtain ⟨first, isFirst⟩ := exists_first member
    obtain ⟨row, stands, speaks⟩ := ran.raised _ first found isFirst
    have firstTitle : first.title = judgement.title := by simpa using List.find?_some isFirst
    obtain ⟨message, details⟩ :=
      once.agree first (List.mem_of_find?_eq_some isFirst) judgement member firstTitle
    refine ⟨row, stands, refreshAlert_eq_none.mpr ⟨?_, speaks.message.trans message, ?_⟩⟩
    · refine mayQuietenInPlace_info _ _ fun quiet => ?_
      rcases once.rung judgement member quiet with standing | infos
      · rw [found] at standing
        cases standing
      · exact speaks.severity.trans (infos first isFirst)
    · rw [speaks.details]
      exact details

/-- Whatever surfaces are read, and whatever they say: a run that says each thing once leaves
the rows of the judge exactly its judgements. -/
theorem judged_rows_exact (reached : EstateReached wording accepts before)
    (once : SaysOnce wording accepts before run judged) : ∃ after summary,
      execute wording accepts before run = some (after, summary) ∧
        RowsExact wording accepts before after run judged := by
  obtain ⟨after, summary, returns⟩ :=
    execute_accepted reached.filed (once.judges run.now) once.accepted
  obtain ⟨found, judges, ran⟩ := execute_ran reached.filed returns
  cases (once.judges run.now).symm.trans judges
  refine ⟨after, summary, returns, ?_, ran.unread, ?_, ?_⟩
  · intro surface title read
    exact ran.titles (fun judgement member => (judge_titled judges member).1) read
  · intro left inLeft right inRight leftAgent rightAgent same
    exact Table.key_injective inLeft inRight (Prod.ext (leftAgent.trans rightAgent.symm) same)
  · intro again same
    refine Option.bind_eq_some_iff.mpr ⟨judged, same ▸ once.judges again.now, ?_⟩
    refine Option.bind_eq_some_iff.mpr ⟨_, foldlM_still (once.still ran), ?_⟩
    simp only [same, ran.nothing_gone]
    rfl

end

/-! Runs over the findings about a few ports. -/

/-- Wording where nothing but texts is worded. -/
def plainWording : Wording where
  str value := value.text?.getD []
  truncateAtWord value _ := value
  fixed _ _ := []
  general _ := []
  grouped value := intText value
  database := .ascii
  isDigit := CharDatabase.ascii.isDigit
  instant _ := none

def portFinding (port : Int) (code summary : String) : Json :=
  .obj [(text "check", .str portsCheck), (text "severity", .str (text "breach")),
    (text "code", .str (text code)), (text "summary", .str (text summary)),
    (text "detail", .obj [(text "port", .int port)])]

/-- A run in which only the audit's findings were read. -/
def findingsRun (findings : List Json) (attribution : PortAttribution) : EstateRun where
  inputs := {
    config := ⟨.finite 26, 10, .finite 26, 12, 20, .finite 900⟩
    pulled := {
      projectsInvariants := .error (text "unreachable")
      projectsAttention := .error (text "unreachable")
      auditInvariants := .error (text "unreachable")
      auditFindings := .payload [(text "findings", .arr findings)]
      queueInvariants := .error (text "unreachable")
      hookWiring := .error (text "unreachable") }
    attribution }
  now := 0
  stamp := 0
  closedAt := 0

theorem empty_reached (wording : Wording) (accepts : Draft → Bool) :
    EstateReached wording accepts Table.empty :=
  .start _ fun _ member => by cases member

theorem judge_clockless {wording : Wording} {inputs : EstateInputs} {reason : Text}
    (unread : inputs.pulled.queueInvariants = .error reason) (now later : Int) :
    judge wording inputs later = judge wording inputs now := by
  have same : ∀ surface, judgeSurface wording inputs later surface =
      judgeSurface wording inputs now surface := by
    intro surface
    cases surface with
    | queueInvariants => simp only [judgeSurface, Pulled.result, unread]
    | _ => rfl
  rw [judge, judge, funext same]

def firstFindings : EstateRun :=
  findingsRun [portFinding 5432 "unclaimed" "port 5432 is listening unclaimed",
  portFinding 6379 "unclaimed" "port 6379 is listening unclaimed"] .empty

/-- One port is described anew, one is gone and one has come. -/
def laterFindings : EstateRun :=
  findingsRun [portFinding 5432 "mismatch" "port 5432 is claimed by another project",
    portFinding 8080 "unclaimed" "port 8080 is listening unclaimed"] .empty

def laterJudged : List Judgement := (judge plainWording laterFindings.inputs 0).getD []

theorem laterFindings_judges : judge plainWording laterFindings.inputs 0 = some laterJudged := by
  have returns : (judge plainWording laterFindings.inputs 0).isSome = true := by decide
  obtain ⟨judged, found⟩ := Option.isSome_iff_exists.mp returns
  rw [laterJudged, found]
  rfl

/-- The later run raises a row, rewrites one and resolves one. -/
theorem laterFindings_exact : ∃ standing first after,
    execute plainWording (fun _ => true) Table.empty firstFindings = some (standing, first) ∧
      execute plainWording (fun _ => true) standing laterFindings = some (after, ⟨1, 1, 1⟩) ∧
        RowsExact plainWording (fun _ => true) standing after laterFindings laterJudged := by
  have counts : ((execute plainWording (fun _ => true) Table.empty firstFindings).bind fun first =>
      (execute plainWording (fun _ => true) first.1 laterFindings).map Prod.snd) = some ⟨1, 1, 1⟩ := by
    decide
  obtain ⟨⟨standing, first⟩, ran, later⟩ := Option.bind_eq_some_iff.mp counts
  have agree : (laterJudged.all fun judgement => judgement.severity ≠ .info &&
      laterJudged.all fun other =>
        judgement.title ≠ other.title || (judgement.message = other.message &&
          Json.equal (.obj judgement.draft.details.entries) (.obj other.draft.details.entries))) =
          true := by
    decide
  simp only [List.all_eq_true, Bool.and_eq_true, Bool.or_eq_true, decide_eq_true_eq] at agree
  have once : SaysOnce plainWording (fun _ => true) standing laterFindings laterJudged :=
    { judges := fun now => (judge_clockless rfl 0 now).trans laterFindings_judges
      accepted := fun _ _ => rfl
      agree := fun judgement member other inside same =>
        ((agree judgement member).2 other inside).resolve_left (not_not_intro same)
      rung := fun judgement member quiet => absurd quiet (agree judgement member).1 }
  have reached := EstateReached.run _ standing firstFindings first (empty_reached _ _) ran
  obtain ⟨after, summary, returns, exact_⟩ := judged_rows_exact reached once
  rw [returns, Option.map_some, Option.some.injEq] at later
  cases later
  exact ⟨standing, first, after, ran, returns, exact_⟩

/-- Two findings on one port: one row, which each run rewrites. -/
def twoFindings : EstateRun :=
  findingsRun [portFinding 5432 "unclaimed" "port 5432 is listening unclaimed",
    portFinding 5432 "mismatch" "port 5432 is claimed by another project"] .empty

/-- The second of two runs on the same payloads rewrites the row that the first one raised. -/
theorem twoFindings_refreshed : ∃ after summary judged,
    execute plainWording (fun _ => true) Table.empty twoFindings = some (after, summary) ∧
      judge plainWording twoFindings.inputs twoFindings.now = some judged ∧
        ¬ RowsExact plainWording (fun _ => true) Table.empty after twoFindings judged := by
  have counts : ((execute plainWording (fun _ => true) Table.empty twoFindings).bind fun first =>
      (execute plainWording (fun _ => true) first.1 twoFindings).map Prod.snd) = some ⟨0, 1, 0⟩ := by
    decide
  obtain ⟨⟨after, summary⟩, first, again⟩ := Option.bind_eq_some_iff.mp counts
  obtain ⟨judged, judges, _⟩ := execute_ran (empty_reached plainWording fun _ => true).filed first
  refine ⟨after, summary, judged, first, judges, ?_⟩
  intro exact_
  rw [exact_.repeated twoFindings rfl] at again
  cases again

/-! How loud the rows of the judge are, against the rungs of its last run. -/

/-- Every open row whose title was judged is as loud as each judgement of it. -/
def AsLoud (table : AlertTable) (judged : List Judgement) : Prop :=
  ∀ judgement ∈ judged, ∀ row, table.openRow? (estateJudge, judgement.title) = some row →
    judgement.severity.order ≤ row.severity.order

/-- No judgement is louder than the row that stands under its title, and a title that stands is
not judged `info` and louder at once; of a title that does not, none is louder than the first. -/
def NeverRises (before : AlertTable) (judged : List Judgement) : Prop :=
  ∀ judgement ∈ judged, match before.openRow? (estateJudge, judgement.title) with
    | some row => judgement.severity.order ≤ row.severity.order ∧
        ∀ other ∈ judged, other.title = judgement.title → other.severity = .info →
          judgement.severity = .info
    | none => ∀ first, judged.find? (fun other => other.title = judgement.title) = some first →
        judgement.severity.order ≤ first.severity.order

/-- The table a run leaves: one that raises is rolled back. -/
def tableAfter (wording : Wording) (accepts : Draft → Bool) (before : AlertTable)
    (run : EstateRun) : AlertTable :=
  ((execute wording accepts before run).map Prod.fst).getD before

theorem order_le_info {severity : Severity} :
    severity.order ≤ Severity.info.order ↔ severity = .info := by
  cases severity <;> simp [Severity.order]

section

variable {wording : Wording} {accepts : Draft → Bool} {before after : AlertTable} {run : EstateRun}
  {judged : List Judgement}

theorem refreshAlert_severity (row : Alert) (draft : Draft) :
    ((refreshAlert row draft).getD row).severity =
    if draft.severity = .info then .info else row.severity := by
  cases refreshed : refreshAlert row draft with
  | none =>
    have loud := (refreshAlert_eq_none.mp refreshed).1
    rw [Bool.eq_false_iff, ne_eq, mayQuietenInPlace_iff] at loud
    rw [Option.getD_none]
    split
    · rename_i quiet
      by_contra above
      exact loud ⟨quiet, above⟩
    · rfl
  | some updated =>
    rw [Option.getD_some, refreshAlert_some refreshed]
    by_cases quietens : mayQuietenInPlace draft.severity row.severity = true
    · have quiet := (mayQuietenInPlace_iff.mp quietens).1
      rw [if_pos quiet]
      exact (if_pos quietens).trans quiet
    · refine (if_neg quietens).trans ?_
      split
      · rename_i quiet
        by_contra above
        exact quietens (mayQuietenInPlace_iff.mpr ⟨quiet, above⟩)
      · rfl

theorem refreshAll_loud {row : Alert} {judged : List Judgement}
    (loud : ∀ judgement ∈ judged, judgement.severity ≠ .info) :
    (refreshAll row judged).severity = row.severity := by
  induction judged generalizing row with
  | nil => rfl
  | cons judgement rest ih =>
    obtain ⟨here, later⟩ := List.forall_mem_cons.mp loud
    rw [refreshAll, List.foldl_cons, ← refreshAll, ih later, refreshAlert_severity]
    exact if_neg here

theorem refreshAll_info {row : Alert} {judged : List Judgement}
    (quiet : row.severity = .info ∨ ∃ judgement ∈ judged, judgement.severity = .info) :
    (refreshAll row judged).severity = .info := by
  induction judged generalizing row with
  | nil =>
    rcases quiet with already | found
    · exact already
    · obtain ⟨judgement, member, _⟩ := found
      cases member
  | cons judgement rest ih =>
    rw [refreshAll, List.foldl_cons, ← refreshAll]
    apply ih
    rw [refreshAlert_severity]
    rcases quiet with already | found
    · exact Or.inl (by rw [already, ite_self])
    · obtain ⟨other, member, info⟩ := found
      rcases List.mem_cons.mp member with here | later
      · exact Or.inl (if_pos (here ▸ info))
      · exact Or.inr ⟨other, later, info⟩

theorem Ran.asLoud_iff {pulled : Pulled} (ran : Ran pulled before after judged) :
    AsLoud after judged ↔ NeverRises before judged := by
  refine forall₂_congr fun judgement member => ?_
  cases found : before.openRow? (estateJudge, judgement.title) with
  | some row =>
    rw [ran.stood _ row found (List.mem_map_of_mem member)]
    simp only [Option.some.injEq, forall_eq']
    by_cases quiet : ∃ other ∈ judged, other.title = judgement.title ∧ other.severity = .info
    · obtain ⟨other, inside, same, info⟩ := quiet
      rw [refreshAll_info
        (Or.inr ⟨other, List.mem_filter.mpr ⟨inside, decide_eq_true same⟩, info⟩), order_le_info]
      constructor
      · intro falls
        exact ⟨by simp [falls, Severity.order], fun _ _ _ _ => falls⟩
      · intro both
        exact both.2 other inside same info
    · have loud : ∀ other ∈ judged.filter (fun other => other.title = judgement.title),
          other.severity ≠ .info := by
        intro other inside info
        obtain ⟨member, same⟩ := List.mem_filter.mp inside
        exact quiet ⟨other, member, of_decide_eq_true same, info⟩
      rw [refreshAll_loud loud]
      constructor
      · intro stands
        exact ⟨stands, fun other inside same info => absurd ⟨other, inside, same, info⟩ quiet⟩
      · exact And.left
  | none =>
    obtain ⟨first, isFirst⟩ := exists_first member
    obtain ⟨row, stands, speaks⟩ := ran.raised _ first found isFirst
    rw [stands, isFirst]
    simp only [Option.some.injEq, forall_eq', speaks.severity]
    exact Iff.rfl

end

/-- Whatever ran before: a run that returns leaves every judged row as loud as it is now judged
just when no rung has risen, and where none has, a run that is rolled back does so too. -/
theorem asLoud_iff_neverRises {wording : Wording} {accepts : Draft → Bool} {before : AlertTable}
    {run : EstateRun} {judged : List Judgement} (reached : EstateReached wording accepts before)
    (judges : judge wording run.inputs run.now = some judged) :
    (NeverRises before judged → AsLoud (tableAfter wording accepts before run) judged) ∧
      ((execute wording accepts before run).isSome →
        AsLoud (tableAfter wording accepts before run) judged → NeverRises before judged) := by
  cases returns : execute wording accepts before run with
  | some left =>
    obtain ⟨found, judgedAs, ran⟩ := execute_ran reached.filed returns
    cases judges.symm.trans judgedAs
    simp only [tableAfter, returns, Option.map_some, Option.getD_some]
    exact ⟨ran.asLoud_iff.mpr, fun _ => ran.asLoud_iff.mp⟩
  | none =>
    simp only [tableAfter, returns, Option.map_none, Option.getD_none]
    refine ⟨?_, fun impossible => by cases impossible⟩
    intro never judgement member row found
    have rung := never judgement member
    rw [found] at rung
    exact rung.1

/-- The port that is described anew and the one that has come are as loud as before. -/
theorem laterFindings_asLoud : ∃ standing first,
    execute plainWording (fun _ => true) Table.empty firstFindings = some (standing, first) ∧
      standing.openRows.length = 2 ∧
        AsLoud (tableAfter plainWording (fun _ => true) standing laterFindings) laterJudged := by
  have levels : (execute plainWording (fun _ => true) Table.empty firstFindings).any (fun first =>
      first.1.openRows.length = 2 && first.1.openRows.all (fun row => row.severity = .warning) &&
        laterJudged.all fun judgement => judgement.severity = .warning) = true := by
    decide
  obtain ⟨⟨standing, first⟩, ran, levels⟩ := (Option.any_eq_true _ _).mp levels
  simp only [Bool.and_eq_true, decide_eq_true_eq, List.all_eq_true] at levels
  obtain ⟨⟨two, rows⟩, judged⟩ := levels
  have never : NeverRises standing laterJudged := by
    intro judgement member
    cases found : standing.openRow? (estateJudge, judgement.title) with
    | some row =>
      refine ⟨by rw [judged _ member, rows _ (Table.openRow?_eq_some.mp found).1], ?_⟩
      intro other inside _ quiet
      rw [judged other inside] at quiet
      cases quiet
    | none =>
      intro first isFirst
      rw [judged _ member, judged _ (List.mem_of_find?_eq_some isFirst)]
  have reached := EstateReached.run _ standing firstFindings first (empty_reached _ _) ran
  exact ⟨standing, first, ran, two, (asLoud_iff_neverRises reached laterFindings_judges).1 never⟩

/-- The port 5432 is held by a session scope, and then by a unit. -/
def heldBy (holders transientHolders : List (Int × String)) : PortAttribution where
  holders := Dict.ofEntries (holders.map fun entry => (entry.1, text entry.2))
  transientHolders := Dict.ofEntries (transientHolders.map fun entry => (entry.1, text entry.2))
  observedAt := none
  unattributed := some []

def heldByScope : EstateRun :=
  findingsRun [portFinding 5432 "unclaimed" "port 5432 is listening unclaimed"]
  (heldBy [] [(5432, "user:app-code.scope")])

def heldByUnit : EstateRun :=
  findingsRun [portFinding 5432 "unclaimed" "port 5432 is listening unclaimed"]
  (heldBy [(5432, "system:postgresql.service")] [])

/-- The row stays at `info` when the breach is no longer a session scope's. -/
theorem heldByUnit_quiet : ∃ standing summary judged,
    execute plainWording (fun _ => true) Table.empty heldByScope = some (standing, summary) ∧
      judge plainWording heldByUnit.inputs heldByUnit.now = some judged ∧
        ¬ AsLoud (tableAfter plainWording (fun _ => true) standing heldByUnit) judged := by
  have quieter : ((execute plainWording (fun _ => true) Table.empty heldByScope).bind fun first =>
      (judge plainWording heldByUnit.inputs heldByUnit.now).map fun judged =>
        judged.any fun judgement =>
        ((tableAfter plainWording (fun _ => true) first.1 heldByUnit).openRow?
          (estateJudge, judgement.title)).any
          fun row => row.severity.order < judgement.severity.order) = some true := by
    decide
  obtain ⟨⟨standing, summary⟩, first, later⟩ := Option.bind_eq_some_iff.mp quieter
  obtain ⟨judged, judges, quieter⟩ := Option.map_eq_some_iff.mp later
  obtain ⟨judgement, member, quieter⟩ := List.any_eq_true.mp quieter
  obtain ⟨row, found, quieter⟩ := (Option.any_eq_true _ _).mp quieter
  refine ⟨standing, summary, judged, first, judges, ?_⟩
  intro asLoud
  exact absurd (asLoud judgement member row found) (Nat.not_le.mpr (of_decide_eq_true quieter))

end SysadminAssistant.Estate
