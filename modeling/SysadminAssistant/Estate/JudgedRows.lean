import SysadminAssistant.Estate.EstateRuns

namespace SysadminAssistant.Estate

open Python SysadminAssistant.Core SysadminAssistant.Units Library

/-! The rows of the judge after a run are its judgements, surface by surface. -/

/-- What a run leaves, of the judgements it made. -/
structure Ran (pulled : Pulled) (before after : AlertTable) (judged : List Judgement) : Prop where
  stood : ∀ title row, before.openRow? (estateJudge, title) = some row →
    title ∈ judged.map Judgement.title → after.openRow? (estateJudge, title) =
      some (refreshAll row (judged.filter fun judgement => judgement.title = title))
  raised : ∀ title first, before.openRow? (estateJudge, title) = none →
    judged.find? (fun judgement => judgement.title = title) = some first →
      ∃ row, after.openRow? (estateJudge, title) = some row ∧ Says row first.draft
  others : ∀ title row, title ∉ judged.map Judgement.title →
    (after.openRow? (estateJudge, title) = some row ↔ before.openRow? (estateJudge, title) = some row ∧
      ∀ surface : Surface, rowSurface row = some surface.name → (pulled.result surface).read = false)
  unread : ∀ row, OfUnread pulled row → (row ∈ after.rows ↔ row ∈ before.rows)
  filed : Filed after

section

variable {wording : Wording} {accepts : Draft → Bool} {pulled : Pulled} {before after : AlertTable}
  {judged : List Judgement} {judging : Judging} {run : EstateRun} {summary : EstateSummary}

theorem mem_goneIds {alerts : List Alert} {current : List Text} {id : Nat} :
    id ∈ goneIds pulled alerts current ↔ ∃ row ∈ alerts, row.id = id ∧ row.title ∉ current ∧
      ∃ surface :
        Surface, (pulled.result surface).read = true ∧ rowSurface row = some surface.name := by
  simp only [goneIds, List.mem_map, List.mem_filter, Bool.and_eq_true, decide_eq_true_eq,
    List.any_eq_true]
  constructor
  · intro gone
    obtain ⟨row, ⟨member, absent, surface, _, read, named⟩, same⟩ := gone
    exact ⟨row, member, same, absent, surface, read, named⟩
  · intro gone
    obtain ⟨row, member, same, absent, surface, read, named⟩ := gone
    exact ⟨row, ⟨member, absent, surface, mem_judgedSurfaces surface, read, named⟩, same⟩

theorem mem_activeAlerts {table : AlertTable} {row : Alert} :
    row ∈ activeAlerts table estateJudge ↔ row ∈ table.openRows ∧ row.agent = estateJudge := by
  simp [activeAlerts]

theorem Wrote.gone (wrote : Wrote pulled before judged judging) {row : Alert}
    (member : row ∈ judging.table.rows)
    (gone : row.id ∈ goneIds pulled (activeAlerts before estateJudge) (judged.map Judgement.title)) :
    row.title ∉ judged.map Judgement.title ∧ ∃ old ∈ before.rows, old.id = row.id ∧
      ∃ surface :
        Surface, (pulled.result surface).read = true ∧ rowSurface old = some surface.name := by
  obtain ⟨old, active, same, absent, read⟩ := mem_goneIds.mp gone
  have inRows : old ∈ before.rows := List.mem_of_mem_filter (mem_activeAlerts.mp active).1
  obtain ⟨later, inside, sameId, _, sameTitle⟩ := wrote.kept old inRows
  have one : later = row := Table.ident_injective inside member (sameId.trans same)
  refine ⟨?_, old, inRows, same, read⟩
  rw [← one, sameTitle]
  exact absent

/-- The end of a run: the table as the loop left it, less what has gone. -/
def settle (pulled : Pulled) (before table : AlertTable) (judged : List Judgement)
    (closedAt : Int) : AlertTable :=
  let gone := goneIds pulled (activeAlerts before estateJudge) (judged.map Judgement.title)
  if gone = [] then table else resolveAlertIds table gone closedAt

theorem openRow?_settle (table : AlertTable) (closedAt : Int) (key : Text × Text) :
    (settle pulled before table judged closedAt).openRow? key = (table.openRow? key).filter fun row =>
      row.id ∉ goneIds pulled (activeAlerts before estateJudge) (judged.map Judgement.title) := by
  rw [settle]
  split
  · rename_i none_
    cases found : table.openRow? key <;> simp [none_, Option.filter]
  · exact openRow?_resolveAlertIds table _ closedAt key

theorem settle_rows (table : AlertTable) (closedAt : Int) :
    (settle pulled before table judged closedAt).rows = table.rows.map (resolving (fun row => decide
      (row.id ∈ goneIds pulled (activeAlerts before estateJudge) (judged.map Judgement.title)))
        closedAt).apply := by
  rw [settle]
  split
  · rename_i none_
    simp [none_, resolving]
  · rfl

theorem Wrote.openRow?_absent (wrote : Wrote pulled before judged judging) {title : Text}
    (absent : title ∉ judged.map Judgement.title) :
    judging.table.openRow? (estateJudge, title) = before.openRow? (estateJudge, title) := by
  have different : ∀ judgement ∈ judged, judgement.title ≠ title :=
    fun judgement member equal => absent (List.mem_map.mpr ⟨judgement, member, equal⟩)
  cases found : before.openRow? (estateJudge, title) with
  | some row =>
    rw [wrote.held title row found, List.filter_eq_nil_iff.mpr]
    · rfl
    · simpa using different
  | none =>
    refine (wrote.fresh title found).2 (List.find?_eq_none.mpr ?_)
    simpa using different

theorem Wrote.settle_ran (wrote : Wrote pulled before judged judging) (closedAt : Int) :
    Ran pulled before (settle pulled before judging.table judged closedAt) judged := by
  -- a row under a judged title is none of those resolved
  have stays : ∀ title row, title ∈ judged.map Judgement.title →
      judging.table.openRow? (estateJudge, title) = some row →
        (settle pulled before judging.table judged closedAt).openRow? (estateJudge, title) =
          some row := by
    intro title row judgedTitle found
    obtain ⟨inOpen, key⟩ := Table.openRow?_eq_some.mp found
    rw [openRow?_settle, found, Option.filter_some, if_pos]
    simp only [decide_eq_true_eq]
    intro gone
    refine (wrote.gone (List.mem_of_mem_filter inOpen) gone).1 ?_
    rwa [show row.title = title from congrArg Prod.snd key]
  refine ⟨?_, ?_, ?_, ?_, ?_⟩
  · intro title row found judgedTitle
    exact stays title _ judgedTitle (wrote.held title row found)
  · intro title first absent found
    obtain ⟨row, stands, speaks⟩ := (wrote.fresh title absent).1 first found
    have judgedTitle : title ∈ judged.map Judgement.title :=
      List.mem_map.mpr ⟨first, List.mem_of_find?_eq_some found, by simpa using List.find?_some found⟩
    exact ⟨row, stays title row judgedTitle stands, speaks⟩
  · intro title row absent
    rw [openRow?_settle, wrote.openRow?_absent absent, Option.filter_eq_some_iff]
    refine and_congr_right fun found => ?_
    obtain ⟨inOpen, key⟩ := Table.openRow?_eq_some.mp found
    have agent : row.agent = estateJudge := congrArg Prod.fst key
    have title : row.title = title := congrArg Prod.snd key
    simp only [decide_eq_true_eq]
    constructor
    · intro kept surface named
      by_contra read
      refine kept (mem_goneIds.mpr ⟨row, mem_activeAlerts.mpr ⟨inOpen, agent⟩, rfl, ?_,
        surface, ?_, named⟩)
      · rwa [title]
      · simpa using read
    · intro notRead gone
      obtain ⟨other, active, same, _, surface, read, named⟩ := mem_goneIds.mp gone
      have one : other = row :=
        Table.ident_injective (List.mem_of_mem_filter (mem_activeAlerts.mp active).1)
        (List.mem_of_mem_filter inOpen) same
      rw [notRead surface (one ▸ named)] at read
      cases read
  · intro row unread
    rw [← wrote.unread row unread, settle_rows]
    have spared : ∀ other ∈ judging.table.rows, OfUnread pulled other → other.id ∉
        goneIds pulled (activeAlerts before estateJudge) (judged.map Judgement.title) := by
      intro other member ofUnread gone
      obtain ⟨_, old, inBefore, same, surface, read, named⟩ := wrote.gone member gone
      have one : old = other :=
        Table.ident_injective inBefore ((wrote.unread other ofUnread).mp member) same
      obtain ⟨_, missing, notRead, itsSurface⟩ := ofUnread
      rw [one, itsSurface] at named
      rw [← surface_name_injective (Option.some.inj named), notRead] at read
      cases read
    constructor
    · intro member
      obtain ⟨old, inside, same⟩ := List.mem_map.mp member
      by_cases gone : old.id ∈ goneIds pulled (activeAlerts before estateJudge)
        (judged.map Judgement.title)
      · have ofUnread : OfUnread pulled old := by
          simp only [resolving, gone, decide_true, if_true] at same
          rwa [← same] at unread
        exact absurd gone (spared old inside ofUnread)
      · simp only [resolving, gone, decide_false, Bool.false_eq_true, if_false] at same
        exact same ▸ inside
    · intro member
      refine List.mem_map.mpr ⟨row, member, ?_⟩
      simp [resolving, spared row member unread]
  · intro row member ours
    refine wrote.filed row ?_ ours
    have found : (settle pulled before judging.table judged closedAt).openRow?
        (row.agent, row.title) = some row :=
      Table.openRow?_eq_some.mpr ⟨member, rfl⟩
    rw [openRow?_settle, Option.filter_eq_some_iff] at found
    exact (Table.openRow?_eq_some.mp found.1).1

theorem execute_ran (filed : Filed before)
    (ran : execute wording accepts before run = some (after, summary)) :
    ∃ judged, judge wording run.inputs run.now = some judged ∧
      Ran run.inputs.pulled before after judged := by
  obtain ⟨judged, judges, ran⟩ := Option.bind_eq_some_iff.mp ran
  obtain ⟨judging, wrote, ran⟩ := Option.bind_eq_some_iff.mp ran
  cases ran
  refine ⟨judged, judges, ?_⟩
  exact ((foldlM_wrote (wrote_start filed) fun judgement member => judge_titled judges member).1 _
    wrote).settle_ran run.closedAt

theorem execute_accepted (filed : Filed before)
    (judges : judge wording run.inputs run.now = some judged)
    (accepted : ∀ judgement ∈ judged, accepts judgement.draft = true) :
    ∃ after summary, execute wording accepts before run = some (after, summary) := by
  obtain ⟨judging, wrote⟩ := (foldlM_wrote (wrote_start filed)
    fun judgement member => judge_titled judges member).2 accepted
  exact ⟨_, _, Option.bind_eq_some_iff.mpr ⟨judged, judges,
    Option.bind_eq_some_iff.mpr ⟨judging, wrote, rfl⟩⟩⟩

/-! ## The same payloads again -/

theorem mayQuietenInPlace_info (standing : Severity) (judged : Severity)
    (quiet : judged = .info → standing = .info) : mayQuietenInPlace judged standing = false := by
  rw [Bool.eq_false_iff, ne_eq, mayQuietenInPlace_iff]
  intro both
  exact both.2 (quiet both.1)

theorem refreshAll_quiet {row : Alert} {judged : List Judgement}
    (agree : ∀ judgement ∈ judged, ∀ other ∈ judged, judgement.message = other.message ∧
      Json.equal (.obj judgement.draft.details.entries) (.obj other.draft.details.entries) = true) :
    ∀ judgement ∈ judged, refreshAlert (refreshAll row judged) judgement.draft = none := by
  -- one more judgement either finds the row as it says, or rewrites it as all the others say
  induction judged using List.reverseRecOn with
  | nil =>
    intro judgement member
    cases member
  | append_singleton earlier last ih =>
    have settled := ih fun judgement member other inside =>
      agree judgement (List.mem_append_left _ member) other (List.mem_append_left _ inside)
    have isLast : last ∈ earlier ++ [last] := List.mem_append_right _ List.mem_cons_self
    intro judgement member
    rw [refreshAll_append]
    cases refreshed : refreshAlert (refreshAll row earlier) last.draft with
    | none =>
      rcases List.mem_append.mp member with inside | here
      · exact settled judgement inside
      · rw [List.mem_singleton.mp here]
        exact refreshed
    | some updated =>
      obtain ⟨message, details⟩ := agree last isLast judgement member
      rw [Option.getD_some, refreshAlert_eq_none, refreshAlert_some refreshed]
      refine ⟨mayQuietenInPlace_info _ _ fun quiet => ?_, message, details⟩
      have info : judgement.severity = .info := quiet
      split
      · rename_i quietens
        exact (mayQuietenInPlace_iff.mp quietens).1
      · rename_i stays
        rcases List.mem_append.mp member with inside | here
        · have same := (refreshAlert_eq_none.mp (settled judgement inside)).1
          by_contra loud
          rw [Bool.eq_false_iff, ne_eq, mayQuietenInPlace_iff] at same
          exact same ⟨info, loud⟩
        · rw [List.mem_singleton.mp here] at info
          by_contra loud
          exact stays (mayQuietenInPlace_iff.mpr ⟨info, loud⟩)

theorem foldlM_still {table : AlertTable} {stamp : Int}
    (still : ∀ judgement ∈ judged, ∃ row, table.openRow? (estateJudge, judgement.title) = some row ∧
      refreshAlert row judgement.draft = none) :
    judged.foldlM (writeJudgement accepts ((activeAlerts table estateJudge).map Alert.title) stamp)
      ⟨table, (activeAlerts table estateJudge).map Alert.title, 0, 0⟩ =
        some ⟨table, (activeAlerts table estateJudge).map Alert.title, 0, 0⟩ := by
  induction judged with
  | nil => rfl
  | cons judgement rest ih =>
    obtain ⟨⟨row, found, same⟩, others⟩ := List.forall_mem_cons.mp still
    have standing : judgement.title ∈ (activeAlerts table estateJudge).map Alert.title := by
      rw [mem_standing, found]
      rfl
    have unchanged : writeJudgement accepts ((activeAlerts table estateJudge).map Alert.title) stamp
        ⟨table, (activeAlerts table estateJudge).map Alert.title, 0, 0⟩ judgement =
          some ⟨table, (activeAlerts table estateJudge).map Alert.title, 0, 0⟩ := by
      simp only [writeJudgement, if_pos standing, found, Option.bind_some, same]
    rw [List.foldlM_cons, unchanged]
    exact ih others

theorem Ran.nothing_gone (ran : Ran pulled before after judged) :
    goneIds pulled (activeAlerts after estateJudge) (judged.map Judgement.title) = [] := by
  rw [List.eq_nil_iff_forall_not_mem]
  intro id gone
  obtain ⟨row, active, _, absent, surface, read, named⟩ := mem_goneIds.mp gone
  obtain ⟨inOpen, agent⟩ := mem_activeAlerts.mp active
  have found : after.openRow? (estateJudge, row.title) = some row :=
    Table.openRow?_eq_some.mpr ⟨inOpen, Prod.ext agent rfl⟩
  rw [((ran.others row.title row absent).mp found).2 surface named] at read
  cases read

end

end SysadminAssistant.Estate
