import SysadminAssistant.Estate.JudgedTitles
import SysadminAssistant.Library.LocalSteps

namespace SysadminAssistant.Estate

open Python SysadminAssistant.Core SysadminAssistant.Units Library

/-! Runs of the estate judge: what one judgement does to the table, and what a run leaves. -/

/-- Every open row of the judge names a surface, and is titled for it. -/
def Filed (table : AlertTable) : Prop :=
  ∀ row ∈ table.openRows, row.agent = estateJudge →
    ∃ surface : Surface, rowSurface row = some surface.name ∧ TitleOf surface row.title

/-- A row of a surface that was not read. -/
def OfUnread (pulled : Pulled) (row : Alert) : Prop :=
  row.agent = estateJudge ∧
    ∃ surface : Surface, (pulled.result surface).read = false ∧ rowSurface row = some surface.name

/-- A standing row after every judgement that bears its title. -/
def refreshAll (row : Alert) (judged : List Judgement) : Alert :=
  judged.foldl (fun row judgement => (refreshAlert row judgement.draft).getD row) row

structure Says (row : Alert) (draft : Draft) : Prop where
  severity : row.severity = draft.severity
  message : row.message = draft.message
  details : row.details = draft.details

theorem surface_name_injective {surface other : Surface} (same : surface.name = other.name) :
    surface = other := by
  revert same
  cases surface <;> cases other <;> decide

theorem draft_surface (judgement : Judgement) :
    (judgement.draft.details.get? surfaceDetailKey).bind Json.text? = some judgement.surface.name := by
  simp [Judgement.draft, Json.text?]

theorem mem_standing {table : AlertTable} {title : Text} :
    title ∈ (activeAlerts table estateJudge).map Alert.title ↔
      (table.openRow? (estateJudge, title)).isSome := by
  rw [List.mem_map, Option.isSome_iff_exists]
  constructor
  · intro found
    obtain ⟨row, member, same⟩ := found
    obtain ⟨inOpen, agent⟩ := List.mem_filter.mp member
    exact ⟨row, Table.openRow?_eq_some.mpr ⟨inOpen, Prod.ext (of_decide_eq_true agent) same⟩⟩
  · intro found
    obtain ⟨row, found⟩ := found
    obtain ⟨inOpen, key⟩ := Table.openRow?_eq_some.mp found
    exact ⟨row, List.mem_filter.mpr ⟨inOpen, decide_eq_true (congrArg Prod.fst key)⟩,
      congrArg Prod.snd key⟩

/-! ## One judgement -/

/-- What the loop has done once the judgements `done` are written. -/
structure Wrote (pulled : Pulled) (before : AlertTable) (done : List Judgement)
    (judging : Judging) : Prop where
  titles : ∀ title, title ∈ judging.openTitles ↔
    (before.openRow? (estateJudge, title)).isSome ∨ title ∈ done.map Judgement.title
  held : ∀ title row, before.openRow? (estateJudge, title) = some row →
    judging.table.openRow? (estateJudge, title) =
      some (refreshAll row (done.filter fun judgement => judgement.title = title))
  fresh : ∀ title, before.openRow? (estateJudge, title) = none →
    (∀ first, done.find? (fun judgement => judgement.title = title) = some first →
      ∃ row, judging.table.openRow? (estateJudge, title) = some row ∧ Says row first.draft) ∧
    (done.find? (fun judgement => judgement.title = title) = none →
      judging.table.openRow? (estateJudge, title) = none)
  filed : Filed judging.table
  kept : ∀ row ∈ before.rows, ∃ later ∈ judging.table.rows,
    later.id = row.id ∧ later.agent = row.agent ∧ later.title = row.title
  unread : ∀ row, OfUnread pulled row → (row ∈ judging.table.rows ↔ row ∈ before.rows)

section

variable {accepts : Draft → Bool} {pulled : Pulled} {before : AlertTable} {stamp : Int}
  {done : List Judgement} {judging next : Judging} {judgement : Judgement}

theorem wrote_start (filed : Filed before) : Wrote pulled before []
    ⟨before, (activeAlerts before estateJudge).map Alert.title, 0, 0⟩ where
  titles title := by rw [mem_standing]; simp
  held title row found := found
  fresh title absent := ⟨fun first found => (by cases found), fun _ => absent⟩
  filed := filed
  kept row member := ⟨row, member, rfl, rfl, rfl⟩
  unread _ _ := Iff.rfl

theorem refreshAll_append (row : Alert) (judged : List Judgement) (judgement : Judgement) :
    refreshAll row (judged ++ [judgement]) =
      (refreshAlert (refreshAll row judged) judgement.draft).getD (refreshAll row judged) := by
  rw [refreshAll, List.foldl_append]
  rfl

theorem filter_append_other {title : Text} (apart : judgement.title ≠ title) :
    (done ++ [judgement]).filter (fun other => other.title = title) =
      done.filter fun other => other.title = title := by
  simp [apart]

theorem find?_append_other {title : Text} (apart : judgement.title ≠ title) :
    (done ++ [judgement]).find? (fun other => other.title = title) =
      done.find? fun other => other.title = title := by
  simp [apart]

theorem Wrote.titles_known (wrote : Wrote pulled before done judging)
    (known : judgement.title ∈ judging.openTitles) (title : Text) :
    title ∈ judging.openTitles ↔ (before.openRow? (estateJudge, title)).isSome ∨
      title ∈ (done ++ [judgement]).map Judgement.title := by
  rw [wrote.titles, List.map_append, List.mem_append, List.map_singleton, List.mem_singleton]
  constructor
  · exact Or.imp_right Or.inl
  · intro found
    rcases found with stands | earlier | here
    · exact Or.inl stands
    · exact Or.inr earlier
    · exact here ▸ (wrote.titles _).mp known

theorem Wrote.hold (wrote : Wrote pulled before done judging) {row : Alert}
    (found : before.openRow? (estateJudge, judgement.title) = some row)
    (same : refreshAlert (refreshAll row (done.filter fun other => other.title = judgement.title))
      judgement.draft = none) : Wrote pulled before (done ++ [judgement]) judging where
  titles :=
    wrote.titles_known ((wrote.titles _).mpr (Or.inl (Option.isSome_iff_exists.mpr ⟨row, found⟩)))
  held title other there := by
    by_cases apart : judgement.title = title
    · subst apart
      cases found.symm.trans there
      rw [wrote.held _ row found, List.filter_append]
      simp [refreshAll_append, same]
    · rw [filter_append_other apart]
      exact wrote.held title other there
  fresh title absent := by
    have apart : judgement.title ≠ title := by
      intro equal
      rw [← equal, found] at absent
      cases absent
    rw [find?_append_other apart]
    exact wrote.fresh title absent
  filed := wrote.filed
  kept := wrote.kept
  unread := wrote.unread

theorem Wrote.suppress (wrote : Wrote pulled before done judging)
    (absent : before.openRow? (estateJudge, judgement.title) = none)
    (earlier : judgement.title ∈ done.map Judgement.title) :
    Wrote pulled before (done ++ [judgement]) judging where
  titles := wrote.titles_known ((wrote.titles _).mpr (Or.inr earlier))
  held title row found := by
    have apart : judgement.title ≠ title := by
      intro equal
      rw [← equal, absent] at found
      cases found
    rw [filter_append_other apart]
    exact wrote.held title row found
  fresh title vacant := by
    by_cases apart : judgement.title = title
    · subst apart
      obtain ⟨other, inside, same⟩ := List.mem_map.mp earlier
      have stands : (done.find? fun other => other.title = judgement.title).isSome := by
        rw [List.find?_isSome]
        exact ⟨other, inside, decide_eq_true same⟩
      rw [List.find?_append, Option.or_of_isSome stands]
      exact wrote.fresh judgement.title vacant
    · rw [find?_append_other apart]
      exact wrote.fresh title vacant
  filed := wrote.filed
  kept := wrote.kept
  unread := wrote.unread

theorem not_ofUnread {row : Alert} {surface other : Surface} (titled : TitleOf surface row.title)
    (read : (pulled.result surface).read = true) (named : rowSurface row = some other.name)
    (filed : TitleOf other row.title) : ¬ OfUnread pulled row := by
  intro unread
  obtain ⟨_, missing, notRead, itsSurface⟩ := unread
  have same : other = missing := surface_name_injective (Option.some.inj (named.symm.trans itsSurface))
  rw [← same, ← titled.unique filed, read] at notRead
  cases notRead

theorem Wrote.refresh (wrote : Wrote pulled before done judging) {row current updated : Alert}
    (found : before.openRow? (estateJudge, judgement.title) = some row)
    (held : judging.table.openRow? (estateJudge, judgement.title) = some current)
    (refreshed : refreshAlert current judgement.draft = some updated)
    (titled : TitleOf judgement.surface judgement.title)
    (read : (pulled.result judgement.surface).read = true) (count : Nat) :
    Wrote pulled before (done ++ [judgement])
      { judging with table := judging.table.amend (rewriting updated), refreshed := count } := by
  obtain ⟨inOpen, key⟩ := Table.openRow?_eq_some.mp held
  have inRows : current ∈ judging.table.rows := List.mem_of_mem_filter inOpen
  have agent : current.agent = estateJudge := congrArg Prod.fst key
  have title : current.title = judgement.title := congrArg Prod.snd key
  have shape := refreshAlert_some refreshed
  have sameId : updated.id = current.id := by rw [shape]
  have names : rowSurface updated = some judgement.surface.name := by
    rw [shape]
    exact draft_surface judgement
  have elsewhere : ∀ other ∈ judging.table.rows, other ≠ current →
      (rewriting updated).apply other = other := by
    intro other member different
    refine if_neg fun equal => different ?_
    exact Table.ident_injective member inRows (equal.trans sameId)
  have here : (rewriting updated).apply current = updated := rewriting_refreshed refreshed
  refine ⟨wrote.titles_known
    ((wrote.titles _).mpr (Or.inl (Option.isSome_iff_exists.mpr ⟨row, found⟩))), ?_, ?_, ?_, ?_, ?_⟩
  · intro wanted other there
    by_cases apart : judgement.title = wanted
    · subst apart
      cases found.symm.trans there
      have was : current = refreshAll row (done.filter fun other => other.title = judgement.title) :=
        Option.some.inj (held.symm.trans (wrote.held _ row found))
      rw [List.filter_append, openRow?_rewriting, held, Option.map_some, here]
      simp [refreshAll_append, ← was, refreshed]
    · rw [filter_append_other apart, openRow?_rewriting_other held sameId (by simpa using apart)]
      exact wrote.held wanted other there
  · intro wanted absent
    have apart : judgement.title ≠ wanted := by
      intro equal
      rw [← equal, found] at absent
      cases absent
    rw [find?_append_other apart, openRow?_rewriting_other held sameId (by simpa using apart)]
    exact wrote.fresh wanted absent
  · intro other member ours
    obtain ⟨old, oldOpen, same, _⟩ := Table.mem_openRows_amend.mp member
    by_cases moved : old = current
    · subst moved
      rw [here] at same
      refine ⟨judgement.surface, same ▸ names, ?_⟩
      rw [← same, shape]
      exact title ▸ titled
    · rw [elsewhere old (List.mem_of_mem_filter oldOpen) moved] at same
      exact wrote.filed other (same ▸ oldOpen) ours
  · intro earlier member
    obtain ⟨later, inside, idKept, agentKept, titleKept⟩ := wrote.kept earlier member
    refine ⟨_, List.mem_map_of_mem inside, ?_⟩
    by_cases moved : later = current
    · subst moved
      rw [here, shape]
      exact ⟨idKept, agentKept, titleKept⟩
    · rw [elsewhere later inside moved]
      exact ⟨idKept, agentKept, titleKept⟩
  · intro other unread
    rw [← wrote.unread other unread]
    obtain ⟨surface, named, filed⟩ := wrote.filed current inOpen agent
    have notCurrent : other ≠ current := by
      intro equal
      subst equal
      exact not_ofUnread (title ▸ titled) read named filed unread
    constructor
    · intro member
      obtain ⟨old, inside, same⟩ := List.mem_map.mp member
      by_cases moved : old = current
      · subst moved
        rw [here] at same
        have updatedTitled : TitleOf judgement.surface other.title := by
          rw [← same, shape]
          exact title ▸ titled
        exact absurd unread (not_ofUnread updatedTitled read (same ▸ names) updatedTitled)
      · rw [elsewhere old inside moved] at same
        exact same ▸ inside
    · intro member
      exact List.mem_map.mpr ⟨other, member, elsewhere other member notCurrent⟩

theorem Wrote.raise (wrote : Wrote pulled before done judging) {table : AlertTable}
    (absent : before.openRow? (estateJudge, judgement.title) = none)
    (new : judgement.title ∉ done.map Judgement.title)
    (raised : raiseAlert judging.table estateJudge stamp judgement.draft = some table)
    (titled : TitleOf judgement.surface judgement.title)
    (read : (pulled.result judgement.surface).read = true) (count : Nat) :
    Wrote pulled before (done ++ [judgement])
      { judging with table, openTitles := judgement.title :: judging.openTitles, raised := count } := by
  have grown : table.rows = judging.table.rows ++
      [newAlert judging.table estateJudge stamp judgement.draft] :=
    Table.insert?_rows raised
  have names : rowSurface (newAlert judging.table estateJudge stamp judgement.draft) =
      some judgement.surface.name := draft_surface judgement
  have nobody : (done.find? fun other => other.title = judgement.title) = none := by
    rw [List.find?_eq_none]
    intro other inside
    have different : other.title ≠ judgement.title :=
      fun equal => new (List.mem_map.mpr ⟨other, inside, equal⟩)
    simpa using different
  refine ⟨?_, ?_, ?_, ?_, ?_, ?_⟩
  · intro title
    rw [List.mem_cons, wrote.titles, List.map_append, List.mem_append, List.map_singleton,
      List.mem_singleton]
    exact ⟨fun known => known.elim (fun here => Or.inr (Or.inr here)) (Or.imp_right Or.inl),
      fun known => known.elim (fun stands => Or.inr (Or.inl stands))
        (fun later => later.elim (fun inside => Or.inr (Or.inr inside)) Or.inl)⟩
  · intro title row found
    have apart : judgement.title ≠ title := by
      intro equal
      rw [← equal, absent] at found
      cases found
    rw [filter_append_other apart, openRow?_raiseAlert raised,
      if_neg (by simpa [Judgement.draft] using apart)]
    exact wrote.held title row found
  · intro title vacant
    rw [openRow?_raiseAlert raised]
    by_cases apart : judgement.title = title
    · subst apart
      rw [List.find?_append, nobody,
        if_pos
        (show (estateJudge, judgement.draft.title) = (estateJudge, judgement.title) from rfl)]
      constructor
      · intro first found
        simp only [Option.none_or, List.find?_singleton, decide_true, if_true, Option.some.injEq]
          at found
        subst found
        exact ⟨_, rfl, rfl, rfl, rfl⟩
      · intro none_
        simp at none_
    · rw [find?_append_other apart, if_neg (by simpa [Judgement.draft] using apart)]
      exact wrote.fresh title vacant
  · intro row member ours
    simp only [Table.openRows, grown, List.filter_append, List.mem_append] at member
    rcases member with old | new
    · exact wrote.filed row old ours
    · rw [List.mem_singleton.mp (List.mem_of_mem_filter new)]
      exact ⟨judgement.surface, names, titled⟩
  · intro row member
    obtain ⟨later, inside, same⟩ := wrote.kept row member
    exact ⟨later, by rw [grown]; exact List.mem_append_left _ inside, same⟩
  · intro row unread
    rw [← wrote.unread row unread, grown, List.mem_append, List.mem_singleton]
    refine or_iff_left fun here => ?_
    subst here
    exact not_ofUnread titled read names titled unread

theorem writeJudgement_wrote (wrote : Wrote pulled before done judging)
    (titled : TitleOf judgement.surface judgement.title)
    (read : (pulled.result judgement.surface).read = true)
    (ran : writeJudgement accepts ((activeAlerts before estateJudge).map Alert.title) stamp
      judging judgement = some next) : Wrote pulled before (done ++ [judgement]) next := by
  rw [writeJudgement] at ran
  cases found : before.openRow? (estateJudge, judgement.title) with
  | some row =>
    have known : judgement.title ∈ judging.openTitles := by
      rw [wrote.titles, found]
      exact Or.inl rfl
    have standing : judgement.title ∈ (activeAlerts before estateJudge).map Alert.title := by
      rw [mem_standing, found]
      rfl
    have held := wrote.held _ row found
    rw [if_pos known, if_pos standing, held, Option.bind_some] at ran
    cases refreshed : refreshAlert (refreshAll row (done.filter fun other =>
      other.title = judgement.title))
        judgement.draft with
    | none =>
      rw [refreshed] at ran
      cases ran
      exact wrote.hold found refreshed
    | some updated =>
      rw [refreshed] at ran
      dsimp only at ran
      split at ran
      · cases ran
        exact wrote.refresh found held refreshed titled read _
      · cases ran
  | none =>
    have absent : judgement.title ∉ (activeAlerts before estateJudge).map Alert.title := by
      rw [mem_standing, found]
      simp
    by_cases earlier : judgement.title ∈ done.map Judgement.title
    · have known : judgement.title ∈ judging.openTitles := (wrote.titles _).mpr (Or.inr earlier)
      rw [if_pos known, if_neg absent] at ran
      cases ran
      exact wrote.suppress found earlier
    · have new : judgement.title ∉ judging.openTitles := by
        rw [wrote.titles, found]
        simpa using earlier
      rw [if_neg new] at ran
      split at ran
      · obtain ⟨table, raised, same⟩ := Option.map_eq_some_iff.mp ran
        cases same
        exact wrote.raise found earlier raised titled read _
      · cases ran

theorem writeJudgement_accepted (wrote : Wrote pulled before done judging)
    (accepted : accepts judgement.draft = true) : ∃ next, writeJudgement accepts
      ((activeAlerts before estateJudge).map Alert.title) stamp judging judgement = some next := by
  rw [writeJudgement]
  by_cases known : judgement.title ∈ judging.openTitles
  · simp only [if_pos known, accepted]
    split
    · split <;> exact ⟨_, rfl⟩
    · exact ⟨_, rfl⟩
  · have vacant : judging.table.openRow? (estateJudge, judgement.draft.title) = none := by
      rw [wrote.titles, not_or] at known
      have absent := Option.not_isSome_iff_eq_none.mp known.1
      refine (wrote.fresh judgement.title absent).2 ?_
      rw [List.find?_eq_none]
      intro other inside
      have different : other.title ≠ judgement.title :=
        fun equal => known.2 (List.mem_map.mpr ⟨other, inside, equal⟩)
      simpa using different
    obtain ⟨table, raised⟩ := raiseAlert_enabled stamp vacant
    rw [if_neg known, if_pos accepted, raised]
    exact ⟨_, rfl⟩

theorem foldlM_wrote {rest : List Judgement} (wrote : Wrote pulled before done judging)
    (sound : ∀ judgement ∈ rest, TitleOf judgement.surface judgement.title ∧
      (pulled.result judgement.surface).read = true) :
    (∀ last,
      rest.foldlM
      (writeJudgement accepts ((activeAlerts before estateJudge).map Alert.title) stamp) judging =
      some last → Wrote pulled before (done ++ rest) last) ∧
    ((∀ judgement ∈ rest, accepts judgement.draft = true) → ∃ last,
      rest.foldlM
      (writeJudgement accepts ((activeAlerts before estateJudge).map Alert.title) stamp) judging =
        some last) := by
  induction rest generalizing done judging with
  | nil =>
    refine ⟨?_, fun _ => ⟨judging, rfl⟩⟩
    intro last ran
    cases ran
    rwa [List.append_nil]
  | cons judgement rest ih =>
    obtain ⟨⟨titled, read⟩, others⟩ := List.forall_mem_cons.mp sound
    constructor
    · intro last ran
      obtain ⟨next, wroteOne, ran⟩ := foldlM_cons_some.mp ran
      have later := (ih (writeJudgement_wrote wrote titled read wroteOne) others).1 last ran
      rwa [List.append_assoc] at later
    · intro accepted
      obtain ⟨here, later⟩ := List.forall_mem_cons.mp accepted
      obtain ⟨next, wroteOne⟩ := writeJudgement_accepted wrote here
      obtain ⟨last, ran⟩ := (ih (writeJudgement_wrote wrote titled read wroteOne) others).2 later
      exact ⟨last, foldlM_cons_some.mpr ⟨next, wroteOne, ran⟩⟩

end

end SysadminAssistant.Estate
