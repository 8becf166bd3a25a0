import SysadminAssistant.Monitor.SoundEndings

namespace SysadminAssistant.Monitor.Desktop

open Python SysadminAssistant.Core Library

/-! Every outage that was spoken of gets one ending, from the first sweep that finds it
closed, in a history where the stamps and the looks agree. -/

variable {config : DesktopConfig} {title : Text}

theorem handle_sound {before after : Daemon} {index : Nat} {succeeds : Bool} {handling : Handling}
    (sound : Sound config title before) (found : before.handlers[index]? = some handling)
    (onTime : timely title before (.handler index succeeds) = true) (numbered : Numbered after)
    (moved : before.handle index succeeds handling = some after) : Sound config title after := by
  have gated : ∀ {next : Handling}, (∀ severity, next.severity? = some severity →
        handling.severity? = some severity) →
      ∀ (other : Nat) (held : Handling), (before.handlers.set index next)[other]? = some held →
        ∀ severity, held.severity? = some severity → loudEnough config severity = true := by
    intro next inherited other held present severity carried
    rw [List.getElem?_set] at present
    split at present
    · split at present
      · cases present
        exact sound.steady.gated index handling found severity (inherited severity carried)
      · contradiction
    · exact sound.steady.gated other held present severity carried
  obtain ⟨whole, onTime⟩ := Bool.and_eq_true_iff.mp onTime
  cases handling with
  | checking named severity toast =>
    simp only [Daemon.handle, Option.some.injEq] at moved
    subst moved
    refine ⟨numbered, ⟨sound.steady.quiet, sound.steady.rows, sound.steady.spoken, gated ?_,
      sound.steady.told⟩, sound.looks, sound.rungs, sound.covered, sound.bornOut⟩
    intro rung carried
    split at carried
    · exact carried
    · contradiction
  | sending named severity toast =>
    simp only [Daemon.handle, Option.some.injEq] at moved
    subst moved
    cases succeeds with
    | true => exact ⟨numbered, ⟨sound.steady.quiet, sound.steady.rows, sound.steady.spoken,
        gated (fun _ => id),
        by simpa using sound.steady.told⟩, sound.looks, sound.rungs, sound.covered,
        sound.bornOut⟩
    | false => exact ⟨numbered, ⟨sound.steady.quiet, sound.steady.rows, sound.steady.spoken,
        gated (by simp [Handling.severity?]), sound.steady.told⟩, sound.looks, sound.rungs,
        sound.covered, sound.bornOut⟩
  | landed named severity =>
    simp only [Daemon.handle, Option.some.injEq] at moved
    subst moved
    have loud := sound.steady.gated index _ found severity rfl
    refine ⟨numbered, ⟨sound.steady.quiet, sound.steady.rows, fun fault present => ?_, gated ?_,
      sound.steady.told⟩, sound.looks, sound.rungs, fun speaking => ?_, ?_⟩
    · simp only [Dict.get?_set] at present
      split at present
      · cases present
        exact loud
      · exact sound.steady.spoken fault present
    · intro rung carried
      split at carried <;> simp [Handling.severity?] at carried
    · by_cases same : named = title
      · change standing before.alerts title (before.mark title) = true
        simpa [found, same] using onTime
      · apply sound.covered
        simpa [Daemon.speaksFor, Dict.get?_set, same] using speaking
    · refine bornOut_mono (fun _ _ => id) (fun answer answered speaking => ?_) sound.bornOut
      by_cases same : named = title
      · right
        change before.sweep.answer? = some answer at answered
        cases phase : before.sweep <;> simp only [phase, Sweeping.answer?, reduceCtorEq] at answered
        cases answered
        simpa [lookedWhole, found, phase, same] using whole
      · left
        simpa [Daemon.speaksFor, Dict.get?_set, same] using speaking
  | storing fault row =>
    simp only [Daemon.handle, Option.some.injEq] at moved
    subst moved
    exact ⟨numbered, ⟨sound.steady.quiet, sound.steady.rows, sound.steady.spoken,
      gated (by simp [Handling.severity?]), sound.steady.told⟩, sound.looks, sound.rungs,
      sound.covered, sound.bornOut⟩
  | done => simp [Daemon.handle] at moved

theorem rows_sound {daemon : Daemon} {alerts : List Alert} {closings : List Closing}
    (sound : Sound config title daemon) (rows : rungHolds config alerts title = true)
    (kept : ∀ mark ∈ daemon.watermarks, closedBy daemon.alerts title mark = true →
      closedBy alerts title mark = true)
    (covered : daemon.speaksFor title = true → standing alerts title (daemon.mark title) = true)
    (numbered : Numbered { daemon with alerts, closings }) :
    Sound config title { daemon with alerts, closings } :=
  ⟨numbered, ⟨sound.steady.quiet, rows, sound.steady.spoken, sound.steady.gated, sound.steady.told⟩,
    sound.looks, sound.rungs, covered,
    bornOut_mono (fun look current => kept look.since (since_mem current))
    (fun _ _ => Or.inl) sound.bornOut⟩

theorem turn_sound {before after : Daemon} {turn : Turn} (sound : Sound config title before)
    (calm : uneventful config title before turn = true) (onTime : timely title before turn = true)
    (moved : before.turn turn = some after) : Sound config title after := by
  have numbered := sound.numbered.turn moved
  cases turn with
  | surroundings next =>
    simp only [Daemon.turn, Option.some.injEq] at moved
    subst moved
    exact ⟨numbered, ⟨(Bool.and_eq_true_iff.mp calm).1, sound.steady.rows, sound.steady.spoken,
      sound.steady.gated, sound.steady.told⟩, sound.looks, sound.rungs, sound.covered, sound.bornOut⟩
  | alerts next =>
    simp only [Daemon.turn, Option.some.injEq] at moved
    subst moved
    obtain ⟨rows, stays⟩ := Bool.and_eq_true_iff.mp calm
    have kept : ∀ mark ∈ before.watermarks, closedBy before.alerts title mark = true →
        closedBy next title mark = true := by
      intro mark member closed
      have still := List.all_eq_true.mp (Bool.and_eq_true_iff.mp onTime).2 mark member
      simpa [closed] using still
    refine rows_sound sound rows kept (fun speaking => ?_) numbered
    by_cases opened : openOf before.alerts title = []
    · exact standing_of_closed (kept _ (mark_mem before title)
        (closed_of_standing (sound.covered speaking) opened))
    · apply standing_of_open
      simpa [opened] using stays
  | stamp ids =>
    simp only [Daemon.turn, Option.some.injEq] at moved
    subst moved
    exact rows_sound sound sound.steady.rows (fun _ _ => id) sound.covered numbered
  | commit index =>
    obtain ⟨closing, present, shape⟩ := Option.map_eq_some_iff.mp moved
    subst shape
    refine rows_sound sound ?_ (fun _ _ => closedBy_apply closing) (fun speaking => ?_) numbered
    · exact List.all_eq_true.mpr fun alert member =>
        List.all_eq_true.mp sound.steady.rows alert (mem_openOf_apply member)
    · simpa [present, speaking] using (Bool.and_eq_true_iff.mp onTime).2
  | rollBack index =>
    simp only [Daemon.turn, Option.some.injEq] at moved
    subst moved
    exact rows_sound sound sound.steady.rows (fun _ _ => id) sound.covered numbered
  | alertRaised event =>
    simp only [Daemon.turn, Option.some.injEq] at moved
    subst moved
    refine ⟨numbered, ⟨sound.steady.quiet, sound.steady.rows, sound.steady.spoken, ?_,
      sound.steady.told⟩, sound.looks, sound.rungs, sound.covered, sound.bornOut⟩
    intro index handling present severity carried
    rw [List.getElem?_append] at present
    split at present
    · exact sound.steady.gated index handling present severity carried
    · rw [List.getElem?_singleton] at present
      split at present
      · cases present
        have configured := (quiet_iff.mp sound.steady.quiet).1
        simp only [onAlertRaised, configured] at carried
        split at carried
        · simp [Handling.severity?] at carried
        · rename_i spoken
          simp only [Handling.severity?, Option.some.injEq] at carried
          simp only [Bool.or_eq_true, decide_eq_true_eq, not_or, not_lt] at spoken
          rw [← carried, loudEnough, decide_eq_true_eq]
          exact spoken.1.1.2
      · contradiction
  | handler index succeeds =>
    obtain ⟨handling, present, handled⟩ := Option.bind_eq_some_iff.mp moved
    exact handle_sound sound present onTime numbered handled
  | sweepBegins =>
    simp only [Daemon.turn] at moved
    split at moved
    · rename_i resting
      cases moved
      obtain ⟨configured, enabled, _, _⟩ := quiet_iff.mp sound.steady.quiet
      have covered : before.speaksFor title = true →
          standing before.alerts title before.lookedAt = true := by
        simpa [Daemon.mark, resting] using sound.covered
      simp only [Daemon.beginSweep, configured, enabled, Bool.not_true,
        Bool.false_eq_true, if_false] at numbered ⊢
      split
      · rename_i loaded
        rw [if_pos loaded] at numbered
        exact afterLoad_sound rfl numbered sound.steady covered
      · rename_i unread
        rw [if_neg unread] at numbered
        exact ⟨numbered, ⟨sound.steady.quiet, sound.steady.rows, sound.steady.spoken,
          sound.steady.gated, sound.steady.told⟩,
          by simp [Sweeping.look?], by simp [Sweeping.rungs?], covered, trivial⟩
    · contradiction
  | sweep succeeds => exact sweep_sound sound calm onTime moved

theorem owed_of_plain {daemon : Daemon} (title : Text) (clearing : daemon.sweep.clearing = [])
    (unanswered : daemon.sweep.answer? = none) : daemon.owed title = 0 := by
  simp [Daemon.owed, clearing, unanswered]

/-- A sweep at rest owes nothing and has told nothing new. -/
structure Settled (title : Text) (before after : Daemon) : Prop where
  endings : after.endings title = before.endings title
  owed : after.owed title = 0

theorem settle_settled (daemon : Daemon) (look : Look) (answer : Dict Text Text) :
    Settled title daemon (daemon.settle look answer) := by
  obtain ⟨phase, shape, rests⟩ := settle_spec daemon look answer
  rw [shape]
  exact ⟨rfl, owed_of_plain title rests.clearing rests.plain.1⟩

theorem takeDue_settled (daemon : Daemon) (look : Look) :
    Settled title daemon (daemon.takeDue look) := by
  obtain ⟨phase, shape, rests⟩ := takeDue_spec daemon look
  rw [shape]
  exact ⟨rfl, owed_of_plain title rests.clearing rests.plain.1⟩

theorem afterLoad_settled (daemon : Daemon) (look : Look) :
    Settled title daemon (daemon.afterLoad look) := by
  simp only [Daemon.afterLoad]
  split
  · exact ⟨rfl, owed_of_plain title rfl rfl⟩
  · split
    · obtain ⟨phase, shape, rests⟩ := afterLook_spec daemon look
      rw [shape]
      exact ⟨rfl, owed_of_plain title rests.clearing rests.plain.1⟩
    · exact ⟨rfl, owed_of_plain title rfl rfl⟩

theorem adopt_settled (daemon : Daemon) (look : Look) (candidates : List Candidate) :
    Settled title daemon (daemon.adopt look candidates) := by
  simp only [Daemon.adopt]
  split
  · exact takeDue_settled daemon look
  · obtain ⟨spoken, made, _, shape⟩ := adopted_shape look daemon candidates
    rw [shape]
    split <;> exact ⟨rfl, owed_of_plain title rfl rfl⟩

theorem markDue_settled (daemon : Daemon) (look : Look) (due : List SpokenFault) :
    Settled title daemon (daemon.markDue look due) := by
  simp only [Daemon.markDue]
  split <;> exact ⟨rfl, owed_of_plain title rfl rfl⟩

theorem countP_unnamed {spoken : Dict Text SpokenFault} (answer : Dict Text Text)
    (keyed : ∀ key fault, spoken.get? key = some fault → fault.title = key) :
    ((unnamed spoken answer).map Prod.snd).countP (fun fault => fault.title = title && fault.said) =
      if (answer.get? title).isNone && (spoken.get? title).any SpokenFault.said then 1 else 0 := by
  let dropped : Dict Text SpokenFault :=
    ⟨unnamed spoken answer, spoken.nodup.sublist (List.filter_sublist.map _)⟩
  have counted := dropped.countP_entries title SpokenFault.said
  have same : (unnamed spoken answer).countP (fun entry => entry.2.title = title && entry.2.said) =
      (unnamed spoken answer).countP fun entry => entry.1 = title && entry.2.said := by
    apply List.countP_congr
    intro entry member
    rw [keyed entry.1 entry.2 (mem_unnamed.mp member).1]
  rw [List.countP_map]
  refine same.trans (counted.trans ?_)
  congr 1
  cases absent : answer.get? title with
  | some rung =>
    have none : dropped.get? title = none := by
      cases found : dropped.get? title with
      | none => rfl
      | some fault =>
        have clears := (mem_unnamed.mp (Dict.get?_eq_some.mp found)).2
        rw [absent] at clears
        contradiction
    simp [none]
  | none =>
    have same : dropped.get? title = spoken.get? title := by
      cases carried : spoken.get? title with
      | some fault => exact Dict.get?_eq_some.mpr (mem_unnamed.mpr ⟨carried, absent⟩)
      | none =>
        cases found : dropped.get? title with
        | none => rfl
        | some fault =>
          have current := (mem_unnamed.mp (Dict.get?_eq_some.mp found)).1
          rw [carried] at current
          contradiction
    simp [same]

theorem dropCleared_ledger {daemon : Daemon} {look : Look} {answer : Dict Text Text}
    (numbered : Numbered daemon) (answered : daemon.sweep = .answered look answer) :
    (daemon.dropCleared look answer).endings title = daemon.endings title ∧
      (daemon.dropCleared look answer).owed title = daemon.owed title := by
  have counted : ((unnamed daemon.spoken answer).map Prod.snd).countP
      (fun fault => fault.title = title && fault.said) =
        if (answer.get? title).isNone && daemon.speaksFor title then 1 else 0 :=
    countP_unnamed answer fun key fault found => (numbered.spoken key fault found).1
  have before : daemon.owed title =
      if (answer.get? title).isNone && daemon.speaksFor title then 1 else 0 := by
    simp [Daemon.owed, answered, Sweeping.clearing, Sweeping.answer?]
  simp only [Daemon.dropCleared]
  split
  · rename_i nothing
    obtain ⟨endings, owed⟩ := @settle_settled title
      { daemon with spoken := keepNamed daemon.spoken answer } look answer
    rw [List.isEmpty_iff] at nothing
    rw [nothing, List.countP_nil] at counted
    exact ⟨endings, owed.trans (counted.trans before.symm)⟩
  · refine ⟨rfl, ?_⟩
    rw [before]
    simpa [Daemon.owed, Sweeping.clearing, Sweeping.answer?] using counted

theorem weighEndings_ledger {daemon : Daemon} {look : Look} {answer : Dict Text Text}
    {cleared : List SpokenFault} (sound : Sound config title daemon)
    (forgot : daemon.sweep = .forgot look answer cleared) :
    (daemon.weighEndings look answer cleared).endings title = daemon.endings title ∧
      (daemon.weighEndings look answer cleared).owed title = daemon.owed title := by
  have configured := sound.looks look (by rw [forgot]; rfl)
  have calm := (quiet_iff.mp sound.steady.quiet).2.2.2
  have borne := sound.bornOut
  rw [forgot] at borne
  have weighed : (endingCandidates look daemon.around.dnd cleared).countP
      (fun fault => fault.title = title && fault.said) =
        cleared.countP fun fault => fault.title = title && fault.said := by
    rw [endingCandidates, List.countP_filter, (List.perm_insertionSort _ cleared).countP_eq]
    apply List.countP_congr
    intro fault member
    simp only [Bool.and_eq_true, decide_eq_true_eq, Bool.not_eq_true', and_iff_left_iff_imp]
    intro ours
    have loud := (borne fault member ours.1).1
    rw [loudEnough, decide_eq_true_eq] at loud
    exact ⟨⟨ours.2, configured ▸ loud⟩, by simp [Dnd.shouldSuppress, calm]⟩
  have before : daemon.owed title = cleared.countP fun fault => fault.title = title && fault.said := by
    simp [Daemon.owed, forgot, Sweeping.clearing, Sweeping.answer?]
  simp only [Daemon.weighEndings]
  split
  · rename_i nothing
    obtain ⟨endings, owed⟩ := @settle_settled title daemon look answer
    rw [List.isEmpty_iff] at nothing
    rw [nothing, List.countP_nil] at weighed
    exact ⟨endings, owed.trans (weighed.trans before.symm)⟩
  · refine ⟨rfl, ?_⟩
    rw [before, ← weighed]
    simp [Daemon.owed, Sweeping.clearing, Sweeping.answer?]

theorem tellEndings_ledger {daemon : Daemon} {look : Look} {answer : Dict Text Text}
    {candidates : List SpokenFault} {fresh : List Text} (sound : Sound config title daemon)
    (confirmed : daemon.sweep = .confirmed look answer candidates fresh) :
    (daemon.tellEndings look answer candidates fresh).endings title = daemon.endings title ∧
      (daemon.tellEndings look answer candidates fresh).owed title = daemon.owed title := by
  have borne := sound.bornOut
  rw [confirmed] at borne
  have kept : (candidates.filter fun fault => fault.title ∈ fresh).countP
      (fun fault => fault.title = title && fault.said) =
        candidates.countP fun fault => fault.title = title && fault.said := by
    rw [List.countP_filter]
    apply List.countP_congr
    intro fault member
    simp only [Bool.and_eq_true, decide_eq_true_eq, and_iff_left_iff_imp]
    exact fun ours => ours.1 ▸ (borne fault member).2 ours.1
  have before : daemon.owed title = candidates.countP fun fault =>
      fault.title = title && fault.said := by
    simp [Daemon.owed, confirmed, Sweeping.clearing, Sweeping.answer?]
  simp only [Daemon.tellEndings]
  split
  · rename_i nothing
    obtain ⟨endings, owed⟩ := @settle_settled title daemon look answer
    rw [List.isEmpty_iff] at nothing
    rw [nothing, List.countP_nil] at kept
    exact ⟨endings, owed.trans (kept.trans before.symm)⟩
  · refine ⟨rfl, ?_⟩
    rw [before, ← kept]
    simp [Daemon.owed, Sweeping.clearing, Sweeping.answer?]

/-- A sweep finds an outage closed that was spoken of. -/
def findsClosed (title : Text) (daemon : Daemon) (turn : Turn) : Bool :=
  seesClosed title daemon turn && daemon.speaksFor title

theorem owed_of_sweep {before after : Daemon} (sweep : after.sweep = before.sweep)
    (speaks : (before.sweep.answer?.any fun answer => (answer.get? title).isNone) = true →
      after.speaksFor title = before.speaksFor title) : after.owed title = before.owed title := by
  simp only [Daemon.owed, sweep]
  cases answered : before.sweep.answer? with
  | none => rfl
  | some answer =>
    cases named : answer.get? title with
    | some rung => simp [named]
    | none => simp [named, speaks (by simp [answered, named])]

theorem handle_ledger {before after : Daemon} {index : Nat} {succeeds : Bool} {handling : Handling}
    (found : before.handlers[index]? = some handling)
    (whole : lookedWhole title before (.handler index succeeds) = true)
    (moved : before.handle index succeeds handling = some after) :
    after.endings title = before.endings title ∧ after.owed title = before.owed title := by
  cases handling with
  | checking named severity toast =>
    simp only [Daemon.handle, Option.some.injEq] at moved
    subst moved
    exact ⟨rfl, rfl⟩
  | sending named severity toast =>
    simp only [Daemon.handle, Option.some.injEq] at moved
    subst moved
    cases succeeds with
    | true => exact ⟨by simp [Daemon.endings, Daemon.becomes, Notice.endings], rfl⟩
    | false => exact ⟨rfl, rfl⟩
  | landed named severity =>
    simp only [Daemon.handle, Option.some.injEq] at moved
    subst moved
    refine ⟨rfl, owed_of_sweep rfl fun lacking => ?_⟩
    cases phase : before.sweep <;> simp only [phase, Sweeping.answer?, Option.any_none,
      Bool.false_eq_true, Option.any_some] at lacking
    have other : named ≠ title := by
      simpa [lookedWhole, found, phase, Option.isNone_iff_eq_none.mp lacking] using whole
    simp [Daemon.speaksFor, Dict.get?_set, other]
  | storing fault row =>
    simp only [Daemon.handle, Option.some.injEq] at moved
    subst moved
    exact ⟨rfl, rfl⟩
  | done => simp [Daemon.handle] at moved

theorem sweep_ledger {before after : Daemon} {succeeds : Bool} (sound : Sound config title before)
    (calm : uneventful config title before (.sweep succeeds) = true)
    (whole : lookedWhole title before (.sweep succeeds) = true)
    (moved : before.sweepOn succeeds = some after) :
    after.endings title + after.owed title = before.endings title + before.owed title +
      if findsClosed title before (.sweep succeeds) then 1 else 0 := by
  have still :
      ∀ (owed : before.owed title = 0) (elsewhere : findsClosed title before
        (.sweep succeeds) = false),
      Settled title before after → after.endings title + after.owed title =
        before.endings title + before.owed title +
          if findsClosed title before (.sweep succeeds) then 1 else 0 := by
    intro owed elsewhere settled
    rw [settled.endings, settled.owed, owed, elsewhere]
    simp
  have same : ∀ (elsewhere : findsClosed title before (.sweep succeeds) = false),
      after.endings title = before.endings title ∧ after.owed title = before.owed title →
        after.endings title + after.owed title = before.endings title + before.owed title +
          if findsClosed title before (.sweep succeeds) then 1 else 0 := by
    intro elsewhere ledger
    rw [ledger.1, ledger.2, elsewhere]
    simp
  cases phase : before.sweep with
  | idle => simp [Daemon.sweepOn, phase] at moved
  | loading look =>
    simp only [Daemon.sweepOn, phase, Option.some.injEq] at moved
    subst moved
    exact still (owed_of_plain title (by rw [phase]; rfl) (by rw [phase]; rfl))
      (by simp [findsClosed, seesClosed, phase]) ⟨rfl, owed_of_plain title rfl rfl⟩
  | loadAnswered look stored =>
    refine still (owed_of_plain title (by rw [phase]; rfl) (by rw [phase]; rfl))
      (by simp [findsClosed, seesClosed, phase]) ?_
    cases stored with
    | none =>
      simp only [Daemon.sweepOn, phase, Option.some.injEq] at moved
      exact moved ▸ afterLoad_settled before _
    | some stored =>
      simp only [Daemon.sweepOn, phase, Option.some.injEq] at moved
      obtain ⟨spoken, made, _, shape⟩ := restored_shape before stored.entries
      rw [shape] at moved
      obtain ⟨endings, owed⟩ := @afterLoad_settled title
        { before with spoken, made, loaded := true } look
      rw [← moved]
      exact ⟨endings, owed⟩
  | asking look titles =>
    have succeeded : succeeds = true := by simpa [uneventful, phase] using calm
    subst succeeded
    simp only [Daemon.sweepOn, phase, if_true, Option.some.injEq] at moved
    have owed : before.owed title = 0 := owed_of_plain title (by rw [phase]; rfl) (by rw [phase]; rfl)
    -- the answer lacks what is spoken for just when no row of it is open
    have agrees : (((stillOpen before.alerts titles).get? title).isNone && before.speaksFor title) =
        ((openOf before.alerts title).isEmpty && before.speaksFor title) := by
      cases speaking : before.speaksFor title with
      | false => simp
      | true =>
        obtain ⟨fault, carried, _⟩ := speaksFor_iff.mp speaking
        have asked : title ∈ titles ∨ openOf before.alerts title = [] := by
          simpa [lookedWhole, phase, carried] using whole
        rw [Bool.and_true, Bool.and_true, Bool.eq_iff_iff, Option.isNone_iff_eq_none,
          List.isEmpty_iff, ← Option.not_isSome_iff_eq_none, stillOpen_isSome, not_and, not_not]
        constructor
        · intro closed
          rcases asked with inside | nothing
          · exact closed inside
          · exact nothing
        · exact fun closed _ => closed
    have owes : after.owed title = if findsClosed title before (.sweep true) then 1 else 0 := by
      have found : findsClosed title before (.sweep true) =
          ((openOf before.alerts title).isEmpty && before.speaksFor title) := by
        simp [findsClosed, seesClosed, phase]
      rw [found, ← agrees, ← moved]
      simp [Daemon.owed, Sweeping.clearing, Sweeping.answer?, Daemon.speaksFor]
    rw [owes, owed, ← moved]
    rfl
  | answered look answer =>
    simp only [Daemon.sweepOn, phase, Option.some.injEq] at moved
    exact same (by simp [findsClosed, seesClosed, phase])
      (moved ▸ dropCleared_ledger sound.numbered phase)
  | forgetting look answer cleared =>
    simp only [Daemon.sweepOn, phase, Option.some.injEq] at moved
    subst moved
    exact same (by simp [findsClosed, seesClosed, phase])
      ⟨rfl, by simp [Daemon.owed, phase, Sweeping.clearing, Sweeping.answer?]⟩
  | forgot look answer cleared =>
    simp only [Daemon.sweepOn, phase, Option.some.injEq] at moved
    exact same (by simp [findsClosed, seesClosed, phase]) (moved ▸ weighEndings_ledger sound phase)
  | confirming look answer candidates =>
    simp only [Daemon.sweepOn, phase, Option.some.injEq] at moved
    subst moved
    exact same (by simp [findsClosed, seesClosed, phase])
      ⟨rfl, by simp [Daemon.owed, phase, Sweeping.clearing, Sweeping.answer?]⟩
  | confirmed look answer candidates fresh =>
    simp only [Daemon.sweepOn, phase, Option.some.injEq] at moved
    exact same (by simp [findsClosed, seesClosed, phase]) (moved ▸ tellEndings_ledger sound phase)
  | telling look answer recovered =>
    have succeeded : succeeds = true := by simpa [uneventful, phase] using calm
    subst succeeded
    simp only [Daemon.sweepOn, phase, if_true, Option.some.injEq] at moved
    have borne := sound.bornOut
    rw [phase] at borne
    have told : recovered.countP (fun fault => fault.title = title && fault.said) =
        recovered.countP fun fault => fault.title = title := by
      apply List.countP_congr
      intro fault member
      simp [show fault.said = true from borne fault member]
    subst moved
    simp [Daemon.endings, Notice.endings, Daemon.owed, phase, Sweeping.clearing, Sweeping.answer?,
      findsClosed, seesClosed, told]
  | told look answer =>
    simp only [Daemon.sweepOn, phase, Option.some.injEq] at moved
    exact still (owed_of_plain title (by rw [phase]; rfl) (by rw [phase]; rfl))
      (by simp [findsClosed, seesClosed, phase]) (moved ▸ settle_settled before look answer)
  | adopting look spokenFor room =>
    simp only [Daemon.sweepOn, phase, Option.some.injEq] at moved
    subst moved
    exact still (owed_of_plain title (by rw [phase]; rfl) (by rw [phase]; rfl))
      (by simp [findsClosed, seesClosed, phase]) ⟨rfl, owed_of_plain title rfl rfl⟩
  | adoptAnswered look candidates =>
    simp only [Daemon.sweepOn, phase, Option.some.injEq] at moved
    exact still (owed_of_plain title (by rw [phase]; rfl) (by rw [phase]; rfl))
      (by simp [findsClosed, seesClosed, phase]) (moved ▸ adopt_settled before look candidates)
  | storingAdopted look rows =>
    simp only [Daemon.sweepOn, phase, Option.some.injEq] at moved
    subst moved
    exact still (owed_of_plain title (by rw [phase]; rfl) (by rw [phase]; rfl))
      (by simp [findsClosed, seesClosed, phase]) ⟨rfl, owed_of_plain title rfl rfl⟩
  | adoptedStored look =>
    simp only [Daemon.sweepOn, phase, Option.some.injEq] at moved
    exact still (owed_of_plain title (by rw [phase]; rfl) (by rw [phase]; rfl))
      (by simp [findsClosed, seesClosed, phase]) (moved ▸ takeDue_settled before look)
  | restating look due =>
    have succeeded : succeeds = true := by simpa [uneventful, phase] using calm
    subst succeeded
    simp only [Daemon.sweepOn, phase, if_true, Option.some.injEq] at moved
    subst moved
    exact still (owed_of_plain title (by rw [phase]; rfl) (by rw [phase]; rfl))
      (by simp [findsClosed, seesClosed, phase])
      ⟨by simp [Daemon.endings, Notice.endings], owed_of_plain title rfl rfl⟩
  | restated look due =>
    simp only [Daemon.sweepOn, phase, Option.some.injEq] at moved
    exact still (owed_of_plain title (by rw [phase]; rfl) (by rw [phase]; rfl))
      (by simp [findsClosed, seesClosed, phase]) (moved ▸ markDue_settled before look due)
  | storingReminders rows =>
    simp only [Daemon.sweepOn, phase, Option.some.injEq] at moved
    subst moved
    exact still (owed_of_plain title (by rw [phase]; rfl) (by rw [phase]; rfl))
      (by simp [findsClosed, seesClosed, phase]) ⟨rfl, owed_of_plain title rfl rfl⟩

theorem turn_ledger {before after : Daemon} {turn : Turn} (sound : Sound config title before)
    (calm : uneventful config title before turn = true)
    (whole : lookedWhole title before turn = true) (moved : before.turn turn = some after) :
    after.endings title + after.owed title = before.endings title + before.owed title +
      if findsClosed title before turn then 1 else 0 := by
  cases turn with
  | sweep succeeds => exact sweep_ledger sound calm whole moved
  | handler index succeeds =>
    obtain ⟨handling, present, handled⟩ := Option.bind_eq_some_iff.mp moved
    obtain ⟨endings, owed⟩ := handle_ledger present whole handled
    rw [endings, owed]
    simp [findsClosed, seesClosed]
  | sweepBegins =>
    simp only [Daemon.turn] at moved
    split at moved
    · rename_i resting
      cases moved
      have owed : before.owed title = 0 :=
        owed_of_plain title (by rw [resting]; rfl) (by rw [resting]; rfl)
      obtain ⟨endings, nothing⟩ : Settled title before before.beginSweep := by
        simp only [Daemon.beginSweep]
        split
        · exact ⟨rfl, owed⟩
        · split
          · exact afterLoad_settled before _
          · exact ⟨rfl, owed_of_plain title rfl rfl⟩
      rw [endings, nothing, owed]
      simp [findsClosed, seesClosed]
    · contradiction
  | commit index =>
    obtain ⟨closing, present, shape⟩ := Option.map_eq_some_iff.mp moved
    subst shape
    simp [findsClosed, seesClosed, Daemon.endings, Daemon.owed, Daemon.speaksFor]
  | _ =>
    simp only [Daemon.turn, Option.some.injEq] at moved
    subst moved
    simp [findsClosed, seesClosed, Daemon.endings, Daemon.owed, Daemon.speaksFor]

/-- Spoken for, and open as far as the sweeps have read. -/
structure SpokenFor (title : Text) (daemon : Daemon) : Prop where
  speaks : daemon.speaksFor title = true
  named : ∀ answer, daemon.sweep.answer? = some answer → (answer.get? title).isSome

theorem speaksFor_of_carried {before after : Daemon}
    (carried : ∀ fault, before.spoken.get? title = some fault → fault.said = true →
      ∃ later, after.spoken.get? title = some later ∧ later.said = true)
    (speaks : before.speaksFor title = true) : after.speaksFor title = true := by
  obtain ⟨fault, found, said⟩ := speaksFor_iff.mp speaks
  exact speaksFor_iff.mpr (carried fault found said)

theorem mapValues_speaksFor {daemon : Daemon} {change : Text → SpokenFault → SpokenFault}
    (said : ∀ fault, fault.said = true → (change title fault).said = true)
    (speaks : daemon.speaksFor title = true) :
    ({ daemon with spoken := daemon.spoken.mapValues change } : Daemon).speaksFor title = true :=
  speaksFor_of_carried (fun fault found saying =>
    ⟨change title fault, by simp [Dict.get?_mapValues, found], said fault saying⟩) speaks

theorem afterLoad_spokenFor {daemon : Daemon} (look : Look)
    (speaks : daemon.speaksFor title = true) : SpokenFor title (daemon.afterLoad look) := by
  simp only [Daemon.afterLoad]
  split
  · exact ⟨mapValues_speaksFor (fun _ => id) speaks, by simp [Sweeping.answer?]⟩
  · split
    · obtain ⟨phase, shape, rests⟩ := afterLook_spec daemon look
      rw [shape]
      exact ⟨speaks, by simp [rests.plain]⟩
    · exact ⟨speaks, by simp [Sweeping.answer?]⟩

theorem settle_spokenFor {daemon : Daemon} (look : Look) (answer : Dict Text Text)
    (speaks : daemon.speaksFor title = true) : SpokenFor title (daemon.settle look answer) := by
  refine ⟨(settle_speaksFor daemon look answer title).trans speaks, ?_⟩
  obtain ⟨phase, shape, rests⟩ := settle_spec daemon look answer
  rw [shape]
  simp [rests.plain]

theorem adoptOne_get? {look : Look} {candidates : List Candidate} {daemon : Daemon}
    (others : ∀ candidate ∈ candidates, candidate.title ≠ title) :
    (candidates.foldl (Daemon.adoptOne look) daemon).spoken.get? title = daemon.spoken.get? title := by
  induction candidates generalizing daemon with
  | nil => rfl
  | cons candidate rest ih =>
    rw [List.foldl_cons, ih fun other member => others other (List.mem_cons_of_mem _ member)]
    simp [Daemon.adoptOne, Dict.get?_set, others candidate List.mem_cons_self]

theorem sweep_spokenFor {before after : Daemon} {succeeds : Bool}
    (spokenFor : SpokenFor title before) (onTime : timely title before (.sweep succeeds) = true)
    (unseen : seesClosed title before (.sweep succeeds) ≠ true)
    (moved : before.sweepOn succeeds = some after) : SpokenFor title after := by
  have speaks := spokenFor.speaks
  obtain ⟨whole, onTime⟩ := Bool.and_eq_true_iff.mp onTime
  cases phase : before.sweep with
  | idle => simp [Daemon.sweepOn, phase] at moved
  | loadAnswered look stored =>
    cases stored with
    | none =>
      simp only [Daemon.sweepOn, phase, Option.some.injEq] at moved
      exact moved ▸ afterLoad_spokenFor _ speaks
    | some stored =>
      simp only [Daemon.sweepOn, phase, Option.some.injEq] at moved
      rw [← moved]
      refine afterLoad_spokenFor look (speaksFor_of_carried (fun fault found said => ?_) speaks)
      exact ⟨fault, get?_restored found stored.entries, said⟩
  | asking look titles =>
    simp only [Daemon.sweepOn, phase, Option.some.injEq] at moved
    subst moved
    cases succeeds with
    | false => exact ⟨speaks, by simp [Sweeping.answer?]⟩
    | true =>
      refine ⟨speaks, fun answer same => ?_⟩
      cases same
      obtain ⟨fault, carried, _⟩ := speaksFor_iff.mp speaks
      have opened : openOf before.alerts title ≠ [] := by simpa [seesClosed, phase] using unseen
      have asked : title ∈ titles := by simpa [lookedWhole, phase, carried, opened] using whole
      exact stillOpen_isSome.mpr ⟨asked, opened⟩
  | answered look answer =>
    simp only [Daemon.sweepOn, phase, Option.some.injEq] at moved
    have named := spokenFor.named answer (by rw [phase]; rfl)
    have kept : ({ before with spoken := keepNamed before.spoken answer } : Daemon).speaksFor
        title = true := by
      rw [← speaks]
      simp [Daemon.speaksFor, get?_keepNamed, named]
    rw [← moved]
    simp only [Daemon.dropCleared]
    split
    · exact settle_spokenFor look answer kept
    · exact ⟨kept, by simp [Sweeping.answer?]⟩
  | forgot look answer cleared =>
    simp only [Daemon.sweepOn, phase, Option.some.injEq] at moved
    rw [← moved]
    simp only [Daemon.weighEndings]
    split
    · exact settle_spokenFor look answer speaks
    · exact ⟨speaks, by simp [Sweeping.answer?]⟩
  | confirmed look answer candidates fresh =>
    simp only [Daemon.sweepOn, phase, Option.some.injEq] at moved
    rw [← moved]
    simp only [Daemon.tellEndings]
    split
    · exact settle_spokenFor look answer speaks
    · exact ⟨speaks, by simp [Sweeping.answer?]⟩
  | told look answer =>
    simp only [Daemon.sweepOn, phase, Option.some.injEq] at moved
    exact moved ▸ settle_spokenFor look answer speaks
  | adoptAnswered look candidates =>
    simp only [Daemon.sweepOn, phase, Option.some.injEq] at moved
    have others : ∀ candidate ∈ candidates, candidate.title ≠ title := by
      simpa [phase, speaks] using onTime
    rw [← moved]
    simp only [Daemon.adopt]
    split
    · obtain ⟨phase, shape, rests⟩ := takeDue_spec before look
      rw [shape]
      exact ⟨speaks, by simp [rests.plain]⟩
    · refine ⟨speaksFor_of_carried (fun fault found said => ⟨fault, ?_, said⟩) speaks, ?_⟩
      · rw [← found]
        exact adoptOne_get? others
      · intro answer answered
        split at answered <;> simp [Sweeping.answer?] at answered
  | adoptedStored look =>
    simp only [Daemon.sweepOn, phase, Option.some.injEq] at moved
    obtain ⟨phase, shape, rests⟩ := takeDue_spec before look
    rw [← moved, shape]
    exact ⟨speaks, by simp [rests.plain]⟩
  | restating look due =>
    simp only [Daemon.sweepOn, phase, Option.some.injEq] at moved
    subst moved
    split <;> exact ⟨speaks, by simp [Sweeping.answer?]⟩
  | restated look due =>
    simp only [Daemon.sweepOn, phase, Option.some.injEq] at moved
    subst moved
    refine ⟨mapValues_speaksFor (fun fault said => ?_) speaks, ?_⟩
    · split
      · exact said_markSpoken fault look.now
      · exact said
    · intro answer answered
      simp only [Daemon.markDue] at answered
      split at answered <;> simp [Sweeping.answer?] at answered
  | _ =>
    simp only [Daemon.sweepOn, phase, Option.some.injEq] at moved
    subst moved
    exact ⟨speaks, by simp [Sweeping.answer?]⟩

theorem turn_spokenFor {before after : Daemon} {turn : Turn} (spokenFor : SpokenFor title before)
    (onTime : timely title before turn = true) (unseen : seesClosed title before turn ≠ true)
    (moved : before.turn turn = some after) : SpokenFor title after := by
  obtain ⟨speaks, named⟩ := spokenFor
  cases turn with
  | sweep succeeds => exact sweep_spokenFor ⟨speaks, named⟩ onTime unseen moved
  | handler index succeeds =>
    obtain ⟨handling, present, handled⟩ := Option.bind_eq_some_iff.mp moved
    cases handling with
    | landed recorded severity =>
      simp only [Daemon.handle, Option.some.injEq] at handled
      subst handled
      refine ⟨?_, named⟩
      by_cases same : recorded = title
      · simp [Daemon.speaksFor, same, Daemon.openingFault, SpokenFault.said]
      · simpa [Daemon.speaksFor, Dict.get?_set, same] using speaks
    | sending recorded severity toast =>
      simp only [Daemon.handle, Option.some.injEq] at handled
      subst handled
      cases succeeds <;> exact ⟨speaks, named⟩
    | done => simp [Daemon.handle] at handled
    | _ =>
      simp only [Daemon.handle, Option.some.injEq] at handled
      subst handled
      exact ⟨speaks, named⟩
  | sweepBegins =>
    simp only [Daemon.turn] at moved
    split at moved
    · cases moved
      simp only [Daemon.beginSweep]
      split
      · exact ⟨speaks, named⟩
      · split
        · exact afterLoad_spokenFor _ speaks
        · exact ⟨speaks, by simp [Sweeping.answer?]⟩
    · contradiction
  | commit index =>
    obtain ⟨closing, present, shape⟩ := Option.map_eq_some_iff.mp moved
    subst shape
    exact ⟨speaks, named⟩
  | _ =>
    simp only [Daemon.turn, Option.some.injEq] at moved
    subst moved
    exact ⟨speaks, named⟩

/-- Not spoken for, or about to be dropped. -/
def Over (title : Text) (daemon : Daemon) : Prop :=
  daemon.speaksFor title = false ∨ ∃ answer, daemon.sweep.answer? = some answer ∧
    answer.get? title = none

theorem turn_over {before after : Daemon} {turn : Turn} (finished : Over title before)
    (untaken : takesUp title before turn ≠ true) (moved : before.turn turn = some after) :
    Over title after := by
  rcases finished with silent | ⟨answer, answered, absent⟩
  · left
    simpa [takesUp, silent, moved] using untaken
  · rcases turn_moves moved with ⟨succeeds, _, which⟩ | outside
    · left
      cases phase : before.sweep <;> simp only [phase, Sweeping.answer?, reduceCtorEq] at answered
      cases answered
      rcases which with turned | resting
      · subst turned
        simp only [Daemon.turn, Daemon.sweepOn, phase, Option.some.injEq] at moved
        have gone : (keepNamed before.spoken answer).get? title = none := by
          rw [get?_keepNamed, absent]
          rfl
        rw [← moved, Daemon.dropCleared]
        split
        · rw [settle_speaksFor, Daemon.speaksFor]
          simp [gone]
        · simp [Daemon.speaksFor, gone]
      · rw [phase] at resting
        contradiction
    · right
      rw [outside.sweep]
      exact ⟨answer, answered, absent⟩

theorem over_unfound {daemon : Daemon} {turn : Turn} (finished : Over title daemon) :
    findsClosed title daemon turn = false := by
  rcases finished with silent | ⟨answer, answered, _⟩
  · simp [findsClosed, silent]
  · cases phase : daemon.sweep <;> simp only [phase, Sweeping.answer?, reduceCtorEq] at answered
    simp [findsClosed, seesClosed, phase]

theorem found_over {before after : Daemon} {turn : Turn}
    (found : seesClosed title before turn = true) (moved : before.turn turn = some after) :
    Over title after := by
  simp only [seesClosed] at found
  split at found
  · rename_i look titles phase
    simp only [Daemon.turn, Daemon.sweepOn, phase, if_true, Option.some.injEq] at moved
    subst moved
    refine Or.inr ⟨_, rfl, ?_⟩
    rw [← Option.not_isSome_iff_eq_none, stillOpen_isSome, not_and, not_not]
    exact fun _ => List.isEmpty_iff.mp found
  · contradiction

/-- An uneventful turn in which the stamps and the looks agree. -/
def agrees (config : DesktopConfig) (title : Text) (daemon : Daemon) (turn : Turn) : Prop :=
  uneventful config title daemon turn = true ∧ timely title daemon turn = true

instance (daemon : Daemon) (turn : Turn) : Decidable (agrees config title daemon turn) :=
  inferInstanceAs (Decidable (_ ∧ _))

theorem start_sound {around : Surroundings} {alerts : List Alert} (store : Store)
    (calm : around.quiet config = true) (holds : rungHolds config alerts title = true) :
    Sound config title (Daemon.start around alerts store) where
  numbered := start_numbered around alerts store
  steady := ⟨calm, holds, by simp [Daemon.start], by simp [Daemon.start], by simp [Daemon.start]⟩
  looks := by simp [Daemon.start, Sweeping.look?]
  rungs := by simp [Daemon.start, Sweeping.rungs?]
  covered := by simp [Daemon.start, Daemon.speaksFor]
  bornOut := by simp [Daemon.start, Sweeping.BornOut]

/-- The outage is not over, and `told` endings were told or owed. -/
structure Untold (config : DesktopConfig) (title : Text) (told : Nat) (daemon : Daemon) : Prop where
  sound : Sound config title daemon
  spokenFor : SpokenFor title daemon
  ledger : daemon.endings title + daemon.owed title = told

theorem Untold.turn {told : Nat} {before after : Daemon} {turn : Turn}
    (untold : Untold config title told before) (agreed : agrees config title before turn)
    (unseen : seesClosed title before turn ≠ true) (moved : before.turn turn = some after) :
    Untold config title told after := by
  refine ⟨turn_sound untold.sound agreed.1 agreed.2 moved,
    turn_spokenFor untold.spokenFor agreed.2 unseen moved, ?_⟩
  rw [turn_ledger untold.sound agreed.1 (Bool.and_eq_true_iff.mp agreed.2).1 moved, untold.ledger]
  simp [findsClosed, unseen]

structure Ended (config : DesktopConfig) (title : Text) (told : Nat) (daemon : Daemon) : Prop where
  sound : Sound config title daemon
  finished : Over title daemon
  ledger : daemon.endings title + daemon.owed title = told

theorem Untold.ends {told : Nat} {before after : Daemon} {turn : Turn}
    (untold : Untold config title told before) (agreed : agrees config title before turn)
    (sees : seesClosed title before turn = true) (moved : before.turn turn = some after) :
    Ended config title (told + 1) after := by
  refine ⟨turn_sound untold.sound agreed.1 agreed.2 moved, found_over sees moved, ?_⟩
  rw [turn_ledger untold.sound agreed.1 (Bool.and_eq_true_iff.mp agreed.2).1 moved, untold.ledger]
  simp [findsClosed, sees, untold.spokenFor.speaks]

theorem Ended.turn {told : Nat} {before after : Daemon} {turn : Turn}
    (ended : Ended config title told before) (agreed : agrees config title before turn)
    (untaken : takesUp title before turn ≠ true) (moved : before.turn turn = some after) :
    Ended config title told after := by
  refine ⟨turn_sound ended.sound agreed.1 agreed.2 moved, turn_over ended.finished untaken moved, ?_⟩
  rw [turn_ledger ended.sound agreed.1 (Bool.and_eq_true_iff.mp agreed.2).1 moved, ended.ledger,
    over_unfound ended.finished]
  simp

/-- An outage that is spoken of is spoken for until a sweep reads the table without an open
row of it.  That sweep owes it one ending, which lands when the sweep comes to its endings, and
no other sweep tells one.  Nothing adopted that was not restated is ever told of. -/
theorem one_ending_each {around : Surroundings} {alerts : List Alert} {store : Store}
    {early late : List Turn} {before final : Daemon}
    (calm : around.quiet config = true) (holds : rungHolds config alerts title = true)
    (reached : early.foldlM Daemon.turn (Daemon.start around alerts store) = some before)
    (went : late.foldlM Daemon.turn before = some final)
    (agreed : Throughout Daemon.turn (agrees config title) (Daemon.start around alerts store)
    (early ++ late))
    (spokenFor : SpokenFor title before)
    (single : ¬ Happens Daemon.turn (fun daemon turn => takesUp title daemon turn = true)
      before late) :
    (if Happens Daemon.turn (fun daemon turn => seesClosed title daemon turn = true) before late then
        final.endings title + final.owed title = before.endings title + before.owed title + 1
      else SpokenFor title final ∧
        final.endings title + final.owed title = before.endings title + before.owed title) ∧
      ∀ faults toast, .recovery faults toast ∈ final.notices → ∀ fault ∈ faults,
        fault.said = true := by
  rw [Throughout.append reached] at agreed
  have sound : ∀ {daemon : Daemon} {turns : List Turn} {later : Daemon}, Sound config title daemon →
      Throughout Daemon.turn (agrees config title) daemon turns →
      turns.foldlM Daemon.turn daemon = some later → Sound config title later :=
    Throughout.keeps fun sound agreed moved => turn_sound sound agreed.1 agreed.2 moved
  have soundThen := sound (start_sound store calm holds) agreed.1 reached
  refine ⟨?_, (sound soundThen agreed.2 went).steady.told⟩
  have untold : Untold config title (before.endings title + before.owed title) before :=
    ⟨soundThen, spokenFor, rfl⟩
  split
  · rename_i seen
    obtain ⟨sooner, turn, later, found, after, shape, ran, unseen, sees, moved, onward⟩ :=
      seen.first went
    subst shape
    rw [Throughout.append ran] at agreed
    rw [Happens.append ran, not_or] at single
    simp only [Throughout, Happens, moved, Option.elim_some, not_or] at agreed single
    have untoldThen : Untold config title (before.endings title + before.owed title) found :=
      Throughout.unless (fun untold agreed unseen moved => untold.turn agreed unseen moved) untold
        agreed.2.1 unseen ran
    have ended : Ended config title (before.endings title + before.owed title + 1) final :=
      Throughout.unless (fun ended agreed untaken moved => ended.turn agreed untaken moved)
        (untoldThen.ends agreed.2.2.1 sees moved) agreed.2.2.2 single.2.2 onward
    exact ended.ledger
  · rename_i unseen
    have untoldLast : Untold config title (before.endings title + before.owed title) final :=
      Throughout.unless (fun untold agreed unseen moved => untold.turn agreed unseen moved) untold
        agreed.2 unseen went
    exact ⟨untoldLast.spokenFor, untoldLast.ledger⟩

/-- The outage is announced, recorded and written down. -/
def announced : List Turn := firstOutage ++ [.handler 0 true, .handler 0 true]

/-- The clock moves on. -/
def strikes (clock : ℚ) : Turn := .surroundings { noTray with clock }

/-- A sweep that finds the outage open, and the row then closed by a transaction that stamps it
at `stamped`, after the sweep began. -/
def closedAfterLook : List Turn :=
  strikes 160 :: .sweepBegins :: List.replicate 6 (.sweep true) ++
    [strikes 170, .stamp [1], strikes 175, .commit 0]

/-- The next sweep, to its notification. -/
def nextSweep : List Turn := strikes 340 :: .sweepBegins :: List.replicate 8 (.sweep true)

theorem closedAfterLook_ended :
    (daemonAt (announced ++ (closedAfterLook ++ nextSweep))).endings (text "first") +
      (daemonAt (announced ++ (closedAfterLook ++ nextSweep))).owed (text "first") = 1 := by
  have ended := (@one_ending_each noTray.config (text "first") _ _ _ _ _ _ _
    (by decide : noTray.quiet noTray.config = true) (by decide)
    (@daemonAt_reached announced (by decide +kernel))
    (@daemonAt_append announced (closedAfterLook ++ nextSweep) (by decide +kernel))
    (by decide +kernel) ⟨by decide +kernel, by decide +kernel⟩ (by decide +kernel)).1
  have nothing : (daemonAt announced).endings (text "first") + (daemonAt announced).owed
      (text "first") = 0 := by
    decide +kernel
  rwa [if_pos (by decide +kernel), nothing] at ended

/-- The same, but for the stamp, which comes before the sweep that still finds the row open. -/
def stampedBeforeLook : List Turn :=
  [strikes 150, .stamp [1], strikes 160, .sweepBegins] ++ List.replicate 6 (.sweep true) ++
    [strikes 170, .commit 0]

/-- The outage is seen closed, is dropped, and is never said to have ended. -/
theorem stampedBeforeLook_unended :
    let ended := daemonAt (announced ++ (stampedBeforeLook ++ nextSweep))
    possible (announced ++ (stampedBeforeLook ++ nextSweep)) = true ∧
      Throughout Daemon.turn
        (fun daemon turn => uneventful noTray.config (text "first") daemon turn = true)
        (.start noTray [] .empty) (announced ++ (stampedBeforeLook ++ nextSweep)) ∧
      SpokenFor (text "first") (daemonAt announced) ∧
      Happens Daemon.turn (fun daemon turn => seesClosed (text "first") daemon turn = true)
        (daemonAt announced) (stampedBeforeLook ++ nextSweep) ∧
      ended.sweep.clearing = [] ∧ ended.spoken.get? (text "first") = none ∧
      (openOf ended.alerts (text "first")).length = 0 ∧ ended.endings (text "first") = 0 := by
  exact ⟨by decide +kernel, by decide +kernel, ⟨by decide +kernel, by decide +kernel⟩, by decide +kernel,
    by decide +kernel, by decide +kernel, by decide +kernel, by decide +kernel⟩

end SysadminAssistant.Monitor.Desktop
