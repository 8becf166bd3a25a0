import SysadminAssistant.Tray.PolicyRuns
import SysadminAssistant.Python.Rounding

namespace SysadminAssistant.Tray

open Python SysadminAssistant.Core

/-! How often one fingerprint may interrupt.  Time is what the policy's clock says has passed. -/

/-- What a poll may decide after the earlier ones, and that it returns what it decided. -/
structure CalmPoll (settings : NotificationSettings) (record : PollRecord)
    (earlier : List PollRecord) : Prop where
  once : (record.considered.map Consideration.fingerprint).Nodup
  opening : ∀ considered ∈ record.considered, considered.opens = true →
    ∀ past ∈ earlier, past.did considered.fingerprint Consideration.notifies = true →
      settings.cooldown ≤ elapsed record.now past.now
  reminder : ∀ considered ∈ record.considered, considered.reminds = true →
    (∃ past ∈ ongoing considered.fingerprint earlier,
      past.did considered.fingerprint Consideration.opens = true) ∧
    ∀ past ∈ earlier, past.did considered.fingerprint Consideration.notifies = true →
      reaches (elapsed record.now past.now) settings.reminderInterval = true
  escalation : ∀ considered ∈ record.considered, considered.escalates = true →
    considered.alert.severity = .critical ∧
    (∃ past ∈ ongoing considered.fingerprint earlier,
      past.did considered.fingerprint Consideration.opens = true) ∧
    (∀ past ∈ ongoing considered.fingerprint earlier,
      past.did considered.fingerprint Consideration.escalates = false) ∧
    settings.escalationPolls ≤ (ongoing considered.fingerprint (record :: earlier)).length
  told : ∀ returned, record.returned = some returned → Told settings record returned

def Calm (settings : NotificationSettings) : List PollRecord → Prop := Always (CalmPoll settings)

/-- The state remembers a notification at least as late as the poll. -/
def Covers (state : FingerprintState) (past : PollRecord) : Prop :=
  ∃ at_, state.lastNotifiedAt = some at_ ∧ past.now ≤ at_

/-- The poll is a cooldown ago. -/
def Old (settings : NotificationSettings) (history : List PollRecord) (past : PollRecord) : Prop :=
  ∀ newest ∈ history.head?, settings.cooldown ≤ elapsed newest.now past.now

/-- What a kept state says about the polls so far. -/
structure Remembered (settings : NotificationSettings) (fingerprint : Text)
    (history : List PollRecord) (state : FingerprintState) : Prop where
  pollsActive : state.pollsActive = (ongoing fingerprint history).length
  episodeOpen : state.episodeOpen = !(ongoing fingerprint history).isEmpty
  notified : state.notifiedThisEpisode =
    (ongoing fingerprint history).any fun past => past.did fingerprint Consideration.opens
  escalated : state.escalated =
    (ongoing fingerprint history).any fun past => past.did fingerprint Consideration.escalates
  climbs : state.escalated = true → state.notifiedThisEpisode = true
  last : ∀ past ∈ history, past.did fingerprint Consideration.notifies = true →
    Covers state past ∨ Old settings history past
  announced : state.notifiedThisEpisode = true → ∀ past ∈ history,
    past.did fingerprint Consideration.notifies = true → Covers state past

/-- What a missing state says. -/
structure Forgotten (settings : NotificationSettings) (fingerprint : Text)
    (history : List PollRecord) : Prop where
  closed : ongoing fingerprint history = []
  old : ∀ past ∈ history, past.did fingerprint Consideration.notifies = true →
    Old settings history past

def Tracked (settings : NotificationSettings) (fingerprint : Text) (history : List PollRecord) :
    Option FingerprintState → Prop
  | none => Forgotten settings fingerprint history
  | some state => Remembered settings fingerprint history state

section

variable {tools : TextTools} {settings : NotificationSettings} {fingerprint : Text}
  {record : PollRecord} {earlier : List PollRecord}

theorem ongoing_considers (considers : record.considers fingerprint = true) :
    ongoing fingerprint (record :: earlier) = record :: ongoing fingerprint earlier := by
  rw [ongoing, if_pos considers]

/-- In a poll that considers it once, what was done about a fingerprint is what that one
consideration did. -/
theorem did_of_mem {considered : Consideration}
    (once : (record.considered.map Consideration.fingerprint).Nodup)
    (member : considered ∈ record.considered) (what : Consideration → Bool) :
    record.did considered.fingerprint what = what considered := by
  cases holds : what considered with
  | true => exact List.any_eq_true.mpr ⟨considered, member, by simp [holds]⟩
  | false =>
    apply List.any_eq_false.mpr
    intro other inside both
    simp only [Bool.and_eq_true, decide_eq_true_eq] at both
    have same : other = considered := List.inj_on_of_nodup_map once inside member both.1
    rw [same, holds] at both
    exact absurd both.2 Bool.false_ne_true

theorem did_of_absent (absent : record.considers fingerprint = false)
    (what : Consideration → Bool) : record.did fingerprint what = false := by
  apply List.any_eq_false.mpr
  intro considered inside both
  simp only [Bool.and_eq_true, decide_eq_true_eq] at both
  simp only [PollRecord.considers, decide_eq_false_iff_not] at absent
  exact absent (List.mem_map.mpr ⟨considered, inside, both.1⟩)

/-- The state an alert finds in its poll. -/
structure Entered (settings : NotificationSettings) (fingerprint : Text) (earlier : List PollRecord)
    (now : ℚ) (entered : FingerprintState) : Prop where
  episodeOpen : entered.episodeOpen = true
  pollsActive : entered.pollsActive = (ongoing fingerprint earlier).length + 1
  notified : entered.notifiedThisEpisode =
    (ongoing fingerprint earlier).any fun past => past.did fingerprint Consideration.opens
  escalated : entered.escalated =
    (ongoing fingerprint earlier).any fun past => past.did fingerprint Consideration.escalates
  climbs : entered.escalated = true → entered.notifiedThisEpisode = true
  last : ∀ past ∈ earlier, past.did fingerprint Consideration.notifies = true →
    Covers entered past ∨ settings.cooldown ≤ elapsed now past.now
  announced : entered.notifiedThisEpisode = true → ∀ past ∈ earlier,
    past.did fingerprint Consideration.notifies = true → Covers entered past

theorem Old.later {past : PollRecord} {now : ℚ} (old : Old settings earlier past)
    (member : past ∈ earlier) (later : ∀ past ∈ earlier, past.now ≤ now) :
    settings.cooldown ≤ elapsed now past.now := by
  cases earlier with
  | nil => cases member
  | cons newest rest =>
    exact (old newest rfl).trans (elapsed_mono le_rfl (later newest List.mem_cons_self))

theorem Tracked.entered {alert : AlertInfo} {before : Option FingerprintState} {now : ℚ}
    (tracked : Tracked settings alert.fingerprint earlier before)
    (later : ∀ past ∈ earlier, past.now ≤ now) :
    Entered settings alert.fingerprint earlier now (enterPoll alert before).1 := by
  cases before with
  | none =>
    have forgotten : Forgotten settings alert.fingerprint earlier := tracked
    refine ⟨rfl, ?_, ?_, ?_, fun climbed => ?_, fun past member notifies => Or.inr ?_,
      fun announced => ?_⟩
    · simp [enterPoll, forgotten.closed]
    · simp [enterPoll, forgotten.closed]
    · simp [enterPoll, forgotten.closed]
    · simp [enterPoll] at climbed
    · exact (forgotten.old past member notifies).later member later
    · simp [enterPoll] at announced
  | some state =>
    have known : Remembered settings alert.fingerprint earlier state := tracked
    refine ⟨rfl, by simp [enterPoll, known.pollsActive], known.notified, known.escalated, known.climbs,
      fun past member notifies => ?_, known.announced⟩
    rcases known.last past member notifies with covered | old
    · exact Or.inl covered
    · exact Or.inr (old.later member later)

/-- One consideration is calm. -/
structure CalmOne (settings : NotificationSettings) (now : ℚ) (earlier : List PollRecord)
    (considered : Consideration) : Prop where
  opening : considered.opens = true → ∀ past ∈ earlier,
    past.did considered.fingerprint Consideration.notifies = true →
      settings.cooldown ≤ elapsed now past.now
  reminder : considered.reminds = true →
    (∃ past ∈ ongoing considered.fingerprint earlier,
      past.did considered.fingerprint Consideration.opens = true) ∧
    ∀ past ∈ earlier, past.did considered.fingerprint Consideration.notifies = true →
      reaches (elapsed now past.now) settings.reminderInterval = true
  escalation : considered.escalates = true → considered.alert.severity = .critical ∧
    (∃ past ∈ ongoing considered.fingerprint earlier,
      past.did considered.fingerprint Consideration.opens = true) ∧
    (∀ past ∈ ongoing considered.fingerprint earlier,
      past.did considered.fingerprint Consideration.escalates = false) ∧
    settings.escalationPolls ≤ (ongoing considered.fingerprint earlier).length + 1

theorem Entered.calm {considered : Consideration} {now : ℚ} {entered after : FingerprintState}
    (found : Entered settings considered.fingerprint earlier now entered)
    (later : ∀ past ∈ earlier, past.now ≤ now)
    (spoken : Spoken settings considered.alert now entered considered.request after) :
    CalmOne settings now earlier considered := by
  generalize said : considered.request = request at spoken
  cases spoken with
  | silent same =>
    exact ⟨by simp [Consideration.opens, said], by simp [Consideration.reminds, said],
      by simp [Consideration.escalates, said]⟩
  | opening fresh cool kind same =>
    refine ⟨fun _ past member notifies => ?_, fun reminds => ?_, fun escalates => ?_⟩
    · rcases found.last past member notifies with ⟨at_, last, before⟩ | old
      · simp only [coolingDown, last, Option.any_some, Bool.and_eq_false_iff,
          decide_eq_false_iff_not, not_lt] at cool
        rcases cool with never | cooled
        · exact never.trans (elapsed_nonneg (later past member))
        · exact cooled.trans (elapsed_mono before le_rfl)
      · exact old
    · simp [Consideration.reminds, said, kind.2] at reminds
    · simp [Consideration.escalates, said, kind.1] at escalates
  | escalation announced critical once reached kind same =>
    refine ⟨fun opens => ?_, fun reminds => ?_, fun _ => ⟨critical, ?_, ?_, ?_⟩⟩
    · simp [Consideration.opens, said, kind] at opens
    · simp [Consideration.reminds, said, kind] at reminds
    · rw [found.notified] at announced
      exact List.any_eq_true.mp announced
    · rw [found.escalated] at once
      intro past member
      simpa using List.any_eq_false.mp once past member
    · rw [found.pollsActive] at reached
      exact_mod_cast reached
  | reminder announced due kind same =>
    refine ⟨fun opens => ?_, fun _ => ⟨?_, ?_⟩, fun escalates => ?_⟩
    · simp [Consideration.opens, said, kind.2] at opens
    · rw [found.notified] at announced
      exact List.any_eq_true.mp announced
    · intro past member notifies
      obtain ⟨at_, last, before⟩ := found.announced announced past member notifies
      rw [last, Option.any_some] at due
      exact reaches_mono (elapsed_mono before le_rfl) due
    · simp [Consideration.escalates, said, kind.1] at escalates

theorem Entered.remembered {considered : Consideration} {entered after : FingerprintState}
    (once : (record.considered.map Consideration.fingerprint).Nodup)
    (member : considered ∈ record.considered)
    (found : Entered settings considered.fingerprint earlier record.now entered)
    (later : ∀ past ∈ earlier, past.now ≤ record.now)
    (spoken : Spoken settings considered.alert record.now entered considered.request after) :
    Remembered settings considered.fingerprint (record :: earlier) after := by
  have considers : record.considers considered.fingerprint = true :=
    decide_eq_true (List.mem_map.mpr ⟨considered, member, rfl⟩)
  have did := did_of_mem once member
  have episode := @ongoing_considers _ record earlier considers
  -- Whoever has just spoken remembers this poll, and every poll before it.
  have justNow : after.lastNotifiedAt = some record.now → ∀ past ∈ record :: earlier,
      Covers after past := by
    intro spoke past inside
    rcases List.mem_cons.mp inside with here | before
    · exact ⟨record.now, spoke, here ▸ le_rfl⟩
    · exact ⟨record.now, spoke, later past before⟩
  generalize said : considered.request = request at spoken
  cases spoken with
  | silent same =>
    have opens : considered.opens = false := by simp [Consideration.opens, said]
    have escalates : considered.escalates = false := by simp [Consideration.escalates, said]
    have notifies : considered.notifies = false := by simp [Consideration.notifies, said]
    have before : ∀ past ∈ record :: earlier,
        past.did considered.fingerprint Consideration.notifies = true → past ∈ earlier := by
      intro past inside spoke
      rcases List.mem_cons.mp inside with here | old
      · rw [here, did, notifies] at spoke
        cases spoke
      · exact old
    have kept : ∀ past, Covers entered past → Covers after past := by
      intro past covered
      obtain ⟨at_, last, order⟩ := covered
      exact ⟨at_, same.last.trans last, order⟩
    constructor
    · rw [episode, same.pollsActive, found.pollsActive, List.length_cons]
    · rw [episode, same.episodeOpen, found.episodeOpen]
      rfl
    · rw [episode, List.any_cons, did, opens, same.notified, found.notified, Bool.false_or]
    · rw [episode, List.any_cons, did, escalates, same.escalated, found.escalated, Bool.false_or]
    · rw [same.escalated, same.notified]
      exact found.climbs
    · intro past inside spoke
      rcases found.last past (before past inside spoke) spoke with covered | old
      · exact Or.inl (kept past covered)
      · exact Or.inr fun newest first => by
          cases first
          exact old
    · intro announced past inside spoke
      rw [same.notified] at announced
      exact kept past (found.announced announced past (before past inside spoke) spoke)
  | opening fresh cool kind same =>
    have opens : considered.opens = true := by simp [Consideration.opens, said, kind]
    have escalates : considered.escalates = false := by simp [Consideration.escalates, said, kind]
    have quiet : entered.escalated = false := by
      cases climbed : entered.escalated with
      | false => rfl
      | true => exact absurd (found.climbs climbed) (by simp [fresh])
    constructor
    · rw [episode, same.pollsActive, List.length_cons]
      exact found.pollsActive
    · rw [episode, same.episodeOpen]
      exact found.episodeOpen
    · rw [episode, List.any_cons, did, opens, same.notified, Bool.true_or]
    · rw [episode, List.any_cons, did, escalates, same.escalated, Bool.false_or,
        ← found.escalated, quiet]
    · rw [same.escalated]
      exact fun climbed => absurd climbed Bool.false_ne_true
    · exact fun past inside _ => Or.inl (justNow same.last past inside)
    · exact fun _ past inside _ => justNow same.last past inside
  | escalation announced critical calm reached kind same =>
    have opens : considered.opens = false := by simp [Consideration.opens, said, kind]
    have escalates : considered.escalates = true := by simp [Consideration.escalates, said, kind]
    constructor
    · rw [episode, same.pollsActive, List.length_cons]
      exact found.pollsActive
    · rw [episode, same.episodeOpen]
      exact found.episodeOpen
    · rw [episode, List.any_cons, did, opens, same.notified, Bool.false_or]
      exact found.notified
    · rw [episode, List.any_cons, did, escalates, same.escalated, Bool.true_or]
    · exact fun _ => same.notified.trans announced
    · exact fun past inside _ => Or.inl (justNow same.last past inside)
    · exact fun _ past inside _ => justNow same.last past inside
  | reminder announced due kind same =>
    have opens : considered.opens = false := by simp [Consideration.opens, said, kind]
    have escalates : considered.escalates = false := by simp [Consideration.escalates, said, kind]
    constructor
    · rw [episode, same.pollsActive, List.length_cons]
      exact found.pollsActive
    · rw [episode, same.episodeOpen]
      exact found.episodeOpen
    · rw [episode, List.any_cons, did, opens, same.notified, Bool.false_or]
      exact found.notified
    · rw [episode, List.any_cons, did, escalates, same.escalated, Bool.false_or]
      exact found.escalated
    · exact fun _ => same.notified.trans announced
    · exact fun past inside _ => Or.inl (justNow same.last past inside)
    · exact fun _ past inside _ => justNow same.last past inside

theorem spoke_before (absent : record.considers fingerprint = false) :
    ∀ past ∈ record :: earlier, past.did fingerprint Consideration.notifies = true →
      past ∈ earlier := by
  intro past inside spoke
  rcases List.mem_cons.mp inside with here | before
  · rw [here, did_of_absent absent] at spoke
    cases spoke
  · exact before

theorem Old.grown {past : PollRecord} (old : Old settings earlier past) (member : past ∈ earlier)
    (later : ∀ past ∈ earlier, past.now ≤ record.now) : Old settings (record :: earlier) past := by
  intro newest first
  cases first
  exact old.later member later

theorem Tracked.unconsidered {state : Option FingerprintState}
    (tracked : Tracked settings fingerprint earlier state)
    (absent : record.considers fingerprint = false) (raised : record.raised = true)
    (later : ∀ past ∈ earlier, past.now ≤ record.now) :
    Tracked settings fingerprint (record :: earlier) state := by
  have episode : ongoing fingerprint (record :: earlier) = ongoing fingerprint earlier := by
    simp [ongoing, absent, raised]
  cases state with
  | none =>
    have forgotten : Forgotten settings fingerprint earlier := tracked
    exact ⟨episode.trans forgotten.closed, fun past inside spoke =>
      (forgotten.old past (spoke_before absent past inside spoke) spoke).grown
        (spoke_before absent past inside spoke) later⟩
  | some state =>
    have known : Remembered settings fingerprint earlier state := tracked
    refine ⟨by rw [episode]; exact known.pollsActive, by rw [episode]; exact known.episodeOpen,
      by rw [episode]; exact known.notified, by rw [episode]; exact known.escalated, known.climbs, ?_, ?_⟩
    · intro past inside spoke
      have member := spoke_before absent past inside spoke
      rcases known.last past member spoke with covered | old
      · exact Or.inl covered
      · exact Or.inr (old.grown member later)
    · exact fun announced past inside spoke => known.announced announced past
        (spoke_before absent past inside spoke) spoke

theorem Tracked.closeInactive {state : Option FingerprintState}
    (tracked : Tracked settings fingerprint earlier state)
    (absent : record.considers fingerprint = false) (returned : record.raised = false)
    (later : ∀ past ∈ earlier, past.now ≤ record.now) :
    Tracked settings fingerprint (record :: earlier)
      (state.bind fun state => if isCold settings state record.now then none
        else some state.closed) := by
  have episode : ongoing fingerprint (record :: earlier) = [] := by
    simp [ongoing, absent, returned]
  cases state with
  | none =>
    have forgotten : Forgotten settings fingerprint earlier := tracked
    exact ⟨episode, fun past inside spoke =>
      (forgotten.old past (spoke_before absent past inside spoke) spoke).grown
        (spoke_before absent past inside spoke) later⟩
  | some state =>
    have known : Remembered settings fingerprint earlier state := tracked
    rw [Option.bind_some]
    cases cold : isCold settings state record.now with
    | true =>
      refine ⟨episode, fun past inside spoke => ?_⟩
      have member := spoke_before absent past inside spoke
      rcases known.last past member spoke with ⟨at_, last, order⟩ | old
      · intro newest first
        cases first
        simp only [isCold, last, Option.all_some, decide_eq_true_eq] at cold
        exact cold.le.trans (elapsed_mono order le_rfl)
      · exact old.grown member later
    | false =>
      refine ⟨by rw [episode]; rfl, by rw [episode]; rfl, by rw [episode]; rfl, by rw [episode]; rfl,
        fun climbed => ?_, ?_, fun announced => ?_⟩
      · cases climbed
      · intro past inside spoke
        have member := spoke_before absent past inside spoke
        rcases known.last past member spoke with covered | old
        · exact Or.inl covered
        · exact Or.inr (old.grown member later)
      · cases announced

/-! ## Polls and runs -/

/-- What a poll of an enabled policy leaves. -/
structure Evaluated (tools : TextTools) (settings : NotificationSettings) (policy : PolicyState)
    (poll : Poll) (after : PolicyState) (record : PollRecord) : Prop where
  now : record.now = poll.now
  told : ∀ returned, record.returned = some returned → Told settings record returned
  digest : record.digestLeft = record.digestFound ++
    (record.considered.filter Consideration.queued).map fun considered =>
      (considered.alert.severity, considered.alert.title)
  loop : ∃ round, LoopSpec tools settings poll.now policy.states round ∧
    record.considered = round.considered ∧
    ∀ fingerprint, fingerprint ≠ fpBackendUnreachable → after.states.get? fingerprint =
      if record.considers fingerprint || record.raised then round.policy.states.get? fingerprint
      else (round.policy.states.get? fingerprint).bind fun state =>
        if isCold settings state poll.now then none else some state.closed

theorem maybeFlushDigest_states (policy : PolicyState) (now : ℚ) :
    (maybeFlushDigest settings policy now).1.states = policy.states := by
  simp only [maybeFlushDigest, flushDigest]
  split
  · rfl
  · split
    · rfl
    · split <;> rfl

theorem evaluate_digest (policy : PolicyState) (poll : Poll) :
    (evaluate tools settings policy poll).2.digestLeft =
      (evaluate tools settings policy poll).2.digestFound ++
        ((evaluate tools settings policy poll).2.considered.filter Consideration.queued).map
          fun considered => (considered.alert.severity, considered.alert.title) := by
  obtain ⟨later, considered, digest⟩ :=
    @considerAll_digest tools settings poll poll.alerts ⟨policy, []⟩
  rw [List.nil_append] at considered
  simp only [evaluate]
  split
  · simp
  · split <;> simp only [considered, digest]

theorem evaluate_evaluated (enabled : settings.enabled = true) (policy : PolicyState)
    (poll : Poll) : Evaluated tools settings policy poll (evaluate tools settings policy poll).1
      (evaluate tools settings policy poll).2 := by
  have spec := considerAll_spec (@loopSpec_start tools settings poll.now policy) poll.alerts
  have told := @evaluate_told tools settings policy poll
  have digest := @evaluate_digest tools settings policy poll
  simp only [evaluate, enabled, Bool.not_true, Bool.false_eq_true, if_false] at told digest ⊢
  split
  · rename_i raised
    simp only [raised] at told digest
    exact ⟨rfl, fun _ => told, digest, _, spec, rfl, fun fingerprint _ => by simp [PollRecord.raised]⟩
  · rename_i returned
    simp only [returned] at told digest
    refine ⟨rfl, fun _ => told, digest, _, spec, rfl, fun fingerprint alerting => ?_⟩
    simp only [maybeFlushDigest_states, closeInactive_get? _ _ _ alerting, PollRecord.considers,
      PollRecord.raised, Considering.active, Option.isNone_some, Bool.or_false, decide_eq_true_eq]

/-- What holds of every poll of a run. -/
structure PollFacts (settings : NotificationSettings) (record : PollRecord)
    (earlier : List PollRecord) : Prop where
  calm : CalmPoll settings record earlier
  queued : ∀ considered ∈ record.considered, considered.queued =
    (considered.admitted && settings.digestMode && decide (considered.alert.severity ≠ .critical) &&
      (ongoing considered.fingerprint earlier).isEmpty)
  digest : record.digestLeft = record.digestFound ++
    (record.considered.filter Consideration.queued).map fun considered =>
      (considered.alert.severity, considered.alert.title)

/-- After the polls of the history, the policy tracks every fingerprint. -/
structure RunTracks (settings : NotificationSettings) (run : PolicyRun) : Prop where
  facts : Always (PollFacts settings) run.history
  tracked : ∀ fingerprint, fingerprint ≠ fpBackendUnreachable →
    Tracked settings fingerprint run.history (run.policy.states.get? fingerprint)

theorem runTracks_start (settings : NotificationSettings) : RunTracks settings ⟨.initial, []⟩ where
  facts := trivial
  tracked _ _ := ⟨rfl, by simp⟩

theorem Tracked.firstPoll {alert : AlertInfo} {before : Option FingerprintState}
    (tracked : Tracked settings alert.fingerprint earlier before) :
    (enterPoll alert before).2 = (ongoing alert.fingerprint earlier).isEmpty := by
  cases before with
  | none =>
    have forgotten : Forgotten settings alert.fingerprint earlier := tracked
    simp [enterPoll, forgotten.closed]
  | some state =>
    have known : Remembered settings alert.fingerprint earlier state := tracked
    simp [enterPoll, known.episodeOpen]

theorem Evaluated.tracks {run : PolicyRun} {poll : Poll} {after : PolicyState} {record : PollRecord}
    (tracks : RunTracks settings run)
    (evaluated : Evaluated tools settings run.policy poll after record)
    (later : ∀ past ∈ run.history, past.now ≤ poll.now) :
    RunTracks settings ⟨after, record :: run.history⟩ := by
  obtain ⟨round, spec, same, states⟩ := evaluated.loop
  have once : (record.considered.map Consideration.fingerprint).Nodup := by
    rw [same]
    exact spec.once
  rw [← evaluated.now] at spec later
  have entered : ∀ considered ∈ record.considered, ∃ found left,
      Entered settings considered.fingerprint run.history record.now found ∧
      Spoken settings considered.alert record.now found considered.request left ∧
      round.policy.states.get? considered.fingerprint = some left := by
    intro considered member
    rw [same] at member
    obtain ⟨alert, admits, named, result, stored⟩ := spec.done considered member
    have own : considered.alert = alert := by
      rw [result]
      exact consider_alert alert _ _ _
    refine ⟨(enterPoll alert (run.policy.states.get? alert.fingerprint)).1,
      (consider tools settings alert (run.policy.states.get? alert.fingerprint) record.now
      admits).2, ?_, ?_, by rw [← named]; exact stored⟩
    · rw [← named]
      exact (tracks.tracked _ (fingerprint_ne_backend alert)).entered later
    · rw [own, result]
      exact consider_spoken alert _ _ admits
  refine ⟨⟨⟨⟨once, ?_, ?_, ?_, evaluated.told⟩, ?_, evaluated.digest⟩, tracks.facts⟩,
    fun fingerprint alerting => ?_⟩
  · intro considered member
    obtain ⟨found, left, enters, spoken, _⟩ := entered considered member
    exact (enters.calm later spoken).opening
  · intro considered member
    obtain ⟨found, left, enters, spoken, _⟩ := entered considered member
    exact (enters.calm later spoken).reminder
  · intro considered member escalates
    obtain ⟨found, left, enters, spoken, _⟩ := entered considered member
    obtain ⟨critical, announced, first, reached⟩ := (enters.calm later spoken).escalation escalates
    refine ⟨critical, announced, first, ?_⟩
    rw [ongoing_considers (decide_eq_true (List.mem_map.mpr ⟨considered, member, rfl⟩)),
      List.length_cons]
    exact_mod_cast reached
  · intro considered member
    rw [same] at member
    obtain ⟨alert, admits, named, result, _⟩ := spec.done considered member
    have before := (tracks.tracked _ (fingerprint_ne_backend alert)).firstPoll
    rw [← named, result, consider_queued, consider_alert, before]
  · have state : after.states.get? fingerprint = _ := states fingerprint alerting
    cases considers : record.considers fingerprint with
    | true =>
      obtain ⟨considered, member, named⟩ := List.mem_map.mp (of_decide_eq_true considers)
      obtain ⟨found, left, enters, spoken, stored⟩ := entered considered member
      simp only [considers, Bool.true_or, if_true] at state
      rw [state, ← named, stored]
      exact enters.remembered once member later spoken
    | false =>
      have unseen : fingerprint ∉ round.active := by
        rw [Considering.active, ← same]
        exact of_decide_eq_false considers
      rw [spec.others fingerprint unseen] at state
      have before := tracks.tracked fingerprint alerting
      cases raised : record.raised with
      | true =>
        simp only [considers, raised, Bool.or_true, if_true] at state
        rw [state]
        exact before.unconsidered considers raised later
      | false =>
        simp only [considers, raised, Bool.or_false, Bool.false_eq_true, if_false,
          ← evaluated.now] at state
        rw [state]
        exact before.closeInactive considers raised later

theorem runTracks_run (enabled : settings.enabled = true) {ops : List Op} {run : PolicyRun}
    (tracks : RunTracks settings run) (clock : (pollTimes ops).Pairwise (· ≤ ·))
    (later : ∀ time ∈ pollTimes ops, ∀ past ∈ run.history, past.now ≤ time) :
    RunTracks settings (ops.foldl (PolicyRun.step tools settings) run) := by
  induction ops generalizing run with
  | nil => exact tracks
  | cons op rest ih =>
    cases op with
    | snooze instant key minutes => exact ih ⟨tracks.facts, tracks.tracked⟩ clock later
    | evaluate poll =>
      obtain ⟨first, clock'⟩ := List.pairwise_cons.mp clock
      have evaluated := @evaluate_evaluated tools settings enabled run.policy poll
      refine ih (evaluated.tracks tracks (later poll.now List.mem_cons_self)) clock' ?_
      intro time member past inside
      rcases List.mem_cons.mp inside with here | before
      · rw [here, evaluated.now]
        exact first time member
      · exact later time (List.mem_cons_of_mem _ member) past before

theorem disabled_run (disabled : settings.enabled = false) (ops : List Op) {run : PolicyRun}
    (silent : ∀ record ∈ run.history, record.Silent) :
    ∀ record ∈ (ops.foldl (PolicyRun.step tools settings) run).history, record.Silent := by
  induction ops generalizing run with
  | nil => exact silent
  | cons op rest ih =>
    cases op with
    | snooze instant key minutes => exact ih silent
    | evaluate poll =>
      apply ih
      intro record member
      rcases List.mem_cons.mp member with here | before
      · have off : (!settings.enabled) = true := by simp [disabled]
        rw [here, evaluate, if_pos off]
        exact ⟨rfl, rfl, rfl⟩
      · exact silent record before

theorem calm_of_silent {history : List PollRecord} (silent : ∀ record ∈ history, record.Silent) :
    Calm settings history := by
  refine always_of_silent (fun record earlier quiet => ?_) silent
  refine ⟨by simp [quiet.considered], by simp [quiet.considered], by simp [quiet.considered],
    by simp [quiet.considered], fun returned same => ?_⟩
  rw [quiet.returned, Option.some.injEq] at same
  exact same ▸ told_nothing quiet.considered

/-- Whatever is polled and snoozed, no fingerprint interrupts more often than its settings
allow, by the time that the policy measures. -/
theorem policy_is_calm (tools : TextTools) (settings : NotificationSettings) (ops : List Op)
    (clock : (pollTimes ops).Pairwise (· ≤ ·)) :
    Calm settings (policyRun tools settings ops).history := by
  cases enabled : settings.enabled with
  | false => exact calm_of_silent (@disabled_run tools settings enabled ops ⟨.initial, []⟩ (by simp))
  | true =>
    have tracks :=
      @runTracks_run tools settings enabled ops ⟨.initial, []⟩ (runTracks_start settings) clock
      (by simp)
    exact tracks.facts.imp fun _ _ facts => facts.calm

end

/-! A critical that stays: quiet, then loud, then restated a day later. -/

def trayTools : TextTools := ⟨.ascii, id⟩

def traySettings : NotificationSettings where
  enabled := true
  minSeverity := text "critical"
  flapCooldownMinutes := 30
  escalationPolls := 3
  coalesceThreshold := 2
  snoozeMinutes := 60
  digestMode := false
  digestIntervalMinutes := 60
  respectDesktopDnd := true
  mutedServices := []
  reminderHours := .finite 24

def diskFull : AlertInfo := ⟨.critical, text "Disk full", none, none, false⟩

def pollOf (now : ℚ) (alerts : List AlertInfo) : Op :=
  .evaluate ⟨now, alerts.map fun alert => ⟨alert, now, now⟩, false, true, false⟩

def diskFullPolls : List Op :=
  [pollOf 0 [diskFull], pollOf 60 [diskFull], pollOf 120 [diskFull], pollOf 86520 [diskFull]]

example : (policyRun trayTools traySettings diskFullPolls).history.map (fun record =>
    record.considered.map fun considered =>
      (considered.opens, considered.escalates, considered.reminds)) =
    [[(false, false, true)], [(false, true, false)], [(false, false, false)],
      [(true, false, false)]] := by
  decide +kernel

theorem diskFull_calm : Calm traySettings (policyRun trayTools traySettings diskFullPolls).history :=
  policy_is_calm trayTools traySettings diskFullPolls (by decide)

/-! A critical that flaps: half an hour after 0.1, as doubles are subtracted, comes a little early.
And a warning whose opening was rolled up with an alert that has no text. -/

/-- An opening keeps the cooldown, by the instants themselves. -/
def ExactlySpaced (settings : NotificationSettings) (record : PollRecord)
    (earlier : List PollRecord) : Prop :=
  ∀ considered ∈ record.considered, considered.opens = true →
    ∀ past ∈ earlier, past.did considered.fingerprint Consideration.notifies = true →
      settings.cooldown ≤ record.now - past.now

instance (settings : NotificationSettings) (record : PollRecord) (earlier : List PollRecord) :
    Decidable (ExactlySpaced settings record earlier) := by
  delta ExactlySpaced
  infer_instance

/-- A reminder that is returned restates an opening that was returned. -/
def ReturnedFirst (record : PollRecord) (earlier : List PollRecord) : Prop :=
  record.raised = false → ∀ considered ∈ record.considered, considered.reminds = true →
    ∃ past ∈ ongoing considered.fingerprint earlier, past.raised = false ∧
      past.did considered.fingerprint Consideration.opens = true

instance (record : PollRecord) (earlier : List PollRecord) :
    Decidable (ReturnedFirst record earlier) := by
  delta ReturnedFirst
  infer_instance

def flapping : List Op :=
  [pollOf (roundToDouble (1 / 10)) [diskFull], pollOf 900 [],
    pollOf (roundToDouble (18001 / 10)) [diskFull]]

def chattySettings : NotificationSettings := { traySettings with minSeverity := text "info" }

def untitled : AlertInfo := ⟨.info, [], none, none, false⟩

def portBusy : AlertInfo := ⟨.warning, text "Port 8080 contested", none, none, false⟩

def unlistedOpening : List Op := [pollOf 0 [untitled, portBusy], pollOf 86400 [portBusy]]

theorem exact_calm_fails :
    ((pollTimes flapping).Pairwise (· ≤ ·) ∧
      ¬ Always (ExactlySpaced traySettings) (policyRun trayTools traySettings flapping).history) ∧
    (pollTimes unlistedOpening).Pairwise (· ≤ ·) ∧
      ¬ Always ReturnedFirst (policyRun trayTools chattySettings unlistedOpening).history := by
  decide +kernel

end SysadminAssistant.Tray
