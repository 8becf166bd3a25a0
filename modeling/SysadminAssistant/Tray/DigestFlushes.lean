import SysadminAssistant.Tray.DigestEpisodes
import SysadminAssistant.Library.RaisingLoops

namespace SysadminAssistant.Tray

open Python SysadminAssistant.Core

/-! When the digest is flushed, and what it reports. -/

structure QueuedItem where
  queuedAt : ℚ
  severity : Severity
  title : Text

def QueuedItem.entry (item : QueuedItem) : Severity × Text := (item.severity, item.title)

def queuedItems (now : ℚ) (considered : List Consideration) : List QueuedItem :=
  (considered.filter Consideration.queued).map fun considered =>
    ⟨now, considered.alert.severity, considered.alert.title⟩

/-- What a poll appended to the digest. -/
def PollRecord.queuedItems (record : PollRecord) : List QueuedItem :=
  Tray.queuedItems record.now record.considered

def NotificationRequest.isDigest (request : NotificationRequest) : Bool :=
  request.fingerprint = some fpDigest

/-- A digest request that counts and lists these items. -/
def Reports (request : NotificationRequest) (items : List QueuedItem) : Prop :=
  request.isDigest = true ∧
    (∃ window, request.summary =
      text "SysAdmin digest — " ++ intText items.length ++ text " alerts in the last " ++ window) ∧
    request.body = Text.joinLines (countLine (items.map QueuedItem.severity) ::
      listedLines ((items.map QueuedItem.title).take maxListedTitles) items.length)

/-- A call of `evaluate`: the items that wait in its buffer when it comes to the flush, the first
one first, which of them it queued itself, what it considered, what it returned, and the policy it
left. -/
structure DigestTurn where
  now : ℚ
  items : List QueuedItem
  queued : List QueuedItem
  considered : List Consideration
  requests : Option (List NotificationRequest)
  after : PolicyState

/-- The policy, and the items that have been queued and that no digest has reported. -/
structure DigestRun where
  policy : PolicyState
  waiting : List QueuedItem

def DigestTurn.reported (turn : DigestTurn) : Bool :=
  turn.requests.any fun requests => requests.any NotificationRequest.isDigest

section

variable (tools : TextTools) (settings : NotificationSettings)

def DigestRun.turn (run : DigestRun) (poll : Poll) : DigestTurn :=
  let evaluated := evaluate tools settings run.policy poll
  { now := poll.now
    items := run.waiting ++ evaluated.2.queuedItems
    queued := evaluated.2.queuedItems
    considered := evaluated.2.considered
    requests := evaluated.2.returned
    after := evaluated.1 }

def DigestRun.step (run : DigestRun) : Op → DigestRun
  | .evaluate poll =>
    let turn := run.turn tools settings poll
    ⟨turn.after, if turn.reported then [] else turn.items⟩
  | .snooze clock key minutes =>
    { run with policy := Tray.snooze settings run.policy clock key minutes }

/-- The calls of `evaluate` among the operations, in order. -/
def turnsFrom (run : DigestRun) : List Op → List DigestTurn
  | [] => []
  | .evaluate poll :: rest =>
    run.turn tools settings poll :: turnsFrom (run.step tools settings (.evaluate poll)) rest
  | .snooze clock key minutes :: rest =>
    turnsFrom (run.step tools settings (.snooze clock key minutes)) rest

def digestTurns (ops : List Op) : List DigestTurn := turnsFrom tools settings ⟨.initial, []⟩ ops

end

/-- The first item in the buffer was queued an interval ago. -/
def DigestTurn.Overdue (settings : NotificationSettings) (turn : DigestTurn) : Prop :=
  ∃ first rest, turn.items = first :: rest ∧ settings.digestIntervalMinutes * 60 ≤ turn.now -
    first.queuedAt

def DigestTurn.Flushes (turn : DigestTurn) : Prop :=
  ∃ requests, turn.requests = some requests ∧ (∃ request ∈ requests, Reports request turn.items) ∧
    turn.after.digest = []

/-- One digest at most, of the items in the buffer. -/
def DigestTurn.ReportsOnce (turn : DigestTurn) : Prop :=
  ∀ requests, turn.requests = some requests →
    (requests.filter NotificationRequest.isDigest).length ≤ 1 ∧
    ∀ request ∈ requests, request.isDigest = true → Reports request turn.items

def reportedItems (turns : List DigestTurn) : List QueuedItem :=
  (turns.filter DigestTurn.reported).flatMap DigestTurn.items

/-- What the digests report, one after the other, is what was queued, in its order. -/
def ReportedOnce (turns : List DigestTurn) : Prop :=
  (∀ turn ∈ turns, turn.ReportsOnce) ∧ reportedItems turns <+: turns.flatMap DigestTurn.queued

/-- What a poll rolls up cannot be listed: an `IndexError`. -/
def Unlistable (settings : NotificationSettings) (batch : List NotificationRequest) : Prop :=
  max settings.coalesceThreshold 2 ≤ batch.length ∧ ∃ request ∈ batch.take maxListedTitles,
    request.body = []

def DigestTurn.spoken (turn : DigestTurn) : List NotificationRequest :=
  turn.considered.filterMap Consideration.request

/-- The new alerts and the reminders of a call can be listed. -/
def DigestTurn.Listable (settings : NotificationSettings) (turn : DigestTurn) : Prop :=
  ¬ Unlistable settings (turn.spoken.filter fun request => !request.escalation && !request.reminder) ∧
    ¬ Unlistable settings (turn.spoken.filter fun request => !request.escalation && request.reminder)

/-- The first item was not queued at the instant zero and its age has not been rounded below the
interval; and nothing is raised. -/
def DigestTurn.Dated (settings : NotificationSettings) (turn : DigestTurn) : Prop :=
  (∀ first ∈ turn.items.head?,
    if first.queuedAt = 0 then settings.digestIntervalMinutes ≤ 0
    else settings.digestIntervalMinutes * 60 ≤ elapsed turn.now first.queuedAt) ∧
      turn.Listable settings

section

variable {tools : TextTools} {settings : NotificationSettings}

theorem considerAll_started {poll : Poll} (alerts : List Seen) (round : Considering) :
    ∃ later, (alerts.foldl (considerSeen tools settings poll) round).considered =
      round.considered ++ later ∧
      (alerts.foldl (considerSeen tools settings poll) round).policy.digestStartedAt =
        round.policy.digestStartedAt.or
          (if later.any Consideration.queued then some poll.now else none) := by
  induction alerts generalizing round with
  | nil => exact ⟨[], by simp⟩
  | cons seen rest ih =>
    rw [List.foldl_cons]
    obtain ⟨later, considered, started⟩ := ih (considerSeen tools settings poll round seen)
    rw [considered, started]
    simp only [considerSeen]
    split
    · exact ⟨later, rfl, rfl⟩
    · refine ⟨_, List.append_assoc _ _ _, ?_⟩
      split
      · rename_i queued
        simp only [List.singleton_append, List.any_cons, queued, Bool.true_or, if_true]
        cases round.policy.digestStartedAt <;> simp
      · rename_i quiet
        simp [quiet]

/-! ## What a batch becomes -/

theorem firstLine_none {body : Text} : firstLine body = none ↔ body = [] := by
  by_cases empty : body = [] <;> simp [firstLine, empty]

theorem coalesce_cases (settings : NotificationSettings) (batch : List NotificationRequest)
    (label fingerprint : Text) (reminder : Bool) :
    (¬ Unlistable settings batch ∧
      ∃ requests, coalesce settings batch label fingerprint reminder = some requests) ∨
    (Unlistable settings batch ∧ coalesce settings batch label fingerprint reminder = none) := by
  by_cases few : batch.length < max settings.coalesceThreshold 2
  · refine Or.inl ⟨fun unlistable => absurd unlistable.1 (not_le.mpr few), batch, ?_⟩
    rw [coalesce, if_pos few]
  · have listing :=
      @Library.mapM_isSome _ _ (fun request : NotificationRequest => firstLine request.body)
      (batch.take maxListedTitles)
    cases titles : (batch.take maxListedTitles).mapM fun request => firstLine request.body with
    | some titled =>
      rw [titles] at listing
      refine Or.inl ⟨?_, ?_⟩
      · intro unlistable
        obtain ⟨_, request, member, empty⟩ := unlistable
        have line := listing.mp rfl request member
        rw [firstLine_none.mpr empty] at line
        cases line
      · rw [coalesce, if_neg few, titles]
        exact ⟨_, rfl⟩
    | none =>
      rw [titles] at listing
      have missing : ¬ ∀ request ∈ batch.take maxListedTitles, (firstLine request.body).isSome :=
        fun all => by simpa using listing.mpr all
      simp only [not_forall] at missing
      obtain ⟨request, member, empty⟩ := missing
      refine Or.inr ⟨⟨not_lt.mp few, request, member, ?_⟩, ?_⟩
      · exact firstLine_none.mp (by simpa using empty)
      · rw [coalesce, if_neg few, titles]
        rfl

/-! ## A digest is the flush's -/

theorem fingerprint_ne_digest (alert : AlertInfo) : alert.fingerprint ≠ fpDigest := by
  intro same
  have heads := firstLetter_fingerprint alert
  rw [same] at heads
  revert heads
  cases alert.severity <;> decide

theorem considered_not_digest {poll : Poll} {policy : PolicyState} {request : NotificationRequest}
    (spoken : request ∈ (poll.alerts.foldl (considerSeen tools settings poll)
      ⟨policy, []⟩).considered.filterMap Consideration.request) : request.isDigest = false := by
  obtain ⟨considered, member, asked⟩ := List.mem_filterMap.mp spoken
  have spec := considerAll_spec (@loopSpec_start tools settings poll.now policy) poll.alerts
  rw [NotificationRequest.isDigest, considered_named spec considered member request asked]
  simpa [Consideration.fingerprint] using fingerprint_ne_digest considered.alert

theorem coalesced_not_digest {batch requests : List NotificationRequest} {label fingerprint : Text}
    {reminder : Bool} (apart : fingerprint ≠ fpDigest)
    (plain : ∀ request ∈ batch, request.isDigest = false)
    (coalesced : coalesce settings batch label fingerprint reminder = some requests) :
    ∀ request ∈ requests, request.isDigest = false := by
  cases coalesce_batched coalesced with
  | each few => exact plain
  | rolled many named counts =>
    intro request member
    rw [List.mem_singleton.mp member, NotificationRequest.isDigest, named]
    simpa using apart

/-! ## One call -/

/-- What the policy says of the buffer. -/
structure Buffers (settings : NotificationSettings) (run : DigestRun) : Prop where
  digest : run.policy.digest = run.waiting.map QueuedItem.entry
  started : run.policy.digestStartedAt = run.waiting.head?.map QueuedItem.queuedAt
  disabled : settings.enabled = false → run.waiting = []

/-- By its own clock, which takes an instant zero for none. -/
def DigestTurn.Due (settings : NotificationSettings) (turn : DigestTurn) : Prop :=
  ∃ first rest, turn.items = first :: rest ∧
    settings.digestIntervalMinutes * 60 ≤ elapsed turn.now (if first.queuedAt = 0 then turn.now
      else first.queuedAt)

theorem flush_cases {policy : PolicyState} {items : List QueuedItem} (now : ℚ)
    (digest : policy.digest = items.map QueuedItem.entry)
    (started : policy.digestStartedAt = items.head?.map QueuedItem.queuedAt) :
    ((¬ ∃ first rest, items = first :: rest ∧
        settings.digestIntervalMinutes * 60 ≤ elapsed now
          (if first.queuedAt = 0 then now else first.queuedAt)) ∧
      maybeFlushDigest settings policy now = (policy, none)) ∨
    ((∃ first rest, items = first :: rest ∧
        settings.digestIntervalMinutes * 60 ≤ elapsed now
          (if first.queuedAt = 0 then now else first.queuedAt)) ∧
      ∃ request, Reports request items ∧ maybeFlushDigest settings policy now =
        ({ policy with digest := [], digestStartedAt := none }, some request)) := by
  cases items with
  | nil => exact Or.inl ⟨by simp, by simp [maybeFlushDigest, digest]⟩
  | cons first rest =>
    have start : digestStart policy now = if first.queuedAt = 0 then now else first.queuedAt := by
      rw [digestStart, started]
      by_cases zero : first.queuedAt = 0 <;> simp [zero, Option.filter]
    have filled : policy.digest.isEmpty = false := by simp [digest]
    rw [maybeFlushDigest, filled, if_neg Bool.false_ne_true, start]
    by_cases early : elapsed now (if first.queuedAt = 0 then now else first.queuedAt) <
        settings.digestIntervalMinutes * 60
    · refine Or.inl ⟨?_, if_pos early⟩
      intro due
      obtain ⟨_, _, same, long⟩ := due
      cases same
      exact absurd early (not_lt.mpr long)
    · refine Or.inr ⟨⟨first, rest, rfl, not_lt.mp early⟩, ?_⟩
      rw [if_neg early, flushDigest, filled, if_neg Bool.false_ne_true]
      simp only [digest, List.length_map, List.map_map]
      refine ⟨_, ?_, rfl⟩
      exact ⟨decide_eq_true rfl, ⟨_, rfl⟩, rfl⟩

/-- A call that finds its buffer as the policy says raises, keeps what waits, or flushes it. -/
inductive Turned (settings : NotificationSettings) (turn : DigestTurn) : Prop where
  | raised (unlistable : ¬ turn.Listable settings) (none : turn.requests = none)
      (digest : turn.after.digest = turn.items.map QueuedItem.entry)
      (started : turn.after.digestStartedAt = turn.items.head?.map QueuedItem.queuedAt)
  | kept (requests : List NotificationRequest) (listable : turn.Listable settings)
      (early : ¬ turn.Due settings)
      (returned : turn.requests = some requests) (plain : ∀ request ∈ requests,
        request.isDigest = false)
      (digest : turn.after.digest = turn.items.map QueuedItem.entry)
      (started : turn.after.digestStartedAt = turn.items.head?.map QueuedItem.queuedAt)
  | flushed (requests : List NotificationRequest) (request : NotificationRequest)
      (listable : turn.Listable settings)
      (due : turn.Due settings) (returned : turn.requests = some (requests ++ [request]))
      (plain : ∀ request ∈ requests, request.isDigest = false) (reports : Reports request turn.items)
      (digest : turn.after.digest = []) (started : turn.after.digestStartedAt = none)

theorem loop_buffers {run : DigestRun} (buffers : Buffers settings run) (poll : Poll)
    {items : List QueuedItem} (collected : items = run.waiting ++ queuedItems poll.now
      (poll.alerts.foldl (considerSeen tools settings poll) ⟨run.policy, []⟩).considered) :
    (poll.alerts.foldl (considerSeen tools settings poll) ⟨run.policy, []⟩).policy.digest =
      items.map QueuedItem.entry ∧
      (poll.alerts.foldl (considerSeen tools settings poll)
        ⟨run.policy, []⟩).policy.digestStartedAt = items.head?.map QueuedItem.queuedAt := by
  obtain ⟨later, considered, digest⟩ := @considerAll_digest tools settings poll
    poll.alerts ⟨run.policy, []⟩
  obtain ⟨same, considered', started⟩ := @considerAll_started tools settings poll
    poll.alerts ⟨run.policy, []⟩
  rw [List.nil_append] at considered considered'
  obtain rfl : same = later := considered'.symm.trans considered
  rw [considered] at collected
  constructor
  · rw [digest, buffers.digest, collected, List.map_append, queuedItems, List.map_map]
    rfl
  · rw [started, buffers.started, collected]
    cases run.waiting with
    | cons first rest => rfl
    | nil =>
      cases queued : same.filter Consideration.queued with
      | nil =>
        have none : same.any Consideration.queued = false := by
          simpa [List.filter_eq_nil_iff] using queued
        simp [queuedItems, queued, none]
      | cons first rest =>
        have some : same.any Consideration.queued = true := by
          have member : first ∈ same.filter Consideration.queued := queued ▸ List.mem_cons_self
          exact List.any_eq_true.mpr ⟨first, List.mem_filter.mp member⟩
        simp [queuedItems, queued, some]

theorem evaluate_turned {run : DigestRun} (buffers : Buffers settings run) (poll : Poll) :
    Turned settings (run.turn tools settings poll) := by
  cases enabled : settings.enabled with
  | false =>
    have empty := buffers.disabled enabled
    refine .kept [] ?_ ?_ ?_ ?_ ?_ ?_
    · simp [DigestTurn.Listable, DigestTurn.spoken, DigestRun.turn, evaluate, enabled, Unlistable]
    · simp [DigestTurn.Due, DigestRun.turn, evaluate, enabled, PollRecord.queuedItems,
        queuedItems, empty]
    · simp [DigestRun.turn, evaluate, enabled]
    · simp
    · simpa [DigestRun.turn, evaluate, enabled, PollRecord.queuedItems, queuedItems]
        using buffers.digest
    · simpa [DigestRun.turn, evaluate, enabled, PollRecord.queuedItems, queuedItems]
        using buffers.started
  | true =>
    have plain := fun request => @considered_not_digest tools settings poll run.policy request
    obtain ⟨digest, started⟩ := @loop_buffers tools settings run buffers poll _ rfl
    generalize looped : poll.alerts.foldl (considerSeen tools settings poll) ⟨run.policy, []⟩ =
      round at plain digest started
    simp only [DigestRun.turn, evaluate, enabled, Bool.not_true, if_neg Bool.false_ne_true, looped]
    rcases coalesce_cases settings
      ((round.considered.filterMap Consideration.request).filter fun request =>
        !request.escalation && !request.reminder) (text "new alerts") fpCoalesced false with
      ⟨listed, fresh, announced⟩ | ⟨unlistable, raised⟩
    · rcases coalesce_cases settings
        ((round.considered.filterMap Consideration.request).filter fun request =>
          !request.escalation && request.reminder) (text "alerts still open") fpReminder true with
        ⟨listed', reminders, reminded⟩ | ⟨unlistable, raised⟩
      · have silent : ∀ request ∈ fresh ++ reminders ++
            (round.considered.filterMap Consideration.request).filter NotificationRequest.escalation,
            request.isDigest = false := by
          intro request member
          rcases List.mem_append.mp member with either | climbed
          · rcases List.mem_append.mp either with opened | repeated
            · exact coalesced_not_digest (by decide)
                (fun request inside => plain request (List.mem_of_mem_filter inside)) announced
                  request opened
            · exact coalesced_not_digest (by decide)
                (fun request inside => plain request (List.mem_of_mem_filter inside)) reminded
                  request repeated
          · exact plain request (List.mem_of_mem_filter climbed)
        simp only [announced, reminded, Option.bind_eq_bind, Option.bind_some]
        rcases @flush_cases settings round.policy _ poll.now digest started with
          ⟨early, kept⟩ | ⟨due, request, reports, flushed⟩
        · rw [kept]
          exact .kept _ ⟨listed, listed'⟩ early (by simp) silent digest started
        · rw [flushed]
          exact .flushed _ request ⟨listed, listed'⟩ due rfl silent reports rfl rfl
      · simp only [announced, raised, Option.bind_eq_bind, Option.bind_some, Option.bind_none]
        exact .raised (fun listable => listable.2 unlistable) rfl digest started
    · simp only [raised, Option.bind_eq_bind, Option.bind_none]
      exact .raised (fun listable => listable.1 unlistable) rfl digest started

/-- For an overdue buffer the policy's own clock is right unless the first item is dated zero or its
age is rounded down. -/
theorem DigestTurn.Overdue.due_iff {turn : DigestTurn} (overdue : turn.Overdue settings) :
    turn.Due settings ↔ ∀ first ∈ turn.items.head?,
      if first.queuedAt = 0 then settings.digestIntervalMinutes ≤ 0
      else settings.digestIntervalMinutes * 60 ≤ elapsed turn.now first.queuedAt := by
  obtain ⟨first, rest, waiting, long⟩ := overdue
  simp only [DigestTurn.Due, waiting, List.cons.injEq, List.head?_cons, Option.mem_def,
    Option.some.injEq, forall_eq']
  have started : (∃ first' rest', (first = first' ∧ rest = rest') ∧
      settings.digestIntervalMinutes * 60 ≤
      elapsed turn.now (if first'.queuedAt = 0 then turn.now else first'.queuedAt)) ↔
      settings.digestIntervalMinutes * 60 ≤
        elapsed turn.now (if first.queuedAt = 0 then turn.now else first.queuedAt) :=
    ⟨fun ⟨_, _, ⟨same, _⟩, due⟩ => same ▸ due, fun due => ⟨first, rest, ⟨rfl, rfl⟩, due⟩⟩
  rw [started]
  by_cases zero : first.queuedAt = 0
  · rw [if_pos zero, if_pos zero, elapsed, sub_self, roundToDouble_zero]
    constructor
    · intro short
      exact_mod_cast (by linarith : (settings.digestIntervalMinutes : ℚ) ≤ 0)
    · intro short
      have cast : (settings.digestIntervalMinutes : ℚ) ≤ 0 := by exact_mod_cast short
      linarith
  · rw [if_neg zero, if_neg zero]

theorem Turned.flushes_iff {turn : DigestTurn} (turned : Turned settings turn) :
    (turn.Overdue settings → turn.Flushes) ↔ (turn.Overdue settings → turn.Dated settings) := by
  refine imp_congr_right fun overdue => ?_
  rw [DigestTurn.Dated, ← overdue.due_iff]
  cases turned with
  | raised unlistable none digest started =>
    refine iff_of_false ?_ (fun dated => unlistable dated.2)
    intro flushes
    obtain ⟨requests, returned, _⟩ := flushes
    rw [none] at returned
    cases returned
  | kept requests listable early returned plain digest started =>
    refine iff_of_false ?_ (fun dated => early dated.1)
    intro flushes
    obtain ⟨_, same, ⟨request, member, reports⟩, _⟩ := flushes
    rw [returned, Option.some.injEq] at same
    have silent := plain request (same ▸ member)
    rw [reports.1] at silent
    cases silent
  | flushed requests request listable due returned plain reports digest started =>
    exact iff_of_true ⟨_, returned, ⟨request, by simp, reports⟩, digest⟩ ⟨due, listable⟩

theorem Turned.reportsOnce {turn : DigestTurn} (turned : Turned settings turn) : turn.ReportsOnce := by
  intro requests returned
  cases turned with
  | raised unlistable none digest started =>
    rw [none] at returned
    cases returned
  | kept spoken listable early returned' plain digest started =>
    obtain rfl : spoken = requests := Option.some.inj (returned'.symm.trans returned)
    have none : spoken.filter NotificationRequest.isDigest = [] := by
      simpa [List.filter_eq_nil_iff] using plain
    refine ⟨by simp [none], ?_⟩
    intro request member digests
    rw [plain request member] at digests
    cases digests
  | flushed spoken last listable due returned' plain reports digest started =>
    obtain rfl : spoken ++ [last] = requests := Option.some.inj (returned'.symm.trans returned)
    have none : spoken.filter NotificationRequest.isDigest = [] := by
      simpa [List.filter_eq_nil_iff] using plain
    refine ⟨by simp [none, reports.1], ?_⟩
    intro request member digests
    rcases List.mem_append.mp member with before | here
    · rw [plain request before] at digests
      cases digests
    · rwa [List.mem_singleton.mp here]

/-! ## A run -/

theorem Buffers.step {run : DigestRun} (buffers : Buffers settings run) (op : Op) :
    Buffers settings (run.step tools settings op) := by
  cases op with
  | snooze clock key minutes => exact ⟨buffers.digest, buffers.started, buffers.disabled⟩
  | evaluate poll =>
    have quiet : settings.enabled = false → (run.turn tools settings poll).items = [] := by
      intro disabled
      simp [DigestRun.turn, evaluate, disabled, PollRecord.queuedItems, queuedItems,
        buffers.disabled disabled]
    cases @evaluate_turned tools settings run buffers poll with
    | raised unlistable none digest started =>
      have unreported : (run.turn tools settings poll).reported = false := by
        simp [DigestTurn.reported, none]
      simp only [DigestRun.step, unreported, if_neg Bool.false_ne_true]
      exact ⟨digest, started, quiet⟩
    | kept requests listable early returned plain digest started =>
      have unreported : (run.turn tools settings poll).reported = false := by
        simpa [DigestTurn.reported, returned] using plain
      simp only [DigestRun.step, unreported, if_neg Bool.false_ne_true]
      exact ⟨digest, started, quiet⟩
    | flushed requests request listable due returned plain reports digest started =>
      have reported : (run.turn tools settings poll).reported = true := by
        simp [DigestTurn.reported, returned, reports.1]
      simp only [DigestRun.step, reported, if_true]
      exact ⟨digest, started, fun _ => rfl⟩

theorem turnsFrom_turned {run : DigestRun} (buffers : Buffers settings run) (ops : List Op) :
    ∀ turn ∈ turnsFrom tools settings run ops, Turned settings turn := by
  induction ops generalizing run with
  | nil => simp [turnsFrom]
  | cons op rest ih =>
    have later := ih (@Buffers.step tools settings run buffers op)
    cases op with
    | snooze clock key minutes => exact later
    | evaluate poll =>
      intro turn member
      rcases List.mem_cons.mp member with rfl | after
      · exact evaluate_turned buffers poll
      · exact later turn after

theorem turnsFrom_reported (run : DigestRun) (ops : List Op) :
    reportedItems (turnsFrom tools settings run ops) <+:
      run.waiting ++ (turnsFrom tools settings run ops).flatMap DigestTurn.queued := by
  induction ops generalizing run with
  | nil => simp [turnsFrom, reportedItems]
  | cons op rest ih =>
    have later := ih (run.step tools settings op)
    cases op with
    | snooze clock key minutes => exact later
    | evaluate poll =>
      simp only [turnsFrom, reportedItems, List.filter_cons, List.flatMap_cons]
      rw [← List.append_assoc]
      change _ <+: (run.turn tools settings poll).items ++ _
      cases reported : (run.turn tools settings poll).reported with
      | true =>
        rw [if_pos rfl, List.flatMap_cons]
        refine (List.prefix_append_right_inj _).mpr ?_
        simpa [DigestRun.step, reported, reportedItems] using later
      | false =>
        rw [if_neg Bool.false_ne_true]
        simpa [DigestRun.step, reported, reportedItems] using later

theorem buffers_initial : Buffers settings ⟨.initial, []⟩ := ⟨rfl, rfl, fun _ => rfl⟩

/-- Every overdue buffer is flushed, exactly if no first item that comes due was queued at the
instant zero and no such call raises; and no item is ever in two digests. -/
theorem digest_on_time_iff (tools : TextTools) (settings : NotificationSettings) (ops : List Op) :
    (∀ turn ∈ digestTurns tools settings ops, turn.Overdue settings → turn.Flushes) ∧
        ReportedOnce (digestTurns tools settings ops) ↔
      ∀ turn ∈ digestTurns tools settings ops, turn.Overdue settings → turn.Dated settings := by
  have turned := @turnsFrom_turned tools settings _ buffers_initial ops
  have once : ReportedOnce (digestTurns tools settings ops) :=
    ⟨fun turn member => (turned turn member).reportsOnce, turnsFrom_reported ⟨.initial, []⟩ ops⟩
  rw [and_iff_left once]
  exact forall₂_congr fun turn member => (turned turn member).flushes_iff

end

/-! A warning that begins as the machine does, and an hour later. -/

def hourly : NotificationSettings := { digestSettings with digestIntervalMinutes := 60 }

def sinceBoot : List Op := [pollOf 0 [portBusy], pollOf 3600 [portBusy]]

theorem sinceBoot_never_flushed : hourly.digestMode = true ∧ (pollTimes sinceBoot).Pairwise (· ≤ ·) ∧
    (∀ now ∈ pollTimes sinceBoot, 0 ≤ now) ∧
    ¬ ∀ turn ∈ digestTurns trayTools hourly sinceBoot, turn.Overdue hourly → turn.Flushes := by
  refine ⟨rfl, by decide, by decide, ?_⟩
  intro prompt
  have hour : (digestTurns trayTools hourly sinceBoot).getLast?.map
      (fun turn => (turn.items.map QueuedItem.queuedAt, turn.now, turn.after.digest.length)) =
        some ([0], 3600, 1) := by
    decide +kernel
  obtain ⟨turn, last, facts⟩ := Option.map_eq_some_iff.mp hour
  obtain ⟨items, rest⟩ := Prod.mk.inj facts
  obtain ⟨now, held⟩ := Prod.mk.inj rest
  obtain ⟨first, others, queued, waiting, _⟩ := List.map_eq_cons_iff.mp items
  have overdue : turn.Overdue hourly := by
    refine ⟨first, others, queued, ?_⟩
    rw [now, waiting]
    norm_num [hourly]
  obtain ⟨_, _, _, empty⟩ := prompt turn (List.mem_of_getLast? last) overdue
  rw [empty] at held
  cases held

end SysadminAssistant.Tray
