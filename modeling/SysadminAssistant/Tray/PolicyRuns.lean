import SysadminAssistant.Tray.Notifications

namespace SysadminAssistant.Tray

open Python SysadminAssistant.Core

/-! Runs of the policy, and what its state about one fingerprint says of the polls so far.
Histories have the newest poll first. -/

namespace Consideration

def notifies (considered : Consideration) : Bool := considered.request.isSome

def opens (considered : Consideration) : Bool :=
  considered.request.any fun request => !request.escalation && !request.reminder

def escalates (considered : Consideration) : Bool :=
  considered.request.any NotificationRequest.escalation

def reminds (considered : Consideration) : Bool :=
  considered.request.any fun request => !request.escalation && request.reminder

end Consideration

/-- Something the poll did about a fingerprint. -/
def PollRecord.did (record : PollRecord) (fingerprint : Text) (what : Consideration → Bool) : Bool :=
  record.considered.any fun considered => considered.fingerprint = fingerprint && what considered

def PollRecord.considers (record : PollRecord) (fingerprint : Text) : Bool :=
  fingerprint ∈ record.considered.map Consideration.fingerprint

/-- The requests of one kind among what a poll considered. -/
def PollRecord.requests (record : PollRecord) (what : Consideration → Bool) :
    List NotificationRequest :=
  (record.considered.filter what).filterMap Consideration.request

/-- What a poll appended to the digest buffer. -/
def PollRecord.appended (record : PollRecord) : List (Severity × Text) :=
  record.digestLeft.drop record.digestFound.length

/-- A batch as a poll returns it: each request by itself, or one that rolls up and counts them. -/
inductive Batched (settings : NotificationSettings) (label fingerprint : Text)
    (batch : List NotificationRequest) : List NotificationRequest → Prop where
  | each (few : batch.length < max settings.coalesceThreshold 2) :
      Batched settings label fingerprint batch batch
  | rolled {request : NotificationRequest} (many : max settings.coalesceThreshold 2 ≤ batch.length)
      (named : request.fingerprint = some fingerprint)
      (counts : request.summary = intText batch.length ++ text " " ++ label) :
      Batched settings label fingerprint batch [request]

/-- What a poll returned is what it decided about the alerts, and a digest at most. -/
structure Told (settings : NotificationSettings) (record : PollRecord)
    (returned : List NotificationRequest) : Prop where
  named : ∀ considered ∈ record.considered, ∀ request ∈ considered.request,
    request.fingerprint = some considered.fingerprint
  batches : ∃ openings reminders digest,
    returned = openings ++ reminders ++ record.requests Consideration.escalates ++ digest ∧
    Batched settings (text "new alerts") fpCoalesced (record.requests Consideration.opens) openings ∧
    Batched settings (text "alerts still open") fpReminder (record.requests Consideration.reminds)
      reminders ∧
    digest.length ≤ 1 ∧ ∀ request ∈ digest, request.fingerprint = some fpDigest

/-- The polls of the episode that is open after the history: a poll that the alert is absent
from ends it, unless that poll raised. -/
def ongoing (fingerprint : Text) : List PollRecord → List PollRecord
  | [] => []
  | record :: rest =>
    if record.considers fingerprint then record :: ongoing fingerprint rest
    else if record.raised then ongoing fingerprint rest
    else []

/-- Something holds of every poll of a history and the polls before it. -/
def Always (holds : PollRecord → List PollRecord → Prop) : List PollRecord → Prop
  | [] => True
  | record :: earlier => holds record earlier ∧ Always holds earlier

instance alwaysDecidable (holds : PollRecord → List PollRecord → Prop)
    [∀ record earlier, Decidable (holds record earlier)] : ∀ history, Decidable (Always holds history)
  | [] => .isTrue trivial
  | record :: earlier =>
    have := alwaysDecidable holds earlier
    inferInstanceAs (Decidable (holds record earlier ∧ Always holds earlier))

/-- A poll of a policy that is switched off. -/
structure PollRecord.Silent (record : PollRecord) : Prop where
  considered : record.considered = []
  digest : record.digestLeft = record.digestFound
  returned : record.returned = some []

theorem always_of_silent {holds : PollRecord → List PollRecord → Prop}
    (quiet : ∀ record earlier, record.Silent → holds record earlier) {history : List PollRecord}
    (silent : ∀ record ∈ history, record.Silent) : Always holds history := by
  induction history with
  | nil => trivial
  | cons record rest ih =>
    exact ⟨quiet record rest (silent record List.mem_cons_self),
      ih fun past member => silent past (List.mem_cons_of_mem _ member)⟩

theorem Always.imp {holds later : PollRecord → List PollRecord → Prop} {history : List PollRecord}
    (always : Always holds history) (follows : ∀ record earlier, holds record earlier →
      later record earlier) :
    Always later history := by
  induction history with
  | nil => trivial
  | cons record earlier ih => exact ⟨follows record earlier always.1, ih always.2⟩

inductive Op where
  | evaluate (poll : Poll)
  | snooze (clock : ℚ) (key : Text) (minutes : Option Int)

structure PolicyRun where
  policy : PolicyState
  history : List PollRecord

section

variable (tools : TextTools) (settings : NotificationSettings)

def PolicyRun.step (run : PolicyRun) : Op → PolicyRun
  | .evaluate poll =>
    let evaluated := evaluate tools settings run.policy poll
    ⟨evaluated.1, evaluated.2 :: run.history⟩
  | .snooze clock key minutes =>
    { run with policy := Tray.snooze settings run.policy clock key minutes }

def policyRun (ops : List Op) : PolicyRun := ops.foldl (PolicyRun.step tools settings) ⟨.initial, []⟩

def pollTimes (ops : List Op) : List ℚ :=
  ops.filterMap fun
    | .evaluate poll => some poll.now
    | .snooze _ _ _ => none

end

section

variable {tools : TextTools} {settings : NotificationSettings}

theorem firstLetter_fingerprint (alert : AlertInfo) :
    alert.fingerprint.head? = alert.severity.name.head? := by
  rw [AlertInfo.fingerprint]
  cases alert.severity <;> rfl

theorem fingerprint_ne_backend (alert : AlertInfo) : alert.fingerprint ≠ fpBackendUnreachable := by
  intro same
  have heads := firstLetter_fingerprint alert
  rw [same] at heads
  revert heads
  cases alert.severity <;> decide

/-- What a state says beside the texts it builds. -/
structure SameSay (before after : FingerprintState) : Prop where
  episodeOpen : after.episodeOpen = before.episodeOpen
  pollsActive : after.pollsActive = before.pollsActive
  notified : after.notifiedThisEpisode = before.notifiedThisEpisode
  escalated : after.escalated = before.escalated
  last : after.lastNotifiedAt = before.lastNotifiedAt

/-- What `_consider` can do about an alert that finds `entered`. -/
inductive Spoken (settings : NotificationSettings) (alert : AlertInfo) (now : ℚ)
    (entered : FingerprintState) : Option NotificationRequest → FingerprintState → Prop where
  | silent {after : FingerprintState} (same : SameSay entered after) :
      Spoken settings alert now entered none after
  | opening {request : NotificationRequest} {after : FingerprintState}
      (fresh : entered.notifiedThisEpisode = false) (cool : coolingDown settings entered now = false)
      (kind : request.escalation = false ∧ request.reminder = false)
      (same : SameSay { entered with
        notifiedThisEpisode := true, escalated := false, lastNotifiedAt := some now } after) :
      Spoken settings alert now entered (some request) after
  | escalation {request : NotificationRequest} {after : FingerprintState}
      (announced : entered.notifiedThisEpisode = true) (critical : alert.severity = .critical)
      (once : entered.escalated = false) (reached : settings.escalationPolls ≤ entered.pollsActive)
      (kind : request.escalation = true)
      (same : SameSay { entered with escalated := true, lastNotifiedAt := some now } after) :
      Spoken settings alert now entered (some request) after
  | reminder {request : NotificationRequest} {after : FingerprintState}
      (announced : entered.notifiedThisEpisode = true)
      (due : entered.lastNotifiedAt.any (fun last =>
        reaches (elapsed now last) settings.reminderInterval) = true)
      (kind : request.escalation = false ∧ request.reminder = true)
      (same : SameSay { entered with lastNotifiedAt := some now } after) :
      Spoken settings alert now entered (some request) after

theorem speak_spoken (alert : AlertInfo) (entered : FingerprintState) (now : ℚ) (firstPoll : Bool) :
    Spoken settings alert now entered (speak tools settings alert entered now firstPoll).1
      (speak tools settings alert entered now firstPoll).2 := by
  unfold speak
  cases announced : entered.notifiedThisEpisode with
  | true =>
    rw [if_pos rfl]
    cases climbed : maybeEscalate tools settings alert entered now with
    | some outcome =>
      simp only [maybeEscalate] at climbed
      split at climbed
      · cases climbed
      · rename_i eligible
        split at climbed
        · cases climbed
        · split at climbed
          · cases climbed
          · rename_i reached
            cases climbed
            rw [not_or, not_not] at eligible
            exact .escalation announced eligible.1 (by simpa using eligible.2)
              (not_lt.mp reached) rfl ⟨rfl, rfl, rfl, rfl, rfl⟩
    | none =>
      cases reminded : reminder tools settings alert entered now with
      | none => exact .silent ⟨rfl, rfl, rfl, rfl, rfl⟩
      | some outcome =>
        simp only [reminder] at reminded
        split at reminded
        · rename_i due
          cases reminded
          simp only [reminderDue] at due
          split at due
          · cases due
          · exact .reminder announced due ⟨rfl, rfl⟩ ⟨rfl, rfl, announced.symm ▸ rfl, rfl, rfl⟩
        · cases reminded
  | false =>
    rw [if_neg Bool.false_ne_true]
    cases cooling : coolingDown settings entered now with
    | true =>
      refine .silent ?_
      cases firstPoll with
      | true => exact ⟨rfl, rfl, announced.symm ▸ rfl, rfl, rfl⟩
      | false => exact ⟨rfl, rfl, rfl, rfl, rfl⟩
    | false => exact .opening announced cooling ⟨rfl, rfl⟩ ⟨rfl, rfl, rfl, rfl, rfl⟩

theorem consider_spoken (alert : AlertInfo) (before : Option FingerprintState) (now : ℚ)
    (admits : Bool) :
    Spoken settings alert now (enterPoll alert before).1
      (consider tools settings alert before now admits).1.request
      (consider tools settings alert before now admits).2 := by
  simp only [consider]
  split
  · exact .silent ⟨rfl, rfl, rfl, rfl, rfl⟩
  · split
    · exact .silent ⟨rfl, rfl, rfl, rfl, rfl⟩
    · exact speak_spoken alert _ now _

theorem consider_alert (alert : AlertInfo) (before : Option FingerprintState) (now : ℚ)
    (admits : Bool) : (consider tools settings alert before now admits).1.alert = alert := by
  simp only [consider]
  split
  · rfl
  · split <;> rfl

theorem consider_queued (alert : AlertInfo) (before : Option FingerprintState) (now : ℚ)
    (admits : Bool) : (consider tools settings alert before now admits).1.queued =
      ((consider tools settings alert before now admits).1.admitted && settings.digestMode &&
        decide (alert.severity ≠ .critical) && (enterPoll alert before).2) := by
  simp only [consider]
  split
  · rfl
  · split
    · rename_i digest
      simp only [Bool.and_eq_true] at digest
      simp [digest]
    · rename_i speaks
      simp only [Bool.true_and]
      cases quiet : (settings.digestMode && decide (alert.severity ≠ .critical)) with
      | true => exact absurd quiet speaks
      | false => rfl

theorem speak_fingerprint {alert : AlertInfo} {state : FingerprintState} {now : ℚ}
    {firstPoll : Bool} {request : NotificationRequest}
    (spoken : (speak tools settings alert state now firstPoll).1 = some request) :
    request.fingerprint = some alert.fingerprint := by
  unfold speak at spoken
  split at spoken
  · cases climbed : maybeEscalate tools settings alert state now with
    | some outcome =>
      simp only [climbed, Option.some.injEq] at spoken
      simp only [maybeEscalate] at climbed
      repeat' split at climbed
      all_goals cases climbed
      exact spoken ▸ rfl
    | none =>
      cases reminded : reminder tools settings alert state now with
      | some outcome =>
        simp only [climbed, reminded, Option.some.injEq] at spoken
        simp only [reminder] at reminded
        split at reminded
        · cases reminded
          exact spoken ▸ rfl
        · cases reminded
      | none => simp [climbed, reminded] at spoken
  · split at spoken
    · cases spoken
    · cases spoken
      rfl

theorem consider_fingerprint {alert : AlertInfo} {before : Option FingerprintState} {now : ℚ}
    {admits : Bool} {request : NotificationRequest}
    (spoken : (consider tools settings alert before now admits).1.request = some request) :
    request.fingerprint = some alert.fingerprint := by
  simp only [consider] at spoken
  split at spoken
  · cases spoken
  · split at spoken
    · cases spoken
    · exact speak_fingerprint spoken

/-! ## The loop over the alerts -/

/-- What the loop has done so far: each fingerprint at most once, on the state it had. -/
structure LoopSpec (tools : TextTools) (settings : NotificationSettings) (now : ℚ)
    (states : Dict Text FingerprintState) (round : Considering) : Prop where
  once : round.active.Nodup
  done : ∀ considered ∈ round.considered, ∃ alert admits, alert.fingerprint = considered.fingerprint ∧
    considered = (consider tools settings alert (states.get? alert.fingerprint) now admits).1 ∧
    round.policy.states.get? alert.fingerprint =
      some (consider tools settings alert (states.get? alert.fingerprint) now admits).2
  others : ∀ fingerprint, fingerprint ∉ round.active →
    round.policy.states.get? fingerprint = states.get? fingerprint

theorem considerSeen_spec {poll : Poll} {states : Dict Text FingerprintState} {round : Considering}
    (spec : LoopSpec tools settings poll.now states round) (seen : Seen) :
    LoopSpec tools settings poll.now states (considerSeen tools settings poll round seen) := by
  simp only [considerSeen]
  split
  · exact spec
  · rename_i fresh
    simp only [Bool.or_eq_true, decide_eq_true_eq, not_or] at fresh
    obtain ⟨_, fresh⟩ := fresh
    have own := spec.others _ fresh
    have named : ∀ admits, (consider tools settings seen.alert
        (round.policy.states.get? seen.alert.fingerprint) poll.now admits).1.fingerprint =
          seen.alert.fingerprint := fun admits => by
      rw [Consideration.fingerprint, consider_alert]
    refine ⟨?_, ?_, ?_⟩
    · simp only [Considering.active, List.map_append, List.map_cons, List.map_nil, named]
      refine List.nodup_append.mpr ⟨spec.once, List.nodup_singleton _, ?_⟩
      intro left member right single
      rw [List.mem_singleton.mp single]
      exact fun same => fresh (same ▸ member)
    · intro considered member
      rcases List.mem_append.mp member with before | here
      · obtain ⟨alert, admits, same, result, stored⟩ := spec.done considered before
        refine ⟨alert, admits, same, result, ?_⟩
        have apart : seen.alert.fingerprint ≠ alert.fingerprint := by
          intro equal
          exact fresh (List.mem_map.mpr ⟨considered, before, same.symm.trans equal.symm⟩)
        simpa only [Dict.get?_set_other _ _ apart] using stored
      · rw [List.mem_singleton.mp here]
        refine ⟨seen.alert, _, (named _).symm, by rw [own], ?_⟩
        simp only [Dict.get?_set_self, own]
    · intro fingerprint absent
      simp only [Considering.active, List.map_append, List.map_cons, List.map_nil, named,
        List.mem_append, List.mem_singleton, not_or] at absent
      rw [Dict.get?_set_other _ _ (Ne.symm absent.2)]
      exact spec.others fingerprint absent.1

theorem considerAll_spec {poll : Poll} {states : Dict Text FingerprintState} {round : Considering}
    (spec : LoopSpec tools settings poll.now states round) (alerts : List Seen) :
    LoopSpec tools settings poll.now states
      (alerts.foldl (considerSeen tools settings poll) round) := by
  induction alerts generalizing round with
  | nil => exact spec
  | cons seen rest ih => exact ih (considerSeen_spec spec seen)

theorem loopSpec_start (now : ℚ) (policy : PolicyState) :
    LoopSpec tools settings now policy.states ⟨policy, []⟩ where
  once := List.nodup_nil
  done _ member := by cases member
  others _ _ := rfl

theorem considerAll_digest {poll : Poll} (alerts : List Seen) (round : Considering) :
    ∃ later, (alerts.foldl (considerSeen tools settings poll) round).considered =
      round.considered ++ later ∧
      (alerts.foldl (considerSeen tools settings poll) round).policy.digest = round.policy.digest ++
        (later.filter Consideration.queued).map fun considered =>
          (considered.alert.severity, considered.alert.title) := by
  induction alerts generalizing round with
  | nil => exact ⟨[], by simp⟩
  | cons seen rest ih =>
    rw [List.foldl_cons]
    obtain ⟨later, considered, digest⟩ := ih (considerSeen tools settings poll round seen)
    rw [considered, digest]
    simp only [considerSeen]
    split
    · exact ⟨later, rfl, rfl⟩
    · refine ⟨_, List.append_assoc _ _ _, ?_⟩
      split
      · rename_i queued
        simp [queued, consider_alert]
      · rename_i quiet
        simp [quiet]

/-! ## Closing what is absent -/

theorem closeOne_other (active : List Text) (now : ℚ) (states : Dict Text FingerprintState)
    (entry : Text × FingerprintState) {fingerprint : Text} (apart : entry.1 ≠ fingerprint) :
    (closeOne settings active now states entry).get? fingerprint = states.get? fingerprint := by
  simp only [closeOne]
  split
  · rfl
  · split
    · rfl
    · split
      · simp [Dict.get?_erase, apart]
      · exact Dict.get?_set_other _ _ apart

theorem closeAll (active : List Text) (now : ℚ) (entries : List (Text × FingerprintState))
    (distinct : (entries.map Prod.fst).Nodup) (states : Dict Text FingerprintState)
    (fingerprint : Text) :
    (entries.foldl (closeOne settings active now) states).get? fingerprint =
      match entries.find? fun entry => entry.1 = fingerprint with
      | none => states.get? fingerprint
      | some entry => (closeOne settings active now states entry).get? fingerprint := by
  induction entries generalizing states with
  | nil => rfl
  | cons entry rest ih =>
    obtain ⟨fresh, distinct'⟩ := List.nodup_cons.mp distinct
    rw [List.foldl_cons, ih distinct']
    by_cases same : entry.1 = fingerprint
    · have absent : rest.find? (fun other => other.1 = fingerprint) = none := by
        apply List.find?_eq_none.mpr
        intro other member equal
        exact fresh (List.mem_map.mpr ⟨other, member, (of_decide_eq_true equal).trans same.symm⟩)
      rw [absent, List.find?_cons_of_pos (by simpa using same)]
    · rw [List.find?_cons_of_neg (by simpa using same)]
      cases found : rest.find? (fun other => other.1 = fingerprint) with
      | none => exact closeOne_other active now states entry same
      | some other =>
        have titled : other.1 = fingerprint := by simpa using List.find?_some found
        simp only [closeOne, titled]
        split
        · exact closeOne_other active now states entry same
        · split
          · exact closeOne_other active now states entry same
          · split
            · simp [Dict.get?_erase]
            · simp

theorem closeInactive_get? (active : List Text) (now : ℚ) (states : Dict Text FingerprintState)
    {fingerprint : Text} (alerting : fingerprint ≠ fpBackendUnreachable) :
    (closeInactive settings active now states).get? fingerprint =
      if fingerprint ∈ active then states.get? fingerprint
      else (states.get? fingerprint).bind fun state =>
        if isCold settings state now then none else some state.closed := by
  rw [closeInactive, closeAll active now states.entries states.nodup]
  cases found : states.entries.find? (fun entry => entry.1 = fingerprint) with
  | none =>
    have absent : states.get? fingerprint = none := by
      cases held : states.get? fingerprint with
      | none => rfl
      | some state =>
        have missing := List.find?_eq_none.mp found _ (Dict.get?_eq_some.mp held)
        simp at missing
    simp [absent]
  | some entry =>
    have titled : entry.1 = fingerprint := by simpa using List.find?_some found
    have held : states.get? fingerprint = some entry.2 :=
      titled ▸ Dict.get?_eq_some.mpr (List.mem_of_find?_eq_some found)
    simp only [closeOne, titled, if_neg alerting, held, Option.bind_some]
    split
    · exact held
    · split
      · simp [Dict.get?_erase]
      · simp

/-! ## What a poll returns -/

theorem coalesce_batched {batch requests : List NotificationRequest} {label fingerprint : Text}
    {reminder : Bool}
    (coalesced : coalesce settings batch label fingerprint reminder = some requests) :
    Batched settings label fingerprint batch requests := by
  by_cases few : batch.length < max settings.coalesceThreshold 2
  · rw [coalesce, if_pos few, Option.some.injEq] at coalesced
    exact coalesced ▸ .each few
  · rw [coalesce, if_neg few] at coalesced
    obtain ⟨titles, _, rolled⟩ := Option.bind_eq_some_iff.mp coalesced
    rw [← Option.some.inj rolled]
    exact .rolled (not_lt.mp few) rfl rfl

theorem maybeFlushDigest_named (policy : PolicyState) (now : ℚ) :
    ∀ request ∈ (maybeFlushDigest settings policy now).2, request.fingerprint = some fpDigest := by
  intro request flushed
  rw [maybeFlushDigest] at flushed
  split at flushed
  · cases flushed
  · rename_i filled
    rw [flushDigest, if_neg filled] at flushed
    split at flushed
    · cases flushed
    · rw [← Option.some.inj flushed]

theorem asked_filter (considered : List Consideration) (what : NotificationRequest → Bool) :
    (considered.filterMap Consideration.request).filter what =
      (considered.filter fun considered => considered.request.any what).filterMap
        Consideration.request := by
  induction considered with
  | nil => rfl
  | cons considered rest ih =>
    cases asked : considered.request with
    | none => simp [asked, ih]
    | some request =>
      rw [List.filterMap_cons_some asked, List.filter_cons, List.filter_cons, asked,
        Option.any_some, ih]
      cases what request with
      | true => exact (List.filterMap_cons_some asked).symm
      | false => rfl

theorem considered_named {now : ℚ} {states : Dict Text FingerprintState} {round : Considering}
    (spec : LoopSpec tools settings now states round) : ∀ considered ∈ round.considered,
    ∀ request ∈ considered.request, request.fingerprint = some considered.fingerprint := by
  intro considered member request asked
  obtain ⟨alert, admits, named, result, _⟩ := spec.done considered member
  rw [result] at asked
  exact named ▸ consider_fingerprint asked

theorem told_nothing {record : PollRecord} (nothing : record.considered = []) :
    Told settings record [] := by
  have none : ∀ what, record.requests what = [] := by simp [PollRecord.requests, nothing]
  refine ⟨by simp [nothing], [], [], [], by simp [none], ?_, ?_, by simp⟩ <;>
    · rw [none]
      exact .each (by simp)

theorem evaluate_told (policy : PolicyState) (poll : Poll) {returned : List NotificationRequest}
    (returns : (evaluate tools settings policy poll).2.returned = some returned) :
    Told settings (evaluate tools settings policy poll).2 returned := by
  have spec := considerAll_spec (@loopSpec_start tools settings poll.now policy) poll.alerts
  simp only [evaluate] at returns ⊢
  generalize poll.alerts.foldl (considerSeen tools settings poll) ⟨policy, []⟩ = round
    at spec returns ⊢
  split at returns
  · rename_i off
    rw [if_pos off]
    obtain rfl := Option.some.inj returns
    exact told_nothing rfl
  · rename_i on
    rw [if_neg on]
    split at returns
    · cases returns
    · rename_i requests coalesced
      obtain ⟨fresh, announced, rest⟩ := Option.bind_eq_some_iff.mp coalesced
      obtain ⟨reminders, reminded, whole⟩ := Option.bind_eq_some_iff.mp rest
      obtain rfl := Option.some.inj whole
      obtain rfl := Option.some.inj returns
      rw [asked_filter] at announced reminded
      refine ⟨considered_named spec, fresh, reminders,
        (maybeFlushDigest settings round.policy poll.now).2.toList, ?_, coalesce_batched announced,
        coalesce_batched reminded, Option.length_toList_le, ?_⟩
      · rw [asked_filter]
        rfl
      · intro request flushed
        exact maybeFlushDigest_named _ _ request (Option.mem_toList.mp flushed)

end

end SysadminAssistant.Tray
