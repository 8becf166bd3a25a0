import SysadminAssistant.Tray.CalmNotifications

namespace SysadminAssistant.Tray

open Python SysadminAssistant.Core

/-! What digest mode keeps of an episode. -/

/-- How often the polls of an episode appended an alert to the digest buffer. -/
def appendedIn (alert : AlertInfo) (episode : List PollRecord) : Nat :=
  (episode.map fun past => past.appended.count (alert.severity, alert.title)).sum

/-- A poll only appends to the digest buffer; and once a poll of the episode finds a quiet alert
eligible, the episode has been appended exactly once. -/
def DigestPoll (record : PollRecord) (earlier : List PollRecord) : Prop :=
  record.digestFound <+: record.digestLeft ∧
  ∀ considered ∈ record.considered, considered.alert.severity ≠ .critical →
    (∃ past ∈ ongoing considered.fingerprint (record :: earlier),
      past.did considered.fingerprint Consideration.admitted = true) →
    appendedIn considered.alert (ongoing considered.fingerprint (record :: earlier)) = 1

instance (record : PollRecord) (earlier : List PollRecord) :
    Decidable (DigestPoll record earlier) := by
  delta DigestPoll
  infer_instance

def DigestComplete : List PollRecord → Prop := Always DigestPoll

/-- An episode with an eligible poll was eligible in its first one. -/
def StartPoll (record : PollRecord) (earlier : List PollRecord) : Prop :=
  ∀ considered ∈ record.considered, considered.alert.severity ≠ .critical →
    (∃ past ∈ ongoing considered.fingerprint (record :: earlier),
      past.did considered.fingerprint Consideration.admitted = true) →
    (ongoing considered.fingerprint (record :: earlier)).getLast?.any
      (fun first => first.did considered.fingerprint Consideration.admitted) = true

instance (record : PollRecord) (earlier : List PollRecord) : Decidable (StartPoll record earlier) := by
  delta StartPoll
  infer_instance

def EligibleFromStart : List PollRecord → Prop := Always StartPoll

section

variable {tools : TextTools} {settings : NotificationSettings} {fingerprint : Text}
  {record : PollRecord} {earlier : List PollRecord}

theorem fingerprint_inj {alert other : AlertInfo} (same : alert.fingerprint = other.fingerprint) :
    alert.severity = other.severity ∧ alert.title = other.title := by
  have heads : alert.fingerprint.head? = other.fingerprint.head? := by rw [same]
  rw [firstLetter_fingerprint, firstLetter_fingerprint] at heads
  have severity : alert.severity = other.severity := by
    revert heads
    cases alert.severity <;> cases other.severity <;> decide
  refine ⟨severity, ?_⟩
  rw [AlertInfo.fingerprint, AlertInfo.fingerprint, severity] at same
  exact List.append_cancel_left same

theorem PollFacts.appended (facts : PollFacts settings record earlier) (alert : AlertInfo) :
    record.appended.count (alert.severity, alert.title) =
      if record.did alert.fingerprint Consideration.queued then 1 else 0 := by
  rw [PollRecord.appended, facts.digest, List.drop_left, PollRecord.did]
  have once := facts.calm.once
  generalize record.considered = considerations at once
  induction considerations with
  | nil => rfl
  | cons considered rest ih =>
    obtain ⟨fresh, once⟩ := List.nodup_cons.mp once
    have count := ih once
    rw [List.any_cons]
    by_cases named : considered.fingerprint = alert.fingerprint
    · obtain ⟨severity, title⟩ := fingerprint_inj named
      have others : (rest.any fun other => other.fingerprint = alert.fingerprint &&
          other.queued) = false := by
        apply List.any_eq_false.mpr
        intro other member both
        simp only [Bool.and_eq_true, decide_eq_true_eq] at both
        exact fresh (named.trans both.1.symm ▸ List.mem_map_of_mem member)
      rw [others] at count ⊢
      cases queued : considered.queued with
      | true => simpa [List.filter_cons, queued, named, severity, title] using count
      | false => simpa [List.filter_cons, queued] using count
    · have apart : ¬ (considered.alert.severity, considered.alert.title) =
          (alert.severity, alert.title) := by
        intro same
        obtain ⟨severity, title⟩ := Prod.mk.inj same
        exact named (by rw [Consideration.fingerprint, AlertInfo.fingerprint, severity, title]; rfl)
      cases queued : considered.queued with
      | true => simpa [List.filter_cons, queued, named, List.count_cons, apart] using count
      | false => simpa [List.filter_cons, queued] using count

theorem PollFacts.did_queued (facts : PollFacts settings record earlier)
    (digest : settings.digestMode = true) {considered : Consideration}
    (member : considered ∈ record.considered) (quiet : considered.alert.severity ≠ .critical) :
    record.did considered.fingerprint Consideration.queued =
      (record.did considered.fingerprint Consideration.admitted &&
        (ongoing considered.fingerprint earlier).isEmpty) := by
  rw [did_of_mem facts.calm.once member, did_of_mem facts.calm.once member,
    facts.queued considered member]
  simp [digest, quiet]

theorem appended_count {history : List PollRecord} (facts : Always (PollFacts settings) history)
    (digest : settings.digestMode = true) {alert : AlertInfo} (quiet : alert.severity ≠ .critical) :
    appendedIn alert (ongoing alert.fingerprint history) =
      if (ongoing alert.fingerprint history).getLast?.any
        (fun first => first.did alert.fingerprint Consideration.admitted) then 1 else 0 := by
  induction history with
  | nil => rfl
  | cons record earlier ih =>
    obtain ⟨here, before⟩ := facts
    have count := ih before
    cases considers : record.considers alert.fingerprint with
    | false =>
      cases raised : record.raised with
      | true => simpa [ongoing, considers, raised] using count
      | false => simp [ongoing, considers, raised, appendedIn]
    | true =>
      obtain ⟨considered, member, named⟩ := List.mem_map.mp (of_decide_eq_true considers)
      have same : considered.alert.severity = alert.severity := (fingerprint_inj named).1
      have queued := here.did_queued digest member (same ▸ quiet)
      rw [named] at queued
      rw [ongoing_considers considers, appendedIn, List.map_cons, List.sum_cons, here.appended, queued]
      change _ + appendedIn alert (ongoing alert.fingerprint earlier) = _
      rw [count]
      cases episode : ongoing alert.fingerprint earlier with
      | nil => cases admits : record.did alert.fingerprint Consideration.admitted <;> simp [admits]
      | cons newest rest => simp [List.getLast?_cons_cons]

theorem digestPoll_iff (facts : Always (PollFacts settings) (record :: earlier))
    (digest : settings.digestMode = true) : DigestPoll record earlier ↔ StartPoll record earlier := by
  have count : ∀ considered ∈ record.considered, considered.alert.severity ≠ .critical →
      (appendedIn considered.alert (ongoing considered.fingerprint (record :: earlier)) = 1 ↔
        (ongoing considered.fingerprint (record :: earlier)).getLast?.any
          (fun first => first.did considered.fingerprint Consideration.admitted) = true) := by
    intro considered _ quiet
    rw [Consideration.fingerprint, appended_count facts digest quiet]
    split <;> simp_all
  constructor
  · rintro ⟨_, complete⟩ considered member quiet eligible
    exact (count considered member quiet).mp (complete considered member quiet eligible)
  · intro starts
    refine ⟨facts.1.digest ▸ List.prefix_append _ _, fun considered member quiet eligible => ?_⟩
    exact (count considered member quiet).mpr (starts considered member quiet eligible)

theorem digestComplete_iff {history : List PollRecord} (facts : Always (PollFacts settings) history)
    (digest : settings.digestMode = true) : DigestComplete history ↔ EligibleFromStart history := by
  induction history with
  | nil => exact Iff.rfl
  | cons record earlier ih => exact and_congr (digestPoll_iff facts digest) (ih facts.2)

/-- No eligible episode misses the digest, exactly if eligibility never comes late. -/
theorem digest_complete_iff_eligible_from_start (tools : TextTools)
    (settings : NotificationSettings) (ops : List Op) (digest : settings.digestMode = true)
    (clock : (pollTimes ops).Pairwise (· ≤ ·)) :
    DigestComplete (policyRun tools settings ops).history ↔
      EligibleFromStart (policyRun tools settings ops).history := by
  cases enabled : settings.enabled with
  | false =>
    have silent := @disabled_run tools settings enabled ops ⟨.initial, []⟩ (by simp)
    refine iff_of_true (always_of_silent ?_ silent) (always_of_silent ?_ silent)
    · exact fun record earlier quiet => ⟨quiet.digest ▸ List.prefix_refl _, by simp [quiet.considered]⟩
    · exact fun record earlier quiet => by simp [StartPoll, quiet.considered]
  | true =>
    have tracks :=
      @runTracks_run tools settings enabled ops ⟨.initial, []⟩ (runTracks_start settings) clock
      (by simp)
    exact digestComplete_iff tracks.facts digest

end

/-! A warning that begins while the desktop is in do-not-disturb, and stands when it ends. -/

def digestSettings : NotificationSettings :=
  { traySettings with minSeverity := text "warning", digestMode := true }

def inhibitedPoll (now : ℚ) (alerts : List AlertInfo) : Op :=
  .evaluate ⟨now, alerts.map fun alert => ⟨alert, now, now⟩, false, true, true⟩

def lateEligible : List Op :=
  [inhibitedPoll 0 [portBusy], pollOf 60 [portBusy], pollOf 120 [portBusy], pollOf 180 []]

def eligibleAtOnce : List Op := [pollOf 0 [portBusy], inhibitedPoll 60 [portBusy], pollOf 120 []]

theorem eligibleAtOnce_complete : digestSettings.digestMode = true ∧
    DigestComplete (policyRun trayTools digestSettings eligibleAtOnce).history := by
  refine ⟨rfl, (digest_complete_iff_eligible_from_start trayTools digestSettings eligibleAtOnce rfl
    (by decide)).mpr ?_⟩
  rw [EligibleFromStart]
  decide +kernel

theorem lateEligible_dropped :
    ¬ DigestComplete (policyRun trayTools digestSettings lateEligible).history := by
  rw [DigestComplete]
  decide

end SysadminAssistant.Tray
