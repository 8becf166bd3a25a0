import SysadminAssistant.Library.PolledTokens
import SysadminAssistant.Monitor.StandingFaults

namespace SysadminAssistant.Monitor.FailureReplay

open Python SysadminAssistant.Core Library
  SysadminAssistant.Core.UnitFailures
open Monitor.AlertTurns

/-! The login that says what nobody was there to hear (`sysadmin/core/failure_replay.py`). -/

def waitBudgetSeconds : ℚ := 60

def pollIntervalSeconds : ℚ := 1

def maxSpoken : Nat := 3

/-- What comes of running the guard's script. -/
inductive GuardRun where
  | missing
  | unrunnable (problem : Text)
  | finished (status : Int) (output errors : Text)

inductive Verdict where
  | serverPresent | nobodyListening | couldNotAsk
deriving DecidableEq

/-- `ask_notification_server`, of the script at `guard`. -/
def askNotificationServer (guard : Text) : GuardRun → Verdict × Text
  | .missing => (.couldNotAsk, text "no notification guard at " ++ guard)
  | .unrunnable problem => (.couldNotAsk, text "could not run " ++ guard ++ text ": " ++ problem)
  | .finished status output errors =>
    let said := (orElse (some output) errors).strip
    if status = 0 then (.serverPresent, said)
    else if status = 1 then (.nobodyListening, said)
    else if status = 2 then (.couldNotAsk, said)
    else (.couldNotAsk, text "unrecognised verdict " ++ intText status ++ text " from " ++
      guard ++ text ": " ++ said)

/-- What a login meets: what each run of the guard comes to, what the monotonic clock reads, first
for the deadline and then after each refusal, the wall clock as each failure is composed, and
whether each notification lands.  A sleep lasts as long as it was asked to. -/
structure Login where
  guard : Text
  asked : Nat → GuardRun
  clock : Nat → ℚ
  forward : clock 0 ≤ clock 1
  slept : ∀ test, clock (test + 1) + pollIntervalSeconds ≤ clock (test + 2)
  moment : Nat → Int
  lands : Nat → Bool

namespace Login

variable (login : Login) (budget : ℚ)

def present (ask : Nat) : Bool :=
  (askNotificationServer login.guard (login.asked ask)).1 = .serverPresent

/-- `now() < deadline` no longer. -/
def late (test : Nat) : Bool := login.clock 0 + budget ≤ login.clock (test + 1)

/-- The number of polls that fit into a budget. -/
def pollsWithin (budget : ℚ) : Nat := budget.ceil.toNat + 1

/-- `wait_for_notification_server`: the last question that was asked. -/
def waitForNotificationServer : Option Nat :=
  firstStop (fun ask => login.present ask || login.late budget ask) (pollsWithin budget) 0

end Login

/-- `compose`. -/
def compose (pending : PendingFailure) (at_ : Int) : Text × Text :=
  let hours := max 0 (roundToDouble (totalSeconds (at_ - pending.createdAt) / 3600))
  (text "STILL FAILED: " ++ pending.unit,
    pending.message ++ text "\nFailed " ++ humaniseHours hours ++
    text " ago and has not come back.\n" ++
      text "  systemctl status " ++ pending.unit ++ text "\n  journalctl -u " ++ pending.unit ++
        text " -n 50 --no-pager")

/-- `compose_rollup`. -/
def composeRollup (pending : List PendingFailure) : Text × Text :=
  (text "STILL FAILED: " ++ intText pending.length ++ text " units",
    joined (pending.map PendingFailure.unit) ++
      text "\nNone has come back since it failed. Monitoring is down.\n  systemctl --failed")

structure Spoken where
  summary : Text
  body : Text
  landed : Bool

def Login.speak (login : Login) (attempt : Nat) (said : Text × Text) : Spoken :=
  ⟨said.1, said.2, login.lands attempt⟩

structure Replay where
  status : Nat
  asked : Nat
  spoken : List Spoken

/-- The notifications of a login somebody listens to. -/
def announced (login : Login) (pending : List PendingFailure) : List Spoken :=
  if maxSpoken < pending.length then [login.speak 0 (composeRollup pending)]
  else pending.mapIdx fun place failure => login.speak place (compose failure (login.moment place))

/-- `replay`. -/
def replay (login : Login) (budget : ℚ) (pending : List PendingFailure) : Option Replay :=
  if pending = [] then some ⟨0, 0, []⟩
  else (login.waitForNotificationServer budget).map fun last =>
    if login.present last = false then ⟨1, last + 1, []⟩
    else
      let spoken := announced login pending
      ⟨if spoken.all Spoken.landed then 0 else 2, last + 1, spoken⟩

/-! ## The wait -/

section Wait

variable (login : Login) (budget : ℚ)

/-- Somebody listens before the deadline, or at the last question. -/
def Login.Listened : Prop := ∃ ask, login.present ask = true ∧
  ∀ earlier < ask, login.present earlier = false ∧ login.late budget earlier = false

theorem late_in_time : login.late budget budget.ceil.toNat = true := by
  have steps := @clock_past (fun test => login.clock (test + 1)) pollIntervalSeconds
      (fun test => login.slept test) budget.ceil.toNat
  have enough : budget ≤ (budget.ceil.toNat : ℚ) :=
    Rat.le_ceil.trans (by exact_mod_cast Int.self_le_toNat _)
  have forward := login.forward
  refine decide_eq_true ?_
  simp only [pollIntervalSeconds, mul_one, zero_add] at steps
  linarith only [steps, enough, forward]

theorem wait_spec :
    ∃ last, login.waitForNotificationServer budget = some last ∧ last < Login.pollsWithin budget ∧
    (login.present last = true ↔ login.Listened budget) := by
  have ends : (login.waitForNotificationServer budget).isSome = true := by
    have stops : (login.present budget.ceil.toNat || login.late budget budget.ceil.toNat) = true := by
      rw [late_in_time, Bool.or_true]
    exact @firstStop_isSome (fun ask => login.present ask || login.late budget ask) _ _ _ stops
      (Nat.zero_le _) (by
      rw [Login.pollsWithin]
      omega)
  obtain ⟨last, found⟩ := Option.isSome_iff_exists.mp ends
  obtain ⟨_, inside, stops, before⟩ := firstStop_eq_some.mp found
  have unstopped : ∀ earlier < last, login.present earlier = false ∧
      login.late budget earlier = false :=
    fun earlier early => Bool.or_eq_false_iff.mp (before earlier (Nat.zero_le _) early)
  refine ⟨last, found, by omega, fun present => ⟨last, present, unstopped⟩, fun listened => ?_⟩
  obtain ⟨ask, present, unheard⟩ := listened
  rcases Nat.lt_trichotomy last ask with early | same | late
  · obtain ⟨silent, inTime⟩ := unheard last early
    rw [silent, inTime] at stops
    cases stops
  · exact same ▸ present
  · exact absurd (present.symm.trans (unstopped ask late).1) (by decide)

end Wait

/-! ## What is said -/

theorem infix_joined {pieces : List Text} {piece : Text} (member : piece ∈ pieces) :
    piece <:+: joined pieces := by
  induction pieces with
  | nil => cases member
  | cons first rest ih =>
    cases rest with
    | nil =>
      rw [List.mem_singleton.mp member]
      exact ⟨[], [], by simp [joined, List.intercalate]⟩
    | cons second others =>
      have shape : joined (first :: second :: others) = first ++
          (text ", " ++ joined (second :: others)) := by
        simp [joined, List.intercalate, List.intersperse]
      rw [shape]
      rcases List.mem_cons.mp member with rfl | later
      · exact List.infix_append [] _ _
      · exact (ih later).trans ⟨first ++ text ", ", [], by simp⟩

/-- Every failure that is pending is named in something that is said, and up to three have a
notification of their own that carries the row's message. -/
theorem announced_names {login : Login} {pending : List PendingFailure} {failure : PendingFailure}
    (member : failure ∈ pending) : ∃ spoken ∈ announced login pending, failure.unit <:+: spoken.body ∧
      (pending.length ≤ maxSpoken →
        spoken.summary = text "STILL FAILED: " ++ failure.unit ∧ failure.message <+: spoken.body) := by
  rw [announced]
  split
  · rename_i many
    refine ⟨_, List.mem_singleton.mpr rfl, ?_, fun few => absurd few (by omega)⟩
    exact (infix_joined (List.mem_map.mpr ⟨failure, member, rfl⟩)).trans (List.infix_append [] _ _)
  · obtain ⟨place, inside, here⟩ := List.getElem_of_mem member
    refine ⟨login.speak place (compose failure (login.moment place)), ?_, ?_, fun _ => ⟨rfl, ?_⟩⟩
    · refine List.mem_mapIdx.mpr ⟨place, inside, ?_⟩
      rw [here]
    · have later : ∀ {unit rest : Text} (lead : Text), unit <:+: rest → unit <:+: lead ++ rest :=
        fun lead inside => inside.trans (List.suffix_append lead _).isInfix
      simp only [Login.speak, compose, List.append_assoc]
      exact later _ (later _ (later _ (later _ (later _ (List.prefix_append _ _).isInfix))))
    · simp only [Login.speak, compose, List.append_assoc]
      exact List.prefix_append _ _

theorem announced_length (login : Login) (pending : List PendingFailure) :
    (announced login pending).length ≤ maxSpoken := by
  rw [announced]
  split
  · exact Nat.le_of_ble_eq_true rfl
  · rw [List.length_mapIdx]
    omega

/-- What a login does about the failures it has read. -/
structure Tells (login : Login) (budget : ℚ) (pending : List PendingFailure) (told : Replay) :
    Prop where
  bounded : told.asked ≤ Login.pollsWithin budget ∧ told.spoken.length ≤ maxSpoken
  idle : pending = [] → told = ⟨0, 0, []⟩
  unheard : told.status = 1 ↔ pending ≠ [] ∧ ¬ login.Listened budget
  failed : told.status = 2 ↔ pending ≠ [] ∧ login.Listened budget ∧ ∃ spoken ∈ told.spoken,
    spoken.landed = false
  landed : told.status = 0 → ∀ spoken ∈ told.spoken, spoken.landed = true
  named : pending ≠ [] → login.Listened budget → ∀ failure ∈ pending, ∃ spoken ∈ told.spoken,
    failure.unit <:+: spoken.body ∧ (pending.length ≤ maxSpoken →
      spoken.summary = text "STILL FAILED: " ++ failure.unit ∧ failure.message <+: spoken.body)

theorem replay_tells (login : Login) (budget : ℚ) (pending : List PendingFailure) :
    ∃ told, replay login budget pending = some told ∧ Tells login budget pending told := by
  by_cases empty : pending = []
  · exact ⟨⟨0, 0, []⟩, if_pos empty, ⟨⟨Nat.zero_le _, Nat.zero_le _⟩, fun _ => rfl,
      by simp [empty], by simp [empty], fun _ spoken member => absurd member List.not_mem_nil, fun some => absurd empty some⟩⟩
  obtain ⟨last, waited, inside, listens⟩ := wait_spec login budget
  rw [replay, if_neg empty, waited, Option.map_some]
  refine ⟨_, rfl, ?_⟩
  cases present : login.present last with
  | false =>
    have silent : ¬ login.Listened budget := fun listened => by
      rw [listens.mpr listened] at present
      cases present
    rw [if_pos rfl]
    exact ⟨⟨inside, Nat.zero_le _⟩, fun none => absurd none empty,
      by simp [empty, silent], by simp [silent], fun zero => absurd zero Nat.one_ne_zero, fun _ listened => absurd listened silent⟩
  | true =>
    have listened := listens.mp present
    rw [if_neg (by decide)]
    have all : ((announced login pending).all Spoken.landed = false) ↔
        ∃ spoken ∈ announced login pending, spoken.landed = false := by
      simp
    refine ⟨⟨inside, announced_length login pending⟩, fun none => absurd none empty, ?_, ?_, ?_,
      fun _ _ failure member => announced_names member⟩
    · simp only [listened, not_true, and_false, iff_false]
      split <;> decide
    · simp only [ne_eq, empty, not_false_eq_true, listened, true_and, ← all]
      cases (announced login pending).all Spoken.landed <;> decide
    · intro zero spoken member
      cases landed : (announced login pending).all Spoken.landed with
      | false =>
        change (if (announced login pending).all Spoken.landed = true then 0 else 2) = 0 at zero
        rw [landed] at zero
        cases zero
      | true => exact List.all_eq_true.mp landed spoken member

/-- After whatever has happened to the table, a login that ends well has said of every dead unit
that it is dead, with what is known of why. -/
theorem login_tells (turns : List Turn) (rows : List Alert) (read : ReadInOrder (after turns) rows)
    (login : Login) (budget : ℚ) :
    ∃ told, replay login budget (pendingUnitFailures (some rows)) = some told ∧
      Tells login budget (pendingUnitFailures (some rows)) told ∧
      (told.status = 0 → ∀ unit draft since, BlankFree unit →
        deadUnit turns unit = some (draft, since) →
        ∃ spoken ∈ told.spoken, spoken.landed = true ∧ unit <:+: spoken.body ∧
          ((pendingUnitFailures (some rows)).length ≤ maxSpoken →
            spoken.summary = text "STILL FAILED: " ++ unit ∧ draft.message <+: spoken.body)) := by
  obtain ⟨told, replayed, tells⟩ := replay_tells login budget (pendingUnitFailures (some rows))
  refine ⟨told, replayed, tells, fun zero unit draft since named dead => ?_⟩
  have stands := (standing_deadUnit turns named).trans dead
  have title : draft.title = unitFailureTitle unit := by
    obtain ⟨row, found, same⟩ := Option.map_eq_some_iff.mp stands
    rw [← (open_titled found).2.1, ← congrArg (fun content => Draft.title (Prod.fst content)) same]
    rfl
  obtain ⟨failure, world, _, rfl⟩ := (kept_after turns _ _ stands).of_unit named title
  have pending : (⟨unit, (failureDraft failure world).title,
      (failureDraft failure world).message, since,
      (failureDraft failure world).details⟩ : PendingFailure) ∈ pendingUnitFailures (some rows) :=
    ((pending_read turns rows read).1 _).mpr ⟨named, dead⟩
  have some : pendingUnitFailures (some rows) ≠ [] := List.ne_nil_of_mem pending
  have heard : login.Listened budget := by
    by_contra silent
    have one := tells.unheard.mpr ⟨some, silent⟩
    rw [zero] at one
    cases one
  obtain ⟨spoken, member, inside, own⟩ := tells.named some heard _ pending
  exact ⟨spoken, member, tells.landed zero spoken member, inside, own⟩

/-- The daemon dies with nobody logged in, against a schema it was not written for. -/
def deadAtBoot : List Turn :=
  [.failed ⟨true, .ok ⟨text "alembic", text "sysadmin", .ok [text "021"], .ok (some [text "020"])⟩,
    true, 0⟩ ⟨ownUnit, some (text "exit-code"), some (text "1"), some (text "5")⟩ (by decide)]

/-- Somebody logs in, and the desktop listens from the second question on. -/
def evening : Login where
  guard := text "notification-server-present.sh"
  asked ask := if ask = 0 then .finished 1 (text "nobody is logged in to tell") []
    else .finished 0 (text "yes") []
  clock reading := reading
  forward := by norm_num
  slept test := by
    simp only [pollIntervalSeconds]
    push_cast
    linarith
  moment _ := 3600000000
  lands _ := true

theorem login_tells_evening : ∃ told, replay evening waitBudgetSeconds
    (pendingUnitFailures (some (standingRows (after deadAtBoot)))) = some told ∧
      Tells evening waitBudgetSeconds
        (pendingUnitFailures (some (standingRows (after deadAtBoot)))) told ∧
      (told.status = 0 → ∀ unit draft since, BlankFree unit →
        deadUnit deadAtBoot unit = some (draft, since) →
        ∃ spoken ∈ told.spoken, spoken.landed = true ∧ unit <:+: spoken.body ∧
          ((pendingUnitFailures (some (standingRows (after deadAtBoot)))).length ≤ maxSpoken →
            spoken.summary = text "STILL FAILED: " ++ unit ∧ draft.message <+: spoken.body)) :=
  login_tells deadAtBoot _ ⟨List.Perm.refl _, by decide +kernel⟩ evening waitBudgetSeconds

end SysadminAssistant.Monitor.FailureReplay
