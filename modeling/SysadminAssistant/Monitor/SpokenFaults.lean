import SysadminAssistant.Library.StepHistory
import SysadminAssistant.Monitor.SweepTurns

namespace SysadminAssistant.Monitor.Desktop

open Python SysadminAssistant.Core Library

/-! What the understudy has said stays with it until a sweep has seen it closed, as long as
no handler speaks between the two halves of a sweep's look. -/

/-- A sweep reads the alerts table, in which no row of `title` is open. -/
def seesClosed (title : Text) (daemon : Daemon) (turn : Turn) : Bool :=
  match daemon.sweep, turn with
  | .asking _ _, .sweep true => (openOf daemon.alerts title).isEmpty
  | _, _ => false

/-- A handler has its row for `fault` written. -/
def writesDown (fault : SpokenFault) (daemon : Daemon) : Turn → Bool
  | .handler index true => match daemon.handlers[index]? with
      | some (.storing stored _) => stored = fault
      | _ => false
  | _ => false

/-- No handler comes between the two halves of a sweep's look at `title`: a table read asks
about it if it is open, and it is not recorded over an answer that lacks it. -/
def lookedWhole (title : Text) (daemon : Daemon) : Turn → Bool
  | .sweep true => match daemon.sweep with
      | .asking _ titles => title ∈ titles || (daemon.spoken.get? title).isNone ||
          (openOf daemon.alerts title).isEmpty
      | _ => true
  | .handler index _ => match daemon.handlers[index]?, daemon.sweep with
      | some (.landed recorded _), .answered _ stillOpen =>
        recorded ≠ title || (stillOpen.get? title).isSome
      | _, _ => true
  | _ => true

/-- Nor is the row of a fault made since the drop written before the sweep's delete. -/
def writtenAfter (title : Text) (daemon : Daemon) : Turn → Bool
  | .handler index true => match daemon.handlers[index]?, daemon.sweep with
      | some (.storing fault _), .forgetting _ _ cleared => fault.title ≠ title ||
          cleared.all fun gone => gone.title ≠ title || fault.serial ≤ gone.serial
      | _, _ => true
  | _ => true

def undisturbed (title : Text) (daemon : Daemon) (turn : Turn) : Bool :=
  lookedWhole title daemon turn && writtenAfter title daemon turn

/-- Every fault object in hand was made before the next one. -/
structure Numbered (daemon : Daemon) : Prop where
  spoken : ∀ title fault, daemon.spoken.get? title = some fault →
    fault.title = title ∧ fault.serial < daemon.made
  clearing : ∀ fault ∈ daemon.sweep.clearing, fault.serial < daemon.made
  told : ∀ faults toast, .recovery faults toast ∈ daemon.notices →
    ∀ fault ∈ faults, fault.serial < daemon.made
  storing : ∀ (index : Nat) (fault : SpokenFault) (row : Text × StoredFault),
    daemon.handlers[index]? = some (.storing fault row) → fault.row = .ok row

theorem start_numbered (around : Surroundings) (alerts : List Alert) (store : Store) :
    Numbered (Daemon.start around alerts store) where
  spoken := by simp [Daemon.start]
  clearing := by simp [Daemon.start, Sweeping.clearing]
  told := by simp [Daemon.start]
  storing := by simp [Daemon.start]

theorem Numbered.spoken_known {before after : Daemon} (numbered : Numbered before)
    (known : Known before.spoken after.spoken after.made) (grown : before.made ≤ after.made)
    {title : Text} {fault : SpokenFault} (found : after.spoken.get? title = some fault) :
    fault.title = title ∧ fault.serial < after.made := by
  rcases known title fault found with ⟨earlier, carried, serial, named⟩ | fresh
  · obtain ⟨key, below⟩ := numbered.spoken title earlier carried
    exact ⟨named ▸ key, by omega⟩
  · exact fresh

theorem Numbered.turn {before after : Daemon} {turn : Turn} (numbered : Numbered before)
    (moved : before.turn turn = some after) : Numbered after := by
  rcases turn_moves moved with ⟨succeeds, sweeps, _⟩ | outside
  · refine ⟨fun _ _ => numbered.spoken_known sweeps.known sweeps.made, ?_, ?_, ?_⟩
    · intro fault member
      have grown := sweeps.made
      rcases sweeps.clears fault member with standing | ⟨answer, title, _, _, carried⟩
      · have below := numbered.clearing fault standing
        omega
      · have below := (numbered.spoken title fault carried).2
        omega
    · intro faults toast member fault inside
      have grown := sweeps.made
      rcases sweeps.tells faults toast member with earlier | now
      · have below := numbered.told faults toast earlier fault inside
        omega
      · have below := numbered.clearing fault (now ▸ inside)
        omega
    · rw [sweeps.outside.2.2.2]
      exact numbered.storing
  · have grown := outside.made
    refine ⟨fun _ _ => numbered.spoken_known outside.carries.known grown, ?_, ?_, ?_⟩
    · intro fault member
      rw [outside.sweep] at member
      have below := numbered.clearing fault member
      omega
    · intro faults toast member fault inside
      have below := numbered.told faults toast (outside.tells faults toast member) fault inside
      omega
    · intro index fault row found
      rcases outside.storing index fault row found with standing | fits
      · exact numbered.storing index fault row standing
      · exact fits

theorem row_title {fault : SpokenFault} {row : Text × StoredFault} (written : fault.row = .ok row) :
    row.1 = fault.title := by
  simp only [SpokenFault.row] at written
  cases first : fromTimestamp fault.episodeStartedAt with
  | error raised => simp [first, bind, Except.bind] at written
  | ok started =>
    cases second : fromTimestamp fault.lastSpokenAt with
    | error raised => simp [first, second, bind, Except.bind] at written
    | ok spoken =>
      simp only [first, second, bind, Except.bind, pure, Except.pure, Except.ok.injEq] at written
      rw [← written]

/-- From the moment `serial` was made of `title`, and while no sweep has seen it closed. -/
structure Held (title : Text) (serial : Nat) (daemon : Daemon) : Prop where
  numbered : Numbered daemon
  carried : (daemon.spoken.get? title).isSome
  named : ∀ answer, daemon.sweep.answer? = some answer → (answer.get? title).isSome
  older : ∀ fault ∈ daemon.sweep.clearing, fault.title = title → fault.serial < serial
  untold : ∀ faults toast, .recovery faults toast ∈ daemon.notices →
    ∀ fault ∈ faults, fault.title = title → fault.serial < serial

theorem Held.turn {title : Text} {serial : Nat} {before after : Daemon} {turn : Turn}
    (held : Held title serial before) (calm : undisturbed title before turn = true)
    (unseen : seesClosed title before turn ≠ true) (moved : before.turn turn = some after) :
    Held title serial after := by
  have numbered := held.numbered.turn moved
  rcases turn_moves moved with ⟨succeeds, sweeps, which⟩ | outside
  · refine ⟨numbered, ?_, ?_, ?_, ?_⟩
    · rcases sweeps.drops title held.carried with kept | ⟨answer, answered, absent⟩
      · exact kept
      · have present := held.named answer answered
        rw [absent] at present
        contradiction
    · intro answer answered
      obtain ⟨look, titles, asking, succeeded, shape⟩ := sweeps.answers answer answered
      subst succeeded
      rcases which with turned | resting
      · subst turned
        have standing : openOf before.alerts title ≠ [] := by
          simpa [seesClosed, asking] using unseen
        have carried := Option.isSome_iff_ne_none.mp held.carried
        have asked : title ∈ titles := by
          simpa [lookedWhole, asking, standing, carried] using (Bool.and_eq_true_iff.mp calm).1
        rw [shape]
        exact stillOpen_isSome.mpr ⟨asked, standing⟩
      · rw [resting] at asking
        contradiction
    · intro fault member same
      rcases sweeps.clears fault member with standing | ⟨answer, dropped, answered, absent, found⟩
      · exact held.older fault standing same
      · have key := (held.numbered.spoken dropped fault found).1
        have present := held.named answer answered
        rw [← same, key, absent] at present
        contradiction
    · intro faults toast member fault inside same
      rcases sweeps.tells faults toast member with earlier | now
      · exact held.untold faults toast earlier fault inside same
      · exact held.older fault (now ▸ inside) same
  · refine ⟨numbered, outside.carries.kept title held.carried, ?_, ?_, ?_⟩
    · rw [outside.sweep]
      exact held.named
    · rw [outside.sweep]
      exact held.older
    · exact fun faults toast member => held.untold faults toast (outside.tells faults toast member)

theorem recorded_held {before recorded : Daemon} {index : Nat} {succeeds : Bool}
    {title severity : Text} (numbered : Numbered before)
    (landed : before.handlers[index]? = some (.landed title severity))
    (calm : undisturbed title before (.handler index succeeds) = true)
    (recording : before.turn (.handler index succeeds) = some recorded) :
    Held title (before.openingFault title severity).serial recorded := by
  have numberedAfter := numbered.turn recording
  simp only [Daemon.turn, landed, Option.bind_some, Daemon.handle, Option.some.injEq] at recording
  subst recording
  refine ⟨numberedAfter, by simp, ?_, ?_, ?_⟩
  · intro answer answered
    change before.sweep.answer? = some answer at answered
    cases phase : before.sweep <;> simp only [phase, Sweeping.answer?, reduceCtorEq] at answered
    cases answered
    simpa [lookedWhole, landed, phase] using (Bool.and_eq_true_iff.mp calm).1
  · exact fun fault member _ => numbered.clearing fault member
  · exact fun faults toast member fault inside _ => numbered.told faults toast member fault inside

/-- Once its row is written, as well. -/
structure Stored (title : Text) (serial : Nat) (daemon : Daemon) : Prop where
  held : Held title serial daemon
  stored : (daemon.store.get? title).isSome
  spared : ∀ cleared, daemon.sweep.deleting? = some cleared → title ∉ cleared.map SpokenFault.title

theorem written_stored {before after : Daemon} {fault : SpokenFault} {turn : Turn}
    (held : Held fault.title fault.serial before) (calm : undisturbed fault.title before turn = true)
    (writes : writesDown fault before turn = true) (moved : before.turn turn = some after)
    (heldAfter : Held fault.title fault.serial after) : Stored fault.title fault.serial after := by
  cases turn with
  | handler index succeeds =>
    cases succeeds with
    | false => simp [writesDown] at writes
    | true =>
      simp only [writesDown] at writes
      split at writes
      · rename_i stored row found
        rw [decide_eq_true_eq] at writes
        subst writes
        have key := row_title (held.numbered.storing index stored row found)
        simp only [Daemon.turn, found, Option.bind_some, Daemon.handle, if_true,
          Option.some.injEq] at moved
        subst moved
        refine ⟨heldAfter, by simp [remember, key], ?_⟩
        intro cleared deleting listed
        obtain ⟨gone, member, same⟩ := List.mem_map.mp listed
        change before.sweep.deleting? = some cleared at deleting
        cases forgetting : before.sweep <;>
          simp only [forgetting, Sweeping.deleting?, reduceCtorEq] at deleting
        cases deleting
        -- a fault of this title in hand is older, so the delete is for one already replaced
        have older := held.older gone (by rw [forgetting]; exact member) same
        simp only [undisturbed, lookedWhole, writtenAfter, found, forgetting,
          Bool.true_and, ne_eq, not_true_eq_false, decide_false, Bool.false_or,
          List.all_eq_true, Bool.or_eq_true, decide_eq_true_eq] at calm
        rcases calm gone member with other | newer
        · exact other same
        · omega
      · contradiction
  | _ => simp [writesDown] at writes

theorem Stored.turn {title : Text} {serial : Nat} {before after : Daemon} {turn : Turn}
    (stored : Stored title serial before) (calm : undisturbed title before turn = true)
    (unseen : seesClosed title before turn ≠ true) (moved : before.turn turn = some after) :
    Stored title serial after := by
  have held := stored.held.turn calm unseen moved
  rcases turn_moves moved with ⟨succeeds, sweeps, _⟩ | outside
  · refine ⟨held, ?_, ?_⟩
    · rcases sweeps.deletes title stored.stored with kept | ⟨cleared, deleting, listed⟩
      · exact kept
      · exact absurd listed (stored.spared cleared deleting)
    · intro cleared deleting listed
      obtain ⟨answer, answered, shape⟩ := sweeps.dooms cleared deleting
      rw [shape, List.map_map] at listed
      obtain ⟨⟨dropped, fault⟩, inside, same⟩ := List.mem_map.mp listed
      obtain ⟨found, absent⟩ := mem_unnamed.mp inside
      have key := (stored.held.numbered.spoken dropped fault found).1
      have present := stored.held.named answer answered
      rw [← same, Function.comp_apply, key, absent] at present
      contradiction
  · refine ⟨held, outside.stored title stored.stored, ?_⟩
    rw [outside.sweep]
    exact stored.spared

/-- A title that was announced and recorded is carried until a sweep has read the alerts table
with none of its rows open, its stored row stays once it is written, and no ending is told of
it: not of the fault recorded, nor of one recorded since. -/
theorem spoken_until_seen_closed {around : Surroundings} {alerts : List Alert} {store : Store}
    {early late : List Turn} {before recorded final : Daemon} {index : Nat} {succeeds : Bool}
    {title severity : Text}
    (reached : early.foldlM Daemon.turn (Daemon.start around alerts store) = some before)
    (landed : before.handlers[index]? = some (.landed title severity))
    (recording : before.turn (.handler index succeeds) = some recorded)
    (went : late.foldlM Daemon.turn recorded = some final)
    (calm : Throughout Daemon.turn (fun daemon turn => undisturbed title daemon turn = true) before
      (.handler index succeeds :: late))
    (unseen : ¬ Happens Daemon.turn (fun daemon turn => seesClosed title daemon turn = true)
      recorded late) :
    (final.spoken.get? title).isSome ∧
      (Happens Daemon.turn (fun daemon turn =>
          writesDown (before.openingFault title severity) daemon turn = true) recorded late →
        (final.store.get? title).isSome) ∧
      ∀ faults toast, .recovery faults toast ∈ final.notices → ∀ fault ∈ faults,
        fault.title = title → fault.serial < (before.openingFault title severity).serial := by
  simp only [Throughout, recording, Option.elim_some] at calm
  obtain ⟨calmNow, calmLater⟩ := calm
  have numbered : Numbered before :=
    run_preserves Numbered (fun numbered moved => numbered.turn moved)
      (start_numbered around alerts store) reached
  have start := recorded_held numbered landed calmNow recording
  have held : Held title before.made final :=
    Throughout.unless (fun held calm unseen moved => held.turn calm unseen moved) start
      calmLater unseen went
  refine ⟨held.carried, fun written => ?_, held.untold⟩
  obtain ⟨sooner, write, later, unwritten, stored, shape, ran, -, writes, moved, ended⟩ :=
    written.first went
  rw [shape, Throughout.append ran] at calmLater
  rw [shape, Happens.append ran, not_or] at unseen
  simp only [Throughout, Happens, moved, Option.elim_some, not_or] at calmLater unseen
  have heldThen : Held title before.made unwritten :=
    Throughout.unless (fun held calm unseen moved => held.turn calm unseen moved) start calmLater.1
      unseen.1 ran
  have heldNow := heldThen.turn calmLater.2.1 unseen.2.1 moved
  have storedNow :=
    @written_stored unwritten stored (before.openingFault title severity) write heldThen
    calmLater.2.1 writes moved heldNow
  have kept : Stored title before.made final :=
    Throughout.unless (fun stored calm unseen moved => stored.turn calm unseen moved) storedNow
      calmLater.2.2 unseen.2.2 ended
  exact kept.stored

def noTray : Surroundings where
  clock := 100
  monotonic := 100
  config := ⟨true, text "warning", 180, .finite 24⟩
  tray := ⟨none, 0⟩
  dnd := ⟨false, true⟩

def outage (id : Nat) (title : Text) : Alert where
  id
  agent := text "sysadmin"
  severity := .warning
  title
  message := []
  details := .empty
  createdAt := 0
  resolvedAt := none

/-- From the event to the toast. -/
def announcing (index : Nat) (title : Text) : List Turn :=
  [.alertRaised ⟨some (text "warning"), some title, none⟩, .handler index true, .handler index true]

/-- From the first outage's row to its toast. -/
def firstOutage : List Turn := .alerts [outage 1 (text "first")] :: announcing 0 (text "first")

/-- Its row is written, and a sweep finds it open. -/
def watched : List Turn :=
  [.handler 0 true, .sweepBegins, .sweep true, .sweep true, .sweep true, .sweep true]

def daemonAt (turns : List Turn) : Daemon :=
  (turns.foldlM Daemon.turn (.start noTray [] .empty)).getD (.start noTray [] .empty)

def possible (turns : List Turn) : Bool := (turns.foldlM Daemon.turn (.start noTray [] .empty)).isSome

theorem daemonAt_reached {turns : List Turn} (runs : possible turns = true) :
    turns.foldlM Daemon.turn (.start noTray [] .empty) = some (daemonAt turns) := by
  obtain ⟨daemon, reached⟩ := Option.isSome_iff_exists.mp runs
  rw [daemonAt, reached, Option.getD_some]

theorem daemonAt_append {left right : List Turn} (runs : possible (left ++ right) = true) :
    right.foldlM Daemon.turn (daemonAt left) = some (daemonAt (left ++ right)) := by
  have whole := daemonAt_reached runs
  rw [List.foldlM_append, Option.bind_eq_bind, Option.bind_eq_some_iff] at whole
  obtain ⟨middle, reached, went⟩ := whole
  rw [daemonAt, reached, Option.getD_some, went]

theorem daemonAt_snoc {turns : List Turn} {turn : Turn} (runs : possible (turns ++ [turn]) = true) :
    (daemonAt turns).turn turn = some (daemonAt (turns ++ [turn])) := by
  simpa using daemonAt_append runs

theorem firstOutage_carried :
    ((daemonAt (firstOutage ++ [.handler 0 true] ++ watched)).spoken.get? (text "first")).isSome :=
  (spoken_until_seen_closed (daemonAt_reached (by decide))
    (by decide : (daemonAt firstOutage).handlers[0]? = some (.landed (text "first") (text "warning")))
    (daemonAt_snoc (by decide +kernel)) (daemonAt_append (by decide +kernel)) (by decide +kernel)
    (by decide +kernel)).1

/-- The second outage is announced while the sweep waits for what it asked about the first. -/
def secondOutage : List Turn :=
  firstOutage ++ [.handler 0 true, .handler 0 true, .sweepBegins, .sweep true, .sweep true,
    .alerts [outage 1 (text "first"), outage 2 (text "second")]] ++ announcing 1 (text "second")

/-- The sweep reads and drops; the handler has its row written; the sweep deletes it. -/
def dropped : List Turn := [.sweep true, .sweep true, .handler 1 true, .sweep true]

theorem secondOutage_forgotten :
    possible (secondOutage ++ [.handler 1 true] ++ dropped) = true ∧
      (daemonAt secondOutage).handlers[1]? = some (.landed (text "second") (text "warning")) ∧
      ¬ Happens Daemon.turn (fun daemon turn => seesClosed (text "second") daemon turn = true)
        (daemonAt (secondOutage ++ [.handler 1 true])) dropped ∧
      (openOf (daemonAt (secondOutage ++ [.handler 1 true] ++ dropped)).alerts
        (text "second")).length = 1 ∧
      (daemonAt (secondOutage ++ [.handler 1 true] ++ dropped)).spoken.get? (text "second") = none ∧
      (daemonAt (secondOutage ++ [.handler 1 true] ++ dropped)).store.get? (text "second") = none := by
  exact ⟨by decide +kernel, by decide +kernel, by decide +kernel, by decide +kernel, by decide +kernel,
    by decide +kernel⟩

end SysadminAssistant.Monitor.Desktop
