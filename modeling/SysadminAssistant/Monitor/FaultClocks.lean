import SysadminAssistant.Monitor.OutageEndings
import SysadminAssistant.Python.Rounding

namespace SysadminAssistant.Monitor.Desktop

open Python SysadminAssistant.Core Library

/-! The clock of one fault, from a moment on: five places move it, and none of them back. -/

/-- The wall clock does not go back. -/
def forward (daemon : Daemon) : Turn → Prop
  | .surroundings next => daemon.around.clock ≤ next.clock
  | _ => True

instance (daemon : Daemon) (turn : Turn) : Decidable (forward daemon turn) := by
  cases turn <;> simp only [forward] <;> infer_instance

/-- The object numbered `serial` was spoken of at `mark` or since. -/
def Clocked (serial : Nat) (mark : ℚ) (spoken : Dict Text SpokenFault) : Prop :=
  ∀ title fault, spoken.get? title = some fault → fault.serial = serial → mark ≤ fault.lastSpokenAt

/-- What the sweep in flight may still do to that clock, and when it may restate. -/
def Sweeping.Keeps (serial : Nat) (mark : ℚ) : Sweeping → Prop
  | .loading look | .loadAnswered look _ => mark ≤ look.now
  | .adopting look _ _ | .adoptAnswered look _ | .storingAdopted look _ | .adoptedStored look =>
    look.config.interval.isNonPositive = false
  | .restating look due => ∀ fault ∈ due, fault.serial = serial →
      mark ≤ look.now ∧ ∀ interval, look.config.interval = .finite interval →
        interval ≤ elapsed look.now mark
  | .restated look due => ∀ fault ∈ due, fault.serial = serial → mark ≤ look.now
  | _ => True

/-- The sweep has said a reminder of that object, and has not moved its clock yet. -/
def Sweeping.marks (serial : Nat) : Sweeping → Bool
  | .restated _ due => due.any fun fault => fault.serial = serial
  | _ => false

structure Kept (serial : Nat) (mark : ℚ) (daemon : Daemon) : Prop where
  made : serial < daemon.made
  now : mark ≤ daemon.around.clock
  clocked : daemon.sweep.marks serial = false → Clocked serial mark daemon.spoken
  sweep : daemon.sweep.Keeps serial mark

variable {serial : Nat} {mark : ℚ}

theorem Clocked.mapValues {spoken : Dict Text SpokenFault}
    {change : Text → SpokenFault → SpokenFault} (clocked : Clocked serial mark spoken)
    (kept : ∀ title fault, fault.serial = serial → mark ≤ fault.lastSpokenAt →
      mark ≤ (change title fault).lastSpokenAt)
    (same : ∀ title fault, (change title fault).serial = fault.serial) :
    Clocked serial mark (spoken.mapValues change) := by
  intro title fault found ours
  rw [Dict.get?_mapValues, Option.map_eq_some_iff] at found
  obtain ⟨earlier, standing, shape⟩ := found
  subst shape
  rw [same] at ours
  exact kept title earlier ours (clocked title earlier standing ours)

theorem Clocked.set {spoken : Dict Text SpokenFault} {title : Text} {fault : SpokenFault}
    (clocked : Clocked serial mark spoken) (other : fault.serial ≠ serial) :
    Clocked serial mark (spoken.set title fault) := by
  intro key found member ours
  rw [Dict.get?_set] at member
  split at member
  · cases member
    exact absurd ours other
  · exact clocked key found member ours

theorem Clocked.restored {entries : List (Text × StoredFault)} {daemon : Daemon}
    (clocked : Clocked serial mark daemon.spoken) (made : serial < daemon.made) :
    Clocked serial mark (entries.foldl Daemon.restore daemon).spoken := by
  induction entries generalizing daemon with
  | nil => exact clocked
  | cons entry rest ih =>
    apply ih
    · simp only [Daemon.restore]
      split
      · exact clocked
      · exact clocked.set (Nat.ne_of_gt made)
    · simp only [Daemon.restore]
      split
      · exact made
      · exact Nat.lt_succ_of_lt made

theorem Clocked.adopted {look : Look} {candidates : List Candidate} {daemon : Daemon}
    (clocked : Clocked serial mark daemon.spoken) (made : serial < daemon.made) :
    Clocked serial mark (candidates.foldl (Daemon.adoptOne look) daemon).spoken := by
  induction candidates generalizing daemon with
  | nil => exact clocked
  | cons candidate rest ih => exact ih (clocked.set (Nat.ne_of_gt made)) (Nat.lt_succ_of_lt made)

theorem Clocked.kept {spoken : Dict Text SpokenFault} {answer : Dict Text Text}
    (clocked : Clocked serial mark spoken) : Clocked serial mark (keepNamed spoken answer) := by
  intro title fault found
  rw [get?_keepNamed] at found
  split at found
  · exact clocked title fault found
  · contradiction

theorem due_later {passed : ℚ} {interval : PyFloat} (positive : interval.isNonPositive = false)
    (due : reaches passed interval = true) :
    0 < passed ∧ ∀ hours, interval = .finite hours → hours ≤ passed := by
  cases interval with
  | finite hours =>
    simp only [PyFloat.isNonPositive, decide_eq_false_iff_not, not_le] at positive
    simp only [reaches, decide_eq_true_eq] at due
    exact ⟨positive.trans_le due, fun other same => by cases same; exact due⟩
  | infinite negative =>
    simp only [PyFloat.isNonPositive] at positive
    simp [reaches, positive] at due
  | nan => simp [reaches] at due

theorem takeDue_kept {daemon : Daemon} {look : Look} (made : serial < daemon.made)
    (now : mark ≤ daemon.around.clock) (clocked : Clocked serial mark daemon.spoken)
    (positive : look.config.interval.isNonPositive = false) :
    Kept serial mark (daemon.takeDue look) := by
  simp only [Daemon.takeDue]
  split
  · exact ⟨made, now, fun _ => clocked, trivial⟩
  · refine ⟨made, now, fun _ => clocked, fun fault member ours => ?_⟩
    obtain ⟨inside, due⟩ := List.mem_filter.mp member
    simp only [Bool.and_eq_true] at due
    obtain ⟨entry, listed, same⟩ := List.mem_map.mp inside
    rw [List.mem_insertionSort] at listed
    have last := clocked entry.1 fault (Dict.get?_eq_some.mpr (same ▸ listed)) ours
    obtain ⟨passed, reached⟩ := due_later positive due.1.1
    exact ⟨last.trans (lt_of_elapsed_pos passed).le, fun interval hours =>
      (reached interval hours).trans (elapsed_mono last le_rfl)⟩

theorem afterLook_kept {daemon : Daemon} {look : Look} (made : serial < daemon.made)
    (now : mark ≤ daemon.around.clock) (clocked : Clocked serial mark daemon.spoken) :
    Kept serial mark (daemon.afterLook look) := by
  simp only [Daemon.afterLook]
  split
  · exact ⟨made, now, fun _ => clocked, trivial⟩
  · rename_i positive
    rw [Bool.not_eq_true] at positive
    split
    · exact ⟨made, now, fun _ => clocked, positive⟩
    · exact @takeDue_kept serial mark { daemon with lookedAt := look.now } look made now
        clocked positive

theorem settle_kept {daemon : Daemon} {look : Look} {answer : Dict Text Text}
    (made : serial < daemon.made) (now : mark ≤ daemon.around.clock)
    (clocked : Clocked serial mark daemon.spoken) :
    Kept serial mark (daemon.settle look answer) :=
  afterLook_kept made now (clocked.mapValues (fun _ _ _ => id) fun _ _ => rfl)

theorem afterLoad_kept {daemon : Daemon} {look : Look} (made : serial < daemon.made)
    (now : mark ≤ daemon.around.clock) (later : mark ≤ look.now)
    (clocked : Clocked serial mark daemon.spoken) : Kept serial mark (daemon.afterLoad look) := by
  simp only [Daemon.afterLoad]
  split
  · exact ⟨made, now, fun _ => clocked.mapValues (fun _ _ _ _ => later) fun _ _ => rfl, trivial⟩
  · split
    · exact afterLook_kept made now clocked
    · exact ⟨made, now, fun _ => clocked, trivial⟩

theorem adopt_kept {daemon : Daemon} {look : Look} {candidates : List Candidate}
    (made : serial < daemon.made) (now : mark ≤ daemon.around.clock)
    (clocked : Clocked serial mark daemon.spoken)
    (positive : look.config.interval.isNonPositive = false) :
    Kept serial mark (daemon.adopt look candidates) := by
  simp only [Daemon.adopt]
  split
  · exact takeDue_kept made now clocked positive
  · have carried := @Clocked.adopted serial mark look candidates daemon clocked made
    obtain ⟨spoken, count, grown, shape⟩ := adopted_shape look daemon candidates
    rw [shape] at carried ⊢
    refine ⟨lt_of_lt_of_le made grown, now, fun _ => carried, ?_⟩
    dsimp only
    split
    · exact positive
    · trivial

theorem markDue_kept {daemon : Daemon} {look : Look} {due : List SpokenFault}
    (kept : Kept serial mark daemon) (restated : daemon.sweep = .restated look due) :
    Kept serial mark (daemon.markDue look due) := by
  obtain ⟨made, now, clocked, later⟩ := kept
  rw [restated] at clocked later
  refine ⟨made, now, fun _ title fault found ours => ?_, ?_⟩
  · simp only [Daemon.markDue, Dict.get?_mapValues, Option.map_eq_some_iff] at found
    obtain ⟨earlier, standing, shape⟩ := found
    by_cases listed : earlier.serial ∈ due.map SpokenFault.serial
    · rw [if_pos listed] at shape
      subst shape
      obtain ⟨told, member, same⟩ := List.mem_map.mp listed
      exact later told member (same.trans ours)
    · rw [if_neg listed] at shape
      subst shape
      refine clocked ?_ title earlier standing ours
      simp only [Sweeping.marks, List.any_eq_false, decide_eq_true_eq]
      exact fun told member same => listed (List.mem_map.mpr ⟨told, member, same.trans ours.symm⟩)
  · simp only [Daemon.markDue]
    split <;> trivial

theorem sweepOn_kept {before after : Daemon} {succeeds : Bool} (kept : Kept serial mark before)
    (moved : before.sweepOn succeeds = some after) : Kept serial mark after := by
  obtain ⟨made, now, clocked, keeps⟩ := kept
  cases phase : before.sweep with
  | idle => simp [Daemon.sweepOn, phase] at moved
  | loadAnswered look stored =>
    rw [phase] at clocked keeps
    cases stored with
    | none =>
      simp only [Daemon.sweepOn, phase, Option.some.injEq] at moved
      exact moved ▸ afterLoad_kept made now keeps (clocked rfl)
    | some stored =>
      simp only [Daemon.sweepOn, phase, Option.some.injEq] at moved
      have carried := @Clocked.restored serial mark stored.entries before (clocked rfl) made
      obtain ⟨spoken, count, grown, shape⟩ := restored_shape before stored.entries
      rw [shape] at carried moved
      rw [← moved]
      exact afterLoad_kept (lt_of_lt_of_le made grown) now keeps carried
  | answered look answer =>
    rw [phase] at clocked
    simp only [Daemon.sweepOn, phase, Option.some.injEq] at moved
    rw [← moved]
    simp only [Daemon.dropCleared]
    split
    · exact settle_kept made now (clocked rfl).kept
    · exact ⟨made, now, fun _ => (clocked rfl).kept, trivial⟩
  | forgot look answer cleared =>
    rw [phase] at clocked
    simp only [Daemon.sweepOn, phase, Option.some.injEq] at moved
    rw [← moved]
    simp only [Daemon.weighEndings]
    split
    · exact settle_kept made now (clocked rfl)
    · exact ⟨made, now, fun _ => clocked rfl, trivial⟩
  | confirmed look answer candidates fresh =>
    rw [phase] at clocked
    simp only [Daemon.sweepOn, phase, Option.some.injEq] at moved
    rw [← moved]
    simp only [Daemon.tellEndings]
    split
    · exact settle_kept made now (clocked rfl)
    · exact ⟨made, now, fun _ => clocked rfl, trivial⟩
  | told look answer =>
    rw [phase] at clocked
    simp only [Daemon.sweepOn, phase, Option.some.injEq] at moved
    exact moved ▸ settle_kept made now (clocked rfl)
  | adoptAnswered look candidates =>
    rw [phase] at clocked keeps
    simp only [Daemon.sweepOn, phase, Option.some.injEq] at moved
    exact moved ▸ adopt_kept made now (clocked rfl) keeps
  | adoptedStored look =>
    rw [phase] at clocked keeps
    simp only [Daemon.sweepOn, phase, Option.some.injEq] at moved
    exact moved ▸ takeDue_kept made now (clocked rfl) keeps
  | restating look due =>
    rw [phase] at clocked keeps
    simp only [Daemon.sweepOn, phase, Option.some.injEq] at moved
    subst moved
    split
    · exact ⟨made, now, fun _ => clocked rfl, fun fault member ours => (keeps fault member ours).1⟩
    · exact ⟨made, now, fun _ => clocked rfl, trivial⟩
  | restated look due =>
    simp only [Daemon.sweepOn, phase, Option.some.injEq] at moved
    exact moved ▸ markDue_kept ⟨made, now, clocked, keeps⟩ phase
  | asking look titles =>
    rw [phase] at clocked
    simp only [Daemon.sweepOn, phase, Option.some.injEq] at moved
    subst moved
    split <;> exact ⟨made, now, fun _ => clocked rfl, trivial⟩
  | loading look | forgetting look answer cleared | confirming look answer candidates
  | telling look answer recovered | adopting look spokenFor room | storingAdopted look rows
  | storingReminders rows =>
    rw [phase] at clocked keeps
    simp only [Daemon.sweepOn, phase, Option.some.injEq] at moved
    subst moved
    exact ⟨made, now, fun _ => clocked rfl, keeps⟩

theorem Kept.turn {before after : Daemon} {turn : Turn} (kept : Kept serial mark before)
    (onward : forward before turn) (moved : before.turn turn = some after) :
    Kept serial mark after := by
  obtain ⟨made, now, clocked, keeps⟩ := kept
  cases turn with
  | surroundings next =>
    simp only [Daemon.turn, Option.some.injEq] at moved
    subst moved
    exact ⟨made, now.trans onward, clocked, keeps⟩
  | commit index =>
    obtain ⟨closing, present, shape⟩ := Option.map_eq_some_iff.mp moved
    subst shape
    exact ⟨made, now, clocked, keeps⟩
  | handler index succeeds =>
    obtain ⟨handling, present, handled⟩ := Option.bind_eq_some_iff.mp moved
    cases handling with
    | landed title severity =>
      simp only [Daemon.handle, Option.some.injEq] at handled
      subst handled
      exact ⟨Nat.lt_succ_of_lt made, now, fun still => (clocked still).set (Nat.ne_of_gt made), keeps⟩
    | sending title severity toast =>
      simp only [Daemon.handle, Option.some.injEq] at handled
      subst handled
      cases succeeds <;> exact ⟨made, now, clocked, keeps⟩
    | done => simp [Daemon.handle] at handled
    | _ =>
      simp only [Daemon.handle, Option.some.injEq] at handled
      subst handled
      exact ⟨made, now, clocked, keeps⟩
  | sweepBegins =>
    simp only [Daemon.turn] at moved
    split at moved
    · rename_i resting
      cases moved
      have standing := clocked (by rw [resting]; rfl)
      simp only [Daemon.beginSweep]
      split
      · exact ⟨made, now, fun _ => standing, keeps⟩
      · split
        · exact afterLoad_kept made now now standing
        · exact ⟨made, now, fun _ => standing, now⟩
    · contradiction
  | sweep succeeds => exact sweepOn_kept ⟨made, now, clocked, keeps⟩ moved
  | _ =>
    simp only [Daemon.turn, Option.some.injEq] at moved
    subst moved
    exact ⟨made, now, clocked, keeps⟩

/-- From here on, no reminder of that object is sent before an interval after `mark`, as the sweep
measures it. -/
def Daemon.waits (daemon : Daemon) (serial : Nat) (mark : ℚ) : Prop :=
  ∀ late later look due interval, Throughout Daemon.turn forward daemon late →
    late.foldlM Daemon.turn daemon = some later → later.sweep = .restating look due →
    look.config.interval = .finite interval → serial ∈ due.map SpokenFault.serial →
    interval ≤ elapsed look.now mark

theorem Kept.waits {daemon : Daemon} (kept : Kept serial mark daemon) : daemon.waits serial mark := by
  intro late later look due interval onward went restating hours member
  have keptLater : Kept serial mark later :=
    Throughout.keeps (fun kept onward moved => kept.turn onward moved) kept onward went
  have keeps := keptLater.sweep
  rw [restating] at keeps
  obtain ⟨fault, inside, same⟩ := List.mem_map.mp member
  exact (keeps fault inside same).2 interval hours

end SysadminAssistant.Monitor.Desktop
