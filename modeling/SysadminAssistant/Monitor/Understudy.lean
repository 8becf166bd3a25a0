import SysadminAssistant.Monitor.FaultClocks

namespace SysadminAssistant.Monitor.Desktop

open Python SysadminAssistant.Core Library

/-! How often the understudy speaks, and for how many faults that it never announced. -/

/-- The reading that an opening recorded now is timed by: a sweep that is still loading may
yet move it to its own. -/
def Daemon.asOf (daemon : Daemon) : ℚ :=
  match daemon.sweep with
  | .loading look | .loadAnswered look _ => min look.now daemon.around.clock
  | _ => daemon.around.clock

/-- The faults a turn speaks of, and when: a handler records its opening, or a reminder lands. -/
def Daemon.utters (daemon : Daemon) : Turn → List (Nat × ℚ)
  | .handler index _ => match daemon.handlers[index]? with
      | some (.landed _ _) => [(daemon.made, daemon.asOf)]
      | _ => []
  | .sweep true => match daemon.sweep with
      | .restating look due => due.map fun fault => (fault.serial, look.now)
      | _ => []
  | _ => []

/-- The sweep comes to the tray gate and finds the tray watching. -/
def Daemon.findsTray (daemon : Daemon) : Turn → Option Look
  | .sweepBegins =>
    let look : Look := ⟨daemon.around.clock, daemon.lookedAt, daemon.around.config, true⟩
    if look.config.enabled && daemon.loaded && daemon.around.trayWatches look.config
      then some look else none
  | .sweep _ => match daemon.sweep with
      | .loadAnswered look _ => if daemon.around.trayWatches look.config then some look else none
      | _ => none
  | _ => none

/-- A `notify-send` that fails. -/
def Daemon.failsToSend (daemon : Daemon) : Turn → Bool
  | .handler index false => match daemon.handlers[index]? with
      | some (.sending _ _ _) => true
      | _ => false
  | .sweep false => match daemon.sweep with
      | .telling _ _ _ | .restating _ _ => true
      | _ => false
  | _ => false

def Daemon.adoptedCount (daemon : Daemon) : Nat := daemon.spoken.values.countP SpokenFault.adopted

/-- A load leaves no more adopted faults than a sweep may adopt. -/
def loadsWithin (daemon : Daemon) : Turn → Prop
  | .sweep _ => match daemon.sweep with
      | .loadAnswered _ (some stored) =>
        (stored.entries.foldl Daemon.restore daemon).adoptedCount ≤ maxAdoptedTitles
      | _ => True
  | _ => True

instance (daemon : Daemon) (turn : Turn) : Decidable (loadsWithin daemon turn) :=
  match turn with
  | .sweep _ => by
    dsimp only [loadsWithin]
    split <;> infer_instance
  | .surroundings _ | .alerts _ | .stamp _ | .commit _ | .rollBack _ | .alertRaised _ | .handler _ _
  | .sweepBegins => isTrue trivial

/-! The readings of the sweep in flight. -/

/-- The sweep is on its way from the adoption scan to the reminders. -/
def Sweeping.adopting? : Sweeping → Option Look
  | .adopting look _ _ | .adoptAnswered look _ | .storingAdopted look _
  | .adoptedStored look => some look
  | _ => none

/-- Every fault in hand was made before the next one, no reading is ahead of the clock, and
only with an interval are there reminders. -/
structure Dated (daemon : Daemon) : Prop where
  numbered : Numbered daemon
  due : ∀ look due, daemon.sweep = .restating look due ∨ daemon.sweep = .restated look due →
    ∀ fault ∈ due, fault.serial < daemon.made
  looks : ∀ look, daemon.sweep.look? = some look → look.now ≤ daemon.around.clock
  paced : ∀ look, daemon.sweep.adopting? = some look → look.config.interval.isNonPositive = false

theorem rests_dated {daemon : Daemon} {look : Look} (numbered : Numbered daemon)
    (rests : Rests daemon.spoken look daemon.sweep) (now : look.now ≤ daemon.around.clock)
    (paced : ∀ look, daemon.sweep.adopting? = some look → look.config.interval.isNonPositive = false) :
    Dated daemon := by
  cases phase : daemon.sweep with
  | idle => exact ⟨numbered, by simp [phase], by simp [phase, Sweeping.look?], paced⟩
  | adopting current spokenFor room =>
    rw [phase] at rests
    have same : current = look := rests
    exact ⟨numbered, by simp [phase], by simpa [phase, Sweeping.look?, same] using now, paced⟩
  | restating current due =>
    rw [phase] at rests
    obtain ⟨same, spoken⟩ := rests
    refine ⟨numbered, fun other listed shape fault member => ?_,
      by simpa [phase, Sweeping.look?, same] using now, paced⟩
    rw [phase] at shape
    rcases shape with shape | shape
    · cases shape
      obtain ⟨title, found, _⟩ := spoken fault member
      exact (numbered.spoken title fault found).2
    · contradiction
  | _ =>
    rw [phase] at rests
    exact rests.elim

theorem takeDue_plain (daemon : Daemon) (look : Look) :
    (daemon.takeDue look).sweep.adopting? = none := by
  simp only [Daemon.takeDue]
  split <;> rfl

theorem afterLook_paced {daemon : Daemon} {look current : Look}
    (adopting : (daemon.afterLook look).sweep.adopting? = some current) :
    current.config.interval.isNonPositive = false := by
  simp only [Daemon.afterLook] at adopting
  split at adopting
  · cases adopting
  · rename_i positive
    split at adopting
    · cases adopting
      exact Bool.eq_false_iff.mpr positive
    · rw [takeDue_plain] at adopting
      cases adopting

theorem settle_dated {daemon : Daemon} {look : Look} {answer : Dict Text Text}
    (numbered : Numbered (daemon.settle look answer)) (now : look.now ≤ daemon.around.clock) :
    Dated (daemon.settle look answer) := by
  have paced :=
    @afterLook_paced { daemon with spoken := daemon.spoken.mapValues (takeRung answer) } look
  obtain ⟨phase, shape, rests⟩ := settle_spec daemon look answer
  change ∀ {current}, (daemon.settle look answer).sweep.adopting? = some current → _ at paced
  rw [shape] at numbered paced ⊢
  exact rests_dated numbered rests now fun _ => paced

theorem settle_unless_dated {nothing : Prop} [Decidable nothing] {daemon pending : Daemon}
    {look : Look} {answer : Dict Text Text}
    (numbered : Numbered (if nothing then daemon.settle look answer else pending))
    (now : look.now ≤ daemon.around.clock) (waits : Numbered pending → Dated pending) :
    Dated (if nothing then daemon.settle look answer else pending) := by
  by_cases idle : nothing
  · rw [if_pos idle] at numbered ⊢
    exact settle_dated numbered now
  · rw [if_neg idle] at numbered ⊢
    exact waits numbered

theorem takeDue_dated {daemon : Daemon} {look : Look} (numbered : Numbered (daemon.takeDue look))
    (now : look.now ≤ daemon.around.clock) : Dated (daemon.takeDue look) := by
  have plain := takeDue_plain daemon look
  obtain ⟨phase, shape, rests⟩ := takeDue_spec daemon look
  rw [shape] at numbered plain ⊢
  exact rests_dated numbered rests now (by simp [plain])

theorem afterLoad_dated {daemon : Daemon} {look : Look}
    (numbered : Numbered (daemon.afterLoad look)) (now : look.now ≤ daemon.around.clock) :
    Dated (daemon.afterLoad look) := by
  simp only [Daemon.afterLoad] at numbered ⊢
  split
  · rename_i watching
    rw [if_pos watching] at numbered
    exact ⟨numbered, by simp, by simp [Sweeping.look?], by simp [Sweeping.adopting?]⟩
  · rename_i alone
    rw [if_neg alone] at numbered
    split
    · rename_i nothing
      rw [if_pos nothing] at numbered
      have paced := @afterLook_paced daemon look
      obtain ⟨phase, shape, rests⟩ := afterLook_spec daemon look
      rw [shape] at numbered paced ⊢
      exact rests_dated numbered rests now fun _ => paced
    · rename_i something
      rw [if_neg something] at numbered
      exact ⟨numbered, by simp, by simpa [Sweeping.look?] using now, by simp [Sweeping.adopting?]⟩

theorem sweepOn_dated {before after : Daemon} {succeeds : Bool} (dated : Dated before)
    (moved : before.sweepOn succeeds = some after) : Dated after := by
  have numbered : Numbered after :=
    dated.numbered.turn (show before.turn (.sweep succeeds) = some after from moved)
  cases phase : before.sweep with
  | idle => simp [Daemon.sweepOn, phase] at moved
  | loadAnswered look stored =>
    have now := dated.looks look (by rw [phase]; rfl)
    cases stored with
    | none =>
      simp only [Daemon.sweepOn, phase, Option.some.injEq] at moved
      rw [← moved] at numbered ⊢
      exact afterLoad_dated numbered now
    | some stored =>
      simp only [Daemon.sweepOn, phase, Option.some.injEq] at moved
      obtain ⟨spoken, made, _, shape⟩ := restored_shape before stored.entries
      rw [shape] at moved
      rw [← moved] at numbered ⊢
      exact afterLoad_dated numbered now
  | answered look answer =>
    have now := dated.looks look (by rw [phase]; rfl)
    simp only [Daemon.sweepOn, phase, Option.some.injEq] at moved
    rw [← moved] at numbered ⊢
    simp only [Daemon.dropCleared] at numbered ⊢
    refine settle_unless_dated numbered now fun pending => ?_
    exact ⟨pending, by simp, by simpa [Sweeping.look?] using now, by simp [Sweeping.adopting?]⟩
  | forgot look answer cleared =>
    have now := dated.looks look (by rw [phase]; rfl)
    simp only [Daemon.sweepOn, phase, Option.some.injEq] at moved
    rw [← moved] at numbered ⊢
    simp only [Daemon.weighEndings] at numbered ⊢
    refine settle_unless_dated numbered now fun pending => ?_
    exact ⟨pending, by simp, by simpa [Sweeping.look?] using now, by simp [Sweeping.adopting?]⟩
  | confirmed look answer candidates fresh =>
    have now := dated.looks look (by rw [phase]; rfl)
    simp only [Daemon.sweepOn, phase, Option.some.injEq] at moved
    rw [← moved] at numbered ⊢
    simp only [Daemon.tellEndings] at numbered ⊢
    refine settle_unless_dated numbered now fun pending => ?_
    exact ⟨pending, by simp, by simpa [Sweeping.look?] using now, by simp [Sweeping.adopting?]⟩
  | told look answer =>
    simp only [Daemon.sweepOn, phase, Option.some.injEq] at moved
    rw [← moved] at numbered ⊢
    exact settle_dated numbered (dated.looks look (by rw [phase]; rfl))
  | adoptAnswered look candidates =>
    have now := dated.looks look (by rw [phase]; rfl)
    simp only [Daemon.sweepOn, phase, Option.some.injEq] at moved
    rw [← moved] at numbered ⊢
    simp only [Daemon.adopt] at numbered ⊢
    split
    · rename_i nothing
      rw [if_pos nothing] at numbered
      exact takeDue_dated numbered now
    · rename_i something
      rw [if_neg something] at numbered
      obtain ⟨spoken, made, _, shape⟩ := adopted_shape look before candidates
      rw [shape] at numbered ⊢
      have paced := dated.paced look (by rw [phase]; rfl)
      refine ⟨numbered, ?_, ?_, ?_⟩ <;> split <;> simp [Sweeping.look?, Sweeping.adopting?, now, paced]
  | adoptedStored look =>
    simp only [Daemon.sweepOn, phase, Option.some.injEq] at moved
    rw [← moved] at numbered ⊢
    exact takeDue_dated numbered (dated.looks look (by rw [phase]; rfl))
  | restating look due =>
    have now := dated.looks look (by rw [phase]; rfl)
    have made := dated.due look due (Or.inl phase)
    simp only [Daemon.sweepOn, phase, Option.some.injEq] at moved
    subst moved
    cases succeeds with
    | false => exact ⟨numbered, by simp, by simp [Sweeping.look?], by simp [Sweeping.adopting?]⟩
    | true =>
      refine ⟨numbered, fun current listed shape => ?_, by simpa [Sweeping.look?] using now,
        by simp [Sweeping.adopting?]⟩
      rcases shape with shape | shape
      · cases shape
      · cases shape
        exact made
  | restated look due =>
    simp only [Daemon.sweepOn, phase, Option.some.injEq] at moved
    subst moved
    refine ⟨numbered, ?_, ?_, ?_⟩ <;> simp only [Daemon.markDue] <;> split <;>
      simp [Sweeping.look?, Sweeping.adopting?]
  | asking look titles =>
    have now := dated.looks look (by rw [phase]; rfl)
    simp only [Daemon.sweepOn, phase, Option.some.injEq] at moved
    subst moved
    refine ⟨numbered, ?_, ?_, ?_⟩ <;> dsimp only <;> split <;> simp [Sweeping.look?,
      Sweeping.adopting?, now]
  | storingReminders rows =>
    simp only [Daemon.sweepOn, phase, Option.some.injEq] at moved
    subst moved
    exact ⟨numbered, by simp, by simp [Sweeping.look?], by simp [Sweeping.adopting?]⟩
  | adopting look spokenFor room | storingAdopted look rows =>
    have now := dated.looks look (by rw [phase]; rfl)
    have paced := dated.paced look (by rw [phase]; rfl)
    simp only [Daemon.sweepOn, phase, Option.some.injEq] at moved
    subst moved
    exact ⟨numbered,
      by simp, by simpa [Sweeping.look?] using now, by simpa [Sweeping.adopting?] using paced⟩
  | loading look | forgetting look answer cleared | confirming look answer candidates
  | telling look answer recovered =>
    have now := dated.looks look (by rw [phase]; rfl)
    simp only [Daemon.sweepOn, phase, Option.some.injEq] at moved
    subst moved
    exact ⟨numbered, by simp, by simpa [Sweeping.look?] using now, by simp [Sweeping.adopting?]⟩

theorem Dated.turn {before after : Daemon} {turn : Turn} (dated : Dated before)
    (onward : forward before turn) (moved : before.turn turn = some after) : Dated after := by
  have numbered := dated.numbered.turn moved
  cases turn with
  | surroundings next =>
    simp only [Daemon.turn, Option.some.injEq] at moved
    subst moved
    exact ⟨numbered, dated.due, fun look current => (dated.looks look current).trans onward,
      dated.paced⟩
  | sweepBegins =>
    simp only [Daemon.turn] at moved
    split at moved
    · rename_i resting
      cases moved
      simp only [Daemon.beginSweep] at numbered ⊢
      split
      · rename_i disabled
        rw [if_pos disabled] at numbered
        exact ⟨numbered, dated.due, dated.looks, dated.paced⟩
      · rename_i enabled
        rw [if_neg enabled] at numbered
        split
        · rename_i loaded
          rw [if_pos loaded] at numbered
          exact afterLoad_dated numbered le_rfl
        · rename_i unread
          rw [if_neg unread] at numbered
          exact ⟨numbered, by simp, by simp [Sweeping.look?], by simp [Sweeping.adopting?]⟩
    · contradiction
  | sweep succeeds => exact sweepOn_dated dated moved
  | commit index =>
    obtain ⟨closing, present, shape⟩ := Option.map_eq_some_iff.mp moved
    subst shape
    exact ⟨numbered, dated.due, dated.looks, dated.paced⟩
  | handler index succeeds =>
    obtain ⟨handling, present, handled⟩ := Option.bind_eq_some_iff.mp moved
    cases handling with
    | landed title severity =>
      simp only [Daemon.handle, Option.some.injEq] at handled
      subst handled
      exact ⟨numbered, fun look due shape fault member =>
        Nat.lt_succ_of_lt (dated.due look due shape fault member), dated.looks, dated.paced⟩
    | sending title severity toast =>
      simp only [Daemon.handle, Option.some.injEq] at handled
      subst handled
      cases succeeds <;> exact ⟨numbered, dated.due, dated.looks, dated.paced⟩
    | done => simp [Daemon.handle] at handled
    | _ =>
      simp only [Daemon.handle, Option.some.injEq] at handled
      subst handled
      exact ⟨numbered, dated.due, dated.looks, dated.paced⟩
  | _ =>
    simp only [Daemon.turn, Option.some.injEq] at moved
    subst moved
    exact ⟨numbered, dated.due, dated.looks, dated.paced⟩

theorem start_dated (around : Surroundings) (alerts : List Alert) (store : Store) :
    Dated (Daemon.start around alerts store) :=
  ⟨start_numbered around alerts store, by simp [Daemon.start], by simp [Daemon.start, Sweeping.look?],
    by simp [Daemon.start, Sweeping.adopting?]⟩

/-! An utterance, a tray that watches and an adoption each set a clock going. -/

theorem utters_kept {before after : Daemon} {turn : Turn} {serial : Nat} {clock : ℚ}
    (dated : Dated before) (spoke : (serial, clock) ∈ before.utters turn)
    (moved : before.turn turn = some after) :
    Kept serial clock after := by
  simp only [Daemon.utters] at spoke
  split at spoke
  · rename_i index succeeds
    split at spoke
    · rename_i title severity landed
      simp only [List.mem_singleton, Prod.mk.injEq] at spoke
      obtain ⟨rfl, rfl⟩ := spoke
      simp only [Daemon.turn, landed, Option.bind_some, Daemon.handle, Option.some.injEq] at moved
      subst moved
      have behind : before.asOf ≤ before.around.clock := by
        simp only [Daemon.asOf]
        split
        · exact min_le_right _ _
        · exact min_le_right _ _
        · exact le_rfl
      refine ⟨Nat.lt_succ_self _, behind, fun _ key fault found ours => ?_, ?_⟩
      · simp only [Dict.get?_set] at found
        split at found
        · cases found
          exact behind
        · have older := (dated.numbered.spoken key fault found).2
          omega
      · change before.sweep.Keeps before.made before.asOf
        cases phase : before.sweep with
        | loading look | loadAnswered look stored => simp [Sweeping.Keeps, Daemon.asOf, phase]
        | restating look due =>
          intro fault member ours
          have older := dated.due look due (Or.inl phase) fault member
          omega
        | restated look due =>
          intro fault member ours
          have older := dated.due look due (Or.inr phase) fault member
          omega
        | adopting look _ _ | adoptAnswered look _ | storingAdopted look _ | adoptedStored look =>
          exact dated.paced look (by rw [phase]; rfl)
        | _ => trivial
    · simp at spoke
  · split at spoke
    · rename_i look due restating
      obtain ⟨fault, member, same⟩ := List.mem_map.mp spoke
      cases same
      have now := dated.looks look (by rw [restating]; rfl)
      have made := dated.due look due (Or.inl restating) fault member
      simp only [Daemon.turn, Daemon.sweepOn, restating, if_true, Option.some.injEq] at moved
      subst moved
      refine ⟨made, now, fun unmarked => ?_, fun _ _ _ => le_rfl⟩
      simp only [Sweeping.marks, List.any_eq_false, decide_eq_true_eq] at unmarked
      exact absurd rfl (unmarked fault member)
    · simp at spoke
  · simp at spoke

theorem findsTray_kept {before after : Daemon} {turn : Turn} {look : Look} {title : Text}
    {fault : SpokenFault} (dated : Dated before) (watching : before.findsTray turn = some look)
    (moved : before.turn turn = some after) (carried : after.spoken.get? title = some fault) :
    Kept fault.serial look.now after := by
  have made := ((dated.numbered.turn moved).spoken title fault carried).2
  have stamped : ∀ (daemon : Daemon) (current : Look),
      daemon.around.trayWatches current.config = true →
      current.now ≤ daemon.around.clock → fault.serial < (daemon.afterLoad current).made →
      Kept fault.serial current.now (daemon.afterLoad current) := by
    intro daemon current watches now made
    simp only [Daemon.afterLoad, watches, if_true] at made ⊢
    refine ⟨made, now, fun _ title other found _ => ?_, trivial⟩
    rw [Dict.get?_mapValues, Option.map_eq_some_iff] at found
    obtain ⟨earlier, _, shape⟩ := found
    subst shape
    exact le_rfl
  simp only [Daemon.findsTray] at watching
  split at watching
  · split at watching
    · rename_i open_
      cases watching
      simp only [Bool.and_eq_true] at open_
      simp only [Daemon.turn] at moved
      split at moved
      · cases moved
        have begun : before.beginSweep = before.afterLoad
            ⟨before.around.clock, before.lookedAt, before.around.config, true⟩ := by
          simp [Daemon.beginSweep, open_.1.1, open_.1.2]
        rw [begun] at made ⊢
        exact stamped _ _ open_.2 le_rfl made
      · contradiction
    · contradiction
  · split at watching
    · rename_i current stored answered
      split at watching
      · rename_i watches
        cases watching
        have now := dated.looks look (by rw [answered]; rfl)
        cases stored with
        | none =>
          simp only [Daemon.turn, Daemon.sweepOn, answered, Option.some.injEq] at moved
          subst moved
          exact stamped before { look with loaded := false } watches now made
        | some stored =>
          simp only [Daemon.turn, Daemon.sweepOn, answered, Option.some.injEq] at moved
          obtain ⟨spoken, count, _, shape⟩ := restored_shape before stored.entries
          rw [shape] at moved
          subst moved
          exact stamped _ _ watches now made
      · contradiction
    · contradiction
  · contradiction

theorem get?_adoptOne {look : Look} {candidates : List Candidate} {daemon : Daemon} {title : Text}
    {fault : SpokenFault}
    (found : (candidates.foldl (Daemon.adoptOne look) daemon).spoken.get? title = some fault) :
    daemon.spoken.get? title = some fault ∨
      ∃ serial candidate, fault = adoptedFault daemon.around look serial candidate := by
  induction candidates generalizing daemon with
  | nil => exact Or.inl found
  | cons candidate rest ih =>
    rcases ih found with earlier | later
    · simp only [Daemon.adoptOne, Dict.get?_set] at earlier
      split at earlier
      · cases earlier
        exact Or.inr ⟨_, candidate, rfl⟩
      · exact Or.inl earlier
    · exact Or.inr later

theorem adoptedFault_clock (around : Surroundings) (look : Look) (serial : Nat)
    (candidate : Candidate) : roundToDouble (look.now - around.tray.absentFor around.monotonic) ≤
      (adoptedFault around look serial candidate).lastSpokenAt := by
  simp only [adoptedFault]
  split
  · split
    · rename_i shorter
      exact roundToDouble_monotone (sub_le_sub_left shorter.le _)
    · exact le_rfl
  · exact le_rfl

theorem adopts_kept {before after : Daemon} {succeeds : Bool} {look : Look}
    {candidates : List Candidate} {title : Text} {fault : SpokenFault} (dated : Dated before)
    (answered : before.sweep = .adoptAnswered look candidates)
    (absent : 0 ≤ before.around.tray.absentFor before.around.monotonic)
    (double : roundToDouble look.now = look.now)
    (moved : before.turn (.sweep succeeds) = some after)
    (carried : after.spoken.get? title = some fault) (adopted : before.made ≤ fault.serial) :
    Kept fault.serial
      (roundToDouble (look.now - before.around.tray.absentFor before.around.monotonic)) after := by
  have made := ((dated.numbered.turn moved).spoken title fault carried).2
  have now := dated.looks look (by rw [answered]; rfl)
  have paced := dated.paced look (by rw [answered]; rfl)
  have old : ∀ key other, before.spoken.get? key = some other → other.serial ≠ fault.serial := by
    intro key other found same
    have older := (dated.numbered.spoken key other found).2
    omega
  simp only [Daemon.turn, Daemon.sweepOn, answered, Option.some.injEq] at moved
  subst moved
  simp only [Daemon.adopt] at made carried ⊢
  split
  · rename_i nothing
    rw [if_pos nothing] at carried
    exact absurd rfl (old title fault carried)
  · rename_i something
    rw [if_neg something] at made
    have clocked : ∀ key other,
        (candidates.foldl (Daemon.adoptOne look) before).spoken.get? key = some other →
        other.serial = fault.serial →
        roundToDouble (look.now - before.around.tray.absentFor before.around.monotonic) ≤
          other.lastSpokenAt := by
      intro key other found same
      rcases get?_adoptOne found with earlier | ⟨serial, candidate, shape⟩
      · exact absurd same (old key other earlier)
      · subst shape
        exact adoptedFault_clock before.around look serial candidate
    obtain ⟨spoken, count, _, shape⟩ := adopted_shape look before candidates
    rw [shape] at clocked made ⊢
    refine ⟨made, ?_, fun _ => clocked, ?_⟩
    · have back := roundToDouble_monotone (sub_le_self look.now absent)
      rw [double] at back
      exact back.trans now
    · dsimp only
      split
      · exact paced
      · trivial

/-! How many faults are adopted. -/

/-- A sweep on its way to adopt has room for what it will. -/
structure Roomy (daemon : Daemon) : Prop where
  count : daemon.adoptedCount ≤ maxAdoptedTitles
  asks : ∀ look spokenFor room, daemon.sweep = .adopting look spokenFor room →
    daemon.adoptedCount + room ≤ maxAdoptedTitles
  adopts : ∀ look candidates, daemon.sweep = .adoptAnswered look candidates →
    daemon.adoptedCount + candidates.length ≤ maxAdoptedTitles

theorem adoptable_length (alerts : List Alert) (admitted : List Severity) (spokenFor : List Text)
    (room : Nat) : (adoptable alerts admitted spokenFor room).length ≤ room := by
  rw [adoptable]
  exact List.length_take_le _ _

theorem adoptOne_count (look : Look) (candidates : List Candidate) (daemon : Daemon) :
    (candidates.foldl (Daemon.adoptOne look) daemon).adoptedCount ≤ daemon.adoptedCount +
      candidates.length := by
  induction candidates generalizing daemon with
  | nil => exact le_refl _
  | cons candidate rest ih =>
    have later := ih (daemon.adoptOne look candidate)
    have one := daemon.spoken.countP_set_le candidate.title
      (adoptedFault daemon.around look daemon.made candidate) SpokenFault.adopted
    change (daemon.adoptOne look candidate).adoptedCount ≤ daemon.adoptedCount + 1 at one
    rw [List.foldl_cons, List.length_cons]
    omega

theorem takeDue_roomy {daemon : Daemon} (look : Look)
    (count : daemon.adoptedCount ≤ maxAdoptedTitles) : Roomy (daemon.takeDue look) := by
  refine ⟨count, ?_, ?_⟩ <;> simp only [Daemon.takeDue] <;> split <;> simp

theorem afterLook_roomy {daemon : Daemon} (look : Look)
    (count : daemon.adoptedCount ≤ maxAdoptedTitles) : Roomy (daemon.afterLook look) := by
  simp only [Daemon.afterLook]
  split
  · exact ⟨count, by simp, by simp⟩
  · split
    · refine ⟨count, fun current spokenFor room same => ?_, by simp⟩
      cases same
      change daemon.adoptedCount + (maxAdoptedTitles - daemon.adoptedCount) ≤ maxAdoptedTitles
      omega
    · exact @takeDue_roomy { daemon with lookedAt := look.now } look count

theorem settle_roomy {daemon : Daemon} (look : Look) (answer : Dict Text Text)
    (count : daemon.adoptedCount ≤ maxAdoptedTitles) : Roomy (daemon.settle look answer) := by
  apply afterLook_roomy
  refine le_of_eq_of_le (Dict.countP_mapValues daemon.spoken _ _ fun _ _ => ?_) count
  rfl

theorem afterLoad_roomy {daemon : Daemon} (look : Look)
    (count : daemon.adoptedCount ≤ maxAdoptedTitles) : Roomy (daemon.afterLoad look) := by
  simp only [Daemon.afterLoad]
  split
  · refine ⟨le_of_eq_of_le (Dict.countP_mapValues daemon.spoken _ _ fun _ _ => ?_) count,
      by simp, by simp⟩
    rfl
  · split
    · exact afterLook_roomy look count
    · exact ⟨count, by simp, by simp⟩

theorem sweepOn_roomy {before after : Daemon} {succeeds : Bool} (roomy : Roomy before)
    (within : loadsWithin before (.sweep succeeds)) (moved : before.sweepOn succeeds = some after) :
    Roomy after := by
  have count := roomy.count
  cases phase : before.sweep with
  | idle => simp [Daemon.sweepOn, phase] at moved
  | loadAnswered look stored =>
    cases stored with
    | none =>
      simp only [Daemon.sweepOn, phase, Option.some.injEq] at moved
      exact moved ▸ afterLoad_roomy _ count
    | some stored =>
      simp only [Daemon.sweepOn, phase, Option.some.injEq] at moved
      have restored : (stored.entries.foldl Daemon.restore before).adoptedCount ≤
          maxAdoptedTitles := by
        simpa [loadsWithin, phase] using within
      rw [← moved]
      exact afterLoad_roomy look restored
  | answered look answer =>
    have kept : ({ before with spoken := keepNamed before.spoken answer } : Daemon).adoptedCount ≤
        maxAdoptedTitles := (Dict.countP_foldl_erase_le _ _ _).trans count
    simp only [Daemon.sweepOn, phase, Option.some.injEq] at moved
    rw [← moved]
    simp only [Daemon.dropCleared]
    split
    · exact settle_roomy look answer kept
    · exact ⟨kept, by simp, by simp⟩
  | forgot look answer cleared =>
    simp only [Daemon.sweepOn, phase, Option.some.injEq] at moved
    rw [← moved]
    simp only [Daemon.weighEndings]
    split
    · exact settle_roomy look answer count
    · exact ⟨count, by simp, by simp⟩
  | confirmed look answer candidates fresh =>
    simp only [Daemon.sweepOn, phase, Option.some.injEq] at moved
    rw [← moved]
    simp only [Daemon.tellEndings]
    split
    · exact settle_roomy look answer count
    · exact ⟨count, by simp, by simp⟩
  | told look answer =>
    simp only [Daemon.sweepOn, phase, Option.some.injEq] at moved
    exact moved ▸ settle_roomy look answer count
  | adopting look spokenFor room =>
    have asked := roomy.asks look spokenFor room phase
    simp only [Daemon.sweepOn, phase, Option.some.injEq] at moved
    subst moved
    refine ⟨count, by simp, fun current candidates same => ?_⟩
    simp only [Sweeping.adoptAnswered.injEq] at same
    rw [← same.2]
    change before.adoptedCount + _ ≤ maxAdoptedTitles
    split
    · have fits := adoptable_length before.alerts look.config.admitted spokenFor room
      omega
    · simpa using count
  | adoptAnswered look candidates =>
    have fits := roomy.adopts look candidates phase
    simp only [Daemon.sweepOn, phase, Option.some.injEq] at moved
    rw [← moved]
    simp only [Daemon.adopt]
    split
    · exact takeDue_roomy look count
    · have grown := adoptOne_count look candidates before
      refine ⟨grown.trans fits, ?_, ?_⟩ <;> dsimp only <;> split <;> simp
  | adoptedStored look =>
    simp only [Daemon.sweepOn, phase, Option.some.injEq] at moved
    exact moved ▸ takeDue_roomy look count
  | restated look due =>
    simp only [Daemon.sweepOn, phase, Option.some.injEq] at moved
    subst moved
    refine ⟨?_, ?_, ?_⟩
    · rw [Daemon.adoptedCount]
      refine le_of_eq_of_le (Dict.countP_mapValues before.spoken _ _ fun _ fault => ?_) count
      split <;> rfl
    · simp only [Daemon.markDue]
      split <;> simp
    · simp only [Daemon.markDue]
      split <;> simp
  | asking look titles | restating look due =>
    simp only [Daemon.sweepOn, phase, Option.some.injEq] at moved
    subst moved
    split <;> exact ⟨count, by simp, by simp⟩
  | _ =>
    simp only [Daemon.sweepOn, phase, Option.some.injEq] at moved
    subst moved
    exact ⟨count, by simp, by simp⟩

theorem Roomy.turn {before after : Daemon} {turn : Turn} (roomy : Roomy before)
    (within : loadsWithin before turn) (moved : before.turn turn = some after) : Roomy after := by
  cases turn with
  | commit index =>
    obtain ⟨closing, present, shape⟩ := Option.map_eq_some_iff.mp moved
    subst shape
    exact ⟨roomy.count, roomy.asks, roomy.adopts⟩
  | handler index succeeds =>
    obtain ⟨handling, present, handled⟩ := Option.bind_eq_some_iff.mp moved
    cases handling with
    | landed title severity =>
      simp only [Daemon.handle, Option.some.injEq] at handled
      subst handled
      have fewer : (before.spoken.set title (before.openingFault title severity)).values.countP
          SpokenFault.adopted ≤ before.adoptedCount :=
        before.spoken.countP_set_le title (before.openingFault title severity) SpokenFault.adopted
      exact ⟨fewer.trans roomy.count,
        fun look spokenFor room same =>
          (Nat.add_le_add_right fewer room).trans (roomy.asks look spokenFor room same),
        fun look candidates same =>
          (Nat.add_le_add_right fewer candidates.length).trans (roomy.adopts look candidates same)⟩
    | sending title severity toast =>
      simp only [Daemon.handle, Option.some.injEq] at handled
      subst handled
      cases succeeds <;> exact ⟨roomy.count, roomy.asks, roomy.adopts⟩
    | done => simp [Daemon.handle] at handled
    | _ =>
      simp only [Daemon.handle, Option.some.injEq] at handled
      subst handled
      exact ⟨roomy.count, roomy.asks, roomy.adopts⟩
  | sweepBegins =>
    simp only [Daemon.turn] at moved
    split at moved
    · cases moved
      simp only [Daemon.beginSweep]
      split
      · exact ⟨roomy.count, roomy.asks, roomy.adopts⟩
      · split
        · exact afterLoad_roomy _ roomy.count
        · exact ⟨roomy.count, by simp, by simp⟩
    · contradiction
  | sweep succeeds => exact sweepOn_roomy roomy within moved
  | _ =>
    simp only [Daemon.turn, Option.some.injEq] at moved
    subst moved
    exact ⟨roomy.count, roomy.asks, roomy.adopts⟩

/-- A `notify-send` that fails moves no clock, and leaves nothing to record or to mark. -/
theorem failsToSend_spec {before after : Daemon} {turn : Turn}
    (failed : before.failsToSend turn = true) (moved : before.turn turn = some after) :
    after.spoken = before.spoken ∧ after.store = before.store ∧ after.notices = before.notices ∧
      (∀ serial, after.sweep.marks serial = true → before.sweep.marks serial = true) ∧
      ∀ title severity, .landed title severity ∈ after.handlers →
        .landed title severity ∈ before.handlers := by
  simp only [Daemon.failsToSend] at failed
  split at failed
  · rename_i index
    split at failed
    · rename_i title severity toast sending
      simp only [Daemon.turn, sending, Option.bind_some, Daemon.handle,
        Bool.false_eq_true, if_false, Option.some.injEq] at moved
      subst moved
      refine ⟨rfl, rfl, rfl, fun _ => id, fun named rung member => ?_⟩
      rcases List.mem_or_eq_of_mem_set member with earlier | now
      · exact earlier
      · cases now
    · contradiction
  · split at failed
    · rename_i look answer recovered telling
      simp only [Daemon.turn, Daemon.sweepOn, telling, Bool.false_eq_true, if_false,
        Option.some.injEq] at moved
      subst moved
      exact ⟨rfl, rfl, rfl, by simp [Sweeping.marks], fun _ _ => id⟩
    · rename_i look due restating
      simp only [Daemon.turn, Daemon.sweepOn, restating, Bool.false_eq_true, if_false,
        Option.some.injEq] at moved
      subst moved
      exact ⟨rfl, rfl, rfl, by simp [Sweeping.marks], fun _ _ => id⟩
    · contradiction
  · contradiction

/-- One process, over whatever tables the earlier ones left.  What it speaks of waits an interval
for its next reminder, as does what it carries when it finds the tray watching, and what it
adopts, from the tray's absence before, all as its clocks measure it; a failed send moves nothing;
and no more faults are adopted than a roll-up names, unless a load brings more. -/
theorem understudy_paces {around : Surroundings} {alerts : List Alert} {store : Store}
    {early : List Turn} {before after : Daemon} {turn : Turn}
    (reached : early.foldlM Daemon.turn (Daemon.start around alerts store) = some before)
    (onward : Throughout Daemon.turn forward (Daemon.start around alerts store) early)
    (moved : before.turn turn = some after) :
    (∀ serial clock, (serial, clock) ∈ before.utters turn → after.waits serial clock) ∧
      (∀ look, before.findsTray turn = some look →
        ∀ title fault, after.spoken.get? title = some fault → after.waits fault.serial look.now) ∧
      (∀ look candidates succeeds, before.sweep = .adoptAnswered look candidates →
        turn = .sweep succeeds →
        roundToDouble look.now = look.now → 0 ≤ before.around.tray.absentFor before.around.monotonic →
        ∀ title fault, after.spoken.get? title = some fault → before.made ≤ fault.serial →
          after.waits fault.serial
            (roundToDouble (look.now - before.around.tray.absentFor before.around.monotonic))) ∧
      (before.failsToSend turn = true → after.spoken = before.spoken ∧ after.store = before.store ∧
        after.notices = before.notices ∧
        (∀ serial, after.sweep.marks serial = true → before.sweep.marks serial = true) ∧
        ∀ title severity, .landed title severity ∈ after.handlers →
          .landed title severity ∈ before.handlers) ∧
      (Throughout Daemon.turn loadsWithin (Daemon.start around alerts store) early →
        before.adoptedCount ≤ maxAdoptedTitles) := by
  have dated : Dated before :=
    Throughout.keeps (fun dated onward moved => dated.turn onward moved)
      (start_dated around alerts store) onward reached
  refine ⟨fun serial clock spoke => (utters_kept dated spoke moved).waits,
    fun look watching title fault carried =>
    (findsTray_kept dated watching moved carried).waits, ?_, fun failed =>
    failsToSend_spec failed moved, ?_⟩
  · intro look candidates succeeds answered which double absent title fault carried adopted
    subst which
    exact (adopts_kept dated answered absent double moved carried adopted).waits
  · intro within
    have roomy : Roomy before :=
      Throughout.keeps (fun roomy within moved => roomy.turn within moved)
        ⟨Nat.zero_le _, by simp [Daemon.start], by simp [Daemon.start]⟩ within reached
    exact roomy.count

/-- Reminders every 450 seconds, and the last poll `seen`. -/
def polledAt (seen : Option ℚ) (clock : ℚ) : Turn :=
  .surroundings { noTray with
    clock, monotonic := clock, tray :=
      ⟨seen, 0⟩, config := ⟨true, text "warning", 180, .finite (1 / 8)⟩ }

def sweeping (turns : Nat) : List Turn := .sweepBegins :: List.replicate turns (.sweep true)

/-- A row stands, and the tray polls at 100 and is found by the sweep at 200. -/
def trayFound : List Turn := [.alerts [outage 1 (text "first")], polledAt (some 100) 200] ++ sweeping 2

/-- The sweep at 300 finds the row and has not adopted it yet. -/
def rowFound : List Turn := trayFound ++ (polledAt (some 100) 300 :: sweeping 1)

theorem firstOutage_waits : (daemonAt (firstOutage ++ [.handler 0 true])).waits 0 100 ∧
    (daemonAt (rowFound ++ [.sweep true])).waits 0 100 := by
  refine ⟨(understudy_paces (daemonAt_reached (by decide)) (by decide)
    (daemonAt_snoc (by decide))).1 0 100 (by decide), ?_⟩
  have scanned : (match (daemonAt rowFound).sweep with
      | .adoptAnswered look _ => some look.now
      | _ => none) = some 300 := by decide +kernel
  split at scanned
  · rename_i look candidates answered
    have now : look.now = 300 := Option.some.inj scanned
    have adopted : ((daemonAt (rowFound ++ [.sweep true])).spoken.get? (text "first")).map
        SpokenFault.serial = some 0 := by decide +kernel
    obtain ⟨fault, carried, serial⟩ := Option.map_eq_some_iff.mp adopted
    have unmade : (daemonAt rowFound).made = 0 := by decide +kernel
    have absent : (daemonAt rowFound).around.tray.absentFor (daemonAt rowFound).around.monotonic =
        200 := by
      decide +kernel
    have waits := (understudy_paces (daemonAt_reached (by decide +kernel)) (by decide +kernel)
      (daemonAt_snoc (by decide +kernel))).2.2.1 look candidates true answered rfl
      (by rw [now]; decide +kernel) (by rw [absent]; decide) (text "first") fault carried
      (by rw [unmade]; exact Nat.zero_le _)
    have anchor : roundToDouble (300 - 200) = 100 := by decide +kernel
    rwa [serial, now, absent, anchor] at waits
  · cases scanned

/-! What it does not promise. -/

def Daemon.restates (daemon : Daemon) : Option (List Text × ℚ) :=
  match daemon.sweep with
  | .restating look due => some (due.map SpokenFault.title, look.now)
  | _ => none

/-- The sweep at 300 adopts the row; the tray polls once more, at 320, and no sweep finds it. -/
def adoptedThenPolled : List Turn :=
  trayFound ++ (polledAt (some 100) 300 :: sweeping 4) ++ [polledAt (some 320) 320,
    polledAt (some 320) 560] ++ sweeping 4

/-- At 1000 the first outage is announced; it closes at 1010, which the sweep at 1060 says. -/
def saidAndOver : List Turn :=
  [polledAt none 1000, .alerts [outage 1 (text "first")]] ++ announcing 0 (text "first") ++
    [.handler 0 true, .handler 0 true,
      .alerts [{ outage 1 (text "first") with resolvedAt := some 1010000000 }],
      polledAt none 1060] ++ sweeping 12

/-- It opens again, a notification of that fails, and the sweep at 1200 adopts it. -/
def openedAgain : List Turn :=
  saidAndOver ++ [.alerts [outage 2 (text "first")],
    .alertRaised ⟨some (text "warning"), some (text "first"), none⟩, .handler 1 true,
    .handler 1 false, polledAt none 1200] ++ sweeping 4

def fiveOutages (first : Nat) : List Alert :=
  (List.range 5).map fun index => outage (first + index) (intText (first + index : Nat))

/-- Five rows are adopted and close; their stored rows fail to be deleted, and five others are
adopted. -/
def adoptedTwice : List Turn :=
  [polledAt none 400, .alerts (fiveOutages 0)] ++ sweeping 6 ++ [.alerts (fiveOutages 5),
    polledAt none 420] ++ sweeping 2 ++ [.sweep false] ++ List.replicate 5 (.sweep true)

/-- The next process, once it has loaded. -/
def nextProcess : Option Daemon :=
  (sweeping 2).foldlM Daemon.turn (.start noTray (fiveOutages 5) (daemonAt adoptedTwice).store)

/-- Announced at 100.063 and restated at 550.063: as doubles, a little less than 450 seconds later. -/
def announcedAt : ℚ := roundToDouble (100063 / 1000)

def restatedAt : ℚ := roundToDouble (550063 / 1000)

def saidOnce : List Turn :=
  [polledAt none announcedAt, .alerts [outage 1 (text "first")]] ++ announcing 0 (text "first")

def restatedEarly : List Turn :=
  saidOnce ++ [.handler 0 true, .handler 0 true, polledAt none restatedAt] ++ sweeping 6

/-- A reminder comes 360 seconds after a sweep that found the tray watching and 240 after a poll;
another 200 seconds after the same fault was announced, and another a rounding error too early;
and ten faults are adopted. -/
theorem understudy_unpaced :
    possible adoptedThenPolled = true ∧ possible openedAgain = true ∧ possible adoptedTwice = true ∧
      possible restatedEarly = true ∧
      (∀ turns ∈ [adoptedThenPolled, openedAgain, adoptedTwice, restatedEarly],
        Throughout Daemon.turn forward (.start noTray [] .empty) turns) ∧
      ((daemonAt (trayFound.take 4)).findsTray (.sweep true)).map Look.now = some 200 ∧
      (daemonAt adoptedThenPolled).restates = some ([text "first"], 560) ∧
      ((daemonAt adoptedThenPolled).spoken.get? (text "first")).map SpokenFault.remindersSent =
        some 0 ∧
      (daemonAt (saidAndOver.take 5)).utters (.handler 0 true) = [(0, 1000)] ∧
      (daemonAt openedAgain).restates = some ([text "first"], 1200) ∧
      (daemonAt adoptedThenPolled).around.config.interval = .finite 450 ∧
      (daemonAt openedAgain).around.config.interval = .finite 450 ∧
      nextProcess.map Daemon.adoptedCount = some 10 ∧
      (daemonAt saidOnce).utters (.handler 0 true) = [(0, announcedAt)] ∧
      (daemonAt restatedEarly).restates = some ([text "first"], restatedAt) ∧
      (daemonAt restatedEarly).around.config.interval = .finite 450 ∧
        restatedAt < announcedAt + 450 := by
  exact ⟨by decide +kernel, by decide +kernel, by decide +kernel, by decide +kernel, by decide +kernel,
    by decide +kernel, by decide +kernel, by decide +kernel, by decide +kernel, by decide +kernel,
    by decide +kernel, by decide +kernel, by decide +kernel, by decide +kernel, by decide +kernel,
    by decide +kernel, by decide +kernel⟩

end SysadminAssistant.Monitor.Desktop
