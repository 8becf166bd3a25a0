import SysadminAssistant.Monitor.NotifierTurns

namespace SysadminAssistant.Monitor.Desktop

open Python SysadminAssistant.Core

/-! What one turn can do, said once: a turn of the sweep, and a turn of anything else. -/

/-- Whatever is spoken of later was so before, as the same object, or is new. -/
def Known (before after : Dict Text SpokenFault) (made : Nat) : Prop :=
  ∀ title fault, after.get? title = some fault →
    (∃ earlier, before.get? title = some earlier ∧ earlier.serial = fault.serial ∧
      earlier.title = fault.title) ∨ fault.title = title ∧ fault.serial < made

/-- Nothing is dropped from the one to the other. -/
structure Carries (before after : Dict Text SpokenFault) (made : Nat) : Prop where
  kept : ∀ title, (before.get? title).isSome → (after.get? title).isSome
  known : Known before after made

namespace Carries

theorem refl (spoken : Dict Text SpokenFault) (made : Nat) : Carries spoken spoken made where
  kept _ carried := carried
  known _ fault found := Or.inl ⟨fault, found, rfl, rfl⟩

theorem trans {first second third : Dict Text SpokenFault} {early late : Nat} (grown : early ≤ late)
    (left : Carries first second early) (right : Carries second third late) :
    Carries first third late where
  kept title carried := right.kept title (left.kept title carried)
  known title fault found := by
    rcases right.known title fault found with ⟨middle, carried, serial, named⟩ | fresh
    · rcases left.known title middle carried with ⟨earlier, standing, same, alike⟩ | ⟨key, below⟩
      · exact Or.inl ⟨earlier, standing, same.trans serial, alike.trans named⟩
      · exact Or.inr ⟨named ▸ key, by omega⟩
    · exact Or.inr fresh

theorem mapValues (spoken : Dict Text SpokenFault) (made : Nat)
    {change : Text → SpokenFault → SpokenFault}
    (same : ∀ title fault, (change title fault).serial = fault.serial ∧
    (change title fault).title = fault.title) :
    Carries spoken (spoken.mapValues change) made where
  kept title carried := by rw [Dict.get?_mapValues, Option.isSome_map, carried]
  known title fault found := by
    rw [Dict.get?_mapValues, Option.map_eq_some_iff] at found
    obtain ⟨earlier, carried, changed⟩ := found
    rw [← changed]
    exact Or.inl ⟨earlier, carried, (same title earlier).1.symm, (same title earlier).2.symm⟩

theorem set (spoken : Dict Text SpokenFault) {made : Nat} {fault : SpokenFault}
    (below : fault.serial < made) : Carries spoken (spoken.set fault.title fault) made where
  kept title carried := by
    rw [Dict.get?_set]
    split
    · rfl
    · exact carried
  known title found member := by
    rw [Dict.get?_set] at member
    split at member
    · rename_i same
      cases member
      exact Or.inr ⟨same, below⟩
    · exact Or.inl ⟨found, member, rfl, rfl⟩

end Carries

theorem restored_carries (entries : List (Text × StoredFault)) (daemon : Daemon) :
    Carries daemon.spoken (entries.foldl Daemon.restore daemon).spoken
      (entries.foldl Daemon.restore daemon).made := by
  induction entries generalizing daemon with
  | nil => exact .refl _ _
  | cons entry rest ih =>
    obtain ⟨spoken, made, grown, shape⟩ := restored_shape (daemon.restore entry) rest
    refine @Carries.trans _ _ _ (daemon.restore entry).made _ ?_ ?_ (ih (daemon.restore entry))
    · rw [List.foldl_cons, shape]
      exact grown
    · simp only [Daemon.restore]
      split
      · exact .refl _ _
      · exact @Carries.set _ _ (entry.2.restored daemon.made entry.1) (Nat.lt_succ_self _)

theorem adopted_carries (look : Look) (candidates : List Candidate) (daemon : Daemon) :
    Carries daemon.spoken (candidates.foldl (Daemon.adoptOne look) daemon).spoken
      (candidates.foldl (Daemon.adoptOne look) daemon).made := by
  induction candidates generalizing daemon with
  | nil => exact .refl _ _
  | cons candidate rest ih =>
    obtain ⟨spoken, made, grown, shape⟩ := adopted_shape look (daemon.adoptOne look candidate) rest
    refine @Carries.trans _ _ _ (daemon.adoptOne look candidate).made _ ?_ ?_
      (ih (daemon.adoptOne look candidate))
    · rw [List.foldl_cons, shape]
      exact grown
    · exact @Carries.set _ _ (adoptedFault daemon.around look daemon.made candidate)
        (Nat.lt_succ_self _)

/-- The faults whose ending the sweep has in hand. -/
def Sweeping.clearing : Sweeping → List SpokenFault
  | .forgetting _ _ cleared | .forgot _ _ cleared => cleared
  | .confirming _ _ candidates | .confirmed _ _ candidates _ => candidates
  | .telling _ _ recovered => recovered
  | _ => []

/-- The answer that the sweep has not acted upon. -/
def Sweeping.answer? : Sweeping → Option (Dict Text Text)
  | .answered _ stillOpen => some stillOpen
  | _ => none

/-- The faults whose rows are about to be deleted. -/
def Sweeping.deleting? : Sweeping → Option (List SpokenFault)
  | .forgetting _ _ cleared => some cleared
  | _ => none

theorem Rests.clearing {spoken : Dict Text SpokenFault} {look : Look} {phase : Sweeping}
    (rests : Rests spoken look phase) : phase.clearing = [] := by
  cases phase <;> first | rfl | exact rests.elim

theorem Rests.plain {spoken : Dict Text SpokenFault} {look : Look} {phase : Sweeping}
    (rests : Rests spoken look phase) : phase.answer? = none ∧ phase.deleting? = none := by
  cases phase <;> first | exact ⟨rfl, rfl⟩ | exact rests.elim

/-- A turn of the sweep: what it drops, what it deletes and what it may tell of. -/
structure SweepMoves (succeeds : Bool) (before after : Daemon) : Prop where
  outside : after.around = before.around ∧ after.alerts = before.alerts ∧
    after.closings = before.closings ∧ after.handlers = before.handlers
  made : before.made ≤ after.made
  known : Known before.spoken after.spoken after.made
  answers : ∀ answer, after.sweep.answer? = some answer → ∃ look titles,
    before.sweep = .asking look titles ∧ succeeds = true ∧ answer = stillOpen before.alerts titles
  clears : ∀ fault ∈ after.sweep.clearing, fault ∈ before.sweep.clearing ∨ ∃ answer title,
    before.sweep.answer? = some answer ∧ answer.get? title = none ∧
      before.spoken.get? title = some fault
  tells : ∀ faults toast, .recovery faults toast ∈ after.notices →
    .recovery faults toast ∈ before.notices ∨ faults = before.sweep.clearing
  drops : ∀ title, (before.spoken.get? title).isSome → (after.spoken.get? title).isSome ∨
    ∃ answer, before.sweep.answer? = some answer ∧ answer.get? title = none
  deletes : ∀ title, (before.store.get? title).isSome → (after.store.get? title).isSome ∨
    ∃ cleared, before.sweep.deleting? = some cleared ∧ title ∈ cleared.map SpokenFault.title
  dooms : ∀ cleared, after.sweep.deleting? = some cleared → ∃ answer,
    before.sweep.answer? = some answer ∧ cleared = (unnamed before.spoken answer).map Prod.snd

namespace SweepMoves

variable {succeeds : Bool}

theorem still {before after : Daemon} {spoken : Dict Text SpokenFault} {loaded : Bool}
    {lookedAt : ℚ} {made : Nat} {phase : Sweeping}
    (shape : after = { before with spoken, loaded, lookedAt, made, sweep := phase })
    (grown : before.made ≤ made) (carries : Carries before.spoken spoken made)
    (clearing : ∀ fault ∈ phase.clearing, fault ∈ before.sweep.clearing)
    (plain : phase.answer? = none ∧ phase.deleting? = none) : SweepMoves succeeds before after := by
  subst shape
  exact {
    outside := ⟨rfl, rfl, rfl, rfl⟩
    made := grown
    known := carries.known
    answers := by simp [plain]
    clears := fun fault member => Or.inl (clearing fault member)
    tells := fun faults toast member => Or.inl member
    drops := fun title carried => Or.inl (carries.kept title carried)
    deletes := fun title stored => Or.inl stored
    dooms := by simp [plain] }

theorem rests {before after : Daemon} {spoken : Dict Text SpokenFault} {loaded : Bool}
    {lookedAt : ℚ} {made : Nat} {phase : Sweeping} {look : Look}
    (shape : after = { before with spoken, loaded, lookedAt, made, sweep := phase })
    (grown : before.made ≤ made) (carries : Carries before.spoken spoken made)
    (rests : Rests spoken look phase) : SweepMoves succeeds before after :=
  still shape grown carries (by simp [rests.clearing]) rests.plain

theorem wrote {before after : Daemon} {store : Store} {notices : List Notice} {phase : Sweeping}
    (shape : after = { before with store, notices, sweep := phase })
    (stored : ∀ title, (before.store.get? title).isSome → (store.get? title).isSome)
    (said : ∀ faults toast, .recovery faults toast ∈ notices → .recovery faults toast ∈ before.notices)
    (clearing : phase.clearing = []) (plain : phase.answer? = none ∧ phase.deleting? = none) :
    SweepMoves succeeds before after := by
  subst shape
  exact {
    outside := ⟨rfl, rfl, rfl, rfl⟩
    made := le_refl _
    known := (Carries.refl _ _).known
    answers := by simp [plain]
    clears := by simp [clearing]
    tells := fun faults toast member => Or.inl (said faults toast member)
    drops := fun _ carried => Or.inl carried
    deletes := fun title found => Or.inl (stored title found)
    dooms := by simp [plain] }

end SweepMoves

variable {succeeds : Bool}

theorem settle_moves (daemon : Daemon) (look : Look) (answer : Dict Text Text) :
    SweepMoves succeeds daemon (daemon.settle look answer) := by
  obtain ⟨phase, shape, rests⟩ := settle_spec daemon look answer
  exact .rests shape (le_refl _) (.mapValues _ _ fun _ _ => ⟨rfl, rfl⟩) rests

theorem takeDue_moves (daemon : Daemon) (look : Look) :
    SweepMoves succeeds daemon (daemon.takeDue look) := by
  obtain ⟨phase, shape, rests⟩ := takeDue_spec daemon look
  exact .rests shape (le_refl _) (.refl _ _) rests

theorem afterLoad_moves {before restored : Daemon} {spoken : Dict Text SpokenFault} {loaded : Bool}
    {made : Nat} (look : Look) (shape : restored = { before with spoken, loaded, made })
    (grown : before.made ≤ made) (carries : Carries before.spoken spoken made) :
    SweepMoves succeeds before (restored.afterLoad look) := by
  subst shape
  simp only [Daemon.afterLoad]
  split
  · refine .still rfl grown ?_ (by simp [Sweeping.clearing]) ⟨rfl, rfl⟩
    exact carries.trans (le_refl _) (.mapValues _ _ fun _ _ => ⟨rfl, rfl⟩)
  · split
    · obtain ⟨phase, shape, rests⟩ := afterLook_spec { before with spoken, loaded, made } look
      exact .rests shape grown carries rests
    · exact .still rfl grown carries (by simp [Sweeping.clearing]) ⟨rfl, rfl⟩

theorem dropCleared_moves {daemon : Daemon} {look : Look} {answer : Dict Text Text}
    (answered : daemon.sweep.answer? = some answer) :
    SweepMoves succeeds daemon (daemon.dropCleared look answer) := by
  have drops : ∀ title, (daemon.spoken.get? title).isSome →
      ((keepNamed daemon.spoken answer).get? title).isSome ∨
      ∃ answer, daemon.sweep.answer? = some answer ∧ answer.get? title = none := by
    intro title carried
    rw [get?_keepNamed]
    cases named : answer.get? title with
    | none => exact Or.inr ⟨answer, answered, named⟩
    | some rung => exact Or.inl (by simpa using carried)
  have known : Known daemon.spoken (keepNamed daemon.spoken answer) daemon.made := by
    intro title fault found
    rw [get?_keepNamed] at found
    split at found
    · exact Or.inl ⟨fault, found, rfl, rfl⟩
    · contradiction
  simp only [Daemon.dropCleared]
  split
  · obtain ⟨phase, shape, rests⟩ :=
      settle_spec { daemon with spoken := keepNamed daemon.spoken answer } look answer
    rw [shape]
    exact {
      outside := ⟨rfl, rfl, rfl, rfl⟩
      made := le_refl _
      known := by
        intro title fault found
        rw [Dict.get?_mapValues, Option.map_eq_some_iff] at found
        obtain ⟨earlier, carried, changed⟩ := found
        rw [← changed]
        exact known title earlier carried
      answers := by simp [rests.plain]
      clears := by simp [rests.clearing]
      tells := fun _ _ member => Or.inl member
      drops := by
        intro title carried
        rw [Dict.get?_mapValues, Option.isSome_map]
        exact drops title carried
      deletes := fun _ stored => Or.inl stored
      dooms := by simp [rests.plain] }
  · exact {
      outside := ⟨rfl, rfl, rfl, rfl⟩
      made := le_refl _
      known := known
      answers := by simp [Sweeping.answer?]
      clears := by
        intro fault member
        obtain ⟨⟨title, dropped⟩, inside, same⟩ := List.mem_map.mp member
        subst same
        obtain ⟨carried, absent⟩ := mem_unnamed.mp inside
        exact Or.inr ⟨answer, title, answered, absent, carried⟩
      tells := fun _ _ member => Or.inl member
      drops := drops
      deletes := fun _ stored => Or.inl stored
      dooms := by
        intro cleared same
        cases same
        exact ⟨answer, answered, rfl⟩ }

theorem weighEndings_moves {daemon : Daemon} (look : Look) (answer : Dict Text Text)
    {cleared : List SpokenFault} (clearing : daemon.sweep.clearing = cleared) :
    SweepMoves succeeds daemon (daemon.weighEndings look answer cleared) := by
  simp only [Daemon.weighEndings]
  split
  · exact settle_moves daemon look answer
  · refine .still rfl (le_refl _) (.refl _ _) (fun fault member => ?_) ⟨rfl, rfl⟩
    rw [clearing]
    exact (List.mem_insertionSort _).mp (List.mem_of_mem_filter member)

theorem tellEndings_moves {daemon : Daemon} (look : Look) (answer : Dict Text Text)
    {candidates : List SpokenFault} (fresh : List Text)
    (clearing : daemon.sweep.clearing = candidates) :
    SweepMoves succeeds daemon (daemon.tellEndings look answer candidates fresh) := by
  simp only [Daemon.tellEndings]
  split
  · exact settle_moves daemon look answer
  · refine .still rfl (le_refl _) (.refl _ _) (fun fault member => ?_) ⟨rfl, rfl⟩
    rw [clearing]
    exact List.mem_of_mem_filter member

theorem adopt_moves (daemon : Daemon) (look : Look) (candidates : List Candidate) :
    SweepMoves succeeds daemon (daemon.adopt look candidates) := by
  simp only [Daemon.adopt]
  split
  · exact takeDue_moves daemon look
  · have carries := adopted_carries look candidates daemon
    obtain ⟨spoken, made, grown, shape⟩ := adopted_shape look daemon candidates
    rw [shape] at carries ⊢
    refine .still rfl grown carries ?_ ?_
    · split <;> simp [Sweeping.clearing]
    · split <;> exact ⟨rfl, rfl⟩

theorem remember_keeps (rows : List (Text × StoredFault)) {store : Store} {title : Text}
    (stored : (store.get? title).isSome) : ((remember store rows).get? title).isSome := by
  induction rows generalizing store with
  | nil => exact stored
  | cons row rest ih =>
    apply ih
    rw [Dict.get?_set]
    split
    · rfl
    · exact stored

theorem remembered_keeps (succeeds : Bool) (rows : List (Text × StoredFault)) {store : Store}
    {title : Text} (stored : (store.get? title).isSome) :
    ((if succeeds then remember store rows else store).get? title).isSome := by
  split
  · exact remember_keeps rows stored
  · exact stored

theorem sweepOn_moves {before after : Daemon}
    (moved : before.sweepOn succeeds = some after) : SweepMoves succeeds before after := by
  cases phase : before.sweep with
  | idle => simp [Daemon.sweepOn, phase] at moved
  | loading look =>
    simp only [Daemon.sweepOn, phase, Option.some.injEq] at moved
    exact .still moved.symm (le_refl _) (.refl _ _) (by simp [Sweeping.clearing]) ⟨rfl, rfl⟩
  | loadAnswered look stored =>
    cases stored with
    | none =>
      simp only [Daemon.sweepOn, phase, Option.some.injEq] at moved
      rw [← moved]
      exact afterLoad_moves _ rfl (le_refl _) (.refl _ _)
    | some stored =>
      simp only [Daemon.sweepOn, phase, Option.some.injEq] at moved
      have carries := restored_carries stored.entries before
      obtain ⟨spoken, made, grown, shape⟩ := restored_shape before stored.entries
      rw [shape] at carries moved
      rw [← moved]
      exact afterLoad_moves _ rfl grown carries
  | asking look titles =>
    simp only [Daemon.sweepOn, phase, Option.some.injEq] at moved
    cases succeeds with
    | false => exact .still moved.symm (le_refl _) (.refl _ _) (by simp [Sweeping.clearing]) ⟨rfl, rfl⟩
    | true =>
      subst moved
      exact {
        outside := ⟨rfl, rfl, rfl, rfl⟩
        made := le_refl _
        known := (Carries.refl _ _).known
        answers := by
          intro answer same
          cases same
          exact ⟨look, titles, phase, rfl, rfl⟩
        clears := by simp [Sweeping.clearing]
        tells := fun _ _ member => Or.inl member
        drops := fun _ carried => Or.inl carried
        deletes := fun _ stored => Or.inl stored
        dooms := by simp [Sweeping.deleting?] }
  | answered look answer =>
    simp only [Daemon.sweepOn, phase, Option.some.injEq] at moved
    exact moved ▸ dropCleared_moves (by rw [phase]; rfl)
  | forgetting look answer cleared =>
    simp only [Daemon.sweepOn, phase, Option.some.injEq] at moved
    subst moved
    exact {
      outside := ⟨rfl, rfl, rfl, rfl⟩
      made := le_refl _
      known := (Carries.refl _ _).known
      answers := by simp [Sweeping.answer?]
      clears := fun fault member => Or.inl (by rw [phase]; exact member)
      tells := fun _ _ member => Or.inl member
      drops := fun _ carried => Or.inl carried
      deletes := by
        intro title stored
        by_cases listed : title ∈ cleared.map SpokenFault.title
        · exact Or.inr ⟨cleared, by rw [phase]; rfl, listed⟩
        · left
          cases succeeds with
          | false => exact stored
          | true => simpa [forget, Dict.get?_foldl_erase, listed] using stored
      dooms := by simp [Sweeping.deleting?] }
  | forgot look answer cleared =>
    simp only [Daemon.sweepOn, phase, Option.some.injEq] at moved
    exact moved ▸ weighEndings_moves look answer (by rw [phase]; rfl)
  | confirming look answer candidates =>
    simp only [Daemon.sweepOn, phase, Option.some.injEq] at moved
    exact .still moved.symm (le_refl _) (.refl _ _) (by simp [Sweeping.clearing, phase]) ⟨rfl, rfl⟩
  | confirmed look answer candidates fresh =>
    simp only [Daemon.sweepOn, phase, Option.some.injEq] at moved
    exact moved ▸ tellEndings_moves look answer fresh (by rw [phase]; rfl)
  | telling look answer recovered =>
    simp only [Daemon.sweepOn, phase, Option.some.injEq] at moved
    subst moved
    exact {
      outside := ⟨rfl, rfl, rfl, rfl⟩
      made := le_refl _
      known := (Carries.refl _ _).known
      answers := by simp [Sweeping.answer?]
      clears := by simp [Sweeping.clearing]
      tells := by
        intro faults toast member
        cases succeeds with
        | false => exact Or.inl member
        | true =>
          rcases List.mem_append.mp member with earlier | now
          · exact Or.inl earlier
          · simp only [List.mem_singleton, Notice.recovery.injEq] at now
            exact Or.inr (by rw [now.1, phase]; rfl)
      drops := fun _ carried => Or.inl carried
      deletes := fun _ stored => Or.inl stored
      dooms := by simp [Sweeping.deleting?] }
  | told look answer =>
    simp only [Daemon.sweepOn, phase, Option.some.injEq] at moved
    exact moved ▸ settle_moves before look answer
  | adopting look spokenFor room =>
    simp only [Daemon.sweepOn, phase, Option.some.injEq] at moved
    exact .still moved.symm (le_refl _) (.refl _ _) (by simp [Sweeping.clearing]) ⟨rfl, rfl⟩
  | adoptAnswered look candidates =>
    simp only [Daemon.sweepOn, phase, Option.some.injEq] at moved
    exact moved ▸ adopt_moves before look candidates
  | storingAdopted look rows =>
    simp only [Daemon.sweepOn, phase, Option.some.injEq] at moved
    exact .wrote moved.symm (fun _ => remembered_keeps succeeds rows) (fun _ _ => id) rfl ⟨rfl, rfl⟩
  | adoptedStored look =>
    simp only [Daemon.sweepOn, phase, Option.some.injEq] at moved
    exact moved ▸ takeDue_moves before look
  | restating look due =>
    simp only [Daemon.sweepOn, phase, Option.some.injEq] at moved
    cases succeeds with
    | false => exact .wrote moved.symm (fun _ => id) (fun _ _ => id) rfl ⟨rfl, rfl⟩
    | true => exact .wrote moved.symm (fun _ => id) (by simp) rfl ⟨rfl, rfl⟩
  | restated look due =>
    simp only [Daemon.sweepOn, phase, Option.some.injEq] at moved
    subst moved
    refine .still rfl (le_refl _) (.mapValues _ _ fun _ fault => ?_) ?_ ?_
    · split <;> exact ⟨rfl, rfl⟩
    · split <;> simp [Sweeping.clearing]
    · split <;> exact ⟨rfl, rfl⟩
  | storingReminders rows =>
    simp only [Daemon.sweepOn, phase, Option.some.injEq] at moved
    exact .wrote moved.symm (fun _ => remembered_keeps succeeds rows) (fun _ _ => id) rfl ⟨rfl, rfl⟩

theorem beginSweep_moves {daemon : Daemon} (resting : daemon.sweep = .idle) :
    SweepMoves succeeds daemon daemon.beginSweep := by
  simp only [Daemon.beginSweep]
  split
  · exact .still rfl (le_refl _) (.refl _ _) (by simp) (by rw [resting]; exact ⟨rfl, rfl⟩)
  · split
    · exact afterLoad_moves _ rfl (le_refl _) (.refl _ _)
    · exact .still rfl (le_refl _) (.refl _ _) (by simp [Sweeping.clearing]) ⟨rfl, rfl⟩

/-- A turn of anything else: nothing spoken, stored or told of is lost. -/
structure OutsideMoves (before after : Daemon) : Prop where
  sweep : after.sweep = before.sweep
  made : before.made ≤ after.made
  carries : Carries before.spoken after.spoken after.made
  tells : ∀ faults toast, .recovery faults toast ∈ after.notices →
    .recovery faults toast ∈ before.notices
  stored : ∀ title, (before.store.get? title).isSome → (after.store.get? title).isSome
  storing : ∀ (index : Nat) (fault : SpokenFault) (row : Text × StoredFault),
    after.handlers[index]? = some (.storing fault row) →
      before.handlers[index]? = some (.storing fault row) ∨ fault.row = .ok row

theorem handle_moves {before after : Daemon} {index : Nat} {handling : Handling}
    (moved : before.handle index succeeds handling = some after) : OutsideMoves before after := by
  have others : ∀ {next : Handling}, (∀ fault row, next = .storing fault row →
      fault.row = .ok row) → ∀ (other : Nat) (fault : SpokenFault) (row : Text × StoredFault),
        (before.handlers.set index next)[other]? = some (.storing fault row) →
        before.handlers[other]? = some (.storing fault row) ∨ fault.row = .ok row := by
    intro next fits other fault row found
    rw [List.getElem?_set] at found
    split at found
    · split at found
      · exact Or.inr (fits fault row (Option.some.inj found))
      · contradiction
    · exact Or.inl found
  cases handling with
  | checking title severity toast =>
    simp only [Daemon.handle, Option.some.injEq] at moved
    subst moved
    refine ⟨rfl, le_refl _, .refl _ _, fun _ _ => id, fun _ => id, others ?_⟩
    intro fault row same
    split at same <;> contradiction
  | sending title severity toast =>
    simp only [Daemon.handle, Option.some.injEq] at moved
    subst moved
    split
    · exact ⟨rfl, le_refl _, .refl _ _, by simp, fun _ => id, others (by simp)⟩
    · exact ⟨rfl, le_refl _, .refl _ _, fun _ _ => id, fun _ => id, others (by simp)⟩
  | landed title severity =>
    simp only [Daemon.handle, Option.some.injEq] at moved
    subst moved
    refine ⟨rfl, Nat.le_succ _, ?_, fun _ _ => id, fun _ => id, others ?_⟩
    · exact @Carries.set _ _ (before.openingFault title severity) (Nat.lt_succ_self _)
    · intro fault row same
      split at same
      · rename_i stored
        cases same
        exact stored
      · contradiction
  | storing fault row =>
    simp only [Daemon.handle, Option.some.injEq] at moved
    subst moved
    exact ⟨rfl, le_refl _, .refl _ _, fun _ _ => id, fun _ => remembered_keeps succeeds [row],
      others (by simp)⟩
  | done => simp [Daemon.handle] at moved

theorem turn_moves {before after : Daemon} {turn : Turn} (moved : before.turn turn = some after) :
    (∃ succeeds, SweepMoves succeeds before after ∧
      (turn = .sweep succeeds ∨ before.sweep = .idle)) ∨ OutsideMoves before after := by
  have untouched : ∀ {around alerts closings}, after = { before with around, alerts, closings } →
      OutsideMoves before after := by
    intro around alerts closings shape
    subst shape
    exact ⟨rfl, le_refl _, .refl _ _, fun _ _ => id, fun _ => id, fun _ _ _ => Or.inl⟩
  cases turn with
  | surroundings next => exact Or.inr (untouched (Option.some.inj moved).symm)
  | alerts next => exact Or.inr (untouched (Option.some.inj moved).symm)
  | stamp ids => exact Or.inr (untouched (Option.some.inj moved).symm)
  | commit index =>
    obtain ⟨closing, _, shape⟩ := Option.map_eq_some_iff.mp moved
    exact Or.inr (untouched shape.symm)
  | rollBack index => exact Or.inr (untouched (Option.some.inj moved).symm)
  | alertRaised event =>
    simp only [Daemon.turn, Option.some.injEq] at moved
    subst moved
    refine Or.inr ⟨rfl, le_refl _, .refl _ _, fun _ _ => id, fun _ => id, ?_⟩
    intro index fault row found
    rw [List.getElem?_append] at found
    split at found
    · exact Or.inl found
    · rw [List.getElem?_singleton] at found
      split at found
      · simp only [onAlertRaised] at found
        split at found <;> simp at found
      · contradiction
  | handler index succeeds =>
    obtain ⟨handling, _, handled⟩ := Option.bind_eq_some_iff.mp moved
    exact Or.inr (handle_moves handled)
  | sweepBegins =>
    simp only [Daemon.turn] at moved
    split at moved
    · rename_i resting
      cases moved
      exact Or.inl ⟨true, beginSweep_moves resting, Or.inr resting⟩
    · contradiction
  | sweep succeeds => exact Or.inl ⟨succeeds, sweepOn_moves moved, Or.inl rfl⟩

end SysadminAssistant.Monitor.Desktop
