import SysadminAssistant.Monitor.OutageEndings

namespace SysadminAssistant.Monitor.Desktop

open Python SysadminAssistant.Core Library

/-! The invariant of a history in which the stamps and the looks agree: every title spoken
for has an open row or one whose end will be news. -/

/-- The answer whose rungs the sweep has still to take over. -/
def Sweeping.rungs? : Sweeping → Option (Dict Text Text)
  | .answered _ answer | .forgetting _ answer _ | .forgot _ answer _ | .confirming _ answer _
  | .confirmed _ answer _ _ | .telling _ answer _ | .told _ answer => some answer
  | _ => none

def Handling.severity? : Handling → Option Text
  | .checking _ severity _ | .sending _ severity _ | .landed _ severity => some severity
  | .storing _ _ | .done => none

/-- What the sweep has in hand of `title` is borne out by the rows. -/
def Sweeping.BornOut (config : DesktopConfig) (title : Text) (alerts : List Alert) (speaks : Bool) :
    Sweeping → Prop
  | .answered look answer => speaks = true → answer.get? title = none →
      closedBy alerts title look.since = true
  | .forgetting look _ cleared | .forgot look _ cleared => ∀ fault ∈ cleared, fault.title = title →
      loudEnough config fault.severity = true ∧
        (fault.said = true → closedBy alerts title look.since = true)
  | .confirming look _ candidates => ∀ fault ∈ candidates, fault.said = true ∧
      (fault.title = title → closedBy alerts title look.since = true)
  | .confirmed _ _ candidates fresh => ∀ fault ∈ candidates, fault.said = true ∧
      (fault.title = title → title ∈ fresh)
  | .telling _ _ recovered => ∀ fault ∈ recovered, fault.said = true
  | .adoptAnswered _ candidates => ∀ candidate ∈ candidates,
      loudEnough config (loudest candidate.rungs) = true
  | _ => True

/-- What no phase of the sweep bears upon. -/
structure Steady (config : DesktopConfig) (title : Text) (daemon : Daemon) : Prop where
  quiet : daemon.around.quiet config = true
  rows : rungHolds config daemon.alerts title = true
  spoken : ∀ fault, daemon.spoken.get? title = some fault → loudEnough config fault.severity = true
  gated : ∀ (index : Nat) (handling : Handling), daemon.handlers[index]? = some handling →
    ∀ severity, handling.severity? = some severity → loudEnough config severity = true
  told : ∀ faults toast, .recovery faults toast ∈ daemon.notices → ∀ fault ∈ faults, fault.said = true

structure Sound (config : DesktopConfig) (title : Text) (daemon : Daemon) : Prop where
  numbered : Numbered daemon
  steady : Steady config title daemon
  looks : ∀ look, daemon.sweep.look? = some look → look.config = config
  rungs : ∀ answer, daemon.sweep.rungs? = some answer →
    ∀ rung, answer.get? title = some rung → loudEnough config rung = true
  covered : daemon.speaksFor title = true → standing daemon.alerts title (daemon.mark title) = true
  bornOut : daemon.sweep.BornOut config title daemon.alerts (daemon.speaksFor title)

theorem speaksFor_iff {daemon : Daemon} {title : Text} : daemon.speaksFor title = true ↔
    ∃ fault, daemon.spoken.get? title = some fault ∧ fault.said = true := by
  rw [Daemon.speaksFor, Option.any_eq_true]

theorem quiet_iff {around : Surroundings} {config : DesktopConfig} : around.quiet config = true ↔
    around.config = config ∧ config.enabled = true ∧ around.trayWatches config = false ∧
      around.dnd.active = false := by
  simp only [Surroundings.quiet, Bool.and_eq_true, decide_eq_true_eq, Bool.not_eq_true', and_assoc]

theorem bornOut_mono {config : DesktopConfig} {title : Text} {before after : List Alert}
    {spoke speaks : Bool} {phase : Sweeping}
    (kept : ∀ look, phase.look? = some look → closedBy before title look.since = true →
      closedBy after title look.since = true)
    (known : ∀ answer, phase.answer? = some answer → speaks = true →
      spoke = true ∨ (answer.get? title).isSome)
    (borne : phase.BornOut config title before spoke) : phase.BornOut config title after speaks := by
  cases phase with
  | answered look answer =>
    intro speaking absent
    rcases known answer rfl speaking with spoken | named
    · exact kept look rfl (borne spoken absent)
    · rw [absent] at named
      contradiction
  | forgetting look answer cleared | forgot look answer cleared =>
    intro fault member same
    obtain ⟨loud, closed⟩ := borne fault member same
    exact ⟨loud, fun said => kept look rfl (closed said)⟩
  | confirming look answer candidates =>
    intro fault member
    obtain ⟨said, closed⟩ := borne fault member
    exact ⟨said, fun same => kept look rfl (closed same)⟩
  | confirmed look answer candidates fresh => exact borne
  | telling look answer recovered => exact borne
  | adoptAnswered look candidates => exact borne
  | _ => trivial

theorem rest_sound {config : DesktopConfig} {title : Text} {daemon : Daemon} {look : Look}
    (rests : Rests daemon.spoken look daemon.sweep) (configured : look.config = config)
    (numbered : Numbered daemon) (steady : Steady config title daemon)
    (covered : daemon.speaksFor title = true → standing daemon.alerts title daemon.lookedAt = true) :
    Sound config title daemon := by
  cases phase : daemon.sweep with
  | idle =>
    exact ⟨numbered, steady, by simp [phase, Sweeping.look?],
      by simp [phase, Sweeping.rungs?], by simpa [Daemon.mark, phase] using covered,
      by simp [phase, Sweeping.BornOut]⟩
  | adopting current spokenFor room =>
    rw [phase] at rests
    have same : current = look := rests
    exact ⟨numbered, steady, by simp [phase, Sweeping.look?, same, configured],
      by simp [phase, Sweeping.rungs?], by simpa [Daemon.mark, phase] using covered,
      by simp [phase, Sweeping.BornOut]⟩
  | restating current due =>
    rw [phase] at rests
    have same : current = look := rests.1
    exact ⟨numbered, steady, by simp [phase, Sweeping.look?, same, configured],
      by simp [phase, Sweeping.rungs?], by simpa [Daemon.mark, phase] using covered,
      by simp [phase, Sweeping.BornOut]⟩
  | _ =>
    rw [phase] at rests
    exact rests.elim

theorem settle_speaksFor (daemon : Daemon) (look : Look) (answer : Dict Text Text) (title : Text) :
    (daemon.settle look answer).speaksFor title = daemon.speaksFor title := by
  obtain ⟨phase, shape, _⟩ := settle_spec daemon look answer
  rw [shape, Daemon.speaksFor, Daemon.speaksFor, Dict.get?_mapValues, Option.any_map]
  rfl

theorem settle_sound {config : DesktopConfig} {title : Text} {daemon : Daemon} {look : Look}
    {answer : Dict Text Text} (configured : look.config = config)
    (numbered : Numbered (daemon.settle look answer)) (steady : Steady config title daemon)
    (rungs : ∀ rung, answer.get? title = some rung → loudEnough config rung = true)
    (covered : daemon.speaksFor title = true → standing daemon.alerts title look.now = true) :
    Sound config title (daemon.settle look answer) := by
  have same := settle_speaksFor daemon look answer title
  obtain ⟨phase, shape, rests⟩ := settle_spec daemon look answer
  rw [shape] at numbered same ⊢
  refine rest_sound rests configured numbered
    ⟨steady.quiet, steady.rows, ?_, steady.gated, steady.told⟩ ?_
  · intro fault found
    rw [Dict.get?_mapValues, Option.map_eq_some_iff] at found
    obtain ⟨earlier, carried, changed⟩ := found
    rw [← changed, takeRung]
    cases named : answer.get? title with
    | none => exact steady.spoken earlier carried
    | some rung => exact rungs rung named
  · rw [same]
    exact covered

theorem afterLoad_sound {config : DesktopConfig} {title : Text} {daemon : Daemon} {look : Look}
    (configured : look.config = config) (numbered : Numbered (daemon.afterLoad look))
    (steady : Steady config title daemon)
    (covered : daemon.speaksFor title = true → standing daemon.alerts title look.since = true) :
    Sound config title (daemon.afterLoad look) := by
  have alone := (quiet_iff.mp steady.quiet).2.2.1
  simp only [Daemon.afterLoad, configured, alone, Bool.false_eq_true, if_false] at numbered ⊢
  split
  · rename_i nothing
    rw [if_pos nothing] at numbered
    have silent : daemon.spoken.get? title = none := by
      cases found : daemon.spoken.get? title with
      | none => rfl
      | some fault =>
        have member : title ∈ daemon.spoken.keys := Dict.mem_keys.mpr ⟨fault, found⟩
        rw [nothing] at member
        cases member
    obtain ⟨phase, shape, rests⟩ := afterLook_spec daemon look
    rw [shape] at numbered ⊢
    refine rest_sound rests configured numbered
      ⟨steady.quiet, steady.rows, steady.spoken, steady.gated, steady.told⟩ ?_
    intro speaking
    obtain ⟨fault, found, _⟩ := speaksFor_iff.mp speaking
    rw [show daemon.spoken.get? title = some fault from found] at silent
    contradiction
  · rename_i something
    rw [if_neg something] at numbered
    exact ⟨numbered, ⟨steady.quiet, steady.rows, steady.spoken, steady.gated, steady.told⟩,
      by simp [Sweeping.look?, configured], by simp [Sweeping.rungs?], covered, trivial⟩

theorem takeDue_sound {config : DesktopConfig} {title : Text} {daemon : Daemon} {look : Look}
    (configured : look.config = config) (numbered : Numbered (daemon.takeDue look))
    (steady : Steady config title daemon)
    (covered : daemon.speaksFor title = true → standing daemon.alerts title daemon.lookedAt = true) :
    Sound config title (daemon.takeDue look) := by
  obtain ⟨phase, shape, rests⟩ := takeDue_spec daemon look
  rw [shape] at numbered ⊢
  exact rest_sound rests configured numbered
    ⟨steady.quiet, steady.rows, steady.spoken, steady.gated, steady.told⟩ covered

theorem get?_restored_new {entries : List (Text × StoredFault)} {daemon : Daemon} {title : Text}
    {fault : SpokenFault} (absent : daemon.spoken.get? title = none)
    (found : (entries.foldl Daemon.restore daemon).spoken.get? title = some fault) :
    ∃ row serial, (title, row) ∈ entries ∧ fault = row.restored serial title := by
  induction entries generalizing daemon with
  | nil =>
    rw [List.foldl_nil, absent] at found
    contradiction
  | cons entry rest ih =>
    cases now : (daemon.restore entry).spoken.get? title with
    | none =>
      obtain ⟨row, serial, member, shape⟩ := ih now found
      exact ⟨row, serial, List.mem_cons_of_mem _ member, shape⟩
    | some restored =>
      have same := (get?_restored now rest).symm.trans found
      rw [Option.some.injEq] at same
      simp only [Daemon.restore] at now
      split at now
      · rw [absent] at now
        contradiction
      · rw [Dict.get?_set] at now
        split at now
        · rename_i titled
          cases now
          exact ⟨entry.2, daemon.made,
            by rw [← titled]; exact List.mem_cons_self, by rw [← titled, ← same]⟩
        · rw [absent] at now
          contradiction

theorem get?_adopted {look : Look} {candidates : List Candidate} {daemon : Daemon} {title : Text}
    {fault : SpokenFault}
    (found : (candidates.foldl (Daemon.adoptOne look) daemon).spoken.get? title = some fault) :
    daemon.spoken.get? title = some fault ∧ (∀ candidate ∈ candidates, candidate.title ≠ title) ∨
      fault.said = false ∧ ∃ candidate ∈ candidates, candidate.title = title ∧
        fault.severity = loudest candidate.rungs := by
  induction candidates generalizing daemon with
  | nil => exact Or.inl ⟨found, by simp⟩
  | cons candidate rest ih =>
    rcases ih found with ⟨earlier, others⟩ | ⟨unsaid, other, member, same, severity⟩
    · simp only [Daemon.adoptOne, Dict.get?_set] at earlier
      split at earlier
      · rename_i titled
        cases earlier
        exact Or.inr ⟨rfl, candidate, List.mem_cons_self, titled, rfl⟩
      · rename_i different
        refine Or.inl ⟨earlier, fun other member => ?_⟩
        rcases List.mem_cons.mp member with first | later
        · rw [first]
          exact different
        · exact others other later
    · exact Or.inr ⟨unsaid, other, List.mem_cons_of_mem _ member, same, severity⟩

variable {config : DesktopConfig} {title : Text}

theorem answered_sound {before after : Daemon} {look : Look} {titles : List Text}
    (sound : Sound config title before) (asking : before.sweep = .asking look titles)
    (whole : lookedWhole title before (.sweep true) = true)
    (shape : after = { before with sweep := .answered look (stillOpen before.alerts titles) })
    (numbered : Numbered after) : Sound config title after := by
  subst shape
  have configured := sound.looks look (by rw [asking]; rfl)
  have covered : before.speaksFor title = true → standing before.alerts title look.since = true := by
    simpa [Daemon.mark, asking] using sound.covered
  refine ⟨numbered, ⟨sound.steady.quiet, sound.steady.rows, sound.steady.spoken, sound.steady.gated,
    sound.steady.told⟩, by simp [Sweeping.look?, configured], ?_, ?_, ?_⟩
  · intro answer same rung named
    cases same
    exact loudEnough_answer sound.steady.rows named
  · intro speaking
    change standing before.alerts title
      (if ((stillOpen before.alerts titles).get? title).isSome then look.now else look.since) = true
    split
    · rename_i named
      exact standing_of_open _ (stillOpen_isSome.mp named).2
    · exact covered speaking
  · intro speaking absent
    obtain ⟨fault, carried, _⟩ := speaksFor_iff.mp speaking
    apply closed_of_standing (covered speaking)
    by_contra opened
    have asked : title ∈ titles := by
      change before.spoken.get? title = some fault at carried
      simpa [lookedWhole, asking, carried, opened] using whole
    have named := stillOpen_isSome.mpr ⟨asked, opened⟩
    rw [absent] at named
    contradiction

theorem dropCleared_sound {daemon : Daemon} {look : Look} {answer : Dict Text Text}
    (sound : Sound config title daemon) (answered : daemon.sweep = .answered look answer)
    (numbered : Numbered (daemon.dropCleared look answer)) :
    Sound config title (daemon.dropCleared look answer) := by
  have configured := sound.looks look (by rw [answered]; rfl)
  have rungs := sound.rungs answer (by rw [answered]; rfl)
  have borne := sound.bornOut
  rw [answered] at borne
  have spoken : ∀ fault, (keepNamed daemon.spoken answer).get? title = some fault →
      daemon.spoken.get? title = some fault ∧ (answer.get? title).isSome := by
    intro fault found
    rw [get?_keepNamed] at found
    split at found
    · rename_i named
      exact ⟨found, named⟩
    · contradiction
  have covered : ({ daemon with spoken := keepNamed daemon.spoken answer } : Daemon).speaksFor
      title = true → standing daemon.alerts title look.now = true := by
    intro speaking
    obtain ⟨fault, found, said⟩ := speaksFor_iff.mp speaking
    obtain ⟨carried, named⟩ := spoken fault found
    simpa [Daemon.mark, answered, named] using sound.covered (speaksFor_iff.mpr ⟨fault, carried, said⟩)
  have steady : Steady config title { daemon with spoken := keepNamed daemon.spoken answer } :=
    ⟨sound.steady.quiet, sound.steady.rows, fun fault found =>
      sound.steady.spoken fault (spoken fault found).1, sound.steady.gated, sound.steady.told⟩
  simp only [Daemon.dropCleared] at numbered ⊢
  split
  · rename_i nothing
    rw [if_pos nothing] at numbered
    exact settle_sound configured numbered steady rungs covered
  · rename_i something
    rw [if_neg something] at numbered
    refine ⟨numbered, ⟨steady.quiet, steady.rows, steady.spoken, steady.gated, steady.told⟩,
      by simp [Sweeping.look?, configured], ?_, covered, ?_⟩
    · intro current same
      cases same
      exact rungs
    · intro fault member same
      obtain ⟨⟨key, dropped⟩, inside, shape⟩ := List.mem_map.mp member
      subst shape
      obtain ⟨carried, absent⟩ := mem_unnamed.mp inside
      have titled := (sound.numbered.spoken key dropped carried).1
      rw [same] at titled
      subst titled
      exact ⟨sound.steady.spoken dropped carried,
        fun said => borne (speaksFor_iff.mpr ⟨dropped, carried, said⟩) absent⟩

theorem said_markSpoken (fault : SpokenFault) (now : ℚ) : (fault.markSpoken now).said = true := by
  simp [SpokenFault.markSpoken, SpokenFault.said]

theorem Sound.movesOn {before after : Daemon} {phase : Sweeping} {store : Store}
    {notices : List Notice} (sound : Sound config title before)
    (shape : after = { before with store, notices, sweep := phase }) (numbered : Numbered after)
    (looks : ∀ look, phase.look? = some look → look.config = config)
    (rungs : ∀ answer, phase.rungs? = some answer → before.sweep.rungs? = some answer)
    (mark : after.mark title = before.mark title)
    (borne : phase.BornOut config title before.alerts (before.speaksFor title))
    (told : ∀ faults toast, .recovery faults toast ∈ notices → ∀ fault ∈ faults, fault.said = true) :
    Sound config title after := by
  subst shape
  refine ⟨numbered, ⟨sound.steady.quiet, sound.steady.rows, sound.steady.spoken,
    sound.steady.gated, told⟩, looks, fun answer same => sound.rungs answer (rungs answer same),
    ?_, borne⟩
  rw [mark]
  exact sound.covered

theorem weighEndings_sound {daemon : Daemon} {look : Look} {answer : Dict Text Text}
    {cleared : List SpokenFault} (sound : Sound config title daemon)
    (forgot : daemon.sweep = .forgot look answer cleared)
    (numbered : Numbered (daemon.weighEndings look answer cleared)) :
    Sound config title (daemon.weighEndings look answer cleared) := by
  have configured := sound.looks look (by rw [forgot]; rfl)
  have borne := sound.bornOut
  rw [forgot] at borne
  simp only [Daemon.weighEndings] at numbered ⊢
  split
  · rename_i nothing
    rw [if_pos nothing] at numbered
    exact settle_sound configured numbered sound.steady (sound.rungs answer (by rw [forgot]; rfl))
      (by simpa [Daemon.mark, forgot] using sound.covered)
  · rename_i something
    rw [if_neg something] at numbered
    refine sound.movesOn rfl numbered (by simp [Sweeping.look?, configured])
      (by simp [Sweeping.rungs?, forgot]) (by simp [Daemon.mark, forgot]) ?_ sound.steady.told
    intro fault member
    obtain ⟨inside, weighed⟩ := List.mem_filter.mp member
    simp only [Bool.and_eq_true] at weighed
    have cleared := (List.mem_insertionSort _).mp inside
    exact ⟨weighed.1.1, fun same => (borne fault cleared same).2 weighed.1.1⟩

theorem tellEndings_sound {daemon : Daemon} {look : Look} {answer : Dict Text Text}
    {candidates : List SpokenFault} {fresh : List Text} (sound : Sound config title daemon)
    (confirmed : daemon.sweep = .confirmed look answer candidates fresh)
    (numbered : Numbered (daemon.tellEndings look answer candidates fresh)) :
    Sound config title (daemon.tellEndings look answer candidates fresh) := by
  have configured := sound.looks look (by rw [confirmed]; rfl)
  have borne := sound.bornOut
  rw [confirmed] at borne
  simp only [Daemon.tellEndings] at numbered ⊢
  split
  · rename_i nothing
    rw [if_pos nothing] at numbered
    exact settle_sound configured numbered sound.steady (sound.rungs answer (by rw [confirmed]; rfl))
      (by simpa [Daemon.mark, confirmed] using sound.covered)
  · rename_i something
    rw [if_neg something] at numbered
    refine sound.movesOn rfl numbered (by simp [Sweeping.look?, configured])
      (by simp [Sweeping.rungs?, confirmed]) (by simp [Daemon.mark, confirmed]) ?_ sound.steady.told
    exact fun fault member => (borne fault (List.mem_of_mem_filter member)).1

theorem adopt_sound {daemon : Daemon} {look : Look} {candidates : List Candidate}
    (sound : Sound config title daemon) (answered : daemon.sweep = .adoptAnswered look candidates)
    (numbered : Numbered (daemon.adopt look candidates)) :
    Sound config title (daemon.adopt look candidates) := by
  have configured := sound.looks look (by rw [answered]; rfl)
  have borne := sound.bornOut
  rw [answered] at borne
  have covered : daemon.speaksFor title = true →
      standing daemon.alerts title daemon.lookedAt = true := by
    simpa [Daemon.mark, answered] using sound.covered
  simp only [Daemon.adopt] at numbered ⊢
  split
  · rename_i nothing
    rw [if_pos nothing] at numbered
    exact takeDue_sound configured numbered sound.steady covered
  · rename_i something
    rw [if_neg something] at numbered
    have carried : ∀ fault, (candidates.foldl (Daemon.adoptOne look) daemon).spoken.get? title =
        some fault → loudEnough config fault.severity = true ∧
          (fault.said = true → daemon.spoken.get? title = some fault) := by
      intro fault found
      rcases get?_adopted found with ⟨earlier, _⟩ | ⟨unsaid, candidate, member, _, severity⟩
      · exact ⟨sound.steady.spoken fault earlier, fun _ => earlier⟩
      · exact ⟨by rw [severity]; exact borne candidate member, fun said => by rw [unsaid] at said; contradiction⟩
    obtain ⟨spoken, made, _, shape⟩ := adopted_shape look daemon candidates
    rw [shape] at carried numbered ⊢
    have speaks : ∀ phase,
        ({ daemon with spoken, made, sweep := phase } : Daemon).speaksFor title = true →
        standing daemon.alerts title daemon.lookedAt = true := by
      intro phase speaking
      obtain ⟨fault, found, said⟩ := speaksFor_iff.mp speaking
      exact covered (speaksFor_iff.mpr ⟨fault, (carried fault found).2 said, said⟩)
    have steady : ∀ phase, Steady config title { daemon with spoken, made, sweep := phase } :=
      fun phase =>
      ⟨sound.steady.quiet, sound.steady.rows, fun fault found => (carried fault found).1,
        sound.steady.gated, sound.steady.told⟩
    generalize (candidates.filterMap fun candidate => spoken.get? candidate.title).mapM
      SpokenFault.row = written at numbered ⊢
    cases written with
    | error raised =>
      exact ⟨numbered, steady _,
        by simp [Sweeping.look?], by simp [Sweeping.rungs?], speaks _, trivial⟩
    | ok rows =>
      exact ⟨numbered, steady _, by simp [Sweeping.look?, configured], by simp [Sweeping.rungs?],
        speaks _, trivial⟩

theorem markDue_sound {daemon : Daemon} {look : Look} {due : List SpokenFault}
    (sound : Sound config title daemon) (restated : daemon.sweep = .restated look due)
    (taken : daemon.speaksFor title = true ∨ (∀ fault, daemon.spoken.get? title = some fault →
      fault.serial ∉ due.map SpokenFault.serial) ∨ standing daemon.alerts title daemon.lookedAt = true)
    (numbered : Numbered (daemon.markDue look due)) :
    Sound config title (daemon.markDue look due) := by
  have covered : daemon.speaksFor title = true →
      standing daemon.alerts title daemon.lookedAt = true := by
    simpa [Daemon.mark, restated] using sound.covered
  have carried : ∀ fault, (daemon.markDue look due).spoken.get? title = some fault →
      ∃ earlier, daemon.spoken.get? title = some earlier ∧ fault.severity = earlier.severity ∧
        (fault.said = true → earlier.said = true ∨ earlier.serial ∈ due.map SpokenFault.serial) := by
    intro fault found
    simp only [Daemon.markDue, Dict.get?_mapValues, Option.map_eq_some_iff] at found
    obtain ⟨earlier, standing, shape⟩ := found
    refine ⟨earlier, standing, ?_, ?_⟩
    · rw [← shape]
      split <;> rfl
    · intro said
      rw [← shape] at said
      split at said
      · rename_i listed
        exact Or.inr listed
      · exact Or.inl said
  have speaks : (daemon.markDue look due).speaksFor title = true →
      standing daemon.alerts title daemon.lookedAt = true := by
    intro speaking
    obtain ⟨fault, found, said⟩ := speaksFor_iff.mp speaking
    obtain ⟨earlier, current, _, origin⟩ := carried fault found
    rcases origin said with before | listed
    · exact covered (speaksFor_iff.mpr ⟨earlier, current, before⟩)
    · rcases taken with speaking | outside | stands
      · exact covered speaking
      · exact absurd listed (outside earlier current)
      · exact stands
  have steady : Steady config title (daemon.markDue look due) := by
    refine ⟨sound.steady.quiet, sound.steady.rows, fun fault found => ?_, sound.steady.gated,
      sound.steady.told⟩
    obtain ⟨earlier, standing, severity, _⟩ := carried fault found
    rw [severity]
    exact sound.steady.spoken earlier standing
  simp only [Daemon.markDue] at numbered steady speaks ⊢
  generalize (due.map fun fault => fault.markSpoken look.now).mapM SpokenFault.row = written
    at numbered steady speaks ⊢
  cases written with
  | error raised =>
    exact ⟨numbered, steady, by simp [Sweeping.look?], by simp [Sweeping.rungs?], speaks, trivial⟩
  | ok rows =>
    exact ⟨numbered, steady, by simp [Sweeping.look?], by simp [Sweeping.rungs?], speaks, trivial⟩

theorem sweep_sound {before after : Daemon} {succeeds : Bool} (sound : Sound config title before)
    (calm : uneventful config title before (.sweep succeeds) = true)
    (onTime : timely title before (.sweep succeeds) = true)
    (moved : before.sweepOn succeeds = some after) : Sound config title after := by
  have numbered : Numbered after :=
    sound.numbered.turn (show before.turn (.sweep succeeds) = some after from moved)
  obtain ⟨whole, onTime⟩ := Bool.and_eq_true_iff.mp onTime
  cases phase : before.sweep with
  | idle => simp [Daemon.sweepOn, phase] at moved
  | loading look =>
    simp only [Daemon.sweepOn, phase, Option.some.injEq] at moved
    have configured := sound.looks look (by rw [phase]; rfl)
    exact sound.movesOn moved.symm numbered (by simp [Sweeping.look?, configured])
      (by simp [Sweeping.rungs?]) (by rw [← moved]; simp [Daemon.mark, phase]) trivial
        sound.steady.told
  | loadAnswered look stored =>
    have configured := sound.looks look (by rw [phase]; rfl)
    have covered : before.speaksFor title = true → standing before.alerts title look.since = true := by
      simpa [Daemon.mark, phase] using sound.covered
    cases stored with
    | none =>
      simp only [Daemon.sweepOn, phase, Option.some.injEq] at moved
      rw [← moved] at numbered ⊢
      exact afterLoad_sound configured numbered sound.steady covered
    | some stored =>
      simp only [Daemon.sweepOn, phase, Option.some.injEq] at moved
      simp only [uneventful, phase] at calm
      simp only [phase] at onTime
      have carried : ∀ fault, (stored.entries.foldl Daemon.restore before).spoken.get? title =
          some fault → before.spoken.get? title = some fault ∨ before.spoken.get? title = none ∧
            ∃ row serial, stored.get? title = some row ∧ fault = row.restored serial title := by
        intro fault found
        cases current : before.spoken.get? title with
        | some standing =>
          rw [get?_restored current] at found
          exact Or.inl found
        | none =>
          obtain ⟨row, serial, member, shape⟩ := get?_restored_new current found
          exact Or.inr ⟨rfl, row, serial, Dict.get?_eq_some.mpr member, shape⟩
      obtain ⟨spoken, made, _, shape⟩ := restored_shape before stored.entries
      rw [shape] at carried moved
      rw [← moved] at numbered ⊢
      refine afterLoad_sound configured numbered ⟨sound.steady.quiet, sound.steady.rows,
        fun fault found => ?_, sound.steady.gated, sound.steady.told⟩ fun speaking => ?_
      · rcases carried fault found with earlier | ⟨_, row, serial, kept, made⟩
        · exact sound.steady.spoken fault earlier
        · rw [kept, Option.all_some] at calm
          rw [made]
          exact calm
      · obtain ⟨fault, found, said⟩ := speaksFor_iff.mp speaking
        rcases carried fault found with earlier | ⟨absent, row, serial, kept, made⟩
        · exact covered (speaksFor_iff.mpr ⟨fault, earlier, said⟩)
        · rw [made] at said
          have known : row.adopted = true ∧ row.remindersSent = 0 ∨
              standing before.alerts title look.since = true := by
            simpa [absent, kept] using onTime
          rcases known with unsaid | stands
          · simp [SpokenFault.said, StoredFault.restored, unsaid] at said
          · exact stands
  | asking look titles =>
    have succeeded : succeeds = true := by simpa [uneventful, phase] using calm
    subst succeeded
    simp only [Daemon.sweepOn, phase, if_true, Option.some.injEq] at moved
    exact answered_sound sound phase whole moved.symm numbered
  | answered look answer =>
    simp only [Daemon.sweepOn, phase, Option.some.injEq] at moved
    rw [← moved] at numbered ⊢
    exact dropCleared_sound sound phase numbered
  | forgetting look answer cleared =>
    simp only [Daemon.sweepOn, phase, Option.some.injEq] at moved
    have configured := sound.looks look (by rw [phase]; rfl)
    have borne := sound.bornOut
    rw [phase] at borne
    exact sound.movesOn moved.symm numbered (by simp [Sweeping.look?, configured])
      (by simp [Sweeping.rungs?, phase]) (by rw [← moved]; simp [Daemon.mark, phase]) borne
        sound.steady.told
  | forgot look answer cleared =>
    simp only [Daemon.sweepOn, phase, Option.some.injEq] at moved
    rw [← moved] at numbered ⊢
    exact weighEndings_sound sound phase numbered
  | confirming look answer candidates =>
    have succeeded : succeeds = true := by simpa [uneventful, phase] using calm
    subst succeeded
    simp only [Daemon.sweepOn, phase, if_true, Option.some.injEq] at moved
    have configured := sound.looks look (by rw [phase]; rfl)
    have borne := sound.bornOut
    rw [phase] at borne
    refine sound.movesOn moved.symm numbered (by simp [Sweeping.look?, configured])
      (by simp [Sweeping.rungs?, phase]) (by rw [← moved]; simp [Daemon.mark, phase]) ?_
        sound.steady.told
    intro fault member
    obtain ⟨said, closed⟩ := borne fault member
    refine ⟨said, fun same => mem_closedSince.mpr ?_⟩
    obtain ⟨moment, ok, found⟩ := closedBy_iff.mp (closed same)
    exact ⟨moment, ok, List.mem_map.mpr ⟨fault, member, same⟩, found⟩
  | confirmed look answer candidates fresh =>
    simp only [Daemon.sweepOn, phase, Option.some.injEq] at moved
    rw [← moved] at numbered ⊢
    exact tellEndings_sound sound phase numbered
  | telling look answer recovered =>
    simp only [Daemon.sweepOn, phase, Option.some.injEq] at moved
    have configured := sound.looks look (by rw [phase]; rfl)
    have borne := sound.bornOut
    rw [phase] at borne
    refine sound.movesOn moved.symm numbered (by simp [Sweeping.look?, configured])
      (by simp [Sweeping.rungs?, phase]) (by rw [← moved]; simp [Daemon.mark, phase]) trivial ?_
    intro faults toast member
    split at member
    · rcases List.mem_append.mp member with earlier | now
      · exact sound.steady.told faults toast earlier
      · simp only [List.mem_singleton, Notice.recovery.injEq] at now
        rw [now.1]
        exact borne
    · exact sound.steady.told faults toast member
  | told look answer =>
    simp only [Daemon.sweepOn, phase, Option.some.injEq] at moved
    rw [← moved] at numbered ⊢
    exact settle_sound (sound.looks look (by rw [phase]; rfl)) numbered sound.steady
      (sound.rungs answer (by rw [phase]; rfl)) (by simpa [Daemon.mark, phase] using sound.covered)
  | adopting look spokenFor room =>
    have succeeded : succeeds = true := by simpa [uneventful, phase] using calm
    subst succeeded
    simp only [Daemon.sweepOn, phase, if_true, Option.some.injEq] at moved
    have configured := sound.looks look (by rw [phase]; rfl)
    refine sound.movesOn moved.symm numbered (by simp [Sweeping.look?, configured])
      (by simp [Sweeping.rungs?]) (by rw [← moved]; simp [Daemon.mark, phase]) ?_ sound.steady.told
    intro candidate member
    rw [configured] at member
    exact loudEnough_adoptable member
  | adoptAnswered look candidates =>
    simp only [Daemon.sweepOn, phase, Option.some.injEq] at moved
    rw [← moved] at numbered ⊢
    exact adopt_sound sound phase numbered
  | storingAdopted look rows =>
    simp only [Daemon.sweepOn, phase, Option.some.injEq] at moved
    have configured := sound.looks look (by rw [phase]; rfl)
    exact sound.movesOn moved.symm numbered (by simp [Sweeping.look?, configured])
      (by simp [Sweeping.rungs?]) (by rw [← moved]; simp [Daemon.mark, phase]) trivial
        sound.steady.told
  | adoptedStored look =>
    simp only [Daemon.sweepOn, phase, Option.some.injEq] at moved
    rw [← moved] at numbered ⊢
    exact takeDue_sound (sound.looks look (by rw [phase]; rfl)) numbered sound.steady
      (by simpa [Daemon.mark, phase] using sound.covered)
  | restating look due =>
    have succeeded : succeeds = true := by simpa [uneventful, phase] using calm
    subst succeeded
    simp only [Daemon.sweepOn, phase, if_true, Option.some.injEq] at moved
    have configured := sound.looks look (by rw [phase]; rfl)
    exact sound.movesOn moved.symm numbered (by simp [Sweeping.look?, configured])
      (by simp [Sweeping.rungs?]) (by rw [← moved]; simp [Daemon.mark, phase]) trivial
      (by simpa using sound.steady.told)
  | restated look due =>
    simp only [Daemon.sweepOn, phase, Option.some.injEq] at moved
    rw [← moved] at numbered ⊢
    refine markDue_sound sound phase ?_ numbered
    simpa [phase, Daemon.mark, Option.all_eq_true, or_assoc] using onTime
  | storingReminders rows =>
    simp only [Daemon.sweepOn, phase, Option.some.injEq] at moved
    exact sound.movesOn moved.symm numbered (by simp [Sweeping.look?])
      (by simp [Sweeping.rungs?]) (by rw [← moved]; simp [Daemon.mark, phase]) trivial
        sound.steady.told

end SysadminAssistant.Monitor.Desktop
