import SysadminAssistant.Files.StandingKeepers

namespace SysadminAssistant.Files

open Python Library

/-! A manifest whose keepers do not all stand removes a last copy, when the calls fail for the
others. -/

variable {execution : Execution} {operations done : List FileOperation} {began tree : Tree}

theorem failing_but (first second : Nat) : ∃ faults : Nat → Faults, faults first = unhindered ∧
    faults second = unhindered ∧ ∀ turn, turn ≠ first → turn ≠ second → faults turn = hindered := by
  refine ⟨fun turn => if turn = first ∨ turn = second then unhindered else hindered,
    by simp, by simp, ?_⟩
  intro turn apart other
  simp [apart, other]

theorem Since.unchanged (execution : Execution) (done : List FileOperation) (tree : Tree) :
    Since execution done tree tree :=
  ⟨SameLinks.refl tree, fun _ _ found _ => Or.inl found, fun _ _ found => Or.inl found⟩

theorem Since.there (since : Since execution done began tree)
    (there : TrashThere execution.machine.steps began execution.trashRoot) :
    TrashThere execution.machine.steps tree execution.trashRoot := by
  have still : ∀ {path}, isDir execution.machine.steps began path = true →
      isDir execution.machine.steps tree path = true := by
    intro path directory
    obtain ⟨place, led, here⟩ := (Option.any_eq_true _ _).mp directory
    rw [decide_eq_true_eq] at here
    rw [realPath_sameLinks since.links] at led
    rcases since.kept place _ here with same | ⟨operation, _, taken⟩
    · simp [isDir, led, same]
    · obtain ⟨_, content, modified, filed⟩ := removes_resolved taken
      rw [here] at filed
      cases filed
  exact ⟨still there.files, still there.info⟩

theorem throughout_hindered {faults : Nat → Faults} {meets : Tree → FileOperation × Nat → Prop}
    {items rest : List FileOperation} {index : Nat}
    (trashing : ∀ operation ∈ items, operation.action = text "trash")
    (straight : Straight execution tree items)
    (failing : ∀ turn, index ≤ turn → turn < index + items.length → faults turn = hindered)
    (met : Throughout (turn execution faults) meets tree ((items ++ rest).zipIdx index)) :
    Throughout (turn execution faults) meets tree (rest.zipIdx (index + items.length)) := by
  induction items generalizing index with
  | nil => simpa using met
  | cons operation items ih =>
    obtain ⟨reported, ran⟩ := executeOperation_hindered (trashing operation List.mem_cons_self)
      (straight operation List.mem_cons_self)
    have failed := failing index (Nat.le_refl _) (by simp)
    simp only [List.cons_append, List.zipIdx_cons, Throughout, turn, failed, ran,
      Option.elim_some] at met
    have later := ih (fun other member => trashing other (List.mem_cons_of_mem _ member))
      (fun other member => straight other (List.mem_cons_of_mem _ member))
      (fun turn above under => failing turn (by omega) (by simp only [List.length_cons]; omega)) met.2
    rwa [show index + 1 + items.length = index +
      (operation :: items).length by simp only [List.length_cons]; omega] at later

theorem keeper_at_turn {faults : Nat → Faults} {operation : FileOperation} {index : Nat}
    {source : Path} (trashing : operation.action = text "trash") (free : faults index = unhindered)
    (live : NoneDangling execution.machine.steps tree execution.trashRoot)
    (there : TrashThere execution.machine.steps tree execution.trashRoot)
    (found : removes execution tree operation = some source)
    (met : keeperThere execution faults tree (operation, index)) :
    ∃ keep keeper content modified stamped, operation.keepPath = some keep ∧
      resolveWithin execution.machine tree execution.root keep = .within keeper ∧ keeper ≠ source ∧
      tree.get? source = some (.file content modified) ∧ tree.get? keeper = some
        (.file content stamped) := by
  obtain ⟨reported, after, ran, done, _⟩ := executeOperation_unhindered trashing live there found
  rw [← free] at ran
  obtain ⟨keep, keeper, place, content, modified, stamped, named, resolved, leads, apart,
      sourceFile, keeperFile⟩ :=
    met reported after ran done
  rw [(removes_resolved found).1] at leads
  cases leads
  exact ⟨keep, keeper, content, modified, stamped, named, resolved, apart, sourceFile, keeperFile⟩

variable {before : List FileOperation} {operation : FileOperation} {source : Path}

theorem keeper_needed (settled : TrashSettled execution operations began)
    (there : TrashThere execution.machine.steps began execution.trashRoot)
    (removals : ∀ operation ∈ operations, operation.action = text "trash" ∧
      operation.status = .planned)
    (reached : Reached execution began operations before operation)
    (found : removes execution began operation = some source)
    (keeps : ∀ faults, KeepsCopies execution faults operations began) :
    ∃ keep keeper content modified stamped, operation.keepPath = some keep ∧
      resolveWithin execution.machine began execution.root keep = .within keeper ∧ keeper ≠ source ∧
      began.get? source = some (.file content modified) ∧ began.get? keeper = some
        (.file content stamped) := by
  obtain ⟨⟨rest, turns⟩, straight⟩ := reached
  rw [List.append_assoc, List.singleton_append] at turns
  have within : ∀ other ∈ before, other ∈ operations := fun other member => by simp [← turns, member]
  obtain ⟨faults, free, _, idle⟩ := failing_but before.length before.length
  have met := (keeps faults).1
  rw [← turns] at met
  have here :=
    throughout_hindered (fun other member => (removals other (within other member)).1) straight
    (fun turn _ under => idle turn (by omega) (by omega)) met
  rw [List.zipIdx_cons, Nat.zero_add] at here
  exact keeper_at_turn (removals operation (by simp [← turns])).1 free
    ((Since.unchanged execution before began).live settled turns.symm) there found here.1

theorem keeper_spared (settled : TrashSettled execution operations began)
    (there : TrashThere execution.machine.steps began execution.trashRoot)
    (removals : ∀ operation ∈ operations, operation.action = text "trash" ∧
      operation.status = .planned)
    (reached : Reached execution began operations before operation)
    (found : removes execution began operation = some source)
    (keeps : ∀ faults, KeepsCopies execution faults operations began) {keep keeper : Path}
    (named : operation.keepPath = some keep)
    (resolved : resolveWithin execution.machine began execution.root keep = .within keeper)
    (apart : keeper ≠ source) :
    ∀ earlier ∈ before, removes execution began earlier ≠ some keeper := by
  intro earlier member taken
  obtain ⟨front, middle, rfl⟩ := List.append_of_mem member
  obtain ⟨⟨rest, turns⟩, straight⟩ := reached
  have split : operations = front ++ earlier :: (middle ++ operation :: rest) := by simp [← turns]
  have removal : ∀ other ∈ operations, other.action = text "trash" :=
    fun other inside => (removals other inside).1
  obtain ⟨faults, early, late, idle⟩ := failing_but front.length (front.length + 1 + middle.length)
  have met := (keeps faults).1
  rw [split] at met
  have first := throughout_hindered (fun other inside => removal other (by simp [split, inside]))
    (fun other inside => straight other (by simp [inside])) (fun turn _ under =>
      idle turn (by omega) (by omega)) met
  have start := Since.unchanged execution front began
  have live := start.live settled split
  have trashing := removal earlier (by simp [split])
  obtain ⟨reported, after, ran, done, gone⟩ := executeOperation_unhindered trashing live there taken
  have frames := @executeOperation_frames unhindered execution earlier began trashing live
  have next :=
    @Since.step execution (fun _ => unhindered) operations front began began earlier _ 0 start
      settled split trashing
  rw [ran] at frames next
  simp only [List.zipIdx_cons, Nat.zero_add, Throughout, turn, early, ran, Option.elim_some] at first
  have straightThere : Straight execution after middle := by
    intro other inside
    rw [← resolveWithin_sameLinks next.links]
    exact straight other (by simp [inside])
  have second :=
    throughout_hindered (fun other inside => removal other (by simp [split, inside])) straightThere
    (fun turn above under => idle turn (by omega) (by omega)) first.2
  have turned : operations = (front ++ [earlier]) ++ (middle ++ operation :: rest) := by simp [split]
  obtain ⟨sourceAt, content, modified, sourceFile⟩ := removes_resolved found
  have stays : after.get? source = some (.file content modified) := by
    rcases frames source with same | ⟨isTaken, _⟩ | ⟨absent, _⟩
    · rw [same, sourceFile]
    · rw [taken] at isTaken
      exact absurd (Option.some.inj isTaken) apart
    · rw [sourceFile] at absent
      contradiction
  rw [List.zipIdx_cons] at second
  obtain ⟨other, place, content', modified', stamped, named', resolved', _, _, keeperFile⟩ :=
    keeper_at_turn (removal operation (by simp [split])) late
      (next.live settled turned) (next.there there)
      (removes_sameLinks next.links (by simp [stays, Node.isFile]) found) second.1
  rw [named] at named'
  cases named'
  rw [← resolveWithin_sameLinks next.links, resolved] at resolved'
  cases resolved'
  rw [gone] at keeperFile
  contradiction

theorem executeFrom_noFile {faults : Nat → Faults} {items : List FileOperation} {index : Nat}
    {place : Path} (since : Since execution done began tree)
    (settled : TrashSettled execution operations began) (turns : operations = done ++ items)
    (trashing : ∀ operation ∈ operations, operation.action = text "trash")
    (outside : place.tail ∉ trashPlaces execution.machine.steps began execution.trashRoot)
    (noFile : (tree.get? place).any Node.isFile = false) :
    ((executeFrom execution faults index items tree).2.get? place).any Node.isFile = false := by
  induction items generalizing done tree index with
  | nil => exact noFile
  | cons operation rest ih =>
    have frames := @executeOperation_frames (faults index) execution operation tree
      (trashing operation (by simp [turns])) (since.live settled turns)
    have next :=
      @Since.step execution faults operations done began tree operation rest index since
        settled turns (trashing operation (by simp [turns]))
    rw [← trashPlaces_sameLinks since.links] at frames
    have still : ((executeOperation execution (faults index) operation tree).2.get? place).any
        Node.isFile = false := by
      rcases frames place with same | ⟨_, gone⟩ | ⟨_, made⟩
      · rw [same, noFile]
      · rw [gone]
        rfl
      · cases found : (executeOperation execution (faults index) operation tree).2.get? place with
        | none => rfl
        | some node =>
          cases filed : node.isFile with
          | false => simpa using filed
          | true => exact absurd ((made node found).2 filed) outside
    cases ran : executeOperation execution (faults index) operation tree with
    | mk result after =>
      rw [ran] at next still
      cases result with
      | none => rw [executeFrom_stop ran, still]
      | some reported =>
        rw [executeFrom_next ran]
        exact ih next (by simp [turns]) still

theorem returned_of_resolved {fails : Faults} (trashing : operation.action = text "trash")
    (leads : resolveWithin execution.machine tree execution.root operation.source ≠ .loops) :
    ∃ reported after, executeOperation execution fails operation tree = (some reported, after) := by
  simp only [executeOperation]
  split
  · exact ⟨_, _, rfl⟩
  · cases resolved : resolveWithin execution.machine tree execution.root operation.source with
    | loops => exact absurd resolved leads
    | escapes => exact ⟨_, _, rfl⟩
    | within source =>
      have other : text "trash" ≠ text "move" := by decide
      obtain ⟨answer, usable, answered, _⟩ :=
        @trashIsUsable_answers execution.machine fails source execution.trashRoot tree
      simp only [trashing, if_neg other, executeTrash, Sys.bind_apply, answered]
      split
      · exact ⟨_, _, rfl⟩
      · split
        · exact ⟨_, _, rfl⟩
        · cases answer with
          | true =>
            simp only [if_true, Sys.bind_apply]
            cases ended : sendToTrash execution.machine fails source execution.trashRoot usable with
            | mk result after => cases result <;> exact ⟨_, _, rfl⟩
          | false =>
            cases execution.permanentAllowed with
            | false => exact ⟨_, _, rfl⟩
            | true =>
              simp only [Bool.false_eq_true, if_false, Bool.not_true, Sys.bind_apply]
              cases fails .unlink <;> exact ⟨_, _, rfl⟩

theorem unhindered_gone {items others : List FileOperation} {other : FileOperation} {index : Nat}
    {place : Path} (since : Since execution done began tree)
    (settled : TrashSettled execution operations began)
    (there : TrashThere execution.machine.steps began execution.trashRoot)
    (turns : operations = done ++ items)
    (trashing : ∀ operation ∈ operations, operation.action = text "trash")
    (reached : Reached execution began items others other)
    (found : removes execution began other = some place)
    (outside : place.tail ∉ trashPlaces execution.machine.steps began execution.trashRoot) :
    ((executeFrom execution (fun _ => unhindered) index items tree).2.get? place).any Node.isFile =
      false := by
  obtain ⟨⟨late, shape⟩, straight⟩ := reached
  induction others generalizing done tree index items with
  | nil =>
    simp only [List.nil_append, List.singleton_append] at shape
    subst shape
    cases filed : (tree.get? place).any Node.isFile with
    | false => exact executeFrom_noFile since settled turns trashing outside filed
    | true =>
      obtain ⟨reported, after, ran, _, gone⟩ :=
        executeOperation_unhindered (trashing other (by simp [turns]))
        (since.live settled turns) (since.there there) (removes_sameLinks since.links filed found)
      have next :=
        @Since.step execution (fun _ => unhindered) operations done began tree other
          late index since settled turns (trashing other (by simp [turns]))
      rw [ran] at next
      have final := @executeFrom_noFile execution operations (done ++ [other]) began after
        (fun _ => unhindered) late (index + 1) place next settled (by simp [turns]) trashing outside
        (by simp [gone])
      rw [@executeFrom_next execution (fun _ => unhindered) tree other reported late index
        after ran, final]
  | cons first others ih =>
    rw [List.cons_append, List.cons_append] at shape
    subst shape
    have leads := straight first List.mem_cons_self
    rw [resolveWithin_sameLinks since.links] at leads
    obtain ⟨reported, after, ran⟩ := @returned_of_resolved execution tree first unhindered
      (trashing first (by simp [turns])) leads
    have next :=
      @Since.step execution (fun _ => unhindered) operations done began tree first _ index since
      settled turns (trashing first (by simp [turns]))
    rw [ran] at next
    have final :=
      @ih (done ++ [first]) after (others ++ [other] ++ late) (index + 1) next (by simp [turns])
      (fun earlier member => straight earlier (List.mem_cons_of_mem _ member)) rfl
    rw [@executeFrom_next execution (fun _ => unhindered) tree first reported _ index after ran, final]

theorem copy_spared (settled : TrashSettled execution operations began)
    (there : TrashThere execution.machine.steps began execution.trashRoot)
    (removals : ∀ operation ∈ operations, operation.action = text "trash" ∧
      operation.status = .planned)
    (keeps : ∀ faults, KeepsCopies execution faults operations began) {content : Bytes}
    {modified : ℚ} (present : began.get? source = some (.file content modified))
    (outside : Untrashed execution began source) :
    ∃ copy stamped, began.get? copy = some (.file content stamped) ∧ Untrashed execution began copy ∧
      ∀ others other, Reached execution began operations others other →
        removes execution began other ≠ some copy := by
  obtain ⟨copy, stamped, copyFile, untrashed⟩ :=
    (keeps fun _ => unhindered).2 source content modified present outside
  obtain ⟨turned, since, _⟩ :=
    @executeFrom_since execution (fun _ => unhindered) operations [] began began operations 0
    (Since.refl execution began) settled rfl (List.forall_mem_nil _) (by simp) removals
  have away : copy.tail ∉ trashPlaces execution.machine.steps began execution.trashRoot :=
    fun inside => untrashed copy.tail inside (List.tail_suffix copy)
  rcases since.files copy _ copyFile rfl with former | ⟨inside, _⟩
  · refine ⟨copy, stamped, former, untrashed, fun others other reached taken => ?_⟩
    have gone := @unhindered_gone execution operations [] began began operations others other 0 copy
      (Since.refl execution began) settled there rfl (fun operation member =>
        (removals operation member).1) reached
      taken away
    simp [copyFile, Node.isFile] at gone
  · exact absurd inside away

theorem KeepersStand.of_keepsCopies (settled : TrashSettled execution operations began)
    (there : TrashThere execution.machine.steps began execution.trashRoot)
    (removals : ∀ operation ∈ operations, operation.action = text "trash" ∧
      operation.status = .planned)
    (keeps : ∀ faults, KeepsCopies execution faults operations began) :
    KeepersStand execution operations began where
  kept := by
    intro before operation source reached found
    obtain ⟨keep, keeper, content, modified, stamped, named, resolved, apart, sourceFile,
        keeperFile⟩ :=
      keeper_needed settled there removals reached found keeps
    exact ⟨keep, keeper, content, modified, stamped, named, resolved, apart, sourceFile, keeperFile,
      keeper_spared settled there removals reached found keeps named resolved apart⟩
  spared := by
    intro before operation source content modified _ _ present outside
    exact copy_spared settled there removals keeps present outside

end SysadminAssistant.Files
