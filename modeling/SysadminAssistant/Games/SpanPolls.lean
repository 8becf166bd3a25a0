import SysadminAssistant.Games.GameSpans
import SysadminAssistant.Library.LocalSteps

namespace SysadminAssistant.Games

open Library Python

/-! What one poll does to the rows of one game. -/

theorem get?_modify {ν : Type} (table : Dict RowId ν) (id other : RowId) (change : ν → ν) :
    (modify table id change).get? other =
      if other = id then (table.get? other).map change else table.get? other := by
  cases found : table.get? id with
  | none =>
    by_cases same : other = id
    · subst same
      simp [modify, found]
    · simp [modify, found, same]
  | some row =>
    by_cases same : other = id
    · subst same
      simp [modify, found]
    · simp [modify, found, same, Dict.get?_set_other _ _ (Ne.symm same)]

section Steps

variable {poll : Poll} {drawn : Nat} {byKey : Dict GameKey RowId}

theorem closeSpan_spans (work : Work) (id other : RowId) : (closeSpan work id).spans.get? other =
    if other = id then (work.spans.get? other).map GameSpan.closed else work.spans.get? other := by
  rw [← get?_modify]
  simp only [closeSpan]
  split <;> rfl

theorem closeSpan_focus (work : Work) (id other : RowId) : (closeSpan work id).focus.get? other =
    if work.focusBySpan.get? id = some other then (work.focus.get? other).map GameFocus.closed
    else work.focus.get? other := by
  cases found : work.focusBySpan.get? id with
  | none => simp [closeSpan, found]
  | some stretch => simp only [closeSpan, found, get?_modify, Option.some.injEq, eq_comm]

theorem closeSpan_focusBySpan (work : Work) (id other : RowId) :
    (closeSpan work id).focusBySpan.get? other =
    if other = id then none else work.focusBySpan.get? other := by
  cases found : work.focusBySpan.get? id with
  | none =>
    by_cases same : other = id
    · subst same
      simp [closeSpan, found]
    · simp [closeSpan, found, same]
  | some stretch => simp only [closeSpan, found, Dict.get?_erase, eq_comm]

theorem openFocus_focus (work : Work) (key : GameKey) (id : RowId) (state : Option FocusState)
    (other : RowId) : (openFocus poll drawn work key id state).focus.get? other =
      if other = ⟨drawn, key⟩ then
        (state.map fun state => (⟨id, state, poll.now, poll.now, none⟩ : GameFocus)).or
        (work.focus.get? other) else work.focus.get? other := by
  cases state with
  | none => simp [openFocus]
  | some state => simp [openFocus, Dict.get?_set, eq_comm]

@[simp] theorem openFocus_spans (work : Work) (key : GameKey) (id : RowId)
    (state : Option FocusState) :
    (openFocus poll drawn work key id state).spans = work.spans := by cases state <;> rfl

@[simp] theorem openFocus_focusBySpan (work : Work) (key : GameKey) (id : RowId)
    (state : Option FocusState) :
    (openFocus poll drawn work key id state).focusBySpan = work.focusBySpan := by cases state <;> rfl

@[simp] theorem placeFocus_spans (work : Work) (key : GameKey) (id : RowId)
    (state : Option FocusState) : (placeFocus poll drawn work key id state).spans = work.spans := by
  simp only [placeFocus]
  split
  · simp
  · split <;> simp

@[simp] theorem placeFocus_focusBySpan (work : Work) (key : GameKey) (id : RowId)
    (state : Option FocusState) :
    (placeFocus poll drawn work key id state).focusBySpan = work.focusBySpan := by
  simp only [placeFocus]
  split
  · simp
  · split <;> simp

theorem placeFocus_other (work : Work) (key : GameKey) (id : RowId) (state : Option FocusState)
    {other : RowId} (apart : other ≠ ⟨drawn, key⟩)
    (unopened : work.focusBySpan.get? id ≠ some other) :
    (placeFocus poll drawn work key id state).focus.get? other = work.focus.get? other := by
  cases found : work.focusBySpan.get? id with
  | none => simp [placeFocus, found, openFocus_focus, apart]
  | some stretch =>
    have away : other ≠ stretch := fun same => unopened (same ▸ found)
    simp only [placeFocus, found]
    split
    · simp [get?_modify, away]
    · simp [openFocus_focus, apart, get?_modify, away]

theorem placeSpan_spans (work : Work) (key : GameKey) (sighting : Sighting) {other : RowId}
    (apart : other ≠ (placeSpan poll drawn byKey work key sighting).1) :
    (placeSpan poll drawn byKey work key sighting).2.spans.get? other = work.spans.get? other := by
  simp only [placeSpan] at apart ⊢
  split at apart
  · simp [get?_modify, apart]
  · simp [Dict.get?_set_other _ _ (Ne.symm apart)]

@[simp] theorem placeSpan_focus (work : Work) (key : GameKey) (sighting : Sighting) :
    (placeSpan poll drawn byKey work key sighting).2.focus = work.focus := by
  simp only [placeSpan]
  split <;> rfl

@[simp] theorem placeSpan_focusBySpan (work : Work) (key : GameKey) (sighting : Sighting) :
    (placeSpan poll drawn byKey work key sighting).2.focusBySpan = work.focusBySpan := by
  simp only [placeSpan]
  split <;> rfl

theorem placeSpan_key (own : ∀ key id, byKey.get? key = some id → id.key = key) (work : Work)
    (key : GameKey) (sighting : Sighting) :
    (placeSpan poll drawn byKey work key sighting).1.key = key := by
  simp only [placeSpan]
  split
  · rename_i id found
    obtain ⟨found, _⟩ := Option.filter_eq_some_iff.mp found
    exact own key id found
  · rfl

/-! Only the rows of the entry's own game are read and written. -/

/-- The rows of a game, and the open stretch of each of its spans. -/
structure KeyRows where
  spans : Nat → Option GameSpan
  focus : Nat → Option GameFocus
  opened : Nat → Option RowId

def Work.rows (work : Work) (key : GameKey) : KeyRows where
  spans number := work.spans.get? ⟨number, key⟩
  focus number := work.focus.get? ⟨number, key⟩
  opened number := work.focusBySpan.get? ⟨number, key⟩

/-- An open stretch is of the game of its span. -/
def Keyed (work : Work) : Prop :=
  ∀ id stretch, work.focusBySpan.get? id = some stretch → stretch.key = id.key

theorem settle_local (own : ∀ key id, byKey.get? key = some id → id.key = key) :
    LocalFold Keyed Work.rows (settle poll) Prod.fst byKey.entries where
  preserves := by
    intro work entry keyed _ id stretch found
    apply keyed id
    simp only [settle] at found
    split at found
    · exact found
    · split at found
      · rw [closeSpan_focusBySpan] at found
        split at found
        · cases found
        · exact found
      · exact found
  frame := by
    intro work entry key keyed member apart
    have named : entry.2.key = entry.1 := own entry.1 entry.2 (Dict.get?_eq_some.mpr member)
    have away : ∀ number, (⟨number, key⟩ : RowId) ≠ entry.2 := by
      intro number same
      exact apart (by rw [← named, ← same])
    have unopened : ∀ number, work.focusBySpan.get? entry.2 ≠ some ⟨number, key⟩ := by
      intro number found
      exact apart (by rw [← named, ← keyed _ _ found])
    simp only [settle]
    split
    · rfl
    · split
      · simp [Work.rows, closeSpan_spans, closeSpan_focus, closeSpan_focusBySpan, away, unopened]
      · rfl

theorem track_local (own : ∀ key id, byKey.get? key = some id → id.key = key)
    (entries : List (GameKey × Sighting)) :
    LocalFold Keyed Work.rows (track poll drawn byKey) Prod.fst entries where
  preserves := by
    intro work entry keyed _ id stretch found
    apply keyed id
    simpa [track] using found
  frame := by
    intro work entry key keyed _ apart
    have named := @placeSpan_key poll drawn byKey own work entry.1 entry.2
    have away : ∀ number,
        (⟨number, key⟩ : RowId) ≠ (placeSpan poll drawn byKey work entry.1 entry.2).1 := by
      intro number same
      exact apart (by rw [← named, ← same])
    have fresh : ∀ number, (⟨number, key⟩ : RowId) ≠ ⟨drawn, entry.1⟩ := by
      intro number same
      exact apart (congrArg RowId.key same)
    have unopened : ∀ number,
        work.focusBySpan.get? (placeSpan poll drawn byKey work entry.1 entry.2).1 ≠
        some ⟨number, key⟩ := by
      intro number found
      exact apart (by rw [← named, ← keyed _ _ found])
    simp only [track, Work.rows, placeFocus_spans, placeFocus_focusBySpan, placeSpan_focusBySpan,
      KeyRows.mk.injEq]
    refine ⟨funext fun number => placeSpan_spans work _ _ (away number), funext fun number =>
      ?_, trivial⟩
    rw [placeFocus_other _ _ _ _ (fresh number) (by simpa using unopened number), placeSpan_focus]

end Steps

/-! The tables between polls. -/

structure WellKept (tables : Tables) : Prop where
  spanDrawn : ∀ {id row}, tables.spans.get? id = some row → id.poll < tables.polls ∧ row.key = id.key
  focusDrawn : ∀ {id row}, tables.focus.get? id = some row → id.poll < tables.polls ∧
    row.spanId.key = id.key
  oneSpan : ∀ {first second left right}, tables.spans.get? first = some left →
    tables.spans.get? second = some right →
    left.endedAt = none → right.endedAt = none → first.key = second.key → first = second
  oneFocus : ∀ {first second left right}, tables.focus.get? first = some left →
    tables.focus.get? second = some right →
    left.endedAt = none → right.endedAt = none → left.spanId = right.spanId → first = second
  focusSpan : ∀ {id row}, tables.focus.get? id = some row →
    ∃ span, tables.spans.get? row.spanId = some span ∧ (row.endedAt = none → span.endedAt = none)

section Polls

variable {poll : Poll} {tables : Tables}

theorem WellKept.openByKey_iff (kept : WellKept tables) {key : GameKey} {id : RowId} :
    (openByKey tables.spans).get? key = some id ↔
      id.key = key ∧ ∃ row, tables.spans.get? id = some row ∧ row.endedAt = none := by
  have listed : ∀ {key id},
      (key, id) ∈ ((tables.spans.entries.filter fun entry => entry.2.endedAt.isNone).map
      fun entry => (entry.2.key, entry.1)) →
      id.key = key ∧ ∃ row, tables.spans.get? id = some row ∧ row.endedAt = none := by
    intro key id member
    obtain ⟨⟨_, row⟩, inside, shape⟩ := List.mem_map.mp member
    obtain ⟨inside, opened⟩ := List.mem_filter.mp inside
    cases shape
    have found := Dict.get?_eq_some.mpr inside
    exact ⟨(kept.spanDrawn found).2.symm, row, found, by simpa using opened⟩
  constructor
  · exact fun found => listed (Dict.get?_ofEntries_mem found)
  · intro row
    obtain ⟨named, row, found, opened⟩ := row
    have member : (key, id) ∈ ((tables.spans.entries.filter fun entry => entry.2.endedAt.isNone).map
        fun entry => (entry.2.key, entry.1)) :=
      List.mem_map.mpr ⟨(id, row), List.mem_filter.mpr ⟨Dict.get?_eq_some.mp found,
        by simp [opened]⟩, by rw [(kept.spanDrawn found).2, named]⟩
    obtain ⟨other, held⟩ := Dict.exists_get?_ofEntries member
    obtain ⟨alike, span, there, still⟩ := listed (Dict.get?_ofEntries_mem held)
    rw [← kept.oneSpan there found still opened (alike.trans named.symm)]
    exact held

theorem WellKept.openBySpan_iff (kept : WellKept tables) {id stretch : RowId} :
    (openBySpan tables.focus).get? id = some stretch ↔
      ∃ row, tables.focus.get? stretch = some row ∧ row.endedAt = none ∧ row.spanId = id := by
  have listed : ∀ {id stretch}, (id, stretch) ∈ ((tables.focus.entries.filter fun entry =>
      entry.2.endedAt.isNone).map fun entry => (entry.2.spanId, entry.1)) →
      ∃ row, tables.focus.get? stretch = some row ∧ row.endedAt = none ∧ row.spanId = id := by
    intro id stretch member
    obtain ⟨⟨_, row⟩, inside, shape⟩ := List.mem_map.mp member
    obtain ⟨inside, opened⟩ := List.mem_filter.mp inside
    cases shape
    exact ⟨row, Dict.get?_eq_some.mpr inside, by simpa using opened, rfl⟩
  constructor
  · exact fun found => listed (Dict.get?_ofEntries_mem found)
  · intro row
    obtain ⟨row, found, opened, named⟩ := row
    have member : (id, stretch) ∈
        ((tables.focus.entries.filter fun entry => entry.2.endedAt.isNone).map
        fun entry => (entry.2.spanId, entry.1)) :=
      List.mem_map.mpr ⟨(stretch, row), List.mem_filter.mpr ⟨Dict.get?_eq_some.mp found,
        by simp [opened]⟩, by rw [named]⟩
    obtain ⟨other, held⟩ := Dict.exists_get?_ofEntries member
    obtain ⟨span, there, still, alike⟩ := listed (Dict.get?_ofEntries_mem held)
    rw [← kept.oneFocus there found still opened (alike.trans named.symm)]
    exact held

theorem WellKept.keyed (kept : WellKept tables) :
    Keyed ⟨tables.spans, tables.focus, openBySpan tables.focus⟩ := by
  intro id stretch found
  obtain ⟨row, there, _, named⟩ := kept.openBySpan_iff.mp found
  rw [← named, (kept.focusDrawn there).2]

/-- The open span of a game is seen again in time. -/
def Tables.goesOn (tables : Tables) (poll : Poll) (key : GameKey) : Bool :=
  (poll.seen.get? key).isSome && ((openByKey tables.spans).get? key).any fun id =>
    (tables.spans.get? id).any fun span => poll.now - span.lastSeenAt ≤ poll.maxGap

/-- What a poll makes of a row. -/
def GameSpan.polled (now : Int) (goesOn : Bool) (span : GameSpan) : GameSpan :=
  if span.endedAt.isSome then span else if goesOn then { span with lastSeenAt := now } else span.closed

def GameFocus.polled (now : Int) (goesOn : Bool) (stretch : GameFocus) : GameFocus :=
  if stretch.endedAt.isSome then stretch
  else if goesOn then { stretch with lastSeenAt := now } else stretch.closed

/-- The focus state that a poll reads of a game. -/
def Poll.stateOf (poll : Poll) (key : GameKey) : Option FocusState :=
  (poll.seen.get? key).bind fun sighting => focusState sighting poll.windowPid

/-- The span that a poll's sighting of a game belongs to. -/
def Tables.home (tables : Tables) (poll : Poll) (key : GameKey) : RowId :=
  if tables.goesOn poll key then ((openByKey tables.spans).get? key).getD ⟨tables.polls, key⟩
  else ⟨tables.polls, key⟩

theorem home_of_goesOn {key : GameKey} (going : tables.goesOn poll key = true) :
    (openByKey tables.spans).get? key = some (tables.home poll key) := by
  cases current : (openByKey tables.spans).get? key with
  | none => simp [Tables.goesOn, current] at going
  | some id => simp [Tables.home, going, current]

/-- What a poll does to the rows of one game. -/
structure KeyStep (poll : Poll) (tables after : Tables) (key : GameKey) : Prop where
  spanOld : ∀ id row, id.key = key → tables.spans.get? id = some row →
    after.spans.get? id = some (row.polled poll.now (tables.goesOn poll key))
  spanNew : ∀ id, id.key = key → tables.spans.get? id = none → after.spans.get? id =
    if id.poll = tables.polls ∧ tables.goesOn poll key = false then
      (poll.seen.get? key).map (openedSpan poll) else none
  focusOld : ∀ id row, id.key = key → tables.focus.get? id = some row → after.focus.get? id =
    some (row.polled poll.now (tables.goesOn poll key && decide (some row.state = poll.stateOf key)))
  focusStays : ∀ id old row, id.key = key → tables.focus.get? id = none →
    tables.goesOn poll key = true →
    old.key = key → tables.focus.get? old = some row → row.endedAt = none →
      some row.state = poll.stateOf key →
    after.focus.get? id = none
  focusNew : ∀ id, id.key = key → tables.focus.get? id = none →
    (tables.goesOn poll key = true → ∀ old row, old.key = key → tables.focus.get? old = some row →
      row.endedAt = none → some row.state ≠ poll.stateOf key) →
    after.focus.get? id = if id.poll = tables.polls then
      (poll.stateOf key).map fun state => ⟨tables.home poll key, state, poll.now, poll.now, none⟩
        else none

theorem Work.spans_eq {left right : Work} {key : GameKey} (same : left.rows key = right.rows key)
    {id : RowId} (named : id.key = key) : left.spans.get? id = right.spans.get? id := by
  subst named
  exact congrFun (congrArg KeyRows.spans same) id.poll

theorem Work.focus_eq {left right : Work} {key : GameKey} (same : left.rows key = right.rows key)
    {id : RowId} (named : id.key = key) : left.focus.get? id = right.focus.get? id := by
  subst named
  exact congrFun (congrArg KeyRows.focus same) id.poll

theorem Work.opened_eq {left right : Work} {key : GameKey} (same : left.rows key = right.rows key)
    {id : RowId} (named : id.key = key) : left.focusBySpan.get? id = right.focusBySpan.get? id := by
  subst named
  exact congrFun (congrArg KeyRows.opened same) id.poll

/-- After the first loop, the rows of a game that does not go on are closed. -/
structure SettledRows (tables : Tables) (goesOn : Bool) (key : GameKey) (work : Work) : Prop where
  spans : ∀ id, id.key = key → work.spans.get? id =
    (tables.spans.get? id).map fun row => if row.endedAt.isSome || goesOn then row else row.closed
  focus : ∀ id, id.key = key → work.focus.get? id =
    (tables.focus.get? id).map fun row => if row.endedAt.isSome || goesOn then row else row.closed
  opened : ∀ id, id.key = key → work.focusBySpan.get? id =
    if goesOn then (openBySpan tables.focus).get? id else none

def Tables.work (tables : Tables) : Work := ⟨tables.spans, tables.focus, openBySpan tables.focus⟩

theorem WellKept.opened_home (kept : WellKept tables) {id stretch : RowId}
    (found : (openBySpan tables.focus).get? id = some stretch) :
    (openByKey tables.spans).get? id.key = some id := by
  obtain ⟨row, there, opened, named⟩ := kept.openBySpan_iff.mp found
  obtain ⟨span, held, still⟩ := kept.focusSpan there
  exact kept.openByKey_iff.mpr ⟨rfl, span, named ▸ held, still opened⟩

theorem settled_going {work : Work} {key : GameKey} (same : work.rows key = tables.work.rows key) :
    SettledRows tables true key work where
  spans id named := by simp [Work.spans_eq same named, Tables.work]
  focus id named := by simp [Work.focus_eq same named, Tables.work]
  opened id named := by simp [Work.opened_eq same named, Tables.work]

theorem settled_idle (kept : WellKept tables) {work : Work} {key : GameKey}
    (idle : (openByKey tables.spans).get? key = none) (same : work.rows key = tables.work.rows key) :
    SettledRows tables false key work := by
  have unopened : ∀ id, id.key = key → (openBySpan tables.focus).get? id = none := by
    intro id named
    cases found : (openBySpan tables.focus).get? id with
    | none => rfl
    | some stretch => rw [← named, kept.opened_home found] at idle; cases idle
  refine ⟨fun id named => ?_, fun id named => ?_, fun id named => ?_⟩
  · rw [Work.spans_eq same named]
    cases found : tables.spans.get? id with
    | none => simp [Tables.work, found]
    | some row =>
      cases ended : row.endedAt with
      | some last => simp [Tables.work, found, ended]
      | none => rw [kept.openByKey_iff.mpr ⟨named, row, found, ended⟩] at idle; cases idle
  · rw [Work.focus_eq same named]
    cases found : tables.focus.get? id with
    | none => simp [Tables.work, found]
    | some row =>
      cases ended : row.endedAt with
      | some last => simp [Tables.work, found, ended]
      | none =>
        have placed := unopened row.spanId ((kept.focusDrawn found).2.trans named)
        rw [kept.openBySpan_iff.mpr ⟨row, found, ended, rfl⟩] at placed
        cases placed
  · rw [Work.opened_eq same named]
    simpa [Tables.work] using unopened id named

theorem settled_closed (kept : WellKept tables) {work : Work} {key : GameKey} {home : RowId}
    (current : (openByKey tables.spans).get? key = some home)
    (same : work.rows key = tables.work.rows key) :
    SettledRows tables false key (closeSpan work home) := by
  obtain ⟨named, open_, there, still⟩ := kept.openByKey_iff.mp current
  refine ⟨fun id own => ?_, fun id own => ?_, fun id own => ?_⟩
  · rw [closeSpan_spans, Work.spans_eq same own]
    cases found : tables.spans.get? id with
    | none => simp [Tables.work, found]
    | some row =>
      cases ended : row.endedAt with
      | none =>
        rw [if_pos (kept.oneSpan found there ended still (own.trans named.symm))]
        simp [Tables.work, found, ended]
      | some last =>
        have away : id ≠ home := by
          intro here
          rw [here, there] at found
          cases found
          rw [still] at ended
          cases ended
        simp [Tables.work, found, ended, away]
  · rw [closeSpan_focus, Work.opened_eq same named, Work.focus_eq same own]
    cases found : tables.focus.get? id with
    | none => simp [Tables.work, found]
    | some row =>
      cases ended : row.endedAt with
      | none =>
        have opened := kept.openBySpan_iff.mpr ⟨row, found, ended, rfl⟩
        have placed := kept.opened_home opened
        rw [(kept.focusDrawn found).2, own, current] at placed
        rw [← Option.some.inj placed] at opened
        simp [Tables.work, found, ended, opened]
      | some last =>
        have away : (openBySpan tables.focus).get? home ≠ some id := by
          intro here
          obtain ⟨stretch, held, open_, _⟩ := kept.openBySpan_iff.mp here
          rw [found] at held
          cases held
          rw [ended] at open_
          cases open_
        simp [Tables.work, found, ended, away]
  · rw [closeSpan_focusBySpan, Work.opened_eq same own]
    by_cases here : id = home
    · simp [here]
    · cases found : (openBySpan tables.focus).get? id with
      | none => simp [Tables.work, found, here]
      | some stretch =>
        have placed := kept.opened_home found
        rw [own, current] at placed
        exact absurd (Option.some.inj placed).symm here

theorem WellKept.openByKey_key (kept : WellKept tables) (key : GameKey) (id : RowId)
    (found : (openByKey tables.spans).get? key = some id) : id.key = key :=
  (kept.openByKey_iff.mp found).1

theorem settle_rows (kept : WellKept tables) (key : GameKey) :
    SettledRows tables (tables.goesOn poll key) key
      ((openByKey tables.spans).entries.foldl (settle poll) tables.work) := by
  have fold := @settle_local poll (openByKey tables.spans) kept.openByKey_key
  cases current : (openByKey tables.spans).get? key with
  | none =>
    have absent : key ∉ (openByKey tables.spans).entries.map Prod.fst := by
      intro member
      obtain ⟨id, found⟩ := Dict.mem_keys.mp member
      rw [current] at found
      cases found
    have idle : tables.goesOn poll key = false := by simp [Tables.goesOn, current]
    rw [idle]
    exact settled_idle kept current (fold.view_absent kept.keyed absent)
  | some home =>
    obtain ⟨named, row, there, still⟩ := kept.openByKey_iff.mp current
    obtain ⟨work, _, same, final⟩ := fold.view_present (openByKey tables.spans).nodup kept.keyed
      (Dict.get?_eq_some.mp current)
    have held : work.spans.get? home = some row := (Work.spans_eq same named).trans there
    have rule : tables.goesOn poll key =
        !decide (key ∉ poll.seen.keys ∨ poll.now - row.lastSeenAt > poll.maxGap) := by
      have known : key ∈ poll.seen.keys ↔ (poll.seen.get? key).isSome = true := Dict.get?_isSome.symm
      cases seen : poll.seen.get? key with
      | none => simp [Tables.goesOn, current, there, known, seen]
      | some sighting =>
        simp only [Tables.goesOn, current, there, known, seen, Option.isSome_some, Option.any_some]
        grind
    have shown : ((openByKey tables.spans).entries.foldl (settle poll) tables.work).rows key =
        (settle poll work (key, home)).rows key := final
    cases going : tables.goesOn poll key with
    | true =>
      rw [going, eq_comm, Bool.not_eq_true', decide_eq_false_iff_not] at rule
      simp only [settle, held, if_neg rule] at shown
      exact settled_going (shown.trans same)
    | false =>
      rw [going, eq_comm, Bool.not_eq_false', decide_eq_true_iff] at rule
      simp only [settle, held, if_pos rule] at shown
      have closed := settled_closed kept current same
      exact ⟨fun id own => (Work.spans_eq shown own).trans (closed.spans id own),
        fun id own => (Work.focus_eq shown own).trans (closed.focus id own),
        fun id own => (Work.opened_eq shown own).trans (closed.opened id own)⟩

theorem SettledRows.congr {goesOn : Bool} {key : GameKey} {left right : Work}
    (settled : SettledRows tables goesOn key left) (same : right.rows key = left.rows key) :
    SettledRows tables goesOn key right where
  spans id own := (Work.spans_eq same own).trans (settled.spans id own)
  focus id own := (Work.focus_eq same own).trans (settled.focus id own)
  opened id own := (Work.opened_eq same own).trans (settled.opened id own)

theorem placeSpan_settled (kept : WellKept tables) {key : GameKey} {work : Work}
    (settled : SettledRows tables (tables.goesOn poll key) key work) (sighting : Sighting) :
    (placeSpan poll tables.polls (openByKey tables.spans) work key sighting).1 = tables.home poll key ∧
    ∀ id, id.key = key →
      (placeSpan poll tables.polls (openByKey tables.spans) work key sighting).2.spans.get? id =
        if id = tables.home poll key ∧ tables.goesOn poll key = false then some
          (openedSpan poll sighting)
        else (tables.spans.get? id).map fun row => row.polled poll.now (tables.goesOn poll key) := by
  cases going : tables.goesOn poll key with
  | true =>
    rw [going] at settled
    obtain ⟨home, current⟩ : ∃ home, (openByKey tables.spans).get? key = some home :=
      ⟨_, home_of_goesOn going⟩
    obtain ⟨named, row, there, still⟩ := kept.openByKey_iff.mp current
    have held : work.spans.get? home = some row := by simp [settled.spans home named, there]
    have live : ((openByKey tables.spans).get? key).filter
        (fun id => (work.spans.get? id).any fun span => span.endedAt.isNone) = some home := by
      simp [current, held, still]
    have homeIs : tables.home poll key = home := by simp [Tables.home, going, current]
    refine ⟨by simp only [placeSpan, live, homeIs], fun id own => ?_⟩
    simp only [placeSpan, live, get?_modify, Bool.true_eq_false, and_false, if_false,
      settled.spans id own]
    cases found : tables.spans.get? id with
    | none => simp
    | some span =>
      by_cases here : id = home
      · rw [here, there] at found
        cases found
        simp [here, GameSpan.polled, still]
      · have ended : span.endedAt.isSome := by
          rw [Option.isSome_iff_ne_none]
          intro open_
          exact here (kept.oneSpan found there open_ still (own.trans named.symm))
        simp [here, GameSpan.polled, ended]
  | false =>
    rw [going] at settled
    have dead : ((openByKey tables.spans).get? key).filter
        (fun id => (work.spans.get? id).any fun span => span.endedAt.isNone) = none := by
      cases current : (openByKey tables.spans).get? key with
      | none => rfl
      | some home =>
        obtain ⟨named, row, there, still⟩ := kept.openByKey_iff.mp current
        simp [settled.spans home named, there, still, GameSpan.closed]
    refine ⟨by simp [placeSpan, dead, Tables.home, going], fun id own => ?_⟩
    simp only [placeSpan, dead, Tables.home, going, Bool.false_eq_true, if_false, and_true,
      Dict.get?_set, settled.spans id own]
    by_cases here : id = ⟨tables.polls, key⟩
    · simp [here]
    · rw [if_neg (Ne.symm here), if_neg here]
      cases found : tables.spans.get? id with
      | none => rfl
      | some span => cases ended : span.endedAt <;> simp [GameSpan.polled, ended]

theorem openBySpan_sole (kept : WellKept tables) {key : GameKey} {home : RowId}
    (current : (openByKey tables.spans).get? key = some home) {id : RowId} {row : GameFocus}
    (own : id.key = key) (found : tables.focus.get? id = some row) (opened : row.endedAt = none) :
    (openBySpan tables.focus).get? home = some id := by
  have listed := kept.openBySpan_iff.mpr ⟨row, found, opened, rfl⟩
  have placed := kept.opened_home listed
  rw [(kept.focusDrawn found).2, own, current] at placed
  exact Option.some.inj placed ▸ listed

theorem placeFocus_going (kept : WellKept tables) {key : GameKey} {work : Work} {home : RowId}
    (current : (openByKey tables.spans).get? key = some home)
    (held : ∀ id, id.key = key → work.focus.get? id = tables.focus.get? id)
    (opened : work.focusBySpan.get? home = (openBySpan tables.focus).get? home)
    (state : Option FocusState) :
    (∀ id row, id.key = key → tables.focus.get? id = some row →
      (placeFocus poll tables.polls work key home state).focus.get? id =
        some (row.polled poll.now (decide (some row.state = state)))) ∧
    (∀ id old row, id.key = key → tables.focus.get? id = none → old.key = key →
      tables.focus.get? old = some row → row.endedAt = none → some row.state = state →
      (placeFocus poll tables.polls work key home state).focus.get? id = none) ∧
    (∀ id, id.key = key → tables.focus.get? id = none →
      (∀ old row, old.key = key → tables.focus.get? old = some row → row.endedAt = none →
        some row.state ≠ state) →
      (placeFocus poll tables.polls work key home state).focus.get? id = if id.poll = tables.polls then
        state.map fun state => ⟨home, state, poll.now, poll.now, none⟩ else none) := by
  obtain ⟨named, _, _, _⟩ := kept.openByKey_iff.mp current
  have old : ∀ {id row}, id.key = key → tables.focus.get? id = some row →
      id ≠ ⟨tables.polls, key⟩ := by
    intro id row own found same
    have drawn := (kept.focusDrawn found).1
    rw [same] at drawn
    exact absurd drawn (Nat.lt_irrefl _)
  have fresh : ∀ {id : RowId}, id.key = key → (id = ⟨tables.polls, key⟩ ↔ id.poll = tables.polls) := by
    intro id own
    cases id
    simp_all
  cases stretched : (openBySpan tables.focus).get? home with
  | none =>
    have none_open : ∀ id row, id.key = key → tables.focus.get? id = some row →
        row.endedAt ≠ none := by
      intro id row own found open_
      rw [openBySpan_sole kept current own found open_] at stretched
      cases stretched
    simp only [placeFocus, opened, stretched, openFocus_focus]
    refine ⟨fun id row own found => ?_, fun id before row own _ alike found open_ => ?_,
      fun id own found _ => ?_⟩
    · have ended := Option.isSome_iff_ne_none.mpr (none_open id row own found)
      simp [old own found, held id own, found, GameFocus.polled, ended]
    · exact absurd open_ (none_open before row alike found)
    · simp [held id own, found, fresh own]
  | some stretch =>
    obtain ⟨row, there, open_, placed⟩ := kept.openBySpan_iff.mp stretched
    have alike : stretch.key = key := by rw [← (kept.focusDrawn there).2, placed, named]
    have sole : ∀ id other, id.key = key → tables.focus.get? id = some other →
        other.endedAt = none → id = stretch := by
      intro id other own found still
      rw [openBySpan_sole kept current own found still] at stretched
      exact Option.some.inj stretched
    have ended : ∀ id other, id.key = key → tables.focus.get? id = some other → id ≠ stretch →
        other.endedAt.isSome = true := by
      intro id other own found apart
      rw [Option.isSome_iff_ne_none]
      exact fun still => apart (sole id other own found still)
    simp only [placeFocus, opened, stretched, held stretch alike, there, Option.any_some]
    by_cases same : some row.state = state
    · simp only [same, decide_true, if_true, get?_modify]
      refine ⟨fun id other own found => ?_, fun id _ _ own fresh_ _ _ _ _ => ?_,
        fun id own fresh_ differs => ?_⟩
      · by_cases here : id = stretch
        · rw [here, there] at found
          cases found
          simp [here, held stretch alike, there, GameFocus.polled, open_, same]
        · simp [here, held id own, found, GameFocus.polled, ended id other own found here]
      · have apart : id ≠ stretch := fun here => by rw [here, there] at fresh_; cases fresh_
        simp [apart, held id own, fresh_]
      · exact absurd same (differs stretch row alike there open_)
    · simp only [same, decide_false, Bool.false_eq_true, if_false, openFocus_focus, get?_modify]
      refine ⟨fun id other own found => ?_,
        fun id before other own fresh_ own' found still agrees => ?_, fun id own fresh_ _ => ?_⟩
      · rw [if_neg (old own found)]
        by_cases here : id = stretch
        · rw [here, there] at found
          cases found
          simp [here, held stretch alike, there, GameFocus.polled, open_, same]
        · simp [here, held id own, found, GameFocus.polled, ended id other own found here]
      · rw [sole before other own' found still, there] at found
        cases found
        exact absurd agrees same
      · have apart : id ≠ stretch := fun here => by rw [here, there] at fresh_; cases fresh_
        simp [apart, held id own, fresh_, fresh own]

theorem WellKept.keyed_settled (kept : WellKept tables) :
    Keyed ((openByKey tables.spans).entries.foldl (settle poll) tables.work) :=
  (settle_local kept.openByKey_key).valid_foldl kept.keyed

theorem execute_unseen (kept : WellKept tables) {key : GameKey} (seen : poll.seen.get? key = none) :
    KeyStep poll tables (execute poll tables) key := by
  have fold :=
    @track_local poll tables.polls (openByKey tables.spans) kept.openByKey_key poll.seen.entries
  have absent : key ∉ poll.seen.entries.map Prod.fst := by
    intro member
    obtain ⟨sighting, found⟩ := Dict.mem_keys.mp member
    rw [seen] at found
    cases found
  have rest : tables.goesOn poll key = false := by simp [Tables.goesOn, seen]
  have blind : poll.stateOf key = none := by simp [Poll.stateOf, seen]
  have final := (@settle_rows poll tables kept key).congr (fold.view_absent kept.keyed_settled absent)
  rw [rest] at final
  have spans : ∀ id, id.key = key → (execute poll tables).spans.get? id =
      (tables.spans.get? id).map fun row => row.polled poll.now false := by
    intro id own
    refine (final.spans id own).trans (congrArg (Option.map · _) (funext fun row => ?_))
    cases ended : row.endedAt <;> simp [GameSpan.polled, ended]
  have focus : ∀ id, id.key = key → (execute poll tables).focus.get? id =
      (tables.focus.get? id).map fun row => row.polled poll.now false := by
    intro id own
    refine (final.focus id own).trans (congrArg (Option.map · _) (funext fun row => ?_))
    cases ended : row.endedAt <;> simp [GameFocus.polled, ended]
  constructor
  · intro id row own found
    rw [spans id own, found, rest]
    rfl
  · intro id own fresh
    simp [spans id own, fresh, seen]
  · intro id row own found
    rw [focus id own, found, rest]
    rfl
  · intro id old row own fresh going
    rw [rest] at going
    cases going
  · intro id own fresh _
    simp [focus id own, fresh, blind]

/-- What a poll that sees a game does to its rows, from `work`, where those are settled. -/
structure Sighted (poll : Poll) (tables : Tables) (key : GameKey) (sighting : Sighting)
    (work : Work) : Prop where
  ready : SettledRows tables (tables.goesOn poll key) key work
  spans : ∀ id, id.key = key → (execute poll tables).spans.get? id =
    if id = tables.home poll key ∧ tables.goesOn poll key = false then some (openedSpan poll sighting)
    else (tables.spans.get? id).map fun row => row.polled poll.now (tables.goesOn poll key)
  focus : ∀ id, id.key = key → (execute poll tables).focus.get? id =
    (placeFocus poll tables.polls
      (placeSpan poll tables.polls (openByKey tables.spans) work key sighting).2
      key (tables.home poll key) (poll.stateOf key)).focus.get? id

theorem sighted_of_seen (kept : WellKept tables) {key : GameKey} {sighting : Sighting}
    (seen : poll.seen.get? key = some sighting) : ∃ work, Sighted poll tables key sighting work := by
  have fold :=
    @track_local poll tables.polls (openByKey tables.spans) kept.openByKey_key poll.seen.entries
  obtain ⟨work, _, same, final⟩ :=
    fold.view_present poll.seen.nodup kept.keyed_settled (Dict.get?_eq_some.mp seen)
  have ready := (@settle_rows poll tables kept key).congr same
  obtain ⟨home, placed⟩ := placeSpan_settled kept ready sighting
  have state : poll.stateOf key = focusState sighting poll.windowPid := by simp [Poll.stateOf, seen]
  refine ⟨work, ready, fun id named => ?_, fun id named => ?_⟩
  · refine (Work.spans_eq final named).trans ?_
    simp only [track, placeFocus_spans]
    exact placed id named
  · refine (Work.focus_eq final named).trans ?_
    rw [← home, state]
    rfl

section

variable {key : GameKey} {sighting : Sighting} {work : Work}

theorem Sighted.spanOld (sighted : Sighted poll tables key sighting work) (kept : WellKept tables)
    (id : RowId) (row : GameSpan) (named : id.key = key) (found : tables.spans.get? id = some row) :
    (execute poll tables).spans.get? id = some (row.polled poll.now (tables.goesOn poll key)) := by
  rw [sighted.spans id named, found, if_neg]
  · rfl
  · intro fresh
    obtain ⟨here, rest⟩ := fresh
    have below := (kept.spanDrawn found).1
    simp only [Tables.home, rest, Bool.false_eq_true, if_false] at here
    rw [here] at below
    exact absurd below (Nat.lt_irrefl _)

theorem Sighted.spanNew (sighted : Sighted poll tables key sighting work)
    (seen : poll.seen.get? key = some sighting) (id : RowId) (named : id.key = key)
    (fresh : tables.spans.get? id = none) :
    (execute poll tables).spans.get? id =
      if id.poll = tables.polls ∧ tables.goesOn poll key = false then
        (poll.seen.get? key).map (openedSpan poll) else none := by
  obtain ⟨number, game⟩ := id
  simp only at named
  subst named
  rw [sighted.spans _ rfl, fresh, seen]
  cases going : tables.goesOn poll game <;> simp [Tables.home, going]

theorem Sighted.going (sighted : Sighted poll tables key sighting work) (kept : WellKept tables)
    (seen : poll.seen.get? key = some sighting) (going : tables.goesOn poll key = true) :
    KeyStep poll tables (execute poll tables) key := by
  have ready := sighted.ready
  rw [going] at ready
  have current := home_of_goesOn going
  have sameOpened : ∀ id, (placeSpan poll tables.polls (openByKey tables.spans) work key
      sighting).2.focusBySpan.get? id = work.focusBySpan.get? id :=
        fun id => by rw [placeSpan_focusBySpan]
  obtain ⟨old, stays, new⟩ := @placeFocus_going poll tables kept key
    (placeSpan poll tables.polls (openByKey tables.spans) work key sighting).2 _ current
    (fun id named => by simp [ready.focus id named])
    (by rw [sameOpened, ready.opened _ (kept.openByKey_key _ _ current), if_pos rfl])
      (poll.stateOf key)
  constructor
  · exact sighted.spanOld kept
  · exact sighted.spanNew seen
  · intro id row named found
    rw [sighted.focus id named, old id row named found, going, Bool.true_and]
  · intro id before row named fresh _ alike found open_ agrees
    rw [sighted.focus id named, stays id before row named fresh alike found open_ agrees]
  · intro id named fresh differs
    rw [sighted.focus id named, new id named fresh (differs going)]

theorem Sighted.anew (sighted : Sighted poll tables key sighting work) (kept : WellKept tables)
    (seen : poll.seen.get? key = some sighting) (going : tables.goesOn poll key = false) :
    KeyStep poll tables (execute poll tables) key := by
  have ready := sighted.ready
  rw [going] at ready
  have homeIs : tables.home poll key = ⟨tables.polls, key⟩ := by simp [Tables.home, going]
  have focus : ∀ id, id.key = key → (execute poll tables).focus.get? id =
      if id = ⟨tables.polls, key⟩ then ((poll.stateOf key).map fun state =>
        (⟨tables.home poll key, state, poll.now, poll.now, none⟩ : GameFocus)).or (work.focus.get? id)
      else work.focus.get? id := by
    intro id named
    have unopened : work.focusBySpan.get? ⟨tables.polls, key⟩ = none := by
      simpa using ready.opened ⟨tables.polls, key⟩ rfl
    rw [sighted.focus id named]
    simp only [placeFocus, placeSpan_focusBySpan, homeIs, unopened, openFocus_focus, placeSpan_focus]
  have old : ∀ {id row}, id.key = key → tables.focus.get? id = some row →
      id ≠ ⟨tables.polls, key⟩ := by
    intro id row _ found same
    have below := (kept.focusDrawn found).1
    rw [same] at below
    exact absurd below (Nat.lt_irrefl _)
  constructor
  · exact sighted.spanOld kept
  · exact sighted.spanNew seen
  · intro id row named found
    rw [focus id named, if_neg (old named found), ready.focus id named, found]
    cases ended : row.endedAt <;> simp [GameFocus.polled, ended, going]
  · intro id before row _ _ goes
    rw [going] at goes
    cases goes
  · intro id named fresh _
    obtain ⟨number, game⟩ := id
    simp only at named
    subst named
    rw [focus _ rfl, ready.focus _ rfl, fresh]
    simp

end

theorem execute_keyStep (kept : WellKept tables) (key : GameKey) :
    KeyStep poll tables (execute poll tables) key := by
  cases seen : poll.seen.get? key with
  | none => exact execute_unseen kept seen
  | some sighting =>
    obtain ⟨work, sighted⟩ := sighted_of_seen kept seen
    cases going : tables.goesOn poll key with
    | true => exact sighted.going kept seen going
    | false => exact sighted.anew kept seen going

end Polls

end SysadminAssistant.Games
