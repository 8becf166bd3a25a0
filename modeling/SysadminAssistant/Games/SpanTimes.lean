import SysadminAssistant.Games.SpanPolls
import SysadminAssistant.Library.Timelines

namespace SysadminAssistant.Games

open Library Python

/-! The spans and stretches after a run of polls and restarts. -/

/-- A poll, which is committed or rolled back; or a restart of the daemon. -/
inductive Event where
  | poll (poll : Poll) (committed : Bool)
  | restart

def step (tables : Tables) : Event → Tables
  | .poll poll true => execute poll tables
  | .poll _ false => tables
  | .restart => closeOpenSpans tables

def run (events : List Event) : Tables := events.foldl step .empty

def Poll.sees (poll : Poll) (key : GameKey) : Prop := ∃ sighting, poll.seen.get? key = some sighting

def committedTime : Event → Option Int
  | .poll poll true => some poll.now
  | _ => none

/-- The clock moves on between any two committed polls. -/
def MovesOn (events : List Event) : Prop := (events.filterMap committedTime).Pairwise (· < ·)

def SightedAt (events : List Event) (key : GameKey) (time : Int) : Prop :=
  ∃ poll, .poll poll true ∈ events ∧ poll.sees key ∧ poll.now = time

/-- The span of the game covers the instant. -/
def Tables.SpanAt (tables : Tables) (key : GameKey) (time : Int) (id : RowId) : Prop :=
  ∃ span, tables.spans.get? id = some span ∧ span.key = key ∧ span.startedAt ≤ time ∧
    time ≤ span.lastSeenAt

/-- The stretch of the span covers the instant, with the state. -/
def Tables.FocusAt (tables : Tables) (spanId : RowId) (time : Int) (id : RowId)
    (state : FocusState) : Prop :=
  ∃ row, tables.focus.get? id = some row ∧ row.spanId = spanId ∧ row.state = state ∧
    row.startedAt ≤ time ∧ time ≤ row.lastSeenAt

/-- Which span and which stretch each committed sighting is in. -/
structure Recorded (events : List Event) (tables : Tables) : Prop where
  /-- Two sightings with no committed poll between them. -/
  joined : ∀ {key early first middle second late},
    events = early ++ .poll first true :: middle ++ .poll second true :: late →
    (∀ poll, .poll poll true ∉ middle) → first.sees key → second.sees key →
    ((∃ id, tables.SpanAt key first.now id ∧ tables.SpanAt key second.now id) ↔
      second.now - first.now ≤ second.maxGap ∧ .restart ∉ middle)
  placed : ∀ {poll key}, .poll poll true ∈ events → poll.sees key →
    ∃! id, tables.SpanAt key poll.now id
  focused : ∀ {poll key sighting spanId}, .poll poll true ∈ events →
    poll.seen.get? key = some sighting →
    tables.SpanAt key poll.now spanId → match focusState sighting poll.windowPid with
      | none => ∀ id state, ¬ tables.FocusAt spanId poll.now id state
      | some read => (∃! id, ∃ state, tables.FocusAt spanId poll.now id state) ∧
          ∀ id state, tables.FocusAt spanId poll.now id state → state = read

/-- The tables record the committed sightings of a run. -/
structure Faithful (events : List Event) (tables : Tables) : Prop extends Recorded events tables where
  oneSpan : ∀ {first second left right}, tables.spans.get? first = some left →
    tables.spans.get? second = some right →
    left.key = right.key → left.endedAt = none → right.endedAt = none → first = second
  oneFocus : ∀ {first second left right}, tables.focus.get? first = some left →
    tables.focus.get? second = some right →
    left.spanId = right.spanId → left.endedAt = none → right.endedAt = none → first = second
  disjoint : ∀ {first second left right}, tables.spans.get? first = some left →
    tables.spans.get? second = some right →
    left.key = right.key → first ≠ second → left.lastSeenAt < right.startedAt ∨
      right.lastSeenAt < left.startedAt
  ended : ∀ {id span last}, tables.spans.get? id = some span → span.endedAt = some last →
    last = span.lastSeenAt ∧ SightedAt events span.key last
  inside : ∀ {id row}, tables.focus.get? id = some row →
    ∃ span, tables.spans.get? row.spanId = some span ∧
    span.startedAt ≤ row.startedAt ∧ row.startedAt ≤ row.lastSeenAt ∧ row.lastSeenAt ≤ span.lastSeenAt
  apart : ∀ {first second left right}, tables.focus.get? first = some left →
    tables.focus.get? second = some right → left.spanId = right.spanId → first ≠ second →
    left.lastSeenAt < right.startedAt ∨ right.lastSeenAt < left.startedAt

/-! One poll moves the spans and the stretches along. -/

def GameSpan.stretch (span : GameSpan) : Stretch := ⟨span.startedAt, span.lastSeenAt, span.endedAt⟩

def GameFocus.stretch (row : GameFocus) : Stretch := ⟨row.startedAt, row.lastSeenAt, row.endedAt⟩

def spanRows (tables : Tables) (id : RowId) : Option (GameKey × Stretch) :=
  (tables.spans.get? id).map fun span => (span.key, span.stretch)

def focusRows (tables : Tables) (id : RowId) : Option (RowId × Stretch) :=
  (tables.focus.get? id).map fun row => (row.spanId, row.stretch)

theorem GameSpan.polled_stretch (now : Int) (goesOn : Bool) (span : GameSpan) :
    (span.polled now goesOn).stretch = span.stretch.polled now goesOn := by
  cases ended : span.endedAt <;> cases goesOn <;> simp [GameSpan.polled, Stretch.polled,
    GameSpan.stretch, ended, GameSpan.closed, Stretch.closed]

theorem GameSpan.polled_key (now : Int) (goesOn : Bool) (span : GameSpan) :
    (span.polled now goesOn).key = span.key := by
  cases ended : span.endedAt <;> cases goesOn <;> simp [GameSpan.polled, ended, GameSpan.closed,
    GameSpan.key]

theorem GameFocus.polled_stretch (now : Int) (goesOn : Bool) (row : GameFocus) :
    (row.polled now goesOn).stretch = row.stretch.polled now goesOn := by
  cases ended : row.endedAt <;> cases goesOn <;> simp [GameFocus.polled, Stretch.polled,
    GameFocus.stretch, ended, GameFocus.closed, Stretch.closed]

theorem GameFocus.polled_same (now : Int) (goesOn : Bool) (row : GameFocus) :
    (row.polled now goesOn).spanId = row.spanId ∧ (row.polled now goesOn).state = row.state := by
  cases ended : row.endedAt <;> cases goesOn <;> simp [GameFocus.polled, ended, GameFocus.closed]

section Polls

variable {poll : Poll} {tables : Tables}

theorem seen_key {key : GameKey} {sighting : Sighting} (seen : poll.seen.get? key = some sighting) :
    sighting.key = key := by
  obtain ⟨other, _, same⟩ := List.mem_map.mp (Dict.get?_ofEntries_mem seen)
  cases same
  rfl

theorem home_key (kept : WellKept tables) (key : GameKey) : (tables.home poll key).key = key := by
  simp only [Tables.home]
  split
  · cases current : (openByKey tables.spans).get? key with
    | none => rfl
    | some id => exact (kept.openByKey_iff.mp current).1
  · rfl

theorem span_begun (kept : WellKept tables) {id : RowId} {span : GameSpan}
    (fresh : tables.spans.get? id = none)
    (found : (execute poll tables).spans.get? id = some span) :
    id.poll = tables.polls ∧ tables.goesOn poll id.key = false ∧
      ∃ sighting, poll.seen.get? id.key = some sighting ∧ span = openedSpan poll sighting := by
  rw [(execute_keyStep kept id.key).spanNew id rfl fresh] at found
  split at found
  · rename_i begins
    obtain ⟨sighting, seen, same⟩ := Option.map_eq_some_iff.mp found
    exact ⟨begins.1, begins.2, sighting, seen, same.symm⟩
  · cases found

theorem span_moves (kept : WellKept tables) :
    Moves (spanRows tables) (spanRows (execute poll tables)) poll.now
    fun id => tables.goesOn poll id.key := by
  have begun : ∀ {id group stretch}, spanRows tables id = none →
      spanRows (execute poll tables) id = some (group, stretch) → id = ⟨tables.polls, group⟩ ∧
        tables.goesOn poll group = false ∧ stretch = ⟨poll.now, poll.now, none⟩ := by
    intro id group stretch fresh found
    obtain ⟨span, there, same⟩ := Option.map_eq_some_iff.mp found
    obtain ⟨drawn, rest, sighting, seen, rfl⟩ :=
      span_begun kept (Option.map_eq_none_iff.mp fresh) there
    obtain ⟨rfl, rfl⟩ := Prod.mk.inj same
    have named : (openedSpan poll sighting).key = id.key := seen_key seen
    rw [named]
    exact ⟨by rw [← drawn], rest, rfl⟩
  refine ⟨?_, fun fresh found => (begun fresh found).2.2, ?_, ?_⟩
  · intro id group stretch found
    obtain ⟨span, there, same⟩ := Option.map_eq_some_iff.mp found
    obtain ⟨rfl, rfl⟩ := Prod.mk.inj same
    simp [spanRows, (execute_keyStep kept id.key).spanOld id span rfl there, GameSpan.polled_key,
      GameSpan.polled_stretch]
  · intro first second group left right fresh newer leftRow rightRow
    rw [(begun fresh leftRow).1, (begun newer rightRow).1]
  · intro item other group stretch old fresh found held _
    obtain ⟨span, there, same⟩ := Option.map_eq_some_iff.mp held
    obtain ⟨rfl, rfl⟩ := Prod.mk.inj same
    rw [← (kept.spanDrawn there).2]
    exact (begun fresh found).2.1

/-- A stretch goes on with its span as long as the state that is read stays. -/
def Tables.focusGoesOn (tables : Tables) (poll : Poll) (id : RowId) : Bool :=
  tables.goesOn poll id.key && (tables.focus.get? id).any fun row =>
    decide (some row.state = poll.stateOf id.key)

theorem focus_old (kept : WellKept tables) {id : RowId} {row : GameFocus}
    (found : tables.focus.get? id = some row) :
    (execute poll tables).focus.get? id = some (row.polled poll.now (tables.focusGoesOn poll id)) := by
  rw [(execute_keyStep kept id.key).focusOld id row rfl found, Tables.focusGoesOn, found,
    Option.any_some]

theorem focus_begun (kept : WellKept tables) {id : RowId} {row : GameFocus}
    (fresh : tables.focus.get? id = none) (found : (execute poll tables).focus.get? id = some row) :
    id.poll = tables.polls ∧ (∃ state, poll.stateOf id.key = some state ∧
      row = ⟨tables.home poll id.key, state, poll.now, poll.now, none⟩) ∧
    ∀ old other, tables.focus.get? old = some other → old.key = id.key → other.endedAt = none →
      tables.focusGoesOn poll old = false := by
  have steps := @execute_keyStep poll tables kept id.key
  have differs : ∀ old other, tables.focus.get? old = some other → old.key = id.key →
      other.endedAt = none → tables.focusGoesOn poll old = false := by
    intro old other held named opened
    by_contra goes
    simp only [Tables.focusGoesOn, held, Option.any_some, Bool.not_eq_false, Bool.and_eq_true,
      decide_eq_true_eq, named] at goes
    rw [steps.focusStays id old other rfl fresh goes.1 named held opened goes.2] at found
    cases found
  have unlike : tables.goesOn poll id.key = true → ∀ old other, old.key = id.key →
      tables.focus.get? old = some other →
      other.endedAt = none → some other.state ≠ poll.stateOf id.key := by
    intro goes old other named held opened same
    have stops := differs old other held named opened
    simp [Tables.focusGoesOn, held, named, goes, same] at stops
  rw [steps.focusNew id rfl fresh unlike] at found
  split at found
  · rename_i drawn
    obtain ⟨state, read, same⟩ := Option.map_eq_some_iff.mp found
    exact ⟨drawn, ⟨state, read, same.symm⟩, differs⟩
  · cases found

theorem focus_moves (kept : WellKept tables) :
    Moves (focusRows tables) (focusRows (execute poll tables)) poll.now
    (tables.focusGoesOn poll) := by
  have begun : ∀ {id group stretch}, focusRows tables id = none →
      focusRows (execute poll tables) id = some (group, stretch) → id = ⟨tables.polls, group.key⟩ ∧
        stretch = ⟨poll.now, poll.now, none⟩ ∧
        ∀ old other, tables.focus.get? old = some other → old.key = group.key →
          other.endedAt = none → tables.focusGoesOn poll old = false := by
    intro id group stretch fresh found
    obtain ⟨row, there, same⟩ := Option.map_eq_some_iff.mp found
    obtain ⟨drawn, ⟨state, _, rfl⟩, stops⟩ := focus_begun kept (Option.map_eq_none_iff.mp fresh) there
    obtain ⟨rfl, rfl⟩ := Prod.mk.inj same
    have named := @home_key poll tables kept id.key
    exact ⟨by rw [named, ← drawn], rfl, by rw [named]; exact stops⟩
  refine ⟨?_, fun fresh found => (begun fresh found).2.1, ?_, ?_⟩
  · intro id group stretch found
    obtain ⟨row, there, same⟩ := Option.map_eq_some_iff.mp found
    obtain ⟨rfl, rfl⟩ := Prod.mk.inj same
    simp [focusRows, focus_old kept there, GameFocus.polled_same, GameFocus.polled_stretch]
  · intro first second group left right fresh newer leftRow rightRow
    rw [(begun fresh leftRow).1, (begun newer rightRow).1]
  · intro item other group stretch old fresh found held opened
    obtain ⟨row, there, same⟩ := Option.map_eq_some_iff.mp held
    obtain ⟨rfl, rfl⟩ := Prod.mk.inj same
    exact (begun fresh found).2.2 other row there (kept.focusDrawn there).2.symm opened

theorem spanAt_iff {key : GameKey} {time : Int} {id : RowId} : tables.SpanAt key time id ↔
    ∃ stretch, spanRows tables id = some (key, stretch) ∧ stretch.covers time := by
  constructor
  · intro at_
    obtain ⟨span, found, rfl, covers⟩ := at_
    exact ⟨span.stretch, by simp [spanRows, found], covers⟩
  · intro at_
    obtain ⟨stretch, found, covers⟩ := at_
    obtain ⟨span, there, same⟩ := Option.map_eq_some_iff.mp found
    obtain ⟨rfl, rfl⟩ := Prod.mk.inj same
    exact ⟨span, there, rfl, covers⟩

theorem spanAt_now {times : Int → Prop} {tip : Option Int} (kept : WellKept tables)
    (line : Timeline (spanRows tables) times tip) (later : ∀ time, times time → time < poll.now)
    {key : GameKey} {id : RowId} :
    (execute poll tables).SpanAt key poll.now id ↔ poll.sees key ∧ id = tables.home poll key := by
  have moves := @span_moves poll tables kept
  rw [spanAt_iff]
  constructor
  · intro at_
    obtain ⟨stretch, found, covers⟩ := at_
    have opened := (moves.covers_now line later found).mp covers
    rcases moves.origin found with ⟨old, there, rfl⟩ | ⟨fresh, rfl⟩
    · obtain ⟨still, goes⟩ := Stretch.polled_open opened
      obtain ⟨span, held, same⟩ := Option.map_eq_some_iff.mp there
      obtain ⟨rfl, rfl⟩ := Prod.mk.inj same
      rw [(kept.spanDrawn held).2]
      have current := kept.openByKey_iff.mpr ⟨rfl, span, held, still⟩
      refine ⟨?_, by simp [Tables.home, goes, current]⟩
      simp only [Tables.goesOn, Bool.and_eq_true] at goes
      exact Option.isSome_iff_exists.mp goes.1
    · obtain ⟨span, held, same⟩ := Option.map_eq_some_iff.mp found
      obtain ⟨drawn, rest, sighting, seen, rfl⟩ :=
        span_begun kept (Option.map_eq_none_iff.mp fresh) held
      obtain ⟨rfl, _⟩ := Prod.mk.inj same
      have named : (openedSpan poll sighting).key = id.key := seen_key seen
      rw [named]
      exact ⟨⟨sighting, seen⟩, by simp [Tables.home, rest, ← drawn]⟩
  · intro placed
    obtain ⟨⟨sighting, seen⟩, rfl⟩ := placed
    have steps := @execute_keyStep poll tables kept key
    cases going : tables.goesOn poll key with
    | true =>
      obtain ⟨named, span, held, still⟩ := kept.openByKey_iff.mp (home_of_goesOn going)
      have row : spanRows tables (tables.home poll key) = some (key, span.stretch) := by
        simp [spanRows, held, (kept.spanDrawn held).2, named]
      have after := moves.old row
      refine ⟨_, after, (moves.covers_now line later after).mpr ?_⟩
      have opened : span.stretch.endedAt = none := still
      simp [Stretch.polled, opened, named, going]
    | false =>
      have homeIs : tables.home poll key = ⟨tables.polls, key⟩ := by simp [Tables.home, going]
      have fresh : tables.spans.get? ⟨tables.polls, key⟩ = none := by
        cases held : tables.spans.get? ⟨tables.polls, key⟩ with
        | none => rfl
        | some span => exact absurd (kept.spanDrawn held).1 (Nat.lt_irrefl _)
      have begun : (execute poll tables).spans.get? ⟨tables.polls, key⟩ =
          some (openedSpan poll sighting) := by
        rw [steps.spanNew ⟨tables.polls, key⟩ rfl fresh, if_pos ⟨rfl, going⟩, seen]
        rfl
      have named : (openedSpan poll sighting).key = key := seen_key seen
      rw [homeIs]
      exact ⟨⟨poll.now, poll.now, none⟩,
        by rw [spanRows, begun, Option.map_some, named]; rfl, le_rfl, le_rfl⟩

theorem focusAt_rows {spanId : RowId} {time : Int} {id : RowId} {state : FocusState}
    (at_ : tables.FocusAt spanId time id state) :
    ∃ stretch, focusRows tables id = some (spanId, stretch) ∧ stretch.covers time := by
  obtain ⟨row, found, rfl, _, covers⟩ := at_
  exact ⟨row.stretch, by simp [focusRows, found], covers⟩

theorem focusAt_now {times : Int → Prop} {tip : Option Int} (kept : WellKept tables)
    (line : Timeline (focusRows tables) times tip) (later : ∀ time, times time → time < poll.now)
    {spanId id : RowId} {state : FocusState}
    (at_ : (execute poll tables).FocusAt spanId poll.now id state) :
    poll.stateOf spanId.key = some state ∧
      ∃ row, (execute poll tables).focus.get? id = some row ∧ row.spanId = spanId ∧
        row.endedAt = none := by
  have moves := @focus_moves poll tables kept
  obtain ⟨stretch, found, covers⟩ := focusAt_rows at_
  have opened := (moves.covers_now line later found).mp covers
  obtain ⟨row, there, placed, read, _⟩ := at_
  have same : stretch = row.stretch := by
    rw [focusRows, there] at found
    exact (Prod.mk.inj (Option.some.inj found)).2.symm
  have still : row.endedAt = none := by rw [same] at opened; exact opened
  refine ⟨?_, row, there, placed, still⟩
  cases before : tables.focus.get? id with
  | none =>
    obtain ⟨_, ⟨state', reads, rfl⟩, _⟩ := focus_begun kept before there
    cases read
    rw [← placed]
    simpa only [home_key kept] using reads
  | some old =>
    have shape := Option.some.inj ((focus_old kept before).symm.trans there)
    have goes : tables.focusGoesOn poll id = true := by
      have stretched : (old.stretch.polled poll.now (tables.focusGoesOn poll id)).endedAt = none := by
        rw [← GameFocus.polled_stretch, shape]
        exact still
      exact (Stretch.polled_open stretched).2
    obtain ⟨ofSpan, ofState⟩ := old.polled_same poll.now (tables.focusGoesOn poll id)
    rw [shape] at ofSpan ofState
    simp only [Tables.focusGoesOn, before, Option.any_some, Bool.and_eq_true, decide_eq_true_eq]
      at goes
    rw [← placed, ofSpan, (kept.focusDrawn before).2, ← goes.2, ← ofState, read]

theorem focusAt_home {times : Int → Prop} {tip : Option Int} (kept : WellKept tables)
    (line : Timeline (focusRows tables) times tip) (later : ∀ time, times time → time < poll.now)
    {key : GameKey} {state : FocusState} (read : poll.stateOf key = some state) :
    ∃ id, (execute poll tables).FocusAt (tables.home poll key) poll.now id state := by
  have steps := @execute_keyStep poll tables kept key
  by_cases stays : tables.goesOn poll key = true ∧ ∃ old row, old.key = key ∧
    tables.focus.get? old = some row ∧
      row.endedAt = none ∧ some row.state = poll.stateOf key
  · obtain ⟨going, old, row, named, found, opened, same⟩ := stays
    have listed := kept.opened_home (kept.openBySpan_iff.mpr ⟨row, found, opened, rfl⟩)
    rw [(kept.focusDrawn found).2, named, home_of_goesOn going] at listed
    have after := steps.focusOld old row named found
    have goes : (tables.goesOn poll key && decide (some row.state = poll.stateOf key)) = true := by
      simp [going, same]
    rw [goes] at after
    have shown : focusRows tables old = some (row.spanId, row.stretch) := by simp [focusRows, found]
    have began := later _ (line.timed shown).1
    refine ⟨old, _, after, ?_, ?_, ?_, ?_⟩
    · simp [GameFocus.polled, opened, Option.some.inj listed]
    · rw [read] at same
      simp [GameFocus.polled, opened, Option.some.inj same]
    · simp only [GameFocus.polled, opened, Option.isSome_none, Bool.false_eq_true, if_false, if_true]
      exact began.le
    · simp [GameFocus.polled, opened]
  · have fresh : tables.focus.get? ⟨tables.polls, key⟩ = none := by
      cases held : tables.focus.get? ⟨tables.polls, key⟩ with
      | none => rfl
      | some row => exact absurd (kept.focusDrawn held).1 (Nat.lt_irrefl _)
    have begun :=
      steps.focusNew ⟨tables.polls, key⟩ rfl fresh fun going old row named found opened same =>
      stays ⟨going, old, row, named, found, opened, same⟩
    rw [if_pos rfl, read] at begun
    exact ⟨_, _, begun, rfl, rfl, le_rfl, le_rfl⟩

end Polls

end SysadminAssistant.Games
