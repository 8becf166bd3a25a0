import Mathlib.Data.List.Induction
import SysadminAssistant.Games.SpanTimes

namespace SysadminAssistant.Games

open Library Python

/-! Every run records its sightings faithfully: what is known after each event, by induction. -/

def Times (events : List Event) (time : Int) : Prop :=
  ∃ poll, .poll poll true ∈ events ∧ poll.now = time

def tipStep (newest : Option Poll) : Event → Option Poll
  | .poll poll true => some poll
  | .poll _ false => newest
  | .restart => none

/-- The newest committed poll, unless the daemon has been restarted since. -/
def tip (events : List Event) : Option Poll := events.foldl tipStep none

theorem tip_concat (events : List Event) (event : Event) :
    tip (events ++ [event]) = tipStep (tip events) event := by
  rw [tip, List.foldl_append]
  rfl

theorem tipStep_quiet {middle : List Event} (quiet : ∀ poll, .poll poll true ∉ middle)
    (newest : Option Poll) : (middle.foldl tipStep newest = none ∧ .restart ∈ middle) ∨
      (middle.foldl tipStep newest = newest ∧ .restart ∉ middle) := by
  induction middle generalizing newest with
  | nil => exact Or.inr ⟨rfl, List.not_mem_nil⟩
  | cons event rest ih =>
    have later : ∀ poll, .poll poll true ∉ rest :=
      fun poll member => quiet poll (List.mem_cons_of_mem _ member)
    match event with
    | .poll poll true => exact absurd List.mem_cons_self (quiet poll)
    | .poll poll false => simpa [tipStep] using ih later newest
    | .restart =>
      refine Or.inl ⟨?_, List.mem_cons_self⟩
      rcases ih later none with ⟨same, _⟩ | ⟨same, _⟩ <;> exact same

theorem tip_quiet {early middle : List Event} {first : Poll}
    (quiet : ∀ poll, .poll poll true ∉ middle) :
    (tip (early ++ .poll first true :: middle) = none ∧ .restart ∈ middle) ∨
      (tip (early ++ .poll first true :: middle) = some first ∧ .restart ∉ middle) := by
  rw [tip, List.foldl_append, List.foldl_cons]
  exact tipStep_quiet quiet (some first)

/-- What is known after a run. -/
structure Tracks (events : List Event) (tables : Tables) : Prop where
  kept : WellKept tables
  spanLine : Timeline (spanRows tables) (Times events) ((tip events).map Poll.now)
  focusLine : Timeline (focusRows tables) (Times events) ((tip events).map Poll.now)
  newest : ∀ last, (tip events).map Poll.now = some last → ∀ time, Times events time → time ≤ last
  live : ∀ {poll key}, tip events = some poll → poll.sees key →
    ∃ id span, tables.spans.get? id = some span ∧ span.key = key ∧ span.endedAt = none
  sighted : ∀ {id span}, tables.spans.get? id = some span → SightedAt events span.key span.lastSeenAt
  inside : ∀ {id row}, tables.focus.get? id = some row →
    ∃ span, tables.spans.get? row.spanId = some span ∧
    span.startedAt ≤ row.startedAt ∧ row.lastSeenAt ≤ span.lastSeenAt
  recorded : Recorded events tables

theorem Recorded.append {events : List Event} {tables after : Tables} {event : Event}
    (recorded : Recorded events tables)
    (spans : ∀ {key time id}, Times events time →
    (after.SpanAt key time id ↔ tables.SpanAt key time id))
    (focus : ∀ {spanId time id state}, Times events time →
      (after.FocusAt spanId time id state ↔ tables.FocusAt spanId time id state))
    (joined : ∀ {second key early first middle}, event = .poll second true →
      events = early ++ .poll first true :: middle → (∀ poll, .poll poll true ∉ middle) →
        first.sees key →
      second.sees key → ((∃ id, after.SpanAt key first.now id ∧ after.SpanAt key second.now id) ↔
        second.now - first.now ≤ second.maxGap ∧ .restart ∉ middle))
    (placed : ∀ {poll key}, event = .poll poll true → poll.sees key →
      ∃! id, after.SpanAt key poll.now id)
    (focused : ∀ {poll key sighting spanId}, event = .poll poll true →
      poll.seen.get? key = some sighting →
      after.SpanAt key poll.now spanId → match focusState sighting poll.windowPid with
        | none => ∀ id state, ¬ after.FocusAt spanId poll.now id state
        | some read => (∃! id, ∃ state, after.FocusAt spanId poll.now id state) ∧
            ∀ id state, after.FocusAt spanId poll.now id state → state = read) :
    Recorded (events ++ [event]) after := by
  refine ⟨?_, ?_, ?_⟩
  · intro key early first middle second late shape quiet firstSees secondSees
    rcases List.eq_nil_or_concat late with rfl | ⟨init, last, rfl⟩
    · obtain ⟨before, same⟩ := List.append_inj' shape rfl
      exact joined (List.cons.inj same).1 before quiet firstSees secondSees
    · rw [List.concat_eq_append, ← List.cons_append, ← List.append_assoc] at shape
      obtain ⟨before, _⟩ := List.append_inj' shape rfl
      have firstTime : Times events first.now := ⟨first, by rw [before]; simp, rfl⟩
      have secondTime : Times events second.now := ⟨second, by rw [before]; simp, rfl⟩
      simp only [spans firstTime, spans secondTime]
      exact recorded.joined before quiet firstSees secondSees
  · intro poll key member sees
    rcases List.mem_append.mp member with earlier | here
    · simpa only [spans ⟨poll, earlier, rfl⟩] using recorded.placed earlier sees
    · exact placed (List.mem_singleton.mp here).symm sees
  · intro poll key sighting spanId member seen at_
    rcases List.mem_append.mp member with earlier | here
    · have time : Times events poll.now := ⟨poll, earlier, rfl⟩
      have old := recorded.focused earlier seen ((spans time).mp at_)
      cases read : focusState sighting poll.windowPid with
      | none =>
        rw [read] at old
        intro id state now
        exact old id state ((focus time).mp now)
      | some state =>
        rw [read] at old
        simpa only [focus time] using old
    · exact focused (List.mem_singleton.mp here).symm seen at_

/-! A committed poll. -/

section Step

variable {events : List Event} {tables : Tables} {poll : Poll}

theorem times_concat {time : Int} :
    Times (events ++ [.poll poll true]) time ↔ Times events time ∨ time = poll.now := by
  simp only [Times, List.mem_append, List.mem_singleton, Event.poll.injEq, and_true]
  constructor
  · intro known
    obtain ⟨other, earlier | rfl, same⟩ := known
    · exact Or.inl ⟨other, earlier, same⟩
    · exact Or.inr same.symm
  · intro known
    rcases known with ⟨other, earlier, same⟩ | rfl
    · exact ⟨other, Or.inl earlier, same⟩
    · exact ⟨poll, Or.inr rfl, rfl⟩

variable (tracks : Tracks events tables) (later : ∀ time, Times events time → time < poll.now)

include tracks later

theorem Tracks.spanAt_old {key : GameKey} {time : Int} {id : RowId} (known : Times events time) :
    (execute poll tables).SpanAt key time id ↔ tables.SpanAt key time id := by
  rw [spanAt_iff, spanAt_iff]
  exact (span_moves tracks.kept).covers_old tracks.spanLine tracks.newest later known id key

theorem Tracks.focusAt_old {spanId : RowId} {time : Int} {id : RowId} {state : FocusState}
    (known : Times events time) :
    (execute poll tables).FocusAt spanId time id state ↔ tables.FocusAt spanId time id state := by
  have covers :=
    (focus_moves tracks.kept).covers_old tracks.focusLine tracks.newest later known id spanId
  constructor
  · intro at_
    obtain ⟨stretch, found, within⟩ := covers.mp (focusAt_rows at_)
    obtain ⟨row, there, placed, read, _⟩ := at_
    obtain ⟨old, held, same⟩ := Option.map_eq_some_iff.mp found
    obtain ⟨ofSpan, rfl⟩ := Prod.mk.inj same
    rw [focus_old tracks.kept held] at there
    cases there
    exact ⟨old, held, ofSpan, (old.polled_same _ _).2.symm.trans read, within⟩
  · intro at_
    obtain ⟨stretch, found, within⟩ := covers.mpr (focusAt_rows at_)
    obtain ⟨old, held, _, read, _⟩ := at_
    obtain ⟨row, there, same⟩ := Option.map_eq_some_iff.mp found
    obtain ⟨ofSpan, rfl⟩ := Prod.mk.inj same
    rw [focus_old tracks.kept held] at there
    cases there
    exact ⟨_, focus_old tracks.kept held, ofSpan, (old.polled_same _ _).2.trans read, within⟩

theorem Tracks.inside_after {id : RowId} {row : GameFocus}
    (found : (execute poll tables).focus.get? id = some row) :
    ∃ span, (execute poll tables).spans.get? row.spanId = some span ∧
      (row.endedAt = none → span.endedAt = none) ∧
      span.startedAt ≤ row.startedAt ∧ row.lastSeenAt ≤ span.lastSeenAt := by
  have kept := tracks.kept
  cases before : tables.focus.get? id with
  | some old =>
    rw [focus_old kept before] at found
    cases found
    obtain ⟨span, there, began, seen⟩ := tracks.inside before
    obtain ⟨other, held, opens⟩ := kept.focusSpan before
    rw [there] at held
    cases held
    have own := (kept.focusDrawn before).2
    have after := (@execute_keyStep poll tables kept old.spanId.key).spanOld _ span rfl there
    have shown : spanRows tables old.spanId = some (span.key, span.stretch) := by
      rw [spanRows, there]; rfl
    have past : span.lastSeenAt < poll.now := later _ (tracks.spanLine.timed shown).2
    have together : tables.focusGoesOn poll id = true → tables.goesOn poll old.spanId.key = true := by
      intro goes
      simp only [Tables.focusGoesOn, Bool.and_eq_true] at goes
      rw [own]
      exact goes.1
    refine ⟨_, by rw [(old.polled_same _ _).1]; exact after, ?_⟩
    cases ended : old.endedAt with
    | some last =>
      simp only [GameFocus.polled, ended, Option.isSome_some, if_true, reduceCtorEq,
        false_implies, true_and]
      cases spanEnded : span.endedAt <;> cases tables.goesOn poll old.spanId.key <;>
        simp [GameSpan.polled, spanEnded, GameSpan.closed] <;> omega
    | none =>
      have spanOpen := opens ended
      cases goes : tables.focusGoesOn poll id with
      | true => simp [GameFocus.polled, GameSpan.polled, ended, spanOpen, together goes, began]
      | false =>
        cases tables.goesOn poll old.spanId.key <;>
          simp [GameFocus.polled, GameSpan.polled, ended, spanOpen, GameFocus.closed,
            GameSpan.closed] <;> omega
  | none =>
    obtain ⟨_, ⟨state, read, rfl⟩, _⟩ := focus_begun kept before found
    have sees : poll.sees id.key := by
      simp only [Poll.stateOf, Option.bind_eq_some_iff] at read
      obtain ⟨sighting, seen, _⟩ := read
      exact ⟨sighting, seen⟩
    have at_ := (spanAt_now kept tracks.spanLine later).mpr ⟨sees, rfl⟩
    obtain ⟨span, there, named, began, seen⟩ := at_
    have shown : spanRows (execute poll tables) (tables.home poll id.key) =
        some (span.key, span.stretch) := by
      rw [spanRows, there]
      rfl
    exact ⟨span, there, fun _ => ((span_moves kept).covers_now tracks.spanLine later shown).mp
      ⟨began, seen⟩, began, seen⟩

theorem Tracks.kept_after : WellKept (execute poll tables) := by
  have kept := tracks.kept
  have drawn : ∀ {id span}, (execute poll tables).spans.get? id = some span →
      id.poll < (execute poll tables).polls ∧ span.key = id.key := by
    intro id span found
    cases before : tables.spans.get? id with
    | some old =>
      rw [(execute_keyStep kept id.key).spanOld id old rfl before] at found
      cases found
      exact ⟨Nat.lt_succ_of_lt (kept.spanDrawn before).1,
        (old.polled_key _ _).trans (kept.spanDrawn before).2⟩
    | none =>
      obtain ⟨drawn, _, sighting, seen, rfl⟩ := span_begun kept before found
      exact ⟨drawn ▸ Nat.lt_succ_self _, seen_key seen⟩
  refine ⟨drawn, ?_, ?_, ?_, ?_⟩
  · intro id row found
    cases before : tables.focus.get? id with
    | some old =>
      rw [focus_old kept before] at found
      cases found
      rw [(old.polled_same _ _).1]
      exact ⟨Nat.lt_succ_of_lt (kept.focusDrawn before).1, (kept.focusDrawn before).2⟩
    | none =>
      obtain ⟨drawn, ⟨state, _, rfl⟩, _⟩ := focus_begun kept before found
      exact ⟨drawn ▸ Nat.lt_succ_self _, home_key kept _⟩
  · intro first second left right leftRow rightRow leftOpen rightOpen same
    have leftShown : spanRows (execute poll tables) first = some (left.key, left.stretch) := by
      rw [spanRows, leftRow]
      rfl
    have rightShown : spanRows (execute poll tables) second = some (left.key, right.stretch) := by
      rw [spanRows, rightRow, (drawn leftRow).2, same, ← (drawn rightRow).2]
      rfl
    exact (span_moves kept).oneOpen tracks.spanLine leftShown rightShown leftOpen rightOpen
  · intro first second left right leftRow rightRow leftOpen rightOpen same
    have leftShown : focusRows (execute poll tables) first = some (left.spanId, left.stretch) := by
      rw [focusRows, leftRow]
      rfl
    have rightShown : focusRows (execute poll tables) second = some (left.spanId, right.stretch) := by
      rw [focusRows, rightRow, same]
      rfl
    exact (focus_moves kept).oneOpen tracks.focusLine leftShown rightShown leftOpen rightOpen
  · intro id row found
    obtain ⟨span, there, opens, _⟩ := tracks.inside_after later found
    exact ⟨span, there, opens⟩

theorem Tracks.recorded_after : Recorded (events ++ [.poll poll true]) (execute poll tables) := by
  have kept := tracks.kept
  have now : ∀ {key id}, (execute poll tables).SpanAt key poll.now id ↔ poll.sees key ∧
      id = tables.home poll key :=
    spanAt_now kept tracks.spanLine later
  refine tracks.recorded.append (tracks.spanAt_old later) (tracks.focusAt_old later) ?_ ?_ ?_
  · intro second key early first middle same shape quiet firstSees secondSees
    cases same
    have known : Times events first.now := ⟨first, by rw [shape]; simp, rfl⟩
    have reaches : (∃ id, (execute poll tables).SpanAt key first.now id ∧
        (execute poll tables).SpanAt key poll.now id) ↔
          tables.SpanAt key first.now (tables.home poll key) := by
      simp only [now, tracks.spanAt_old later known]
      constructor
      · intro both
        obtain ⟨id, at_, _, rfl⟩ := both
        exact at_
      · intro at_
        exact ⟨_, at_, secondSees, rfl⟩
    rw [reaches]
    obtain ⟨sighting, seen⟩ := secondSees
    have newest := @tip_quiet early middle first quiet
    rw [← shape] at newest
    constructor
    · intro at_
      obtain ⟨span, there, _, _⟩ := at_
      cases going : tables.goesOn poll key with
      | false =>
        have homeIs : tables.home poll key = ⟨tables.polls, key⟩ := by simp [Tables.home, going]
        rw [homeIs] at there
        exact absurd (kept.spanDrawn there).1 (Nat.lt_irrefl _)
      | true =>
        obtain ⟨_, row, held, still⟩ := kept.openByKey_iff.mp (home_of_goesOn going)
        have shown : spanRows tables (tables.home poll key) = some (row.key, row.stretch) := by
          rw [spanRows, held]
          rfl
        have atTip := tracks.spanLine.openAt shown still
        rcases newest with ⟨none_, _⟩ | ⟨some_, unstarted⟩
        · rw [none_] at atTip
          cases atTip
        · rw [some_] at atTip
          have lastSeen : first.now = row.lastSeenAt := Option.some.inj atTip
          simp only [Tables.goesOn, seen, home_of_goesOn going, held, Option.isSome_some,
            Option.any_some, Bool.true_and, decide_eq_true_eq] at going
          exact ⟨by rw [lastSeen]; exact going, unstarted⟩
    · intro close
      obtain ⟨gap, unstarted⟩ := close
      have some_ : tip events = some first := by
        rcases newest with ⟨_, restarted⟩ | ⟨some_, _⟩
        · exact absurd restarted unstarted
        · exact some_
      obtain ⟨id, span, there, named, opened⟩ := tracks.live some_ firstSees
      have shown : spanRows tables id = some (span.key, span.stretch) := by
        rw [spanRows, there]
        rfl
      have atTip := tracks.spanLine.openAt shown opened
      rw [some_] at atTip
      have lastSeen : first.now = span.lastSeenAt := Option.some.inj atTip
      have ordered : span.startedAt ≤ span.lastSeenAt := tracks.spanLine.ordered shown
      have current :=
        kept.openByKey_iff.mpr ⟨(kept.spanDrawn there).2.symm.trans named, span, there, opened⟩
      have going : tables.goesOn poll key = true := by
        simp only [Tables.goesOn, seen, current, there, ← lastSeen, Option.isSome_some,
          Option.any_some, Bool.true_and, decide_eq_true_eq]
        exact gap
      have homeIs : tables.home poll key = id := by
        have same := home_of_goesOn going
        rw [current] at same
        exact (Option.some.inj same).symm
      rw [homeIs]
      exact ⟨span, there, named, by omega, by omega⟩
  · intro other key same sees
    cases same
    simp only [now, sees, true_and]
    exact ⟨_, rfl, fun id same => same⟩
  · intro other key sighting spanId same seen at_
    cases same
    obtain ⟨_, rfl⟩ := now.mp at_
    have named := @home_key poll tables kept key
    have readOf : poll.stateOf key = focusState sighting poll.windowPid := by simp [Poll.stateOf, seen]
    have reads : ∀ {id state}, (execute poll tables).FocusAt (tables.home poll key) poll.now id state →
        focusState sighting poll.windowPid = some state := by
      intro id state at_
      have read := (focusAt_now kept tracks.focusLine later at_).1
      rwa [named, readOf] at read
    cases read : focusState sighting poll.windowPid with
    | none =>
      intro id state at_
      rw [reads at_] at read
      cases read
    | some state =>
      obtain ⟨id, at_⟩ := focusAt_home kept tracks.focusLine later (readOf.trans read)
      refine ⟨⟨id, ⟨state, at_⟩, ?_⟩, ?_⟩
      · intro other_ found
        obtain ⟨state', there⟩ := found
        obtain ⟨_, left, leftRow, leftOf, leftOpen⟩ := focusAt_now kept tracks.focusLine later there
        obtain ⟨_, right, rightRow, rightOf, rightOpen⟩ := focusAt_now kept tracks.focusLine later at_
        exact (tracks.kept_after later).oneFocus leftRow rightRow leftOpen rightOpen
          (leftOf.trans rightOf.symm)
      · intro other_ state' there
        have same := (reads there).symm.trans read
        exact Option.some.inj same

theorem Tracks.committed : Tracks (events ++ [.poll poll true]) (execute poll tables) := by
  have kept := tracks.kept
  have tipNow : (tip (events ++ [.poll poll true])).map Poll.now = some poll.now := by
    rw [tip_concat]
    rfl
  have grows : ∀ time, Times events time ∨ time = poll.now →
      Times (events ++ [.poll poll true]) time :=
    fun time => times_concat.mpr
  refine ⟨tracks.kept_after later, ?_, ?_, ?_, ?_, ?_, ?_, tracks.recorded_after later⟩
  · rw [tipNow]
    exact ((span_moves kept).timeline tracks.spanLine tracks.newest later).imp grows
  · rw [tipNow]
    exact ((focus_moves kept).timeline tracks.focusLine tracks.newest later).imp grows
  · intro last same time known
    rw [tipNow] at same
    cases same
    rcases times_concat.mp known with earlier | rfl
    · exact (later time earlier).le
    · exact le_rfl
  · intro other key same sees
    rw [tip_concat] at same
    cases same
    obtain ⟨span, there, named, began, seen⟩ := (spanAt_now kept tracks.spanLine later).mpr ⟨sees, rfl⟩
    have shown : spanRows (execute poll tables) (tables.home poll key) =
        some (span.key, span.stretch) := by
      rw [spanRows, there]
      rfl
    exact ⟨_, span, there, named, ((span_moves kept).covers_now tracks.spanLine later shown).mp
      ⟨began, seen⟩⟩
  · intro id span found
    have more : ∀ {key time}, SightedAt events key time →
        SightedAt (events ++ [.poll poll true]) key time := by
      intro key time sighted
      obtain ⟨other, member, sees, same⟩ := sighted
      exact ⟨other, List.mem_append_left _ member, sees, same⟩
    have here : ∀ {key}, poll.sees key → SightedAt (events ++ [.poll poll true]) key poll.now :=
      fun sees => ⟨poll, by simp, sees, rfl⟩
    cases before : tables.spans.get? id with
    | some old =>
      rw [(execute_keyStep kept id.key).spanOld id old rfl before] at found
      cases found
      rw [old.polled_key]
      have lasts := old.stretch.polled_lastSeenAt poll.now (tables.goesOn poll id.key)
      rw [← old.polled_stretch] at lasts
      rcases lasts with same | ⟨opened, goes⟩
      · have unmoved : (old.polled poll.now (tables.goesOn poll id.key)).lastSeenAt =
            old.lastSeenAt := same
        rw [unmoved]
        exact more (tracks.sighted before)
      · have still : old.endedAt = none := opened
        have moved : (old.polled poll.now (tables.goesOn poll id.key)).lastSeenAt = poll.now := by
          simp [GameSpan.polled, still, goes]
        rw [moved, (kept.spanDrawn before).2]
        simp only [Tables.goesOn, Bool.and_eq_true] at goes
        exact here (Option.isSome_iff_exists.mp goes.1)
    | none =>
      obtain ⟨_, _, sighting, seen, rfl⟩ := span_begun kept before found
      have named : (openedSpan poll sighting).key = id.key := seen_key seen
      rw [named]
      exact here ⟨sighting, seen⟩
  · intro id row found
    obtain ⟨span, there, _, within⟩ := tracks.inside_after later found
    exact ⟨span, there, within⟩

end Step

/-! A poll that is rolled back, and a restart. -/

theorem Times.concat_other {events : List Event} {event : Event}
    (other : ∀ poll, event ≠ .poll poll true) (time : Int) :
    Times (events ++ [event]) time ↔ Times events time := by
  constructor
  · intro known
    obtain ⟨poll, member, same⟩ := known
    rcases List.mem_append.mp member with earlier | here
    · exact ⟨poll, earlier, same⟩
    · exact absurd (List.mem_singleton.mp here).symm (other poll)
  · intro known
    obtain ⟨poll, earlier, same⟩ := known
    exact ⟨poll, List.mem_append_left _ earlier, same⟩

theorem SightedAt.append {events : List Event} {key : GameKey} {time : Int}
    (sighted : SightedAt events key time) (more : List Event) :
    SightedAt (events ++ more) key time := by
  obtain ⟨poll, member, sees, same⟩ := sighted
  exact ⟨poll, List.mem_append_left _ member, sees, same⟩

theorem Tracks.rolledBack {events : List Event} {tables : Tables} (tracks : Tracks events tables)
    (poll : Poll) : Tracks (events ++ [.poll poll false]) tables := by
  have other : ∀ made, Event.poll poll false ≠ .poll made true := by
    intro made same
    cases same
  have times := @Times.concat_other events _ other
  have tipSame : tip (events ++ [.poll poll false]) = tip events := tip_concat _ _
  refine ⟨tracks.kept, ?_, ?_, ?_, ?_, ?_, tracks.inside, ?_⟩
  · rw [tipSame]
    exact tracks.spanLine.imp fun time => (times time).mpr
  · rw [tipSame]
    exact tracks.focusLine.imp fun time => (times time).mpr
  · intro last same time known
    exact tracks.newest last (tipSame ▸ same) time ((times time).mp known)
  · intro last key same
    exact tracks.live (tipSame ▸ same)
  · intro id span found
    exact (tracks.sighted found).append _
  · apply tracks.recorded.append (fun _ => Iff.rfl) (fun _ => Iff.rfl)
    · intro second key early first middle same
      exact absurd same (other second)
    · intro made key same
      exact absurd same (other made)
    · intro made key sighting spanId same
      exact absurd same (other made)

section Restart

variable {tables : Tables}

theorem closeOpenSpans_spans (id : RowId) : (closeOpenSpans tables).spans.get? id =
    (tables.spans.get? id).map fun row => if row.endedAt.isNone then row.closed else row := by
  cases found : tables.spans.get? id <;> simp [closeOpenSpans, Dict.get?_mapValues, found]

theorem closeOpenSpans_focus (id : RowId) : (closeOpenSpans tables).focus.get? id =
    (tables.focus.get? id).map fun row => if row.endedAt.isNone then row.closed else row := by
  cases found : tables.focus.get? id <;> simp [closeOpenSpans, Dict.get?_mapValues, found]

theorem closeOpenSpans_spanAt {key : GameKey} {time : Int} {id : RowId} :
    (closeOpenSpans tables).SpanAt key time id ↔ tables.SpanAt key time id := by
  simp only [Tables.SpanAt, closeOpenSpans_spans]
  cases tables.spans.get? id with
  | none => simp
  | some span => cases ended : span.endedAt <;> simp [ended, GameSpan.closed, GameSpan.key]

theorem closeOpenSpans_focusAt {spanId : RowId} {time : Int} {id : RowId} {state : FocusState} :
    (closeOpenSpans tables).FocusAt spanId time id state ↔ tables.FocusAt spanId time id state := by
  simp only [Tables.FocusAt, closeOpenSpans_focus]
  cases tables.focus.get? id with
  | none => simp
  | some row => cases ended : row.endedAt <;> simp [ended, GameFocus.closed]

theorem span_restarted {id : RowId} {span : GameSpan}
    (found : (closeOpenSpans tables).spans.get? id = some span) :
    ∃ old, tables.spans.get? id = some old ∧ span.key = old.key ∧ span.startedAt = old.startedAt ∧
      span.lastSeenAt = old.lastSeenAt ∧ span.endedAt ≠ none := by
  rw [closeOpenSpans_spans] at found
  obtain ⟨old, there, rfl⟩ := Option.map_eq_some_iff.mp found
  refine ⟨old, there, ?_⟩
  cases ended : old.endedAt <;> simp [ended, GameSpan.closed, GameSpan.key]

theorem focus_restarted {id : RowId} {row : GameFocus}
    (found : (closeOpenSpans tables).focus.get? id = some row) :
    ∃ old, tables.focus.get? id = some old ∧ row.spanId = old.spanId ∧
      row.startedAt = old.startedAt ∧ row.lastSeenAt = old.lastSeenAt ∧ row.endedAt ≠ none := by
  rw [closeOpenSpans_focus] at found
  obtain ⟨old, there, rfl⟩ := Option.map_eq_some_iff.mp found
  refine ⟨old, there, ?_⟩
  cases ended : old.endedAt <;> simp [ended, GameFocus.closed]

theorem span_kept {id : RowId} {old : GameSpan} (found : tables.spans.get? id = some old) :
    ∃ span, (closeOpenSpans tables).spans.get? id = some span ∧ span.startedAt = old.startedAt ∧
      span.lastSeenAt = old.lastSeenAt := by
  refine ⟨_, by rw [closeOpenSpans_spans, found]; rfl, ?_⟩
  cases ended : old.endedAt <;> simp [ended, GameSpan.closed]

theorem WellKept.restarted (kept : WellKept tables) : WellKept (closeOpenSpans tables) := by
  refine ⟨?_, ?_, ?_, ?_, ?_⟩
  · intro id span found
    obtain ⟨old, there, named, _⟩ := span_restarted found
    rw [named]
    exact kept.spanDrawn there
  · intro id row found
    obtain ⟨old, there, ofSpan, _⟩ := focus_restarted found
    rw [ofSpan]
    exact kept.focusDrawn there
  · intro first second left right found _ opened
    obtain ⟨_, _, _, _, _, ended⟩ := span_restarted found
    exact absurd opened ended
  · intro first second left right found _ opened
    obtain ⟨_, _, _, _, _, ended⟩ := focus_restarted found
    exact absurd opened ended
  · intro id row found
    obtain ⟨old, there, ofSpan, _, _, ended⟩ := focus_restarted found
    obtain ⟨span, held, _⟩ := kept.focusSpan there
    obtain ⟨after, still, _⟩ := span_kept held
    rw [ofSpan]
    exact ⟨after, still, fun opened => absurd opened ended⟩

end Restart

theorem Tracks.restarted {events : List Event} {tables : Tables} (tracks : Tracks events tables) :
    Tracks (events ++ [.restart]) (closeOpenSpans tables) := by
  have other : ∀ made, Event.restart ≠ .poll made true := by
    intro made same
    cases same
  have times := @Times.concat_other events _ other
  have tipNone : tip (events ++ [.restart]) = none := tip_concat _ _
  refine ⟨tracks.kept.restarted, ?_, ?_, ?_, ?_, ?_, ?_, ?_⟩
  · rw [tipNone]
    refine (tracks.spanLine.closeAll fun id => ?_).imp fun time => (times time).mpr
    rw [spanRows, closeOpenSpans_spans, spanRows]
    cases tables.spans.get? id with
    | none => rfl
    | some span =>
      cases ended : span.endedAt <;>
        simp [ended, GameSpan.closed, GameSpan.stretch, Stretch.closed, GameSpan.key]
  · rw [tipNone]
    refine (tracks.focusLine.closeAll fun id => ?_).imp fun time => (times time).mpr
    rw [focusRows, closeOpenSpans_focus, focusRows]
    cases tables.focus.get? id with
    | none => rfl
    | some row =>
      cases ended : row.endedAt <;> simp [ended, GameFocus.closed, GameFocus.stretch,
        Stretch.closed]
  · intro last same
    rw [tipNone] at same
    cases same
  · intro last key same
    rw [tipNone] at same
    cases same
  · intro id span found
    obtain ⟨old, there, named, _, seen, _⟩ := span_restarted found
    rw [named, seen]
    exact (tracks.sighted there).append _
  · intro id row found
    obtain ⟨old, there, ofSpan, began, seen, _⟩ := focus_restarted found
    obtain ⟨span, held, first, last⟩ := tracks.inside there
    obtain ⟨after, still, afterFirst, afterLast⟩ := span_kept held
    rw [ofSpan, began, seen]
    exact ⟨after, still, afterFirst ▸ first, afterLast ▸ last⟩
  · apply tracks.recorded.append (fun _ => closeOpenSpans_spanAt) (fun _ => closeOpenSpans_focusAt)
    · intro second key early first middle same
      exact absurd same (other second)
    · intro made key same
      exact absurd same (other made)
    · intro made key sighting spanId same
      exact absurd same (other made)

/-! A run. -/

theorem tracks_empty : Tracks [] .empty := by
  have noSpan : ∀ id, Tables.empty.spans.get? id = none := fun id => Dict.get?_empty id
  have noFocus : ∀ id, Tables.empty.focus.get? id = none := fun id => Dict.get?_empty id
  refine ⟨?_, Timeline.empty _, Timeline.empty _, ?_, ?_, ?_, ?_, ?_⟩
  · constructor <;> simp [noSpan, noFocus]
  · simp [tip]
  · simp [tip]
  · simp [noSpan]
  · simp [noFocus]
  · constructor <;> simp

theorem run_tracks {events : List Event} (clock : MovesOn events) : Tracks events (run events) := by
  induction events using List.reverseRecOn with
  | nil => exact tracks_empty
  | append_singleton events event ih =>
    rw [MovesOn, List.filterMap_append, List.pairwise_append] at clock
    obtain ⟨earlier, _, later⟩ := clock
    have tracks := ih earlier
    rw [run, List.foldl_append]
    match event with
    | .restart => exact tracks.restarted
    | .poll poll false => exact tracks.rolledBack poll
    | .poll poll true =>
      refine tracks.committed fun time known => ?_
      obtain ⟨old, member, rfl⟩ := known
      exact later _ (List.mem_filterMap.mpr ⟨_, member, rfl⟩) _ (by simp [committedTime])

theorem run_faithful (events : List Event) (clock : MovesOn events) :
    Faithful events (run events) := by
  have tracks := run_tracks clock
  have spanShown : ∀ {id span}, (run events).spans.get? id = some span →
      spanRows (run events) id = some (span.key, span.stretch) := by
    intro id span found
    rw [spanRows, found]
    rfl
  have focusShown : ∀ {id row}, (run events).focus.get? id = some row →
      focusRows (run events) id = some (row.spanId, row.stretch) := by
    intro id row found
    rw [focusRows, found]
    rfl
  refine ⟨tracks.recorded, ?_, ?_, ?_, ?_, ?_, ?_⟩
  · intro first second left right leftRow rightRow same leftOpen rightOpen
    exact tracks.spanLine.oneOpen (spanShown leftRow) (same ▸ spanShown rightRow) leftOpen rightOpen
  · intro first second left right leftRow rightRow same leftOpen rightOpen
    exact tracks.focusLine.oneOpen (focusShown leftRow) (same ▸ focusShown rightRow) leftOpen rightOpen
  · intro first second left right leftRow rightRow same apart
    exact tracks.spanLine.disjoint (spanShown leftRow) (same ▸ spanShown rightRow) apart
  · intro id span last found closed
    have lasts : last = span.lastSeenAt := tracks.spanLine.ended (spanShown found) closed
    exact ⟨lasts, lasts ▸ tracks.sighted found⟩
  · intro id row found
    obtain ⟨span, there, began, seen⟩ := tracks.inside found
    exact ⟨span, there, began, tracks.focusLine.ordered (focusShown found), seen⟩
  · intro first second left right leftRow rightRow same apart
    exact tracks.focusLine.disjoint (focusShown leftRow) (same ▸ focusShown rightRow) apart

def sighted : Sighting := ⟨[], .steamAppid, some 7, none, 40, [40, 41]⟩

/-- A game that is focused, then in the background, then focused again after a restart. -/
def playedTrace : List Event :=
  [.poll ⟨0, [sighted], some 41, 300⟩ true, .poll ⟨200, [sighted], some 9, 300⟩ true,
    .poll ⟨250, [], none, 300⟩ false, .restart, .poll ⟨300, [sighted], none, 300⟩ true]

theorem playedTrace_faithful : Faithful playedTrace (run playedTrace) :=
  run_faithful playedTrace (by unfold MovesOn; decide)

/-- A restart between two polls of one instant: two spans cover it. -/
theorem polls_of_one_instant : ¬ ∀ events : List Event,
    (events.filterMap fun event => match event with
      | .poll poll _ => some poll.now
      | .restart => none).Pairwise (· ≤ ·) → Faithful events (run events) := by
  intro claim
  have faithful :=
    claim [.poll ⟨0, [sighted], none, 300⟩ true, .restart, .poll ⟨0, [sighted], none, 300⟩ true]
    (by decide)
  have first : (run [.poll ⟨0, [sighted], none, 300⟩ true, .restart,
      .poll ⟨0, [sighted], none, 300⟩ true]).spans.get? ⟨0, sighted.key⟩ =
      some ⟨[], .steamAppid, some 7, none, 40, 0, 0, some 0⟩ := by decide
  have second : (run [.poll ⟨0, [sighted], none, 300⟩ true, .restart,
      .poll ⟨0, [sighted], none, 300⟩ true]).spans.get? ⟨1, sighted.key⟩ =
      some ⟨[], .steamAppid, some 7, none, 40, 0, 0, none⟩ := by decide
  have apart := faithful.disjoint first second rfl (by decide)
  rcases apart with before | after
  · exact absurd before (by decide)
  · exact absurd after (by decide)

end SysadminAssistant.Games
