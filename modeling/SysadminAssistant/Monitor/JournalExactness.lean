import SysadminAssistant.Monitor.JournalResume

namespace SysadminAssistant.Monitor

open Python Library

/-! Every admitted record once: the invariant of the resumed polls, and the hand-overs that
keep it. -/

section

variable {interpreter : Interpreter} {source : JournalSource}
  {journal : DatedJournal interpreter source}

/-- The record at this place, if the first `length` are there already. -/
def DatedJournal.Shows (journal : DatedJournal interpreter source) (length index : Nat)
    (record : DatedRecord interpreter source) : Prop :=
  index < length ∧ journal.records[index]? = some record

/-- The pair by which two rows are told apart. -/
def SamePair (left right : Entry) : Prop :=
  left.loggedAt = right.loggedAt ∧
    left.message.take storedMessageChars = right.message.take storedMessageChars

/-- What one poll needs: a stale cursor leaves a window of exactly the unread records, a
floor opens its window no later than itself, and a poll with neither opens no window that
differs from the first one in what it shows. -/
def HandsOver (state : ResumedState) (poll : JournalPoll journal) : Prop :=
  match poll.cursor state with
  | some cursor => poll.feed.stale = true → ∀ index record, journal.Shows poll.length index record →
      record.entry.isSome = true →
        (poll.recent ≤ record.time ↔ indexAfter JournalRecord.cursor cursor poll.feed.records ≤ index)
  | none =>
    match resumeFloor state.rows source.unit with
    | some floor => opening poll.recent (sinceTimestamp floor.1) ≤ floor.1
    | none => ∀ opened, state.opened = some opened → ∀ index record,
        journal.Shows poll.length index record →
          (poll.recent ≤ record.time → opened ≤ record.time) ∧
            (record.entry.isSome = true → opened ≤ record.time → poll.recent ≤ record.time)

/-- What holds between two polls: `length` records have been there. -/
structure Resumes (journal : DatedJournal interpreter source) (state : ResumedState)
    (length : Nat) : Prop where
  rows : state.rows = state.inserted.map fun row => storedRow row.2
  real : ∀ row ∈ state.inserted, ∃ record, journal.Shows length row.1 record ∧
    record.entry = some row.2
  once : (state.inserted.map Prod.fst).Nodup
  since : ∀ row ∈ state.inserted, ∃ opened, state.opened = some opened ∧ opened ≤ row.2.loggedAt
  complete : ∀ opened, state.opened = some opened → ∀ index record entry,
    journal.Shows length index record → record.entry = some entry → opened ≤ record.time →
      ∃ row ∈ state.inserted, SamePair row.2 entry
  resume : ∀ cursor, state.cursors.get? source.name = some cursor → ∃ index record opened,
    journal.Shows length index record ∧ cursor = .str record.cursor ∧
      state.opened = some opened ∧ opened ≤ record.time ∧
      ∀ later other, index < later → journal.Shows length later other → other.entry = none

/-- What a poll adds to such a state, seen from the moment the first read opened at. -/
structure Fresh (state : ResumedState) (poll : JournalPoll journal) (opened : Int) : Prop where
  apart : ∀ row ∈ poll.taken state, ∀ old ∈ state.inserted, old.1 ≠ row.1
  complete : ∀ index record entry, journal.Shows poll.length index record → record.entry = some entry →
    opened ≤ record.time → ∃ row ∈ state.inserted ++ poll.taken state, SamePair row.2 entry
  since : ∀ row ∈ poll.taken state, opened ≤ row.2.loggedAt
  last : ∀ index record, journal.Shows poll.length index record → poll.first state ≤ index →
    index + 1 = poll.length → opened ≤ record.time

theorem DatedJournal.Shows.ordered {length index later : Nat}
    {record other : DatedRecord interpreter source} (shows : journal.Shows length index record)
    (also : journal.Shows length later other) (order : index ≤ later) :
    record.time ≤ other.time := by
  obtain ⟨inside, same⟩ := List.getElem?_eq_some_iff.mp shows.2
  obtain ⟨within, equal⟩ := List.getElem?_eq_some_iff.mp also.2
  rcases Nat.lt_or_eq_of_le order with before | here
  · rw [← same, ← equal]
    exact List.pairwise_iff_getElem.mp journal.ordered _ _ inside within before
  · subst here
    rw [← same, ← equal]

theorem DatedJournal.Shows.mono {length longer index : Nat}
    {record : DatedRecord interpreter source} (shows : journal.Shows length index record)
    (grown : length ≤ longer) :
    journal.Shows longer index record := ⟨Nat.lt_of_lt_of_le shows.1 grown, shows.2⟩

theorem DatedJournal.Shows.unique {length other index : Nat}
    {record found : DatedRecord interpreter source} (shows : journal.Shows length index record)
    (also : journal.Shows other index found) :
    record = found := Option.some.inj (shows.2.symm.trans also.2)

theorem DatedRecord.entry_dated {record : DatedRecord interpreter source} {entry : Entry}
    (present : record.entry = some entry) : entry.loggedAt = record.time := record.dated entry present

theorem shows_iff (length index : Nat) (record : DatedRecord interpreter source) :
    (journal.records.take length)[index]? = some record ↔ journal.Shows length index record := by
  rw [List.getElem?_take, DatedJournal.Shows]
  split <;> simp [*]

namespace JournalPoll

variable {poll : JournalPoll journal} {state : ResumedState}

theorem mem_taken {row : Nat × Entry} :
    row ∈ poll.taken state ↔ ∃ record, journal.Shows poll.length row.1 record ∧
      poll.first state ≤ row.1 ∧ record.entry = some row.2 ∧
      (sourceFloor state.rows source (poll.cursors state)).all (isUnstored row.2) = true := by
  obtain ⟨index, entry⟩ := row
  simp only [JournalPoll.taken, List.mem_filter, List.mem_filterMap, Option.map_eq_some_iff,
    Prod.mk.injEq]
  constructor
  · intro kept
    obtain ⟨⟨⟨record, position⟩, member, found, present, same, equal⟩, unstored⟩ := kept
    subst same equal
    obtain ⟨late, place⟩ := List.mk_mem_zipIdx_iff_le_and_getElem?_sub.mp member
    rw [List.getElem?_drop, Nat.add_sub_cancel' late, shows_iff] at place
    exact ⟨record, place, late, present, unstored⟩
  · intro kept
    obtain ⟨record, shows, late, present, unstored⟩ := kept
    refine ⟨⟨⟨record, index⟩, ?_, entry, present, rfl, rfl⟩, unstored⟩
    rw [List.mk_mem_zipIdx_iff_le_and_getElem?_sub, List.getElem?_drop, Nat.add_sub_cancel' late,
      shows_iff]
    exact ⟨late, shows⟩

theorem taken_nodup : ((poll.taken state).map Prod.fst).Nodup := by
  have positions : ((poll.shownFrom state).zipIdx (poll.first state)).Pairwise fun left right =>
      left.2 < right.2 := by
    rw [← List.pairwise_map (f := Prod.snd) (R := (· < ·)), List.zipIdx_map_snd]
    exact List.pairwise_lt_range'
  have apart : (poll.taken state).Pairwise fun left right => left.1 < right.1 := by
    refine List.Pairwise.filter _ (List.Pairwise.filterMap _ ?_ positions)
    intro left right order kept takes other also
    obtain ⟨entry, _, same⟩ := Option.map_eq_some_iff.mp takes
    obtain ⟨found, _, equal⟩ := Option.map_eq_some_iff.mp also
    rw [← same, ← equal]
    exact order
  exact (List.pairwise_map.mpr apart).imp fun order => Nat.ne_of_lt order

theorem windowStart_le_iff {window : Window} {index : Nat} {record : DatedRecord interpreter source}
    (shows : journal.Shows poll.length index record) :
    poll.feed.windowStart window ≤ index ↔ opening poll.recent window ≤ record.time := by
  rw [poll.opens]
  exact indexSince_le_iff (journal.ordered.sublist (List.take_sublist _ _))
    ((shows_iff _ _ _).mpr shows)

theorem indexAfter_shown {index : Nat} {record : DatedRecord interpreter source}
    (shows : journal.Shows poll.length index record) :
    indexAfter JournalRecord.cursor record.cursor poll.feed.records = index + 1 := by
  have place : poll.feed.records[index]? = some record.toJournalRecord := by
    rw [poll.shown, List.getElem?_map, (shows_iff _ _ _).mpr shows, Option.map_some]
  exact indexAfter_of_getElem? poll.feed.distinct place

end JournalPoll

namespace Resumes

variable {poll : JournalPoll journal} {state : ResumedState} {length : Nat}

theorem row_source (inv : Resumes journal state length) {row : Nat × Entry}
    (member : row ∈ state.inserted) : row.2.source = source.unit := by
  obtain ⟨record, _, present⟩ := inv.real row member
  exact DatedRecord.entry_source present

theorem saved (inv : Resumes journal state length) (poll : JournalPoll journal) :
    (poll.cursors state).get? source.name = (poll.cursor state).map .str ∧
      JournalFeed.Usable (poll.cursor state) := by
  cases found : (poll.cursors state).get? source.name with
  | none => simp [JournalPoll.cursor, found, JournalFeed.Usable]
  | some cursor =>
    have kept : state.cursors.get? source.name = some cursor := by
      rw [JournalPoll.cursors] at found
      split at found
      · cases found
      · exact found
    obtain ⟨_, record, _, _, same, _⟩ := inv.resume cursor kept
    subst same
    refine ⟨by simp [JournalPoll.cursor, found], fun name named => ?_⟩
    simp only [JournalPoll.cursor, found, Option.some.injEq] at named
    subst named
    exact ⟨record.named, record.launched⟩

theorem resumed (inv : Resumes journal state length) {cursor : Text}
    (found : poll.cursor state = some cursor) : ∃ index record opened,
      journal.Shows length index record ∧ cursor = record.cursor ∧
        state.opened = some opened ∧ opened ≤ record.time ∧
        ∀ later other, index < later → journal.Shows length later other → other.entry = none := by
  have present := (inv.saved poll).1
  rw [found, Option.map_some, JournalPoll.cursors] at present
  split at present
  · cases present
  · obtain ⟨index, record, opened, shows, same, rest⟩ := inv.resume _ present
    exact ⟨index, record, opened, shows, Json.str.inj same, rest⟩

theorem floor_of_cursor (inv : Resumes journal state length) {cursor : Text}
    (found : poll.cursor state = some cursor) :
    sourceFloor state.rows source (poll.cursors state) = none := by
  obtain ⟨present, usable⟩ := inv.saved poll
  rw [found] at present usable
  simp [sourceFloor, savedCursor, present, Json.truthy, (usable cursor rfl).1]

theorem floor_without_cursor (inv : Resumes journal state length) (lost : poll.cursor state = none) :
    sourceFloor state.rows source (poll.cursors state) = resumeFloor state.rows source.unit := by
  have absent := (inv.saved poll).1
  rw [lost] at absent
  simp [sourceFloor, savedCursor, absent]

theorem unit_rows (inv : Resumes journal state length) :
    (state.rows.filter fun row => row.source = source.unit) =
      state.inserted.map fun row => storedRow row.2 := by
  rw [← inv.rows, List.filter_eq_self]
  intro row member
  rw [inv.rows] at member
  obtain ⟨kept, inside, same⟩ := List.mem_map.mp member
  subst same
  exact decide_eq_true (inv.row_source inside)

theorem floor_none (inv : Resumes journal state length)
    (found : resumeFloor state.rows source.unit = none) : state.inserted = [] := by
  rw [resumeFloor, Option.map_eq_none_iff, List.max?_eq_none_iff, inv.unit_rows] at found
  simpa using found

theorem floor_some (inv : Resumes journal state length) {floor : Int × List Text}
    (found : resumeFloor state.rows source.unit = some floor) :
    (∃ row ∈ state.inserted, row.2.loggedAt = floor.1) ∧
      (∀ row ∈ state.inserted, row.2.loggedAt ≤ floor.1) ∧
      ∀ row ∈ state.inserted, row.2.loggedAt = floor.1 →
        row.2.message.take storedMessageChars ∈ floor.2 := by
  rw [resumeFloor, Option.map_eq_some_iff, inv.unit_rows] at found
  obtain ⟨newest, greatest, shape⟩ := found
  subst shape
  obtain ⟨member, bound⟩ := List.max?_eq_some_iff.mp greatest
  rw [List.map_map] at member bound
  refine ⟨?_, fun row inside => ?_, fun row inside here => ?_⟩
  · obtain ⟨row, inside, same⟩ := List.mem_map.mp member
    exact ⟨row, inside, same⟩
  · exact bound _ (List.mem_map.mpr ⟨row, inside, rfl⟩)
  · refine List.mem_map.mpr ⟨storedRow row.2, List.mem_filter.mpr ⟨?_, ?_⟩, rfl⟩
    · exact List.mem_map.mpr ⟨row, inside, rfl⟩
    · exact decide_eq_true here

theorem floor_message (inv : Resumes journal state length) {floor : Int × List Text}
    (found : resumeFloor state.rows source.unit = some floor) {message : Text}
    (stored : message ∈ floor.2) : ∃ row ∈ state.inserted,
      row.2.loggedAt = floor.1 ∧ row.2.message.take storedMessageChars = message := by
  rw [resumeFloor, Option.map_eq_some_iff, inv.unit_rows] at found
  obtain ⟨newest, _, shape⟩ := found
  subst shape
  obtain ⟨kept, member, same⟩ := List.mem_map.mp stored
  obtain ⟨listed, here⟩ := List.mem_filter.mp member
  obtain ⟨row, inside, equal⟩ := List.mem_map.mp listed
  subst equal
  exact ⟨row, inside, of_decide_eq_true here, same⟩

theorem first_le_iff (inv : Resumes journal state length) (grown : length ≤ poll.length)
    (meets : HandsOver state poll) {index place : Nat}
    {resumed record : DatedRecord interpreter source}
    (found : poll.cursor state = some resumed.cursor) (stopped : journal.Shows length index resumed)
    (shows : journal.Shows poll.length place record) (admitted : record.entry.isSome = true) :
    poll.first state ≤ place ↔ index < place := by
  have after : indexAfter JournalRecord.cursor _ poll.feed.records = _ :=
    JournalPoll.indexAfter_shown (stopped.mono grown)
  simp only [JournalPoll.first, JournalFeed.start, found]
  simp only [HandsOver, found] at meets
  cases stale : poll.feed.stale with
  | false =>
    simp only [Bool.false_eq_true, if_false, after]
    omega
  | true =>
    have window : poll.window state = .recent := by
      rw [JournalPoll.window, inv.floor_of_cursor found]
      rfl
    have exact := meets stale place record shows admitted
    rw [after] at exact
    simp only [if_true, window, JournalPoll.windowStart_le_iff shows, opening, exact]
    omega

theorem fresh_of_cursor (inv : Resumes journal state length) (grown : length ≤ poll.length)
    (meets : HandsOver state poll) {cursor : Text} (found : poll.cursor state = some cursor) :
    ∃ opened, state.opened = some opened ∧ Fresh state poll opened := by
  obtain ⟨index, resumed, opened, stopped, same, since, late, silent⟩ := inv.resumed found
  subst same
  have unread : ∀ place record entry, journal.Shows poll.length place record →
      record.entry = some entry → index < place → length ≤ place := by
    intro place record entry shows present later
    by_contra earlier
    have inside : journal.Shows length place record := ⟨by omega, shows.2⟩
    rw [silent place record later inside] at present
    cases present
  refine ⟨opened, since, ⟨?_, ?_, ?_, ?_⟩⟩
  · intro row member old before same
    obtain ⟨record, shows, begun, present, _⟩ := JournalPoll.mem_taken.mp member
    have later := (inv.first_le_iff grown meets found stopped shows (by simp [present])).mp begun
    have new := unread row.1 record row.2 shows present later
    obtain ⟨_, past, _⟩ := inv.real old before
    have bound := past.1
    omega
  · intro place record entry shows present within
    rcases Nat.lt_or_ge place length with old | new
    · obtain ⟨row, member, pair⟩ :=
        inv.complete opened since place record entry ⟨old, shows.2⟩ present within
      exact ⟨row, List.mem_append_left _ member, pair⟩
    · have later : index < place := Nat.lt_of_lt_of_le stopped.1 new
      have begun := (inv.first_le_iff grown meets found stopped shows (by simp [present])).mpr later
      have taken : (place, entry) ∈ poll.taken state := JournalPoll.mem_taken.mpr
        ⟨record, shows, begun, present, by rw [inv.floor_of_cursor found]; rfl⟩
      exact ⟨_, List.mem_append_right _ taken, rfl, rfl⟩
  · intro row member
    obtain ⟨record, shows, begun, present, _⟩ := JournalPoll.mem_taken.mp member
    have later := (inv.first_le_iff grown meets found stopped shows (by simp [present])).mp begun
    have order := (stopped.mono grown).ordered shows (Nat.le_of_lt later)
    rw [DatedRecord.entry_dated present]
    omega
  · intro place record shows _ last
    have bound := stopped.1
    have order := (stopped.mono grown).ordered shows (by omega)
    omega

theorem fresh_of_floor (inv : Resumes journal state length) (grown : length ≤ poll.length)
    (meets : HandsOver state poll) (lost : poll.cursor state = none) {floor : Int × List Text}
    (found : resumeFloor state.rows source.unit = some floor) :
    ∃ opened, state.opened = some opened ∧ Fresh state poll opened := by
  obtain ⟨⟨newest, member, here⟩, bound, stored⟩ := inv.floor_some found
  obtain ⟨opened, since, low⟩ := inv.since newest member
  obtain ⟨top, shown, topEntry⟩ := inv.real newest member
  have topTime := DatedRecord.entry_dated topEntry
  have floored := (inv.floor_without_cursor lost).trans found
  simp only [HandsOver, lost, found] at meets
  have begins : ∀ place record, journal.Shows poll.length place record →
      (poll.first state ≤ place ↔ opening poll.recent (sinceTimestamp floor.1) ≤ record.time) := by
    intro place record shows
    rw [JournalPoll.first, lost, JournalPoll.window, floored]
    exact JournalPoll.windowStart_le_iff shows
  -- what is shown already and not stored yet is older than the first window
  have held : ∀ place record entry, journal.Shows length place record → record.entry = some entry →
      isUnstored entry floor = false := by
    intro place record entry shows present
    have moment := DatedRecord.entry_dated present
    rcases Int.lt_or_le record.time opened with early | within
    · simp only [isUnstored]
      rw [if_neg (by omega), if_pos (by omega)]
    · obtain ⟨row, inside, same, equal⟩ :=
        inv.complete opened since place record entry shows present within
      have top := bound row inside
      rcases Int.lt_or_eq_of_le top with below | level
      · simp only [isUnstored]
        rw [if_neg (by omega), if_pos (by omega)]
      · have known := stored row inside level
        rw [equal] at known
        simp only [isUnstored]
        rw [if_neg (by omega), if_neg (by omega)]
        simpa using known
  have new : ∀ row ∈ poll.taken state, length ≤ row.1 := by
    intro row taken
    obtain ⟨record, shows, _, present, unstored⟩ := JournalPoll.mem_taken.mp taken
    by_contra earlier
    rw [floored, Option.all_some, held row.1 record row.2 ⟨by omega, shows.2⟩ present] at unstored
    cases unstored
  have lateness : ∀ place record, length ≤ place → journal.Shows poll.length place record →
      floor.1 ≤ record.time := by
    intro place record beyond shows
    have before := shown.1
    have order := (shown.mono grown).ordered shows (by omega)
    omega
  refine ⟨opened, since, ⟨?_, ?_, ?_, ?_⟩⟩
  · intro row taken old before same
    obtain ⟨_, past, _⟩ := inv.real old before
    have early := past.1
    have late := new row taken
    omega
  · intro place record entry shows present within
    rcases Nat.lt_or_ge place length with old | beyond
    · obtain ⟨row, inside, pair⟩ :=
        inv.complete opened since place record entry ⟨old, shows.2⟩ present within
      exact ⟨row, List.mem_append_left _ inside, pair⟩
    · have moment := DatedRecord.entry_dated present
      have late := lateness place record beyond shows
      cases unstored : isUnstored entry floor with
      | true =>
        have taken : (place, entry) ∈ poll.taken state := JournalPoll.mem_taken.mpr
          ⟨record, shows, (begins place record shows).mpr (by omega), present,
            by rw [floored]; exact unstored⟩
        exact ⟨_, List.mem_append_right _ taken, rfl, rfl⟩
      | false =>
        have level : record.time = floor.1 := by
          by_contra apart
          simp only [isUnstored] at unstored
          rw [if_pos (by omega)] at unstored
          cases unstored
        have known : entry.message.take storedMessageChars ∈ floor.2 := by
          simp only [isUnstored] at unstored
          rw [if_neg (by omega), if_neg (by omega)] at unstored
          simpa using unstored
        obtain ⟨row, inside, same, equal⟩ := inv.floor_message found known
        exact ⟨row, List.mem_append_left _ inside, by omega, equal⟩
  · intro row taken
    obtain ⟨record, shows, _, present, _⟩ := JournalPoll.mem_taken.mp taken
    have late := lateness row.1 record (new row taken) shows
    rw [DatedRecord.entry_dated present]
    omega
  · intro place record shows _ last
    have before := shown.1
    have order := (shown.mono grown).ordered shows (by omega)
    omega

theorem fresh_of_window (inv : Resumes journal state length) (meets : HandsOver state poll)
    (lost : poll.cursor state = none) (found : resumeFloor state.rows source.unit = none)
    {opened : Int} (since : state.opened.or (some poll.recent) = some opened) :
    Fresh state poll opened := by
  have empty := inv.floor_none found
  have floored := (inv.floor_without_cursor lost).trans found
  simp only [HandsOver, lost, found] at meets
  have begins : ∀ place record, journal.Shows poll.length place record →
      (poll.first state ≤ place ↔ poll.recent ≤ record.time) := by
    intro place record shows
    rw [JournalPoll.first, lost, JournalPoll.window, floored]
    exact JournalPoll.windowStart_le_iff shows
  have agrees : ∀ place record, journal.Shows poll.length place record →
      (poll.recent ≤ record.time → opened ≤ record.time) ∧
        (record.entry.isSome = true → opened ≤ record.time → poll.recent ≤ record.time) := by
    intro place record shows
    cases before : state.opened with
    | none =>
      rw [before] at since
      cases since
      exact ⟨id, fun _ => id⟩
    | some known =>
      rw [before] at since
      cases since
      exact meets opened before place record shows
  refine ⟨?_, ?_, ?_, ?_⟩
  · intro row taken old before
    rw [empty] at before
    cases before
  · intro place record entry shows present within
    have begun :=
      (begins place record shows).mpr ((agrees place record shows).2 (by simp [present]) within)
    have taken : (place, entry) ∈ poll.taken state := JournalPoll.mem_taken.mpr
      ⟨record, shows, begun, present, by rw [floored]; rfl⟩
    exact ⟨_, List.mem_append_right _ taken, rfl, rfl⟩
  · intro row taken
    obtain ⟨record, shows, begun, present, _⟩ := JournalPoll.mem_taken.mp taken
    rw [DatedRecord.entry_dated present]
    exact (agrees row.1 record shows).1 ((begins row.1 record shows).mp begun)
  · intro place record shows begun _
    exact (agrees place record shows).1 ((begins place record shows).mp begun)

theorem fresh (inv : Resumes journal state length) (grown : length ≤ poll.length)
    (meets : HandsOver state poll) :
    ∃ opened, state.opened.or (some poll.recent) = some opened ∧ Fresh state poll opened := by
  cases found : poll.cursor state with
  | some cursor =>
    obtain ⟨opened, since, fresh⟩ := inv.fresh_of_cursor grown meets found
    exact ⟨opened, by rw [since]; rfl, fresh⟩
  | none =>
    cases floor : resumeFloor state.rows source.unit with
    | some newest =>
      obtain ⟨opened, since, fresh⟩ := inv.fresh_of_floor grown meets found floor
      exact ⟨opened, by rw [since]; rfl, fresh⟩
    | none =>
      cases before : state.opened with
      | none => exact ⟨poll.recent, rfl, inv.fresh_of_window meets found floor (by rw [before]; rfl)⟩
      | some opened => exact ⟨opened, rfl, inv.fresh_of_window meets found floor (by rw [before]; rfl)⟩

theorem silent (inv : Resumes journal state length) (grown : length ≤ poll.length)
    (meets : HandsOver state poll) (nothing : poll.length ≤ poll.first state)
    {index place : Nat} {stopped record : DatedRecord interpreter source}
    (found : poll.cursor state = some stopped.cursor) (shows : journal.Shows length index stopped)
    (later : index < place) (shown : journal.Shows poll.length place record) :
    record.entry = none := by
  cases present : record.entry with
  | none => rfl
  | some entry =>
    have begun := (inv.first_le_iff grown meets found shows shown (by simp [present])).mpr later
    have inside := shown.1
    omega

end Resumes

namespace JournalPoll

variable {poll : JournalPoll journal} {state : ResumedState}

theorem shownFrom_length : (poll.shownFrom state).length = poll.length - poll.first state := by
  simp [JournalPoll.shownFrom, Nat.min_eq_left poll.inside]

theorem shownFrom_getLast? {record : DatedRecord interpreter source}
    (last : (poll.shownFrom state).getLast? = some record) :
    journal.Shows poll.length (poll.length - 1) record ∧ poll.first state ≤ poll.length - 1 ∧
      poll.length - 1 + 1 = poll.length := by
  have nonempty : poll.first state < poll.length := by
    by_contra none
    have empty : poll.shownFrom state = [] :=
      List.eq_nil_of_length_eq_zero (by rw [shownFrom_length]; omega)
    rw [empty] at last
    cases last
  have place : poll.first state + ((poll.shownFrom state).length - 1) = poll.length - 1 := by
    rw [shownFrom_length]
    omega
  rw [List.getLast?_eq_getElem?, JournalPoll.shownFrom, List.getElem?_drop,
    ← JournalPoll.shownFrom, place, shows_iff] at last
  exact ⟨last, by omega, by omega⟩

end JournalPoll

theorem resumes_step {poll : JournalPoll journal} {state : ResumedState} {length : Nat}
    (inv : Resumes journal state length) (grown : length ≤ poll.length)
    (meets : HandsOver state poll) :
    Resumes journal (resumePoll state poll) poll.length := by
  obtain ⟨saved, usable⟩ := inv.saved poll
  obtain ⟨read, returned, entries⟩ := poll.readJournalSource_eq state usable saved
  obtain ⟨opened, since, fresh⟩ := inv.fresh grown meets
  have stepped : resumePoll state poll =
      { cursors := moveCursor (poll.cursors state) source.name
          ((poll.shownFrom state).getLast?.map fun record => .str record.cursor)
        rows := state.rows ++ read.entries.map storedRow
        inserted := state.inserted ++ poll.taken state
        opened := some opened } := by
    rw [resumePoll, returned, since]
  rw [stepped]
  refine ⟨?_, ?_, ?_, ?_, ?_, ?_⟩
  · simp only [inv.rows, entries, List.map_append, List.map_map]
    rfl
  · intro row member
    rcases List.mem_append.mp member with old | new
    · obtain ⟨record, shows, present⟩ := inv.real row old
      exact ⟨record, shows.mono grown, present⟩
    · obtain ⟨record, shows, _, present, _⟩ := JournalPoll.mem_taken.mp new
      exact ⟨record, shows, present⟩
  · rw [List.map_append, List.nodup_append]
    refine ⟨inv.once, JournalPoll.taken_nodup, fun left old right new => ?_⟩
    obtain ⟨before, inside, same⟩ := List.mem_map.mp old
    obtain ⟨row, taken, equal⟩ := List.mem_map.mp new
    rw [← same, ← equal]
    exact fresh.apart row taken before inside
  · intro row member
    rcases List.mem_append.mp member with old | new
    · obtain ⟨earlier, known, low⟩ := inv.since row old
      rw [known] at since
      cases since
      exact ⟨opened, rfl, low⟩
    · exact ⟨opened, rfl, fresh.since row new⟩
  · intro found same
    cases same
    exact fresh.complete
  · intro cursor found
    cases last : (poll.shownFrom state).getLast? with
    | some record =>
      obtain ⟨shows, begun, end_⟩ := JournalPoll.shownFrom_getLast? last
      simp only [last, Option.map_some, moveCursor] at found
      rw [Option.filter_some, if_pos (by simp [Json.truthy, record.named])] at found
      simp only [Dict.get?_set_self, Option.some.injEq] at found
      refine ⟨poll.length - 1, record, opened, shows, found.symm, rfl,
        fresh.last _ record shows begun end_, fun later other beyond shown => ?_⟩
      have inside := shown.1
      omega
    | none =>
      simp only [last, Option.map_none, moveCursor, Option.filter_none] at found
      have nothing : poll.length ≤ poll.first state := by
        have empty := List.getLast?_eq_none_iff.mp last
        have none := congrArg List.length empty
        rw [JournalPoll.shownFrom_length, List.length_nil] at none
        omega
      cases kept : poll.cursor state with
      | none => rw [saved, kept] at found; cases found
      | some name =>
        obtain ⟨index, record, earlier, shows, same, known, low, _⟩ := inv.resumed kept
        rw [saved, kept] at found
        cases found
        subst same
        rw [known] at since
        cases since
        exact ⟨index, record, opened, shows.mono grown, rfl, rfl, low, fun later other beyond shown =>
          inv.silent grown meets nothing kept shows beyond shown⟩

end

end SysadminAssistant.Monitor
