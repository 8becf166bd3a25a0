import SysadminAssistant.Python.Dict
import SysadminAssistant.Python.Text

namespace SysadminAssistant.Games

open Python

/-! `sysadmin/games/agent.py`: the spans in which a game was running, and their focus stretches.
Instants are microseconds. -/

inductive MatchedBy where
  | steamAppid | executable
deriving DecidableEq

structure GameKey where
  matchedBy : MatchedBy
  appid : Option Int
  executable : Option Text
deriving DecidableEq

/-- One game seen on one poll. -/
structure Sighting where
  game : Text
  matchedBy : MatchedBy
  appid : Option Int
  executable : Option Text
  pid : Nat
  pids : List Nat

def Sighting.key (sighting : Sighting) : GameKey :=
  ⟨sighting.matchedBy, sighting.appid, sighting.executable⟩

/-- A fresh id: the poll that drew it, and for which game. -/
structure RowId where
  poll : Nat
  key : GameKey
deriving DecidableEq

structure GameSpan where
  game : Text
  matchedBy : MatchedBy
  appid : Option Int
  executable : Option Text
  pid : Nat
  startedAt : Int
  lastSeenAt : Int
  endedAt : Option Int
deriving DecidableEq

def GameSpan.key (span : GameSpan) : GameKey := ⟨span.matchedBy, span.appid, span.executable⟩

inductive FocusState where
  | focused | unknown
deriving DecidableEq

structure GameFocus where
  spanId : RowId
  state : FocusState
  startedAt : Int
  lastSeenAt : Int
  endedAt : Option Int
deriving DecidableEq

/-- The two tables by id, and how many polls have drawn ids. -/
structure Tables where
  spans : Dict RowId GameSpan
  focus : Dict RowId GameFocus
  polls : Nat

def Tables.empty : Tables := ⟨.empty, .empty, 0⟩

/-- What a poll reads. -/
structure Poll where
  now : Int
  sightings : List Sighting
  windowPid : Option Nat
  maxGap : Int

/-- `focus_state`; `none` is unfocused. -/
def focusState (sighting : Sighting) (windowPid : Option Nat) : Option FocusState :=
  match windowPid with
  | none => some .unknown
  | some window => if window ∈ sighting.pids then some .focused else none

def GameSpan.closed (span : GameSpan) : GameSpan := { span with endedAt := some span.lastSeenAt }

def GameFocus.closed (stretch : GameFocus) : GameFocus :=
  { stretch with endedAt := some stretch.lastSeenAt }

/-- `apply_poll`'s rows as it goes, with `focus_by_span`. -/
structure Work where
  spans : Dict RowId GameSpan
  focus : Dict RowId GameFocus
  focusBySpan : Dict RowId RowId

/-- Alter the row of an id. -/
def modify {ν : Type} (table : Dict RowId ν) (id : RowId) (change : ν → ν) : Dict RowId ν :=
  match table.get? id with
  | none => table
  | some row => table.set id (change row)

/-- `close`. -/
def closeSpan (work : Work) (id : RowId) : Work :=
  let work := { work with spans := modify work.spans id GameSpan.closed }
  match work.focusBySpan.get? id with
  | none => work
  | some stretch =>
    { work with
      focus := modify work.focus stretch GameFocus.closed
      focusBySpan := work.focusBySpan.erase id }

section

variable (poll : Poll) (drawn : Nat)

def Poll.seen : Dict GameKey Sighting :=
  Dict.ofEntries (poll.sightings.map fun sighting => (sighting.key, sighting))

/-- The first loop's turn: a span that was not seen, or not lately, is closed. -/
def settle (work : Work) (entry : GameKey × RowId) : Work :=
  match work.spans.get? entry.2 with
  | none => work
  | some span =>
    if entry.1 ∉ poll.seen.keys ∨ poll.now - span.lastSeenAt > poll.maxGap
      then closeSpan work entry.2 else work

def openedSpan (sighting : Sighting) : GameSpan where
  game := sighting.game
  matchedBy := sighting.matchedBy
  appid := sighting.appid
  executable := sighting.executable
  pid := sighting.pid
  startedAt := poll.now
  lastSeenAt := poll.now
  endedAt := none

/-- The span of a sighting: the one still open, extended, or a new one. -/
def placeSpan (byKey : Dict GameKey RowId) (work : Work) (key : GameKey) (sighting : Sighting) :
    RowId × Work :=
  match (byKey.get? key).filter fun id => (work.spans.get? id).any fun span => span.endedAt.isNone with
  | some id =>
    (id, { work with spans := modify work.spans id fun span => { span with lastSeenAt := poll.now } })
  | none =>
    let id : RowId := ⟨drawn, key⟩
    (id, { work with spans := work.spans.set id (openedSpan poll sighting) })

/-- A new stretch, unless the window is known to be elsewhere. -/
def openFocus (work : Work) (key : GameKey) (id : RowId) : Option FocusState → Work
  | none => work
  | some state =>
    { work with focus := work.focus.set ⟨drawn, key⟩ ⟨id, state, poll.now, poll.now, none⟩ }

/-- The focus of a sighting: the open stretch goes on if it has the state of this poll. -/
def placeFocus (work : Work) (key : GameKey) (id : RowId) (state : Option FocusState) : Work :=
  match work.focusBySpan.get? id with
  | none => openFocus poll drawn work key id state
  | some stretch =>
    if (work.focus.get? stretch).any fun row => some row.state = state then
      { work with focus := modify work.focus stretch fun row => { row with lastSeenAt := poll.now } }
    else openFocus poll drawn { work with focus := modify work.focus stretch GameFocus.closed }
      key id state

/-- The second loop's turn. -/
def track (byKey : Dict GameKey RowId) (work : Work) (entry : GameKey × Sighting) : Work :=
  let (id, work) := placeSpan poll drawn byKey work entry.1 entry.2
  placeFocus poll drawn work entry.1 id (focusState entry.2 poll.windowPid)

def applyPoll (byKey : Dict GameKey RowId) (work : Work) : Work :=
  poll.seen.entries.foldl (track poll drawn byKey) (byKey.entries.foldl (settle poll) work)

end

/-- The open spans by key. -/
def openByKey (spans : Dict RowId GameSpan) : Dict GameKey RowId :=
  Dict.ofEntries ((spans.entries.filter fun entry => entry.2.endedAt.isNone).map fun entry =>
    (entry.2.key, entry.1))

/-- The open stretches by span. -/
def openBySpan (focus : Dict RowId GameFocus) : Dict RowId RowId :=
  Dict.ofEntries ((focus.entries.filter fun entry => entry.2.endedAt.isNone).map fun entry =>
    (entry.2.spanId, entry.1))

/-- `GameDetectorAgent._execute`, committed. -/
def execute (poll : Poll) (tables : Tables) : Tables :=
  let work := applyPoll poll tables.polls (openByKey tables.spans)
    ⟨tables.spans, tables.focus, openBySpan tables.focus⟩
  ⟨work.spans, work.focus, tables.polls + 1⟩

def closeOpenSpans (tables : Tables) : Tables :=
  { tables with
    focus := tables.focus.mapValues fun _ row => if row.endedAt.isNone then row.closed else row
    spans := tables.spans.mapValues fun _ row => if row.endedAt.isNone then row.closed else row }

end SysadminAssistant.Games
