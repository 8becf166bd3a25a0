import SysadminAssistant.Monitor.IngestedOnce
import SysadminAssistant.Monitor.PollTurns

namespace SysadminAssistant.Monitor

open Python SysadminAssistant.Core Library

/-! Polls whose transaction may roll back after the reads: what such a poll read lies behind
the resume positions, whether its rows were stored or not. -/

section

variable {interpreter : Interpreter}

/-- One source read of a poll. -/
structure SourceRead where
  source : LogSource
  start : Nat
  stop : Nat
  kept : List Entry
  ahead : List Entry

/-- The reads of a poll, up to the one that raised. -/
def turnReads (around : Surroundings interpreter) (stored : List Entry) :
    Ingestion → List (Turn interpreter around.run) → List SourceRead
  | _, [] => []
  | ingestion, turn :: rest =>
    match readSource around.poll stored ingestion turn.source with
    | .error _ => []
    | .ok next =>
      { source := turn.source
        start := turnStart around stored ingestion turn
        stop := turn.size
        kept := (next.reads.getLast?.map Prod.snd).getD []
        ahead := turnAhead around stored ingestion turn } :: turnReads around stored next rest

structure FedRun (interpreter : Interpreter) where
  around : Surroundings interpreter
  startRaises : Bool
  commitEscape : Option Escape
  outcomeRaises : Bool
  publishRaisesAt : Option Nat

namespace FedRun

def run (fed : FedRun interpreter) : Run Poll where
  startRaises := fed.startRaises
  input := fed.around.poll
  commitEscape := fed.commitEscape
  outcomeRaises := fed.outcomeRaises
  publishRaisesAt := fed.publishRaisesAt

def after (state : IngestState) (fed : FedRun interpreter) : IngestState := poll state fed.run

def commits (state : IngestState) (fed : FedRun interpreter) : Bool := pollCommits state fed.run

def reads (state : IngestState) (fed : FedRun interpreter) : List SourceRead :=
  if fed.startRaises then []
  else turnReads fed.around state.rows ⟨state.agent.memory, [], []⟩ fed.around.turns

end FedRun

/-- A later content of the same source. -/
def Turn.GrowsTo {run later : JournalCommand → Process} :
    Turn interpreter run → Turn interpreter later → Prop
  | .journal source feed _, .journal other longer _ => source = other ∧ feed.records <+: longer.records
  | .file source bytes _, .file other longer _ => source = other ∧ bytes <+: longer
  | _, _ => False

/-- The same sources, none of them shorter. -/
def FedRun.GrowsTo (earlier later : FedRun interpreter) : Prop :=
  ∀ turn ∈ earlier.around.turns, ∃ grown ∈ later.around.turns, turn.GrowsTo grown

/-- The next poll that commits reads all of it again. -/
def ReadAgain (read : SourceRead) : IngestState → List (FedRun interpreter) → Prop
  | _, [] => True
  | state, fed :: rest =>
    if fed.commits state then
      ∃ again ∈ fed.reads state, again.source = read.source ∧ again.start ≤ read.start ∧
        read.stop ≤ again.stop
    else ReadAgain read (fed.after state) rest

/-- Whatever admitted entries a rolled-back poll has read, the next one that commits reads
them again (and stores what it reads). -/
def NothingLost : IngestState → List (FedRun interpreter) → Prop
  | _, [] => True
  | state, fed :: rest =>
    (fed.commits state = false → ∀ read ∈ fed.reads state, read.kept ≠ [] →
      ReadAgain read (fed.after state) rest) ∧
    NothingLost (fed.after state) rest

def CommitsLater : IngestState → List (FedRun interpreter) → Bool
  | _, [] => false
  | state, fed :: rest => fed.commits state || CommitsLater (fed.after state) rest

/-- No poll that rolls back, and that one which commits follows, finds an admitted entry
ahead of a resume position. -/
def RollsBackIdle : IngestState → List (FedRun interpreter) → Prop
  | _, [] => True
  | state, fed :: rest =>
    (fed.commits state = false → CommitsLater (fed.after state) rest = true →
      ∀ read ∈ fed.reads state, read.ahead = []) ∧
    RollsBackIdle (fed.after state) rest

section

variable {around : Surroundings interpreter} {stored : List Entry}

theorem turnReads_kept {ingestion : Ingestion} {turns : List (Turn interpreter around.run)}
    (members : ∀ turn ∈ turns, turn ∈ around.turns) (savable : Savable ingestion.resume) :
    ∀ read ∈ turnReads around stored ingestion turns, read.kept = read.ahead := by
  induction turns generalizing ingestion with
  | nil => simp [turnReads]
  | cons turn rest ih =>
    have mine := members turn List.mem_cons_self
    simp only [turnReads]
    split
    · simp
    · rename_i next read
      intro found member
      rcases List.mem_cons.mp member with here | later
      · subst here
        simp [readSource_ahead mine savable read]
      · exact ih (fun other inside => members other (List.mem_cons_of_mem _ inside))
          (readSource_savable mine savable read) found later

theorem readSources_savable {ingestion : Ingestion} {turns : List (Turn interpreter around.run)}
    (members : ∀ turn ∈ turns, turn ∈ around.turns) (savable : Savable ingestion.resume) :
    Savable (readSources around.poll stored ingestion (turns.map Turn.source)).1.resume := by
  induction turns generalizing ingestion with
  | nil => exact savable
  | cons turn rest ih =>
    simp only [List.map_cons, readSources]
    split
    · exact savable
    · rename_i next read
      exact ih (fun other inside => members other (List.mem_cons_of_mem _ inside))
        (readSource_savable (members turn List.mem_cons_self) savable read)

theorem turnReads_resumed {turn : Turn interpreter around.run} {ingestion : Ingestion} {place : Nat}
    {turns : List (Turn interpreter around.run)} (members : ∀ other ∈ turns, other ∈ around.turns)
    (named : ∀ other ∈ turns, other.name = turn.name → other = turn)
    (savable : Savable ingestion.resume) (resumed : turn.Resumed ingestion.resume place) :
    (∀ read ∈ turnReads around stored ingestion turns, read.source = turn.source →
      place ≤ read.start) ∧ ∃ later, place ≤ later ∧
        turn.Resumed
          (readSources around.poll stored ingestion (turns.map Turn.source)).1.resume later := by
  induction turns generalizing ingestion place with
  | nil => exact ⟨by simp [turnReads], place, Nat.le_refl _, resumed⟩
  | cons other rest ih =>
    have mine := members other List.mem_cons_self
    have members' := fun found inside => members found (List.mem_cons_of_mem other inside)
    have named' := fun found inside => named found (List.mem_cons_of_mem other inside)
    simp only [turnReads, List.map_cons, readSources]
    cases read : readSource around.poll stored ingestion other.source with
    | error escape => exact ⟨by simp, place, Nat.le_refl _, resumed⟩
    | ok next =>
      have kept := readSource_savable mine savable read
      by_cases same : other.name = turn.name
      · have equal := named other List.mem_cons_self same
        subst equal
        obtain ⟨start, later, order, moved⟩ := readSource_resumed mine savable resumed read
        obtain ⟨following, last, beyond, ends⟩ := ih members' named' kept moved
        refine ⟨fun found member equal => ?_, last, Nat.le_trans order beyond, ends⟩
        rcases List.mem_cons.mp member with here | after
        · subst here
          exact Nat.le_of_eq start.symm
        · exact Nat.le_trans order (following found after equal)
      · have still := readSource_other mine savable same resumed read
        obtain ⟨following, last, beyond, ends⟩ := ih members' named' kept still
        refine ⟨fun found member equal => ?_, last, beyond, ends⟩
        rcases List.mem_cons.mp member with here | after
        · subst here
          exact absurd (congrArg LogSource.name equal) same
        · exact following found after equal

theorem turnReads_passed {ingestion : Ingestion} {turns : List (Turn interpreter around.run)}
    (members : ∀ turn ∈ turns, turn ∈ around.turns) (distinct : (turns.map Turn.name).Nodup)
    (savable : Savable ingestion.resume) :
    ∀ read ∈ turnReads around stored ingestion turns, read.kept ≠ [] →
      ∃ turn ∈ turns, turn.source = read.source ∧ ∃ place, read.start < place ∧
        turn.Resumed
          (readSources around.poll stored ingestion (turns.map Turn.source)).1.resume place := by
  induction turns generalizing ingestion with
  | nil => simp [turnReads]
  | cons turn rest ih =>
    have mine := members turn List.mem_cons_self
    have members' := fun found inside => members found (List.mem_cons_of_mem turn inside)
    obtain ⟨fresh, distinct'⟩ := List.nodup_cons.mp distinct
    simp only [turnReads, List.map_cons, readSources]
    cases read : readSource around.poll stored ingestion turn.source with
    | error escape => simp
    | ok next =>
      have kept := readSource_savable mine savable read
      intro found member something
      rcases List.mem_cons.mp member with here | later
      · subst here
        have ahead : turnAhead around stored ingestion turn ≠ [] := by
          simpa [readSource_ahead mine savable read] using something
        obtain ⟨order, moved⟩ := readSource_moves mine savable read ahead
        have named : ∀ other ∈ rest, other.name = turn.name → other = turn := fun other inside same =>
          absurd (List.mem_map.mpr ⟨other, inside, same⟩) fresh
        obtain ⟨_, last, beyond, ends⟩ := turnReads_resumed members' named kept moved
        exact ⟨turn, List.mem_cons_self, rfl, last, Nat.lt_of_lt_of_le order beyond, ends⟩
      · obtain ⟨other, inside, same, place, order, ends⟩ :=
          ih members' distinct' kept found later something
        exact ⟨other, List.mem_cons_of_mem _ inside, same, place, order, ends⟩

end

section

variable {run later : JournalCommand → Process} {turn : Turn interpreter run}
  {grown : Turn interpreter later}

theorem Turn.GrowsTo.source (grows : turn.GrowsTo grown) : grown.source = turn.source := by
  cases turn with
  | journal source feed _ =>
    cases grown with
    | journal other longer _ => exact congrArg LogSource.journal grows.1.symm
    | file other longer _ => exact grows.elim
  | file source bytes _ =>
    cases grown with
    | journal other longer _ => exact grows.elim
    | file other longer _ => exact congrArg LogSource.file grows.1.symm

theorem Turn.GrowsTo.resumed {resume : ResumeState} {place : Nat} (grows : turn.GrowsTo grown)
    (resumed : turn.Resumed resume place) : grown.Resumed resume place := by
  cases turn with
  | journal source feed _ =>
    cases grown with
    | journal other longer _ =>
      obtain ⟨same, prefixed⟩ := grows
      subst same
      obtain ⟨record, there, positive, saved⟩ := resumed
      exact ⟨record, stays_of_prefix prefixed there, positive, saved⟩
    | file other longer _ => exact grows.elim
  | file source bytes _ =>
    cases grown with
    | journal other longer _ => exact grows.elim
    | file other longer _ =>
      obtain ⟨same, prefixed⟩ := grows
      subst same
      exact ⟨Nat.le_trans resumed.1 prefixed.length_le, resumed.2⟩

end

namespace FedRun

variable {state : IngestState} {fed : FedRun interpreter}

theorem after_memory (state : IngestState) (fed : FedRun interpreter) :
    (fed.after state).agent.memory =
      if fed.startRaises then state.agent.memory
      else (readSources fed.around.poll state.rows ⟨state.agent.memory, [], []⟩
        (fed.around.turns.map Turn.source)).1.resume := by
  rw [after, poll_memory, runReads]
  cases started : fed.startRaises <;> simp [run, started, pollReads, Surroundings.poll]

theorem after_savable (savable : Savable state.agent.memory) :
    Savable (fed.after state).agent.memory := by
  rw [after_memory]
  split
  · exact savable
  · exact readSources_savable (fun _ member => member) savable

theorem named (fed : FedRun interpreter) {turn : Turn interpreter fed.around.run}
    (member : turn ∈ fed.around.turns) :
    ∀ other ∈ fed.around.turns, other.name = turn.name → other = turn := fun _ inside same =>
  List.inj_on_of_nodup_map fed.around.distinct inside member same

theorem after_resumed {turn : Turn interpreter fed.around.run} {place : Nat}
    (member : turn ∈ fed.around.turns) (savable : Savable state.agent.memory)
    (resumed : turn.Resumed state.agent.memory place) :
    (∀ read ∈ fed.reads state, read.source = turn.source → place ≤ read.start) ∧
      ∃ later, place ≤ later ∧ turn.Resumed (fed.after state).agent.memory later := by
  rw [after_memory, reads]
  split
  · exact ⟨by simp, place, Nat.le_refl _, resumed⟩
  · exact turnReads_resumed (fun _ inside => inside) (fed.named member) savable resumed

theorem after_passed (savable : Savable state.agent.memory) :
    ∀ read ∈ fed.reads state, read.kept ≠ [] →
      ∃ turn ∈ fed.around.turns, turn.source = read.source ∧ ∃ place, read.start < place ∧
        turn.Resumed (fed.after state).agent.memory place := by
  rw [after_memory, reads]
  split
  · simp
  · exact turnReads_passed (fun _ inside => inside) fed.around.distinct savable

theorem reads_kept (savable : Savable state.agent.memory) :
    ∀ read ∈ fed.reads state, read.kept = read.ahead := by
  rw [reads]
  split
  · simp
  · exact turnReads_kept (fun _ inside => inside) savable

end FedRun

theorem not_readAgain {run : JournalCommand → Process} {turn : Turn interpreter run} {place : Nat}
    {read : SourceRead} {state : IngestState} {rest : List (FedRun interpreter)}
    (same : turn.source = read.source) (beyond : read.start < place)
    (resumed : turn.Resumed state.agent.memory place) (savable : Savable state.agent.memory)
    (grows : ∀ fed ∈ rest, ∃ grown ∈ fed.around.turns, turn.GrowsTo grown)
    (chain : rest.Pairwise FedRun.GrowsTo) (commits : CommitsLater state rest = true) :
    ¬ ReadAgain read state rest := by
  induction rest generalizing run state place with
  | nil => cases commits
  | cons fed rest ih =>
    obtain ⟨grown, member, growing⟩ := grows fed List.mem_cons_self
    obtain ⟨first, chain'⟩ := List.pairwise_cons.mp chain
    obtain ⟨started, further, order, moved⟩ :=
      FedRun.after_resumed member savable (growing.resumed resumed)
    have source := growing.source.trans same
    intro again
    rw [ReadAgain] at again
    cases committing : fed.commits state with
    | true =>
      rw [committing, if_pos rfl] at again
      obtain ⟨found, inside, equal, early, _⟩ := again
      have late := started found inside (equal.trans source.symm)
      omega
    | false =>
      rw [committing, if_neg Bool.false_ne_true] at again
      rw [CommitsLater, committing, Bool.false_or] at commits
      exact ih source (Nat.lt_of_lt_of_le beyond order) moved (FedRun.after_savable savable)
        (fun other inside => first other inside grown member) chain' commits again

theorem not_nothingLost_of_later {state : IngestState} {fed next : FedRun interpreter}
    {read : SourceRead} (rolledBack : fed.commits state = false)
    (commits : next.commits (fed.after state) = true) (member : read ∈ fed.reads state)
    (kept : read.kept ≠ [])
    (late : ∀ again ∈ next.reads (fed.after state), read.start < again.start) :
    ¬ NothingLost state [fed, next] := by
  intro recovered
  have again := recovered.1 rolledBack read member kept
  rw [ReadAgain, commits, if_pos rfl] at again
  obtain ⟨found, inside, _, early, _⟩ := again
  exact absurd early (Nat.not_le_of_lt (late found inside))

theorem readAgain_of_not_commitsLater (read : SourceRead) {state : IngestState}
    {rest : List (FedRun interpreter)} (never : CommitsLater state rest = false) :
    ReadAgain read state rest := by
  induction rest generalizing state with
  | nil => trivial
  | cons fed rest ih =>
    obtain ⟨idle, later⟩ := Bool.or_eq_false_iff.mp never
    rw [ReadAgain, idle, if_neg Bool.false_ne_true]
    exact ih later

theorem nothingLost_iff {state : IngestState} {runs : List (FedRun interpreter)}
    (savable : Savable state.agent.memory) (chain : runs.Pairwise FedRun.GrowsTo) :
    NothingLost state runs ↔ RollsBackIdle state runs := by
  induction runs generalizing state with
  | nil => exact Iff.rfl
  | cons fed rest ih =>
    obtain ⟨first, chain'⟩ := List.pairwise_cons.mp chain
    have following : Savable (fed.after _).agent.memory := FedRun.after_savable savable
    refine and_congr ?_ (ih following chain')
    constructor
    · intro recovered rolledBack commits read member
      by_contra something
      have kept : read.kept ≠ [] := by rwa [FedRun.reads_kept savable read member]
      obtain ⟨turn, inside, same, place, beyond, resumed⟩ :=
        FedRun.after_passed savable read member kept
      exact not_readAgain same beyond resumed following
        (fun other among => first other among turn inside) chain' commits
        (recovered rolledBack read member kept)
    · intro idle rolledBack read member kept
      cases commits : CommitsLater (fed.after state) rest with
      | false => exact readAgain_of_not_commitsLater read commits
      | true =>
        have nothing := idle rolledBack commits read member
        rw [FedRun.reads_kept savable read member] at kept
        exact absurd nothing kept

/-- An agent that has just started, over the rows of its predecessors. -/
def ingestStart (rows : List Entry) : IngestState := ⟨⟨⟨.empty, .empty⟩, none⟩, rows⟩

theorem savable_start (rows : List Entry) : Savable (ingestStart rows).agent.memory := by
  intro name cursor found
  simp [ingestStart] at found

/-- Over growing sources, polls that may roll back lose nothing exactly if no poll that
rolls back, before one that commits, finds an admitted entry to read. -/
theorem nothing_lost_iff_rolls_back_idle (rows : List Entry) (runs : List (FedRun interpreter))
    (growing : runs.Pairwise FedRun.GrowsTo) :
    NothingLost (ingestStart rows) runs ↔ RollsBackIdle (ingestStart rows) runs :=
  nothingLost_iff (savable_start rows) growing

end

/-- A poll of the first record of the outage. -/
def outageSurroundings : Surroundings plainInterpreter where
  limit := 500
  run := outageAnswers 1 1699999700000000 false
  clock := fun _ _ => 0
  file := fun _ => .missing
  turns := [.journal nginx (outageFeed 1 1699999700000000 false) rfl]
  distinct := by simp
  opens := by simp
  raises := fun _ => none
  raising := none
  queued := []

def outageRun (commitEscape : Option Escape) : FedRun plainInterpreter :=
  ⟨outageSurroundings, false, commitEscape, false, none⟩

theorem outageRun_growsTo (earlier later : Option Escape) :
    (outageRun earlier).GrowsTo (outageRun later) := by
  intro turn member
  exact ⟨turn, member, by
    cases List.mem_singleton.mp member
    exact ⟨rfl, List.prefix_refl _⟩⟩

/-- A poll that rolls back with nothing new to read, between two that commit. -/
def quietRollback : List (FedRun plainInterpreter) :=
  [outageRun none, outageRun (some .exception), outageRun none]

theorem committed_polls_lose_nothing : NothingLost (ingestStart []) quietRollback := by
  refine (nothing_lost_iff_rolls_back_idle [] _ ?_).mpr ?_
  · simp [quietRollback, outageRun_growsTo]
  · have first : (outageRun none).commits (ingestStart []) = true := by decide +kernel
    have nothing : ((outageRun (some .exception)).reads ((outageRun none).after
        (ingestStart []))).all (fun read => read.ahead.isEmpty) = true := by decide +kernel
    have last : (outageRun none).commits
        ((outageRun (some .exception)).after ((outageRun none).after (ingestStart []))) = true := by
      decide +kernel
    simp only [List.all_eq_true, List.isEmpty_iff] at nothing
    refine ⟨by simp [first], fun _ _ => nothing, by simp [last], trivial⟩

/-- The commit of the first poll fails: its error is in no later one. -/
theorem failed_commit_loses :
    ¬ NothingLost (ingestStart []) [outageRun (some .exception), outageRun none] := by
  have idle : (outageRun (some .exception)).commits (ingestStart []) = false := by decide +kernel
  have commits : (outageRun none).commits ((outageRun (some .exception)).after (ingestStart [])) =
      true := by
    decide +kernel
  have first : ((outageRun (some .exception)).reads (ingestStart [])).map
      (fun read => (read.start, read.kept.length)) = [(0, 1)] := by decide +kernel
  have second : ((outageRun none).reads ((outageRun (some .exception)).after (ingestStart []))).map
      SourceRead.start = [1] := by decide +kernel
  have present : (0, 1) ∈ ((outageRun (some .exception)).reads (ingestStart [])).map
      (fun read => (read.start, read.kept.length)) := by
    rw [first]
    exact List.mem_singleton_self _
  obtain ⟨read, member, shape⟩ := List.mem_map.mp present
  simp only [Prod.mk.injEq] at shape
  obtain ⟨start, kept⟩ := shape
  have something : read.kept ≠ [] := by
    intro nothing
    simp [nothing] at kept
  refine not_nothingLost_of_later idle commits member something ?_
  intro later inside
  have late : later.start = 1 := by
    simpa [second] using List.mem_map_of_mem (f := SourceRead.start) inside
  omega

end SysadminAssistant.Monitor
