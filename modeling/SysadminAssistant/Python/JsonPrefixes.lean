import SysadminAssistant.Library.RaisingLoops
import SysadminAssistant.Python.JsonDecode

namespace SysadminAssistant.Python.Json

/-! A decoded text against what it was decoded from: its front part decodes to the same object or to
nothing, and the strings of its fields are shorter than it is. -/

/-! ## Strings are shorter than their text -/

/-- A string, and every string that is a field of an object, has fewer than `bound` code points. -/
def Short (bound : Nat) : Json → Prop
  | .str value => value.length < bound
  | .obj fields => ∀ field ∈ fields, ∀ value, field.2 = .str value → value.length < bound
  | _ => True

def ShortFields (bound : Nat) (fields : List (Text × Json)) : Prop :=
  ∀ field ∈ fields, ∀ value, field.2 = .str value → value.length < bound

def ShortFrame (bound : Nat) : Frame → Prop
  | .arr _ => True
  | .obj fields _ => ShortFields bound fields

/-- What the machine holds after `bound` code points, or fewer. -/
structure ShortMachine (bound : Nat) (machine : Machine) : Prop where
  stack : ∀ frame ∈ machine.stack, ShortFrame bound frame
  mode : match machine.mode with
    | .string _ reading => reading.flushed.length < bound
    | .done value => Short bound value
    | _ => True

variable {bound : Nat}

theorem Short.mono {value : Json} (short : Short bound value) : Short (bound + 1) value := by
  cases value with
  | str value => exact Nat.lt_succ_of_lt short
  | obj fields =>
    exact fun field member value same => Nat.lt_succ_of_lt (short field member value same)
  | _ => trivial

theorem ShortFrame.mono {frame : Frame} (short : ShortFrame bound frame) :
    ShortFrame (bound + 1) frame := by
  cases frame with
  | arr items => trivial
  | obj fields key =>
    exact fun field member value same => Nat.lt_succ_of_lt (short field member value same)

theorem ShortMachine.mono {machine : Machine} (short : ShortMachine bound machine) :
    ShortMachine (bound + 1) machine := by
  obtain ⟨stack, mode⟩ := machine
  refine ⟨fun frame member => (short.stack frame member).mono, ?_⟩
  have before := short.mode
  cases mode with
  | string isKey reading => exact Nat.lt_succ_of_lt before
  | done value => exact Short.mono before
  | _ => trivial

theorem setField_short {key : Text} {value : Json} {fields : List (Text × Json)}
    (new : Short bound value) (old : ShortFields bound fields) :
    ShortFields bound (setField key value fields) := by
  have isShort : ∀ content, value = .str content → content.length < bound := by
    intro content same
    rw [same] at new
    exact new
  induction fields with
  | nil =>
    intro field member
    rw [setField, List.mem_singleton] at member
    rw [member]
    exact isShort
  | cons first rest ih =>
    obtain ⟨other, kept⟩ := first
    have later : ShortFields bound rest :=
      fun field member => old field (List.mem_cons_of_mem _ member)
    rw [setField]
    split
    · intro field member
      rcases List.mem_cons.mp member with here | inside
      · rw [here]
        exact isShort
      · exact later field inside
    · intro field member
      rcases List.mem_cons.mp member with here | inside
      · exact old field (here ▸ List.mem_cons_self)
      · exact ih later field inside

theorem deliver_short {value : Json} {stack : List Frame} (new : Short bound value)
    (frames : ∀ frame ∈ stack, ShortFrame bound frame) : ShortMachine bound (deliver value stack) := by
  cases stack with
  | nil => exact ⟨nofun, new⟩
  | cons frame rest =>
    have later : ∀ other ∈ rest, ShortFrame bound other := fun other member =>
      frames other (List.mem_cons_of_mem _ member)
    cases frame with
    | arr items =>
      refine ⟨fun other member => ?_, trivial⟩
      rcases List.mem_cons.mp member with here | inside
      · rw [here]
        trivial
      · exact later other inside
    | obj fields key =>
      refine ⟨fun other member => ?_, trivial⟩
      rcases List.mem_cons.mp member with here | inside
      · rw [here]
        exact setField_short new (frames _ List.mem_cons_self)
      · exact later other inside

theorem closeString_short {isKey : Bool} {value : Text} {stack : List Frame}
    (new : value.length < bound) (frames : ∀ frame ∈ stack, ShortFrame bound frame) :
    ShortMachine bound (closeString isKey value stack) := by
  unfold closeString
  split
  · refine ⟨fun other member => ?_, trivial⟩
    rcases List.mem_cons.mp member with here | inside
    · have old : ShortFields bound _ := frames _ List.mem_cons_self
      rw [here]
      exact old
    · exact frames other (List.mem_cons_of_mem _ inside)
  · exact deliver_short new frames

theorem startValue_short {depthLimit : Nat} {stack : List Frame} {c : CodePoint} {next : Machine}
    (frames : ∀ frame ∈ stack, ShortFrame bound frame)
    (started : startValue depthLimit stack c = .ok next) :
    ShortMachine (bound + 1) next := by
  have grown : ∀ frame ∈ stack, ShortFrame (bound + 1) frame :=
    fun frame member => (frames frame member).mono
  unfold startValue at started
  repeat' split at started
  all_goals cases started
  · exact ⟨grown, Nat.succ_pos _⟩
  · refine ⟨fun other member => ?_, trivial⟩
    rcases List.mem_cons.mp member with here | inside
    · rw [here]
      exact nofun
    · exact grown other inside
  · refine ⟨fun other member => ?_, trivial⟩
    rcases List.mem_cons.mp member with here | inside
    · rw [here]
      trivial
    · exact grown other inside
  all_goals exact ⟨grown, trivial⟩

theorem afterValue_short {machine next : Machine} {c : CodePoint}
    (short : ShortMachine bound machine) (read : afterValue machine c = .ok next) :
    ShortMachine (bound + 1) next := by
  obtain ⟨stack, mode⟩ := machine
  have grown : ∀ frame ∈ stack, ShortFrame (bound + 1) frame :=
    fun frame member => (short.stack frame member).mono
  unfold afterValue at read
  split at read
  · cases read
    exact short.mono
  · split at read
    · rename_i same
      cases same
      repeat' split at read
      all_goals cases read
      · exact ⟨grown, trivial⟩
      · exact deliver_short trivial fun frame member => grown frame (List.mem_cons_of_mem _ member)
    · rename_i same
      cases same
      repeat' split at read
      all_goals cases read
      · exact ⟨grown, trivial⟩
      · refine deliver_short ?_ fun frame member => grown frame (List.mem_cons_of_mem _ member)
        exact grown _ List.mem_cons_self
    · cases read

theorem putEscaped_length (reading : Reading) (unit : Nat) :
    (reading.putEscaped unit).flushed.length ≤ reading.flushed.length + 1 := by
  simp only [Reading.putEscaped]
  split
  · simp only [Reading.flushed, Option.toList_none, List.append_nil, List.length_append,
      List.length_singleton]
    omega
  · split
    · simp only [Reading.flushed, Option.toList_some, List.length_append,
        List.length_singleton, le_refl]
    · simp only [Reading.flushed, Reading.put, Option.toList_none, List.append_nil,
        List.length_append, List.length_singleton, le_refl]

theorem stringStep_short {stack : List Frame} {isKey : Bool} {reading : Reading} {c : CodePoint}
    {next : Machine} (frames : ∀ frame ∈ stack, ShortFrame bound frame)
    (short : reading.flushed.length < bound) (read : stringStep stack isKey reading c = .ok next) :
    ShortMachine (bound + 1) next := by
  have grown : ∀ frame ∈ stack, ShortFrame (bound + 1) frame :=
    fun frame member => (frames frame member).mono
  have longer : reading.flushed.length < bound + 1 := Nat.lt_succ_of_lt short
  have put : ∀ c, (reading.put c).flushed.length < bound + 1 := by
    intro c
    rw [Reading.put, Reading.flushed, Option.toList_none, List.append_nil, List.length_append,
      List.length_singleton]
    exact Nat.succ_lt_succ short
  unfold stringStep at read
  repeat' split at read
  all_goals cases read
  · exact closeString_short longer grown
  · exact ⟨grown, longer⟩
  · exact ⟨grown, put _⟩
  · exact ⟨grown, longer⟩
  · exact ⟨grown, put _⟩
  · refine ⟨grown, ?_⟩
    exact (putEscaped_length _ _).trans_lt (Nat.succ_lt_succ short)
  · exact ⟨grown, longer⟩

theorem numberOf_short {read : Text} {value : Json} (parsed : numberOf read = .ok value) :
    Short bound value := by
  unfold numberOf at parsed
  simp only at parsed
  repeat' split at parsed
  all_goals cases parsed
  all_goals trivial

theorem Literal.value_short (literal : Literal) : Short bound literal.value := by
  cases literal <;> trivial

theorem step_short {depthLimit : Nat} {machine next : Machine} {c : CodePoint}
    (short : ShortMachine bound machine) (read : step depthLimit machine c = .ok next) :
    ShortMachine (bound + 1) next := by
  obtain ⟨stack, mode⟩ := machine
  have frames := short.stack
  have grown : ∀ frame ∈ stack, ShortFrame (bound + 1) frame :=
    fun frame member => (frames frame member).mono
  cases mode with
  | value first =>
    simp only [step] at read
    split at read
    · cases read
      exact short.mono
    · split at read
      · split at read
        · cases read
          exact deliver_short trivial fun frame member => grown frame (List.mem_cons_of_mem _ member)
        · exact startValue_short frames read
      · exact startValue_short frames read
  | key first =>
    simp only [step] at read
    split at read
    · cases read
      exact short.mono
    · split at read
      · cases read
        exact ⟨grown, Nat.succ_pos _⟩
      · split at read
        · split at read
          · cases read
            refine deliver_short ?_ fun frame member => grown frame (List.mem_cons_of_mem _ member)
            exact grown _ List.mem_cons_self
          · cases read
        · cases read
  | colon =>
    simp only [step] at read
    split at read
    · cases read
      exact short.mono
    · split at read
      · cases read
        exact ⟨grown, trivial⟩
      · cases read
  | string isKey reading => exact stringStep_short frames short.mode read
  | number digits =>
    simp only [step] at read
    split at read
    · cases read
      exact ⟨grown, trivial⟩
    · split at read
      · cases read
        exact ⟨grown, trivial⟩
      · cases parsed : numberOf digits with
        | error raised => simp [parsed, bind, Except.bind] at read
        | ok value =>
          simp only [parsed, bind, Except.bind] at read
          exact afterValue_short (deliver_short (numberOf_short parsed) frames) read
  | literal literal matched =>
    simp only [step] at read
    split at read
    · split at read
      · cases read
        exact deliver_short literal.value_short grown
      · cases read
        exact ⟨grown, trivial⟩
    · cases read
  | separator => exact afterValue_short short read
  | done value => exact afterValue_short short read

theorem run_short {depthLimit : Nat} {value : Text} {machine reached : Machine}
    (short : ShortMachine bound machine)
    (ran : value.foldlM (step depthLimit) machine = .ok reached) :
    ShortMachine (bound + value.length) reached := by
  induction value generalizing bound machine with
  | nil =>
    cases ran
    exact short
  | cons c rest ih =>
    obtain ⟨next, stepped, ran⟩ := Library.foldlM_cons_ok.mp ran
    have later := ih (step_short short stepped) ran
    rwa [List.length_cons, Nat.add_comm rest.length, ← Nat.add_assoc]

theorem finish_short {machine : Machine} {value : Json} (short : ShortMachine bound machine)
    (finished : finish machine = .ok value) : Short bound value := by
  obtain ⟨stack, mode⟩ := machine
  cases mode with
  | done content =>
    cases stack with
    | nil =>
      cases finished
      exact short.mode
    | cons frame rest => cases finished
  | number digits =>
    cases stack with
    | nil => exact numberOf_short finished
    | cons frame rest => cases finished
  | _ => cases finished

theorem length_lt_of_loads {depthLimit : Nat} {value : Text} {json : Json}
    (loaded : loads depthLimit value = .ok json) : Short value.length json := by
  simp only [loads, bind, Except.bind] at loaded
  split at loaded
  · cases loaded
  · rename_i ran
    have start : ShortMachine 0 ⟨[], .value false⟩ := ⟨List.forall_mem_nil _, trivial⟩
    have short := run_short start ran
    rw [Nat.zero_add] at short
    exact finish_short short loaded

theorem field_short {key value : Text} {fields : List (Text × Json)}
    (short : ShortFields bound fields) (found : field key fields = .str value) :
    value.length < bound := by
  induction fields with
  | nil => cases found
  | cons first rest ih =>
    obtain ⟨other, content⟩ := first
    rw [field, field?] at found
    split at found
    · exact short _ List.mem_cons_self _ found
    · exact ih (fun entry member => short entry (List.mem_cons_of_mem _ member)) found

/-! ## A text and its front part -/

/-- A number, a literal or a complete value that is no object, with nothing open around it. -/
def Atomic (machine : Machine) : Prop :=
  machine.stack = [] ∧ match machine.mode with
    | .number _ | .literal _ _ => True
    | .done value => ∀ fields, value ≠ .obj fields
    | _ => False

theorem afterValue_done {value : Json} {next : Machine} {c : CodePoint}
    (read : afterValue ⟨[], .done value⟩ c = .ok next) : next = ⟨[], .done value⟩ := by
  unfold afterValue at read
  split at read
  · exact (Except.ok.inj read).symm
  · cases read

theorem run_done {depthLimit : Nat} {more : Text} {value : Json} {reached : Machine}
    (ran : more.foldlM (step depthLimit) ⟨[], .done value⟩ = .ok reached) :
    reached = ⟨[], .done value⟩ := by
  have kept : ∀ state c next, state = ⟨[], .done value⟩ → step depthLimit state c = .ok next →
      next = ⟨[], .done value⟩ := by
    intro state c next same stepped
    rw [same] at stepped
    exact afterValue_done stepped
  have ended := Library.foldlM_invariant kept rfl ran
  exact ended

theorem numberOf_not_obj {read : Text} {value : Json} (parsed : numberOf read = .ok value) :
    ∀ fields, value ≠ .obj fields := by
  unfold numberOf at parsed
  simp only at parsed
  repeat' split at parsed
  all_goals cases parsed
  all_goals exact nofun

theorem step_atomic {depthLimit : Nat} {machine next : Machine} {c : CodePoint}
    (atomic : Atomic machine) (read : step depthLimit machine c = .ok next) : Atomic next := by
  obtain ⟨stack, mode⟩ := machine
  obtain ⟨rfl, plain⟩ := atomic
  cases mode with
  | number digits =>
    simp only [step] at read
    split at read
    · cases read
      exact ⟨rfl, trivial⟩
    · split at read
      · cases read
        exact ⟨rfl, trivial⟩
      · cases parsed : numberOf digits with
        | error raised => simp [parsed, bind, Except.bind] at read
        | ok value =>
          simp only [parsed, bind, Except.bind] at read
          rw [afterValue_done read]
          exact ⟨rfl, numberOf_not_obj parsed⟩
  | literal literal matched =>
    simp only [step] at read
    split at read
    · split at read
      · cases read
        refine ⟨rfl, ?_⟩
        cases literal <;> rintro _ ⟨⟩
      · cases read
        exact ⟨rfl, trivial⟩
    · cases read
  | done value =>
    rw [afterValue_done read]
    exact ⟨rfl, plain⟩
  | _ => exact plain.elim

theorem run_atomic {depthLimit : Nat} {more : Text} {machine reached : Machine}
    (atomic : Atomic machine) (ran : more.foldlM (step depthLimit) machine = .ok reached) :
    Atomic reached :=
  Library.foldlM_invariant (fun _ _ _ => step_atomic) atomic ran

theorem finish_atomic {machine : Machine} {value : Json} (atomic : Atomic machine)
    (finished : finish machine = .ok value) : ∀ fields, value ≠ .obj fields := by
  obtain ⟨stack, mode⟩ := machine
  obtain ⟨rfl, plain⟩ := atomic
  cases mode with
  | number digits => exact numberOf_not_obj finished
  | literal literal matched => cases finished
  | done content =>
    cases finished
    exact plain
  | _ => exact plain.elim

theorem finish_error {machine : Machine} {raised : PyError}
    (failed : finish machine = .error raised) : raised = .valueError := by
  unfold finish at failed
  split at failed
  · cases failed
  · exact numberOf_error failed
  · exact (Except.error.inj failed).symm

theorem loads_front {depthLimit : Nat} {front more : Text} {fields : List (Text × Json)}
    (whole : loads depthLimit (front ++ more) = .ok (.obj fields)) :
    loads depthLimit front = .ok (.obj fields) ∨ loads depthLimit front = .error .valueError := by
  simp only [loads, List.foldlM_append, bind, Except.bind] at whole ⊢
  split at whole
  · cases whole
  · rename_i final ran
    split at ran
    · cases ran
    · rename_i reached first
      cases ended : finish reached with
      | error raised => exact Or.inr (congrArg Except.error (finish_error ended))
      | ok value =>
        refine Or.inl (congrArg Except.ok ?_)
        obtain ⟨stack, mode⟩ := reached
        cases stack with
        | cons frame rest => cases mode <;> cases ended
        | nil =>
          cases mode with
          | done content =>
            cases ended
            rw [run_done ran] at whole
            exact Except.ok.inj whole
          | number digits =>
            have atomic := run_atomic ⟨rfl, trivial⟩ ran
            exact absurd rfl (finish_atomic atomic whole fields)
          | _ => cases ended

end SysadminAssistant.Python.Json
