import SysadminAssistant.Python.JsonAcceptance
import SysadminAssistant.Python.Json

namespace SysadminAssistant.Python.Json

/-! Whole texts: what `json.loads` accepts, and when it hands out an object. -/

variable {depthLimit : Nat} {machine next : Machine} {rest : Text} {c : CodePoint} {value : Json}

/-! ## The end of the text -/

theorem finish_sound (finished : finish machine = .ok value) : Completes machine [] := by
  obtain ⟨stack, mode⟩ := machine
  unfold finish at finished
  split at finished
  · rename_i isDone isEmpty
    cases isDone
    cases isEmpty
    exact ⟨rfl, .ended⟩
  · rename_i isNumber isEmpty
    cases isNumber
    cases isEmpty
    exact ⟨[], [], by simpa using numberOf_spelled finished, .ended, rfl⟩
  · cases finished

theorem Derives.value_ne_nil {text_ : Text} (derived : Derives .value text_) : text_ ≠ [] := by
  cases derived with
  | null => decide
  | true => decide
  | false => decide
  | number spelled =>
    obtain ⟨minus, whole, _, _, _, ⟨⟨nonempty, _⟩, _⟩, _, _, rfl⟩ := spelled
    simp [nonempty]
  | string spelled =>
    obtain ⟨body, _, rfl⟩ := spelled
    exact List.cons_ne_nil _ _
  | _ => exact List.cons_ne_nil _ _

theorem BlankValueThen.ne_nil {open_ : List Bracket} (begun : BlankValueThen open_ rest) :
    rest ≠ [] := by
  obtain ⟨space, _, _, ⟨value, more, derived, _, rfl⟩, rfl⟩ := begun
  simp [derived.value_ne_nil]

theorem finish_complete (completes : Completes machine []) :
    (∃ value, finish machine = .ok value) ∨ finishDefect machine = .error .digits := by
  obtain ⟨stack, mode⟩ := machine
  have ended : ∀ {more : Text}, Continues (stack.map Frame.bracket) more → more = [] → stack = [] := by
    intro more continues nothing
    rw [nothing] at continues
    generalize brackets : stack.map Frame.bracket = open_ at continues
    cases continues
    exact List.map_eq_nil_iff.mp brackets
  cases mode with
  | value first =>
    rcases completes with begun | ⟨_, outer, space, more, _, _, _, impossible⟩
    · exact absurd rfl begun.ne_nil
    · simp at impossible
  | key first =>
    rcases completes with ⟨space, key, more, _, ⟨body, _, rfl⟩, _, impossible⟩
      | ⟨_, outer, space, more, _, _, _, impossible⟩
    · simp at impossible
    · simp at impossible
  | colon =>
    obtain ⟨space, later, _, _, impossible⟩ := completes
    simp at impossible
  | string isKey reading =>
    obtain ⟨body, more, _, _, impossible⟩ := completes
    simp at impossible
  | number read =>
    obtain ⟨digits, more, spelled, continues, nothing⟩ := completes
    obtain ⟨rfl, rfl⟩ := List.append_eq_nil_iff.mp nothing.symm
    have isEmpty := ended continues rfl
    subst isEmpty
    rw [List.append_nil] at spelled
    rcases numberOf_complete spelled with ⟨value, parsed⟩ | ⟨failed, tooLong⟩
    · exact Or.inl ⟨value, parsed⟩
    · have digits : defectOf ⟨[], .number read⟩ .valueError = .digits := if_pos tooLong
      refine Or.inr ?_
      rw [finishDefect, show finish ⟨[], .number read⟩ = .error .valueError from failed]
      exact congrArg Except.error digits
  | literal literal matched =>
    obtain ⟨_, inside, more, _, impossible⟩ := completes
    have nothing := (List.append_eq_nil_iff.mp impossible.symm).1
    exact absurd (List.drop_eq_nil_iff.mp nothing) (by omega)
  | separator =>
    have isEmpty := ended completes.2 rfl
    subst isEmpty
    exact absurd rfl completes.1
  | done value =>
    have isEmpty := List.map_eq_nil_iff.mp completes.1
    subst isEmpty
    exact Or.inl ⟨value, rfl⟩

/-! ## Runs -/

theorem strictStep_ok : strictStep depthLimit machine c = .ok next ↔
    meetsConstant machine c = false ∧ step depthLimit machine c = .ok next := by
  unfold strictStep stepDefect
  cases meetsConstant machine c with
  | true => simp
  | false => cases step depthLimit machine c <;> simp [Except.mapError]

theorem run_sound {reached : Machine} (ran : rest.foldlM (strictStep depthLimit) machine = .ok reached)
    (finished : finish reached = .ok value) : Completes machine rest := by
  induction rest generalizing machine with
  | nil =>
    cases ran
    exact finish_sound finished
  | cons c rest ih =>
    obtain ⟨next, stepped, later⟩ := Library.foldlM_cons_ok.mp ran
    obtain ⟨strict, plain⟩ := strictStep_ok.mp stepped
    exact step_sound strict plain (ih later)

/-- The outcomes of a text that may follow. -/
def Answered (outcome : Except Refusal Json) : Prop :=
  (∃ value, outcome = .ok value) ∨ ∃ defect, defect ≠ .malformed ∧ outcome = .error (.defect defect)

theorem run_complete (completes : Completes machine rest) :
    Answered ((rest.foldlM (strictStep depthLimit) machine) >>= fun reached =>
      (finishDefect reached).mapError .defect) := by
  induction rest generalizing machine with
  | nil =>
    rcases finish_complete completes with ⟨value, finished⟩ | failed
    · refine Or.inl ⟨value, ?_⟩
      simp [bind, Except.bind, pure, Except.pure, finishDefect, finished, Except.mapError]
    · refine Or.inr ⟨.digits, by decide, ?_⟩
      simp [bind, Except.bind, pure, Except.pure, failed, Except.mapError]
  | cons c rest ih =>
    obtain ⟨strict, ⟨next, stepped, later⟩ | ⟨raised, failed, limit⟩⟩ :=
      @step_complete depthLimit machine rest c completes
    · rw [List.foldlM_cons, strictStep_ok.mpr ⟨strict, stepped⟩]
      exact ih later
    · have refused : strictStep depthLimit machine c = .error (.defect (defectOf machine raised)) := by
        simp [strictStep, strict, stepDefect, failed, Except.mapError]
      rw [List.foldlM_cons, refused]
      exact Or.inr ⟨_, limit, rfl⟩

theorem completes_start : Completes ⟨[], .value false⟩ rest ↔ JsonText rest := by
  constructor
  · intro completes
    rcases completes with ⟨before, _, blankBefore, ⟨value, after, derived, continues, rfl⟩, rfl⟩
      | ⟨impossible, _⟩
    · exact ⟨before, value, after, blankBefore, derived, continues_nil.mp continues, rfl⟩
    · cases impossible
  · intro json
    obtain ⟨before, value, after, blankBefore, derived, blankAfter, rfl⟩ := json
    exact Or.inl ⟨before, _, blankBefore, ⟨value, after, derived, continues_nil.mpr blankAfter,
      rfl⟩, rfl⟩

theorem jsonText_of_strictLoads (loaded : strictLoads depthLimit rest = .ok value) :
    JsonText rest := by
  simp only [strictLoads, bind, Except.bind] at loaded
  split at loaded
  · cases loaded
  · rename_i reached ran
    cases finished : finish reached with
    | ok value => exact completes_start.mp (run_sound ran finished)
    | error raised => simp [finishDefect, finished, Except.mapError] at loaded

theorem strictLoads_of_jsonText (json : JsonText rest) : Answered (strictLoads depthLimit rest) :=
  run_complete (completes_start.mpr json)

/-! ## The outermost value -/

def Frame.opensObject : Frame → Bool
  | .arr _ => false
  | .obj _ _ => true

/-- The outermost frame is that of an object, or is not. -/
def Below (isObject : Bool) (stack : List Frame) : Prop :=
  ∀ frame, stack.getLast? = some frame → frame.opensObject = isObject

/-- The outermost value has begun, and is an object or not. -/
structure Outermost (isObject : Bool) (machine : Machine) : Prop where
  below : Below isObject machine.stack
  top : machine.stack = [] → match machine.mode with
    | .value _ | .colon => False
    | .done value => value.isObj = isObject
    | _ => isObject = false

variable {isObject : Bool}

theorem Below.tail {frame : Frame} {outer : List Frame} (below : Below isObject (frame :: outer)) :
    Below isObject outer := by
  intro bottom last
  cases outer with
  | nil => cases last
  | cons next outer => exact below bottom (by rw [List.getLast?_cons_cons]; exact last)

theorem Below.push {stack : List Frame} (frame : Frame) (begun : stack ≠ [])
    (below : Below isObject stack) : Below isObject (frame :: stack) := by
  cases stack with
  | nil => exact absurd rfl begun
  | cons next outer =>
    intro bottom last
    rw [List.getLast?_cons_cons] at last
    exact below bottom last

theorem Below.refill {old new : Frame} {outer : List Frame} (below : Below isObject (old :: outer))
    (same : old.opensObject = new.opensObject) : Below isObject (new :: outer) := by
  cases outer with
  | nil =>
    intro bottom last
    cases last
    exact same ▸ below old rfl
  | cons next outer => exact below.tail.push new (List.cons_ne_nil _ _)

theorem deliver_outermost {stack : List Frame} (below : Below isObject stack)
    (top : stack = [] → value.isObj = isObject) : Outermost isObject (deliver value stack) := by
  cases stack with
  | nil => exact ⟨below, top⟩
  | cons frame outer =>
    cases frame with
    | arr items => exact ⟨below.refill rfl, nofun⟩
    | obj fields key => exact ⟨below.refill rfl, nofun⟩

theorem close_outermost {frame : Frame} {outer : List Frame}
    (below : Below isObject (frame :: outer)) (kind : value.isObj = frame.opensObject) :
    Outermost isObject (deliver value outer) := by
  refine deliver_outermost below.tail fun isEmpty => ?_
  subst isEmpty
  exact kind.trans (below frame rfl)

theorem startValue_outermost {stack : List Frame} (begun : stack ≠ [])
    (below : Below isObject stack) (stepped : startValue depthLimit stack c = .ok next) :
    Outermost isObject next := by
  unfold startValue at stepped
  repeat' split at stepped
  all_goals cases stepped
  · exact ⟨below, fun isEmpty => absurd isEmpty begun⟩
  · exact ⟨below.push _ begun, nofun⟩
  · exact ⟨below.push _ begun, nofun⟩
  all_goals exact ⟨below, fun isEmpty => absurd isEmpty begun⟩

theorem afterValue_outermost (outermost : Outermost isObject machine)
    (stepped : afterValue machine c = .ok next) : Outermost isObject next := by
  obtain ⟨stack, mode⟩ := machine
  have below := outermost.below
  unfold afterValue at stepped
  split at stepped
  · cases stepped
    exact outermost
  split at stepped
  · rename_i isStack
    cases isStack
    repeat' split at stepped
    all_goals cases stepped
    · exact ⟨below, nofun⟩
    · exact close_outermost below rfl
  · rename_i isStack
    cases isStack
    repeat' split at stepped
    all_goals cases stepped
    · exact ⟨below, nofun⟩
    · exact close_outermost below rfl
  · cases stepped

theorem closeString_outermost {isKey : Bool} {content : Text} {stack : List Frame}
    (below : Below isObject stack) (top : stack = [] → isObject = false) :
    Outermost isObject (closeString isKey content stack) := by
  unfold closeString
  split
  · exact ⟨below.refill rfl, nofun⟩
  · exact deliver_outermost below fun isEmpty => (top isEmpty).symm

theorem stringStep_outermost {stack : List Frame} {isKey : Bool} {reading : Reading}
    (below : Below isObject stack) (top : stack = [] → isObject = false)
    (stepped : stringStep stack isKey reading c = .ok next) :
    Outermost isObject next := by
  unfold stringStep at stepped
  repeat' split at stepped
  all_goals cases stepped
  · exact closeString_outermost below top
  all_goals exact ⟨below, top⟩

theorem numberOf_isObj {read : Text} (parsed : numberOf read = .ok value) : value.isObj = false := by
  cases value with
  | obj fields => exact absurd rfl (numberOf_not_obj parsed fields)
  | _ => rfl

theorem step_outermost (outermost : Outermost isObject machine)
    (stepped : step depthLimit machine c = .ok next) : Outermost isObject next := by
  obtain ⟨stack, mode⟩ := machine
  have below := outermost.below
  have top := outermost.top
  cases mode with
  | value first =>
    simp only [step] at stepped
    split at stepped
    · cases stepped
      exact outermost
    · split at stepped
      · split at stepped
        · cases stepped
          exact close_outermost below rfl
        · exact startValue_outermost top below stepped
      · exact startValue_outermost top below stepped
  | key first =>
    simp only [step] at stepped
    repeat' split at stepped
    all_goals cases stepped
    · exact outermost
    · exact ⟨below, top⟩
    · exact close_outermost below rfl
  | colon =>
    simp only [step] at stepped
    repeat' split at stepped
    all_goals cases stepped
    · exact outermost
    · exact ⟨below, top⟩
  | string isKey reading => exact stringStep_outermost below top stepped
  | number read =>
    simp only [step] at stepped
    split at stepped
    · cases stepped
      exact ⟨below, top⟩
    · split at stepped
      · cases stepped
        exact ⟨below, top⟩
      · cases parsed : numberOf read with
        | error raised => simp [parsed, bind, Except.bind] at stepped
        | ok value =>
          simp only [parsed, bind, Except.bind] at stepped
          refine afterValue_outermost (deliver_outermost below fun isEmpty => ?_) stepped
          rw [numberOf_isObj parsed]
          exact (top isEmpty).symm
  | literal literal matched =>
    simp only [step] at stepped
    repeat' split at stepped
    all_goals cases stepped
    · refine deliver_outermost below fun isEmpty => ?_
      rw [top isEmpty]
      cases literal <;> rfl
    · exact ⟨below, top⟩
  | separator => exact afterValue_outermost outermost stepped
  | done value => exact afterValue_outermost outermost stepped

theorem run_outermost {reached : Machine} (outermost : Outermost isObject machine)
    (ran : rest.foldlM (step depthLimit) machine = .ok reached) : Outermost isObject reached :=
  Library.foldlM_invariant (fun _ _ _ => step_outermost) outermost ran

theorem finish_outermost (outermost : Outermost isObject machine)
    (finished : finish machine = .ok value) : value.isObj = isObject := by
  obtain ⟨stack, mode⟩ := machine
  unfold finish at finished
  split at finished
  · rename_i isDone isEmpty
    cases isDone
    cases isEmpty
    cases finished
    exact outermost.top rfl
  · rename_i isNumber isEmpty
    cases isNumber
    cases isEmpty
    rw [numberOf_isObj finished]
    exact (outermost.top rfl).symm
  · cases finished

theorem below_nil : Below isObject [] := nofun

theorem startValue_begins (stepped : startValue depthLimit [] c = .ok next) :
    Outermost (decide (c = 0x7B)) next := by
  by_cases curly : c = 0x7B
  · subst curly
    have opened : startValue depthLimit [] 0x7B =
        if depthLimit ≤ 0 then .error .recursionError else .ok ⟨[.obj [] []], .key true⟩ := rfl
    rw [opened] at stepped
    split at stepped
    · cases stepped
    · cases stepped
      refine ⟨fun frame last => ?_, nofun⟩
      cases last
      rfl
  · rw [decide_eq_false curly]
    unfold startValue at stepped
    repeat' split at stepped
    all_goals cases stepped
    · exact ⟨below_nil, fun _ => rfl⟩
    · refine ⟨fun frame last => ?_, nofun⟩
      cases last
      rfl
    all_goals exact ⟨below_nil, fun _ => rfl⟩

theorem run_blank {space : Text} (blank : Blank space) :
    space.foldlM (step depthLimit) ⟨[], .value false⟩ = .ok ⟨[], .value false⟩ := by
  induction space with
  | nil => rfl
  | cons c space ih =>
    rw [List.foldlM_cons,
      show step depthLimit ⟨[], .value false⟩ c = .ok ⟨[], .value false⟩ from if_pos blank.head]
    exact ih blank.tail

theorem loads_isObj {space : Text} (blank : Blank space) (noSpace : isJsonSpace c = false)
    (noClose : c ≠ 0x5D) (loaded : loads depthLimit (space ++ c :: rest) = .ok value) :
    value.isObj = decide (c = 0x7B) := by
  simp only [loads, List.foldlM_append, run_blank blank, List.foldlM_cons,
    step_value noSpace noClose, bind, Except.bind] at loaded
  split at loaded
  · cases loaded
  · rename_i ran
    split at ran
    · cases ran
    · rename_i started
      exact finish_outermost (run_outermost (startValue_begins started) ran) loaded

theorem loads_of_loadsDefect (loaded : loadsDefect depthLimit rest = .ok value) :
    loads depthLimit rest = .ok value := by
  rw [loads_eq, loaded]
  rfl

theorem isObj_iff_of_jsonText (json : JsonText rest)
    (loaded : loadsDefect depthLimit rest = .ok value) :
    value.isObj = true ↔ JsonObjectText rest := by
  have plain := loads_of_loadsDefect loaded
  have first : ∀ {before content after : Text}, Blank before → Derives .value content → Blank after →
      rest = before ++ (content ++ after) → (value.isObj = true ↔ content.head? = some 0x7B) := by
    intro before content after blankBefore derived blankAfter shape
    cases content with
    | nil => exact absurd rfl derived.value_ne_nil
    | cons c content =>
      obtain ⟨noSpace, noClose, _⟩ := @startValue_complete depthLimit (content ++ after) c []
        ⟨c :: content, after, derived, continues_nil.mpr blankAfter, rfl⟩
      rw [shape] at plain
      rw [loads_isObj blankBefore noSpace noClose plain]
      simp
  constructor
  · intro isObject
    obtain ⟨before, content, after, blankBefore, derived, blankAfter, shape⟩ := json
    exact ⟨before, content, after, blankBefore, derived,
      (first blankBefore derived blankAfter shape).mp isObject, blankAfter, shape⟩
  · intro object
    obtain ⟨before, content, after, blankBefore, derived, opens, blankAfter, shape⟩ := object
    exact (first blankBefore derived blankAfter shape).mpr opens

theorem JsonObjectText.jsonText (object : JsonObjectText rest) : JsonText rest := by
  obtain ⟨before, content, after, blankBefore, derived, _, blankAfter, shape⟩ := object
  exact ⟨before, content, after, blankBefore, derived, blankAfter, shape⟩

theorem strictLoads_eq_of_jsonText (json : JsonText rest) :
    strictLoads depthLimit rest = (loadsDefect depthLimit rest).mapError .defect := by
  rcases strictLoads_cases rest with refused | same
  · rcases @strictLoads_of_jsonText depthLimit rest json with ⟨value, accepted⟩ | ⟨defect, _, failed⟩
    · cases refused.symm.trans accepted
    · cases refused.symm.trans failed
  · exact same

theorem jsonObjectText_iff {fields : List (Text × Json)}
    (loaded : loadsDefect depthLimit rest = .ok (.obj fields)) :
    JsonObjectText rest ↔ strictLoads depthLimit rest ≠ .error .constant := by
  constructor
  · intro object
    rw [strictLoads_eq_of_jsonText object.jsonText, loaded]
    exact nofun
  · intro notRefused
    rcases strictLoads_cases rest with refused | same
    · exact absurd refused notRefused
    · rw [loaded] at same
      exact (isObj_iff_of_jsonText (jsonText_of_strictLoads same) loaded).mp rfl

theorem loadsDefect_of_jsonObjectText (object : JsonObjectText rest) :
    (∃ fields, loadsDefect depthLimit rest = .ok (.obj fields)) ∨
      ∃ defect, defect ≠ .malformed ∧ loadsDefect depthLimit rest = .error defect := by
  have answered := @strictLoads_of_jsonText depthLimit rest object.jsonText
  rw [strictLoads_eq_of_jsonText object.jsonText] at answered
  cases outcome : loadsDefect depthLimit rest with
  | ok value =>
    have isObject := (isObj_iff_of_jsonText object.jsonText outcome).mpr object
    cases value with
    | obj fields => exact Or.inl ⟨fields, rfl⟩
    | _ => cases isObject
  | error defect =>
    rw [outcome] at answered
    rcases answered with ⟨value, impossible⟩ | ⟨other, limit, same⟩
    · cases impossible
    · cases same
      exact Or.inr ⟨defect, limit, rfl⟩

end SysadminAssistant.Python.Json
