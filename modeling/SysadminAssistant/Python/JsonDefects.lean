import SysadminAssistant.Library.RaisingLoops
import SysadminAssistant.Python.JsonPrefixes

namespace SysadminAssistant.Python

/-! How `json.loads` fails, by the class of what it raises, and the constants it takes that are no
JSON. -/

/-- `JSONDecodeError`; the bare `ValueError` of an `int` with too many digits; `RecursionError`. -/
inductive Defect where
  | malformed | digits | depth
deriving DecidableEq

/-- What a reader of JSON alone refuses on top of that. -/
inductive Refusal where
  | constant
  | defect (defect : Defect)
deriving DecidableEq

def Defect.raised : Defect → PyError
  | .malformed | .digits => .valueError
  | .depth => .recursionError

/-- A file opened in text mode: every newline convention is read as `\n`. -/
def universalNewlines (afterReturn : Bool) : Text → Text
  | [] => []
  | c :: rest =>
    if c = 0x0D then 0x0A :: universalNewlines true rest
    else if c = 0x0A && afterReturn then universalNewlines false rest
    else c :: universalNewlines false rest

namespace Json

/-- A whole number that `int` refuses as soon as it is scanned, whatever follows it. -/
def Numeral.tooLong (numeral : Numeral) : Bool :=
  intMaxStrDigits < numeral.whole.length && numeral.whole.head? ≠ some 0x30 &&
    numeral.fraction = [] && numeral.exponent.all fun exponent => exponent.2 = []

def defectOf (machine : Machine) (raised : PyError) : Defect :=
  match raised, machine.mode with
  | .recursionError, _ => .depth
  | _, .number read => if (scanNumeral read).tooLong then .digits else .malformed
  | _, _ => .malformed

def stepDefect (depthLimit : Nat) (machine : Machine) (c : CodePoint) : Except Defect Machine :=
  (step depthLimit machine c).mapError (defectOf machine)

def finishDefect (machine : Machine) : Except Defect Json :=
  (finish machine).mapError (defectOf machine)

/-- `json.loads`, and what it raises. -/
def loadsDefect (depthLimit : Nat) (value : Text) : Except Defect Json := do
  finishDefect (← value.foldlM (stepDefect depthLimit) ⟨[], .value false⟩)

def Literal.isJson : Literal → Bool
  | .null | .true | .false => Bool.true
  | .nan | .infinity | .negativeInfinity => Bool.false

/-- The character belongs to a `NaN`, an `Infinity` or a `-Infinity`. -/
def meetsConstant (machine : Machine) (c : CodePoint) : Bool :=
  match machine.mode with
  | .value _ => c = 0x4E || c = 0x49
  | .number read => c = 0x49 && read = [0x2D]
  | .literal literal _ => !literal.isJson
  | _ => false

def strictStep (depthLimit : Nat) (machine : Machine) (c : CodePoint) : Except Refusal Machine :=
  if meetsConstant machine c then .error .constant
  else (stepDefect depthLimit machine c).mapError .defect

/-- The same decoder where it reads JSON alone. -/
def strictLoads (depthLimit : Nat) (value : Text) : Except Refusal Json := do
  (finishDefect (← value.foldlM (strictStep depthLimit) ⟨[], .value false⟩)).mapError .defect

variable {depthLimit : Nat}

/-! ## The classes are those of `loads` -/

theorem defectOf_raised {machine : Machine} {raised : PyError}
    (class_ : raised = .valueError ∨ raised = .recursionError) :
    (defectOf machine raised).raised = raised := by
  rcases class_ with rfl | rfl
  · unfold defectOf
    split
    · contradiction
    · split <;> rfl
    · rfl
  · rfl

theorem step_eq (machine : Machine) (c : CodePoint) :
    step depthLimit machine c = (stepDefect depthLimit machine c).mapError Defect.raised := by
  unfold stepDefect
  cases stepped : step depthLimit machine c with
  | ok next => rfl
  | error raised => exact congrArg Except.error (defectOf_raised (step_error stepped)).symm

theorem run_eq (value : Text) (machine : Machine) :
    value.foldlM (step depthLimit) machine =
      (value.foldlM (stepDefect depthLimit) machine).mapError Defect.raised :=
  Library.foldlM_mapError step_eq value machine

theorem loads_eq (value : Text) :
    loads depthLimit value = (loadsDefect depthLimit value).mapError Defect.raised := by
  simp only [loads, loadsDefect, run_eq, bind, Except.bind]
  cases value.foldlM (stepDefect depthLimit) ⟨[], .value false⟩ with
  | error defect => rfl
  | ok machine =>
    simp only [Except.mapError, finishDefect]
    cases finished : finish machine with
    | ok json => rfl
    | error raised =>
      exact congrArg Except.error (defectOf_raised (Or.inl (finish_error finished))).symm

/-! ## Reading JSON alone -/

theorem strictRun_cases (value : Text) (machine : Machine) :
    value.foldlM (strictStep depthLimit) machine = .error .constant ∨
      value.foldlM (strictStep depthLimit) machine =
        (value.foldlM (stepDefect depthLimit) machine).mapError .defect := by
  induction value generalizing machine with
  | nil => exact Or.inr rfl
  | cons c rest ih =>
    simp only [List.foldlM_cons, strictStep, bind, Except.bind]
    by_cases constant : meetsConstant machine c = true
    · rw [if_pos constant]
      exact Or.inl rfl
    · rw [if_neg constant]
      cases stepDefect depthLimit machine c with
      | error defect => exact Or.inr rfl
      | ok next => exact ih next

theorem strictLoads_cases (value : Text) :
    strictLoads depthLimit value = .error .constant ∨
      strictLoads depthLimit value = (loadsDefect depthLimit value).mapError .defect := by
  simp only [strictLoads, loadsDefect, bind, Except.bind]
  rcases strictRun_cases value ⟨[], .value false⟩ with constant | same
  · rw [constant]
    exact Or.inl rfl
  · rw [same]
    cases value.foldlM (stepDefect depthLimit) ⟨[], .value false⟩ with
    | error defect => exact Or.inr rfl
    | ok machine => exact Or.inr rfl

end Json

/-! ## Newlines -/

/-- A reader to which `\r` is `\n`, and a second `\n` nothing, reads a file alike in text mode and
as it is. -/
theorem run_universalNewlines {α ε : Type} {read : α → CodePoint → Except ε α}
    (same : ∀ state, read state 0x0D = read state 0x0A)
    (twice : ∀ state next, read state 0x0A = .ok next → read next 0x0A = .ok next) (value : Text)
    (afterReturn : Bool) (state : α) (settled : afterReturn = true → read state 0x0A = .ok state) :
    (universalNewlines afterReturn value).foldlM read state = value.foldlM read state := by
  induction value generalizing afterReturn state with
  | nil => rfl
  | cons c rest ih =>
    rw [universalNewlines]
    by_cases isReturn : c = 0x0D
    · rw [if_pos isReturn, isReturn, List.foldlM_cons, List.foldlM_cons, same]
      cases stepped : read state 0x0A with
      | error raised => rfl
      | ok next => exact ih true next fun _ => twice state next stepped
    · rw [if_neg isReturn]
      by_cases second : (c = 0x0A && afterReturn) = true
      · rw [if_pos second]
        obtain ⟨isNewline, after⟩ := Bool.and_eq_true_iff.mp second
        rw [List.foldlM_cons, of_decide_eq_true isNewline, settled after]
        exact ih false state nofun
      · rw [if_neg second, List.foldlM_cons, List.foldlM_cons]
        exact congrArg (read state c >>= ·) (funext fun next => ih false next nofun)

namespace Json

theorem Literal.newline_notMem (literal : Literal) :
    (0x0D : CodePoint) ∉ literal.word ∧ (0x0A : CodePoint) ∉ literal.word := by
  cases literal <;> decide

theorem step_return (machine : Machine) :
    step depthLimit machine 0x0D = step depthLimit machine 0x0A := by
  obtain ⟨stack, mode⟩ := machine
  cases mode with
  | string isKey reading =>
    obtain ⟨read, high, escaping⟩ := reading
    cases escaping <;> rfl
  | literal literal matched =>
    have absent : ∀ c, c ∉ literal.word → literal.word[matched]? ≠ some c := fun c outside found =>
      outside (List.mem_of_getElem? found)
    simp [step, absent _ literal.newline_notMem.1, absent _ literal.newline_notMem.2]
  | _ => rfl

theorem step_newline_twice (machine next : Machine)
    (stepped : step depthLimit machine 0x0A = .ok next) : step depthLimit next 0x0A = .ok next := by
  obtain ⟨stack, mode⟩ := machine
  cases mode with
  | string isKey reading =>
    obtain ⟨read, high, escaping⟩ := reading
    cases escaping <;> cases stepped
  | literal literal matched =>
    have absent : literal.word[matched]? ≠ some 0x0A := fun found =>
      literal.newline_notMem.2 (List.mem_of_getElem? found)
    simp [step, absent] at stepped
  | number read =>
    change (numberOf read >>= fun value => afterValue (deliver value stack) 0x0A) = .ok next at stepped
    cases parsed : numberOf read with
    | error raised => simp [parsed, bind, Except.bind] at stepped
    | ok value =>
      rw [parsed] at stepped
      cases stepped
      cases stack with
      | nil => rfl
      | cons frame rest => cases frame <;> rfl
  | _ =>
    cases stepped
    rfl

theorem stepDefect_return (machine : Machine) :
    stepDefect depthLimit machine 0x0D = stepDefect depthLimit machine 0x0A := by
  rw [stepDefect, stepDefect, step_return]

theorem loadsDefect_newlines (value : Text) :
    loadsDefect depthLimit (universalNewlines false value) = loadsDefect depthLimit value := by
  have twice : ∀ machine next, stepDefect depthLimit machine 0x0A = .ok next →
      stepDefect depthLimit next 0x0A = .ok next := by
    intro machine next stepped
    cases plain : step depthLimit machine 0x0A with
    | error raised => simp [stepDefect, plain, Except.mapError] at stepped
    | ok reached =>
      simp only [stepDefect, plain, Except.mapError, Except.ok.injEq] at stepped
      rw [stepDefect, ← stepped, step_newline_twice machine reached plain]
      rfl
  simp only [loadsDefect, run_universalNewlines stepDefect_return twice value false _ nofun]

/-! Where in a text the decoder meets its limits, and where it takes a constant. -/

/-- A front part of the text leaves the decoder at this machine, before the rest. -/
def Reaches (depthLimit : Nat) (content : Text) (machine : Machine) (rest : Text) : Prop :=
  ∃ front, content = front ++ rest ∧ front.foldlM (step depthLimit) ⟨[], .value false⟩ = .ok machine

/-- Before a bracket, inside as many open ones as the interpreter nests. -/
def AtDepth (depthLimit : Nat) (machine : Machine) (rest : Text) : Prop :=
  (∃ first, machine.mode = .value first) ∧ depthLimit ≤ machine.stack.length ∧
    (rest.head? = some 0x7B ∨ rest.head? = some 0x5B)

/-- Behind a whole number of too many digits. -/
def AtLongNumber (machine : Machine) (rest : Text) : Prop :=
  ∃ read, machine.mode = .number read ∧ (scanNumeral read).tooLong = true ∧
    ∀ c, rest.head? = some c → isNumberChar c = false

/-- Before a character of a `NaN`, an `Infinity` or a `-Infinity`. -/
def AtConstant (machine : Machine) (rest : Text) : Prop :=
  ∃ c, rest.head? = some c ∧ meetsConstant machine c = true

variable {depthLimit : Nat} {machine : Machine} {c : CodePoint} {content : Text}

/-! ## One step -/

theorem defectOf_depth {raised : PyError} :
    defectOf machine raised = .depth ↔ raised = .recursionError := by
  unfold defectOf
  split
  · simp
  · rename_i notRecursion _
    constructor
    · intro same
      split at same <;> cases same
    · exact fun same => absurd same notRecursion
  · rename_i notRecursion _
    exact ⟨nofun, fun same => absurd same notRecursion⟩

theorem defectOf_digits {raised : PyError} : defectOf machine raised = .digits ↔
    raised ≠ .recursionError ∧ ∃ read, machine.mode = .number read ∧
      (scanNumeral read).tooLong = true := by
  unfold defectOf
  split
  · simp
  · rename_i read notRecursion isNumber
    rw [isNumber]
    simpa using fun _ => notRecursion
  · rename_i notRecursion noNumber
    constructor
    · exact nofun
    · intro digits
      obtain ⟨_, read, isNumber, _⟩ := digits
      exact absurd isNumber (noNumber read)

theorem startValue_recursion {stack : List Frame} :
    startValue depthLimit stack c = .error .recursionError ↔ depthLimit ≤ stack.length ∧
      (c = 0x7B ∨ c = 0x5B) := by
  unfold startValue
  constructor
  · intro failed
    repeat' split at failed
    all_goals cases failed
    rename_i bracket deep
    exact ⟨deep, by simpa using bracket⟩
  · intro bracket
    obtain ⟨deep, rfl | rfl⟩ := bracket
    · exact if_pos deep
    · exact if_pos deep

theorem step_value {stack : List Frame} {first : Bool} (noSpace : isJsonSpace c = false)
    (noClose : c ≠ 0x5D) :
    step depthLimit ⟨stack, .value first⟩ c = startValue depthLimit stack c := by
  simp only [step, noSpace, Bool.false_eq_true, if_false]
  split
  · rw [if_neg noClose]
  · rfl

/-- Only a bracket that is too deep raises a `RecursionError`. -/
theorem step_recursion {rest : Text} :
    step depthLimit machine c = .error .recursionError ↔ AtDepth depthLimit machine (c :: rest) := by
  obtain ⟨stack, mode⟩ := machine
  have other : ∀ {outcome : Except PyError Machine}, (∀ raised, outcome = .error raised →
      raised = .valueError) →
      outcome ≠ .error .recursionError := fun only failed => by cases only _ failed
  have noMode : (∀ first, mode ≠ .value first) → ¬ AtDepth depthLimit ⟨stack, mode⟩ (c :: rest) :=
    fun no atDepth => no _ atDepth.1.choose_spec
  cases mode with
  | value first =>
    have started : step depthLimit ⟨stack, .value first⟩ c = .error .recursionError ↔
        startValue depthLimit stack c = .error .recursionError := by
      by_cases isSpace : isJsonSpace c = true
      · refine iff_of_false (fun failed => ?_) (fun failed => ?_)
        · cases (show step depthLimit ⟨stack, .value first⟩ c = .ok _ from if_pos
            isSpace).symm.trans failed
        · obtain ⟨_, rfl | rfl⟩ := startValue_recursion.mp failed <;> cases isSpace
      · by_cases closes : c = 0x5D
        · subst closes
          refine iff_of_false (fun failed => ?_) (fun failed => by cases failed)
          cases first with
          | false => cases failed
          | true =>
            cases stack with
            | nil => cases failed
            | cons frame outer => cases frame <;> cases failed
        · rw [step_value (by simpa using isSpace) closes]
    rw [started, startValue_recursion]
    simp [AtDepth]
  | key first =>
    refine iff_of_false (other fun raised failed => ?_) (noMode (by simp))
    simp only [step] at failed
    repeat' split at failed
    all_goals cases failed
    all_goals rfl
  | colon =>
    refine iff_of_false (other fun raised failed => ?_) (noMode (by simp))
    simp only [step] at failed
    repeat' split at failed
    all_goals cases failed
    rfl
  | string isKey reading =>
    exact iff_of_false (other fun _ failed => stringStep_error failed) (noMode (by simp))
  | number read =>
    refine iff_of_false (other fun raised failed => ?_) (noMode (by simp))
    simp only [step] at failed
    repeat' split at failed
    · cases failed
    · cases failed
    · cases parsed : numberOf read with
      | error found =>
        simp only [parsed, bind, Except.bind, Except.error.injEq] at failed
        exact failed ▸ numberOf_error parsed
      | ok value =>
        simp only [parsed, bind, Except.bind] at failed
        exact afterValue_error failed
  | literal literal matched =>
    refine iff_of_false (other fun raised failed => ?_) (noMode (by simp))
    simp only [step] at failed
    repeat' split at failed
    all_goals cases failed
    rfl
  | separator => exact iff_of_false (other fun _ failed => afterValue_error failed) (noMode (by simp))
  | done value => exact iff_of_false (other fun _ failed => afterValue_error failed) (noMode (by simp))

theorem numberOf_tooLong {read : Text} (tooLong : (scanNumeral read).tooLong = true) :
    numberOf read = .error .valueError := by
  simp only [Numeral.tooLong, Bool.and_eq_true, decide_eq_true_eq] at tooLong
  obtain ⟨⟨⟨long, _⟩, noFraction⟩, noDigits⟩ := tooLong
  cases wellFormed : (scanNumeral read).wellFormed with
  | false => simp [numberOf, wellFormed]
  | true =>
    have parts := wellFormed
    simp only [Numeral.wellFormed, Bool.and_eq_true] at parts
    have noExponent : (scanNumeral read).exponent = none := by
      cases exponent : (scanNumeral read).exponent with
      | none => rfl
      | some digits =>
        simp only [exponent, Option.all_some, decide_eq_true_eq] at parts noDigits
        exact absurd noDigits parts.1.2
    simp [numberOf, wellFormed, Numeral.isInteger, noFraction, noExponent, long]

theorem stepDefect_error {defect : Defect} : stepDefect depthLimit machine c = .error defect ↔
    ∃ raised, step depthLimit machine c = .error raised ∧ defectOf machine raised = defect := by
  unfold stepDefect
  cases step depthLimit machine c <;> simp [Except.mapError]

theorem finishDefect_error {defect : Defect} : finishDefect machine = .error defect ↔
    ∃ raised, finish machine = .error raised ∧ defectOf machine raised = defect := by
  unfold finishDefect
  cases finish machine <;> simp [Except.mapError]

theorem stepDefect_digits {rest : Text} :
    stepDefect depthLimit machine c = .error .digits ↔ AtLongNumber machine (c :: rest) := by
  rw [stepDefect_error]
  constructor
  · intro failed
    obtain ⟨raised, failed, isDigits⟩ := failed
    obtain ⟨_, read, isNumber, tooLong⟩ := defectOf_digits.mp isDigits
    refine ⟨read, isNumber, tooLong, fun other here => ?_⟩
    cases here
    cases collected : isNumberChar c with
    | false => rfl
    | true =>
      rw [step, isNumber] at failed
      simp [collected] at failed
  · intro atLong
    obtain ⟨read, isNumber, tooLong, stops⟩ := atLong
    have noSign : read ≠ [0x2D] := by
      intro sign
      rw [sign] at tooLong
      cases tooLong
    refine ⟨.valueError, ?_, defectOf_digits.mpr ⟨by decide, read, isNumber, tooLong⟩⟩
    rw [step, isNumber]
    simp [stops c rfl, noSign, numberOf_tooLong tooLong, bind, Except.bind]

theorem finishDefect_digits : finishDefect machine = .error .digits ↔ AtLongNumber machine [] := by
  rw [finishDefect_error]
  constructor
  · intro failed
    obtain ⟨raised, _, isDigits⟩ := failed
    obtain ⟨_, read, isNumber, tooLong⟩ := defectOf_digits.mp isDigits
    exact ⟨read, isNumber, tooLong, nofun⟩
  · intro atLong
    obtain ⟨read, isNumber, tooLong, _⟩ := atLong
    refine ⟨.valueError, ?_, defectOf_digits.mpr ⟨by decide, read, isNumber, tooLong⟩⟩
    rw [finish, isNumber]
    cases machine.stack with
    | nil => exact numberOf_tooLong tooLong
    | cons frame outer => rfl

/-! ## A whole text -/

theorem run_ok {front : Text} {start reached : Machine} :
    front.foldlM (stepDefect depthLimit) start = .ok reached ↔
    front.foldlM (step depthLimit) start = .ok reached := by
  rw [run_eq]
  cases front.foldlM (stepDefect depthLimit) start <;> simp [Except.mapError]

theorem loadsDefect_error {defect : Defect} : loadsDefect depthLimit content = .error defect ↔
    (∃ machine c rest, Reaches depthLimit content machine (c :: rest) ∧
      stepDefect depthLimit machine c = .error defect) ∨
    ∃ machine, Reaches depthLimit content machine [] ∧ finishDefect machine = .error defect := by
  have split : loadsDefect depthLimit content = .error defect ↔
      content.foldlM (stepDefect depthLimit) ⟨[], .value false⟩ = .error defect ∨
        ∃ machine, content.foldlM (stepDefect depthLimit) ⟨[], .value false⟩ = .ok machine ∧
          finishDefect machine = .error defect := by
    unfold loadsDefect
    cases content.foldlM (stepDefect depthLimit) ⟨[], .value false⟩ <;> simp [bind, Except.bind]
  rw [split, Library.foldlM_stopped]
  simp only [Reaches, run_ok, List.append_nil, exists_eq_left']
  refine or_congr ⟨fun stopped => ?_, fun stopped => ?_⟩ Iff.rfl
  · obtain ⟨front, c, rest, machine, shape, ran, failed⟩ := stopped
    exact ⟨machine, c, rest, ⟨front, shape, ran⟩, failed⟩
  · obtain ⟨machine, c, rest, ⟨front, shape, ran⟩, failed⟩ := stopped
    exact ⟨front, c, rest, machine, shape, ran, failed⟩

theorem loadsDefect_depth : loadsDefect depthLimit content = .error .depth ↔
    ∃ machine rest, Reaches depthLimit content machine rest ∧ AtDepth depthLimit machine rest := by
  rw [loadsDefect_error]
  constructor
  · intro failed
    rcases failed with ⟨machine, c, rest, reached, failed⟩ | ⟨machine, _, failed⟩
    · obtain ⟨raised, failed, isDepth⟩ := stepDefect_error.mp failed
      rw [defectOf_depth.mp isDepth] at failed
      exact ⟨machine, c :: rest, reached, step_recursion.mp failed⟩
    · obtain ⟨raised, failed, isDepth⟩ := finishDefect_error.mp failed
      rw [finish_error failed] at isDepth
      cases defectOf_depth.mp isDepth
  · intro met
    obtain ⟨machine, rest, reached, atDepth⟩ := met
    cases rest with
    | nil => simp [AtDepth] at atDepth
    | cons c rest =>
      exact Or.inl ⟨machine, c, rest, reached,
        stepDefect_error.mpr ⟨.recursionError, step_recursion.mpr atDepth, defectOf_depth.mpr rfl⟩⟩

/-- `int` refuses exactly where the decoder leaves a whole number of too many digits. -/
theorem loadsDefect_digits : loadsDefect depthLimit content = .error .digits ↔
    ∃ machine rest, Reaches depthLimit content machine rest ∧ AtLongNumber machine rest := by
  rw [loadsDefect_error]
  constructor
  · intro failed
    rcases failed with ⟨machine, c, rest, reached, failed⟩ | ⟨machine, reached, failed⟩
    · exact ⟨machine, c :: rest, reached, stepDefect_digits.mp failed⟩
    · exact ⟨machine, [], reached, finishDefect_digits.mp failed⟩
  · intro met
    obtain ⟨machine, rest, reached, atLong⟩ := met
    cases rest with
    | nil => exact Or.inr ⟨machine, reached, finishDefect_digits.mpr atLong⟩
    | cons c rest => exact Or.inl ⟨machine, c, rest, reached, stepDefect_digits.mpr atLong⟩

theorem strictLoads_constant : strictLoads depthLimit content = .error .constant ↔
    ∃ machine rest, Reaches depthLimit content machine rest ∧ AtConstant machine rest := by
  have split : strictLoads depthLimit content = .error .constant ↔
      content.foldlM (strictStep depthLimit) ⟨[], .value false⟩ = .error .constant := by
    unfold strictLoads
    cases content.foldlM (strictStep depthLimit) ⟨[], .value false⟩ with
    | error refusal => simp [bind, Except.bind]
    | ok machine =>
      cases finished : finishDefect machine <;> simp [bind, Except.bind, finished,
        Except.mapError]
  have refuses : ∀ machine c, strictStep depthLimit machine c = .error .constant ↔
      meetsConstant machine c = true := by
    intro machine c
    unfold strictStep
    cases meetsConstant machine c with
    | true => simp
    | false => cases stepDefect depthLimit machine c <;> simp [Except.mapError]
  rw [split, Library.foldlM_stopped]
  constructor
  · intro stopped
    obtain ⟨front, c, rest, machine, shape, ran, refused⟩ := stopped
    rcases strictRun_cases front ⟨[], .value false⟩ with constant | same
    · cases ran.symm.trans constant
    · have plain : front.foldlM (stepDefect depthLimit) ⟨[], .value false⟩ = .ok machine := by
        rw [same] at ran
        cases outcome : front.foldlM (stepDefect depthLimit) ⟨[], .value false⟩ with
        | error defect => simp [outcome, Except.mapError] at ran
        | ok reached => simpa [outcome, Except.mapError] using ran
      exact ⟨machine, c :: rest, ⟨front, shape, run_ok.mp plain⟩, c, rfl,
        (refuses machine c).mp refused⟩
  · intro met
    obtain ⟨machine, rest, ⟨front, rfl, ran⟩, c, here, constant⟩ := met
    cases rest with
    | nil => cases here
    | cons _ rest =>
      cases here
      rcases strictRun_cases front ⟨[], .value false⟩ with earlier | same
      · obtain ⟨before, c', between, reached, rfl, ranBefore, refused⟩ :=
          Library.foldlM_stopped.mp earlier
        exact ⟨before, c', between ++ c :: rest, reached, by simp, ranBefore, refused⟩
      · rw [run_ok.mpr ran] at same
        exact ⟨front, c, rest, machine, rfl, same, (refuses machine c).mpr constant⟩

end Json

end SysadminAssistant.Python
