import SysadminAssistant.Python.Bytes
import SysadminAssistant.Python.Json

namespace SysadminAssistant.Python

/-! `json.loads`, as a pushdown machine over the code points.  Every defect of the text is
one `ValueError`; nesting deeper than the interpreter allows is a `RecursionError`. -/

/-- `sys.get_int_max_str_digits()`. -/
def intMaxStrDigits : Nat := 4300

def isAsciiDigit (c : CodePoint) : Bool := 48 ≤ c.val && c.val ≤ 57

def digitsValue (digits : Text) : Nat := digits.foldl (fun value c => value * 10 + (c.val - 48)) 0

namespace Json

/-- `fields[key] = value`. -/
def setField (key : Text) (value : Json) : List (Text × Json) → List (Text × Json)
  | [] => [(key, value)]
  | (other, old) :: rest =>
    if other = key then (key, value) :: rest else (other, old) :: setField key value rest

inductive Literal where
  | null | true | false | nan | infinity | negativeInfinity

namespace Literal

def word : Literal → Text
  | .null => text "null"
  | .true => text "true"
  | .false => text "false"
  | .nan => text "NaN"
  | .infinity => text "Infinity"
  | .negativeInfinity => text "-Infinity"

def value : Literal → Json
  | .null => .null
  | .true => .bool Bool.true
  | .false => .bool Bool.false
  | .nan => .float .nan
  | .infinity => .float (.infinite Bool.false)
  | .negativeInfinity => .float (.infinite Bool.true)

end Literal

inductive Escaping where
  | none
  | backslash
  | hex (count value : Nat)

/-- Inside a string.  `high` is an escaped high surrogate that an escaped low one would
complete. -/
structure Reading where
  read : Text
  high : Option CodePoint
  escaping : Escaping

inductive Frame where
  | arr (items : List Json)
  | obj (fields : List (Text × Json)) (key : Text)

inductive Mode where
  | value (first : Bool)
  | key (first : Bool)
  | colon
  | string (isKey : Bool) (reading : Reading)
  | number (read : Text)
  | literal (literal : Literal) (matched : Nat)
  | separator
  | done (value : Json)

structure Machine where
  stack : List Frame
  mode : Mode

def isJsonSpace (c : CodePoint) : Bool := c = 0x20 || c = 0x09 || c = 0x0A || c = 0x0D

def hexDigit (c : CodePoint) : Option Nat :=
  if 48 ≤ c.val && c.val ≤ 57 then some (c.val - 48)
  else if 97 ≤ c.val && c.val ≤ 102 then some (c.val - 87)
  else if 65 ≤ c.val && c.val ≤ 70 then some (c.val - 55)
  else none

def shortEscape (c : CodePoint) : Option CodePoint :=
  if c = 0x22 || c = 0x5C || c = 0x2F then some c
  else if c = 0x62 then some 0x08
  else if c = 0x66 then some 0x0C
  else if c = 0x6E then some 0x0A
  else if c = 0x72 then some 0x0D
  else if c = 0x74 then some 0x09
  else none

namespace Reading

def start : Reading := ⟨[], none, .none⟩

def flushed (reading : Reading) : Text := reading.read ++ reading.high.toList

def put (reading : Reading) (c : CodePoint) : Reading := ⟨reading.flushed ++ [c], none, .none⟩

/-- `\uXXXX`; two escaped halves of a pair are one code point, and a lone half stays. -/
def putEscaped (reading : Reading) (unit : Nat) : Reading :=
  let isHigh : Bool := 0xD800 ≤ unit && unit ≤ 0xDBFF
  let isLow : Bool := 0xDC00 ≤ unit && unit ≤ 0xDFFF
  match reading.high, isLow with
  | some high, true =>
    ⟨reading.read ++ [Fin.ofNat _ (0x10000 + (high.val - 0xD800) * 0x400 + (unit - 0xDC00))],
      none, .none⟩
  | _, _ =>
    if isHigh then ⟨reading.flushed, some (Fin.ofNat _ unit), .none⟩
    else reading.put (Fin.ofNat _ unit)

end Reading

/-- A number's parts; `exponent` holds its sign and digits, `rest` what no part took. -/
structure Numeral where
  negative : Bool
  whole : Text
  fraction : Text
  exponent : Option (Bool × Text)
  rest : Text

/-- The part after a whole number and its fraction. -/
def scanExponent (read : Text) : Option (Bool × Text) × Text :=
  if read.head? = some 0x65 || read.head? = some 0x45 then
    let lowered : Bool := read.tail.head? = some 0x2D
    let digits := if lowered || read.tail.head? = some 0x2B then read.tail.tail else read.tail
    (some (lowered, digits.takeWhile isAsciiDigit), digits.dropWhile isAsciiDigit)
  else (none, read)

def scanNumeral (read : Text) : Numeral :=
  let negative : Bool := read.head? = some 0x2D
  let unsigned := if negative then read.tail else read
  let afterWhole := unsigned.dropWhile isAsciiDigit
  let fraction := if afterWhole.head? = some 0x2E then afterWhole.tail.takeWhile isAsciiDigit else []
  let afterFraction :=
    if fraction = [] then afterWhole else afterWhole.tail.dropWhile isAsciiDigit
  let (exponent, rest) := scanExponent afterFraction
  ⟨negative, unsigned.takeWhile isAsciiDigit, fraction, exponent, rest⟩

namespace Numeral

def wellFormed (numeral : Numeral) : Bool :=
  numeral.whole ≠ [] && (numeral.whole.head? ≠ some 0x30 || numeral.whole.length = 1) &&
    numeral.exponent.all (fun exponent => exponent.2 ≠ []) && numeral.rest = []

def sign (numeral : Numeral) : Int := if numeral.negative then -1 else 1

def isInteger (numeral : Numeral) : Bool := numeral.fraction = [] && numeral.exponent.isNone

def scale (numeral : Numeral) : Int :=
  numeral.exponent.elim 0 fun (lowered, digits) =>
    if lowered then -digitsValue digits else digitsValue digits

def exact (numeral : Numeral) : ℚ :=
  numeral.sign * digitsValue (numeral.whole ++ numeral.fraction) *
    (10 : ℚ) ^ (numeral.scale - numeral.fraction.length)

end Numeral

/-- The longest run of number characters, checked against the number grammar. -/
def numberOf (read : Text) : Except PyError Json :=
  let numeral := scanNumeral read
  if !numeral.wellFormed then .error .valueError
  else if !numeral.isInteger then .ok (.float (.round numeral.exact))
  else if intMaxStrDigits < numeral.whole.length then .error .valueError
  else .ok (.int (numeral.sign * digitsValue numeral.whole))

/-- A value is complete: it goes where the innermost open frame wants it. -/
def deliver (value : Json) : List Frame → Machine
  | [] => ⟨[], .done value⟩
  | .arr items :: rest => ⟨.arr (items ++ [value]) :: rest, .separator⟩
  | .obj fields key :: rest => ⟨.obj (setField key value fields) key :: rest, .separator⟩

def closeString (isKey : Bool) (value : Text) (stack : List Frame) : Machine :=
  match isKey, stack with
  | true, .obj fields _ :: rest => ⟨.obj fields value :: rest, .colon⟩
  | _, stack => deliver (.str value) stack

/-- The first character of a value. -/
def startValue (depthLimit : Nat) (stack : List Frame) (c : CodePoint) : Except PyError Machine :=
  if c = 0x22 then .ok ⟨stack, .string false .start⟩
  else if c = 0x7B || c = 0x5B then
    if depthLimit ≤ stack.length then .error .recursionError
    else if c = 0x7B then .ok ⟨.obj [] [] :: stack, .key true⟩
    else .ok ⟨.arr [] :: stack, .value true⟩
  else if c = 0x6E then .ok ⟨stack, .literal .null 1⟩
  else if c = 0x74 then .ok ⟨stack, .literal .true 1⟩
  else if c = 0x66 then .ok ⟨stack, .literal .false 1⟩
  else if c = 0x4E then .ok ⟨stack, .literal .nan 1⟩
  else if c = 0x49 then .ok ⟨stack, .literal .infinity 1⟩
  else if c = 0x2D || isAsciiDigit c then .ok ⟨stack, .number [c]⟩
  else .error .valueError

/-- A character after a complete value. -/
def afterValue (machine : Machine) (c : CodePoint) : Except PyError Machine :=
  if isJsonSpace c then .ok machine
  else match machine.mode, machine.stack with
    | .separator, .arr items :: rest =>
      if c = 0x2C then .ok { machine with mode := .value false }
      else if c = 0x5D then .ok (deliver (.arr items) rest)
      else .error .valueError
    | .separator, .obj fields _ :: rest =>
      if c = 0x2C then .ok { machine with mode := .key false }
      else if c = 0x7D then .ok (deliver (.obj fields) rest)
      else .error .valueError
    | _, _ => .error .valueError

def stringStep (stack : List Frame) (isKey : Bool) (reading : Reading) (c : CodePoint) :
    Except PyError Machine :=
  match reading.escaping with
  | .none =>
    if c = 0x22 then .ok (closeString isKey reading.flushed stack)
    else if c = 0x5C then .ok ⟨stack, .string isKey { reading with escaping := .backslash }⟩
    else if c.val ≤ 0x1F then .error .valueError
    else .ok ⟨stack, .string isKey (reading.put c)⟩
  | .backslash =>
    if c = 0x75 then .ok ⟨stack, .string isKey { reading with escaping := .hex 0 0 }⟩
    else match shortEscape c with
      | some escaped => .ok ⟨stack, .string isKey (reading.put escaped)⟩
      | none => .error .valueError
  | .hex count value =>
    match hexDigit c with
    | none => .error .valueError
    | some digit =>
      if count = 3 then .ok ⟨stack, .string isKey (reading.putEscaped (value * 16 + digit))⟩
      else .ok ⟨stack, .string isKey
        { reading with escaping := .hex (count + 1) (value * 16 + digit) }⟩

def isNumberChar (c : CodePoint) : Bool :=
  isAsciiDigit c || c = 0x2B || c = 0x2D || c = 0x2E || c = 0x45 || c = 0x65

def step (depthLimit : Nat) (machine : Machine) (c : CodePoint) : Except PyError Machine :=
  match machine.mode with
  | .value first =>
    if isJsonSpace c then .ok machine
    else match first, machine.stack with
      | true, .arr items :: rest =>
        if c = 0x5D then .ok (deliver (.arr items) rest)
        else startValue depthLimit machine.stack c
      | _, stack => startValue depthLimit stack c
  | .key first =>
    if isJsonSpace c then .ok machine
    else if c = 0x22 then .ok ⟨machine.stack, .string true .start⟩
    else match first, machine.stack with
      | true, .obj fields _ :: rest =>
        if c = 0x7D then .ok (deliver (.obj fields) rest) else .error .valueError
      | _, _ => .error .valueError
  | .colon =>
    if isJsonSpace c then .ok machine
    else if c = 0x3A then .ok { machine with mode := .value false }
    else .error .valueError
  | .string isKey reading => stringStep machine.stack isKey reading c
  | .number read =>
    if isNumberChar c then .ok { machine with mode := .number (read ++ [c]) }
    else if c = 0x49 && read = [0x2D] then
      .ok { machine with mode := .literal .negativeInfinity 2 }
    else do
      let value ← numberOf read
      afterValue (deliver value machine.stack) c
  | .literal literal matched =>
    if literal.word[matched]? = some c then
      if matched + 1 = literal.word.length then .ok (deliver literal.value machine.stack)
      else .ok { machine with mode := .literal literal (matched + 1) }
    else .error .valueError
  | .separator | .done _ => afterValue machine c

/-- The end of the text. -/
def finish (machine : Machine) : Except PyError Json :=
  match machine.mode, machine.stack with
  | .done value, [] => .ok value
  | .number read, [] => numberOf read
  | _, _ => .error .valueError

/-- `json.loads`; `depthLimit` is how deep the interpreter lets the decoder nest. -/
def loads (depthLimit : Nat) (value : Text) : Except PyError Json := do
  finish (← value.foldlM (step depthLimit) ⟨[], .value false⟩)

theorem numberOf_error {read : Text} {raised : PyError} (failed : numberOf read = .error raised) :
    raised = .valueError := by
  unfold numberOf at failed
  simp only at failed
  repeat' split at failed
  all_goals cases failed
  all_goals rfl

theorem afterValue_error {machine : Machine} {c : CodePoint} {raised : PyError}
    (failed : afterValue machine c = .error raised) : raised = .valueError := by
  unfold afterValue at failed
  repeat' split at failed
  all_goals cases failed
  all_goals rfl

theorem stringStep_error {stack : List Frame} {isKey : Bool} {reading : Reading} {c : CodePoint}
    {raised : PyError} (failed : stringStep stack isKey reading c = .error raised) :
    raised = .valueError := by
  unfold stringStep at failed
  repeat' split at failed
  all_goals cases failed
  all_goals rfl

theorem startValue_error {depthLimit : Nat} {stack : List Frame} {c : CodePoint} {raised : PyError}
    (failed : startValue depthLimit stack c = .error raised) :
    raised = .valueError ∨ raised = .recursionError := by
  unfold startValue at failed
  repeat' split at failed
  all_goals cases failed
  · exact Or.inr rfl
  · exact Or.inl rfl

theorem step_error {depthLimit : Nat} {machine : Machine} {c : CodePoint} {raised : PyError}
    (failed : step depthLimit machine c = .error raised) :
    raised = .valueError ∨ raised = .recursionError := by
  unfold step at failed
  split at failed
  · repeat' split at failed
    · cases failed
    · cases failed
    · exact startValue_error failed
    · exact startValue_error failed
  · repeat' split at failed
    all_goals cases failed
    all_goals exact Or.inl rfl
  · repeat' split at failed
    all_goals cases failed
    exact Or.inl rfl
  · exact Or.inl (stringStep_error failed)
  · split at failed
    · cases failed
    · split at failed
      · cases failed
      · rename_i read _ _ _
        cases parsed : numberOf read with
        | error other =>
          simp only [parsed, bind, Except.bind, Except.error.injEq] at failed
          exact Or.inl (failed ▸ numberOf_error parsed)
        | ok value =>
          simp only [parsed, bind, Except.bind] at failed
          exact Or.inl (afterValue_error failed)
  · repeat' split at failed
    all_goals cases failed
    exact Or.inl rfl
  · exact Or.inl (afterValue_error failed)
  · exact Or.inl (afterValue_error failed)

end Json

end SysadminAssistant.Python
