import SysadminAssistant.Python.Float
import SysadminAssistant.Python.Text

namespace SysadminAssistant.Python

/-! What `json.loads` returns.  An object keeps its fields in order, each key once. -/

inductive Json where
  | null
  | bool (value : Bool)
  | int (value : Int)
  | float (value : PyFloat)
  | str (value : Text)
  | arr (items : List Json)
  | obj (fields : List (Text × Json))

namespace Json

instance : Inhabited Json := ⟨.null⟩

/-- `bool(value)`. -/
def truthy : Json → Bool
  | .null => false
  | .bool value => value
  | .int value => value ≠ 0
  | .float (.finite value) => value ≠ 0
  | .float _ => true
  | .str value => value ≠ []
  | .arr items => !items.isEmpty
  | .obj fields => !fields.isEmpty

def field? (key : Text) : List (Text × Json) → Option Json
  | [] => none
  | (other, value) :: rest => if other = key then some value else field? key rest

/-- `data.get(key)`, whose default is `None`. -/
def field (key : Text) (fields : List (Text × Json)) : Json := (field? key fields).getD .null

def number? : Json → Option PyFloat
  | .bool value => some (.finite (if value then 1 else 0))
  | .int value => some (.finite value)
  | .float value => some value
  | _ => none

/-- `left == right` on numbers: `True == 1 == 1.0`, and `nan` equals nothing. -/
def equalNumbers (left right : Json) : Bool :=
  match left.number?, right.number? with
  | some left, some right => left ≠ .nan && left = right
  | _, _ => false

mutual

/-- `left == right`.  Two objects are equal whatever the order of their fields. -/
def equal : Json → Json → Bool
  | .null, .null => true
  | .str left, .str right => left = right
  | .arr left, .arr right => equalItems left right
  | .obj left, .obj right => left.length = right.length && equalFields left right
  | left, right => equalNumbers left right

def equalItems : List Json → List Json → Bool
  | [], [] => true
  | left :: lefts, right :: rights => equal left right && equalItems lefts rights
  | _, _ => false

def equalFields : List (Text × Json) → List (Text × Json) → Bool
  | [], _ => true
  | (key, value) :: rest, fields =>
    (match field? key fields with
      | some other => equal value other
      | none => false) && equalFields rest fields

end

mutual

/-- How deep the arrays and objects of a value stand inside each other. -/
def nesting : Json → Nat
  | .arr items => nestingItems items + 1
  | .obj fields => nestingFields fields + 1
  | _ => 0

def nestingItems : List Json → Nat
  | [] => 0
  | item :: rest => max (nesting item) (nestingItems rest)

def nestingFields : List (Text × Json) → Nat
  | [] => 0
  | (_, value) :: rest => max (nesting value) (nestingFields rest)

end

/-! What a program does with a value out of `json.loads` without looking at its type first.
`none` is the exception that leaves the function. -/

/-- `value.get(key)`. -/
def get (value : Json) (key : String) : Option Json :=
  match value with
  | .obj fields => some (field (text key) fields)
  | _ => none

/-- `value.get(key, default)`. -/
def getD (value : Json) (key : String) (default : Json) : Option Json :=
  match value with
  | .obj fields => some ((field? (text key) fields).getD default)
  | _ => none

def isObj : Json → Bool
  | .obj _ => true
  | _ => false

/-- `value or other`. -/
def orElse (value other : Json) : Json := if value.truthy then value else other

/-- What a loop over the value sees. -/
def iterate : Json → Option (List Json)
  | .str value => some (value.map fun c => .str [c])
  | .arr items => some items
  | .obj fields => some (fields.map fun entry => .str entry.1)
  | _ => none

/-- `value.items()`. -/
def items : Json → Option (List (Text × Json))
  | .obj fields => some fields
  | _ => none

/-- `value > bound`. -/
def above (value : Json) (bound : PyFloat) : Option Bool := value.number?.map bound.less

/-- A number as a `float`; of a large enough `int` there is none. -/
def toFloat? : Json → Option PyFloat
  | .bool value => some (.finite (if value then 1 else 0))
  | .int value => (PyFloat.ofInt? value).map .finite
  | .float value => some value
  | _ => none

def isHashable : Json → Bool
  | .arr _ | .obj _ => false
  | _ => true

/-- A text, or null. -/
def nullable (value : Option Text) : Json := value.elim .null .str

/-- The text of a string. -/
def text? : Json → Option Text
  | .str value => some value
  | _ => none

end Json

end SysadminAssistant.Python
