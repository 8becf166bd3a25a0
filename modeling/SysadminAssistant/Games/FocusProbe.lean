import SysadminAssistant.Library.EffectTrees
import SysadminAssistant.Python.DecimalText

namespace SysadminAssistant.Games.FocusProbe

open Python Library

/-! The KWin focus probe (`sysadmin/games/focus.py`): a script that is loaded, run and unloaded, and
a journal line that is read back by its token. -/

inductive Request where
  | buildEnv
  | makeFile (directory : Text)
  | writeScript (path script : Text)
  | clock
  | loadScript (path : Text)
  | runScript (id : Int)
  | unloadScript
  | readJournal (since : Int)
  | sleep
  | unlink (path : Text)

def Request.Answer : Request → Type
  | .buildEnv | .makeFile _ | .loadScript _ | .readJournal _ => Text
  | .clock => ℚ
  | _ => Unit

/-- What a call may raise; a `SystemdQueryError` is `busUnavailable`. -/
inductive Raised where
  | busUnavailable | probeFailed | osError | other
deriving DecidableEq

abbrev Program (α : Type) := Tree Request.Answer Raised α

def ask (request : Request) : Program request.Answer := Tree.perform request

def pluginName : Text := text "sysadmin-focus-probe"

def noWindow : Int := 0

/-- `-?\d+`, taken greedily: its sign, its digits and what follows. -/
def numeral (database : CharDatabase) (read : Text) : Option (Bool × Text × Text) :=
  let negative : Bool := read.head? = some 0x2D
  let unsigned := if negative then read.tail else read
  let digits := unsigned.takeWhile database.isDigit
  if digits = [] then none else some (negative, digits, unsigned.drop digits.length)

/-- `int(match.group(1))`. -/
def numeralValue (database : CharDatabase) (negative : Bool) (digits : Text) : Except Raised Int :=
  if intMaxStrDigits < digits.length then .error .other
  else
    let magnitude : Int := (database.decimal? digits).getD 0
    .ok (if negative then -magnitude else magnitude)

/-- The first place where the marker of this call is followed by a number. -/
def findLine (database : CharDatabase) (marker : Text) : Text → Option (Bool × Text)
  | [] => none
  | c :: rest =>
    match (if marker.isPrefixOf (c :: rest) then numeral database ((c :: rest).drop marker.length)
      else none) with
    | some (negative, digits, _) => some (negative, digits)
    | none => findLine database marker rest

def parseLine (database : CharDatabase) (output token : Text) : Except Raised (Option Int) :=
  match findLine database (pluginName ++ text " token=" ++ token ++ text " pid=") output with
  | none => .ok none
  | some (negative, digits) =>
    (numeralValue database negative digits).map fun pid => some (if 0 < pid then pid else noWindow)

def parseLoadId (database : CharDatabase) (output : Text) : Except Raised (Option Int) :=
  match output.strip with
  | [] => .ok none
  | c :: rest =>
    match numeral database rest with
    | some (negative, digits, closing) =>
      if c = 0x28 ∧ closing = text ",)" then (numeralValue database negative digits).map some
      else .ok none
    | none => .ok none

section

variable (database : CharDatabase) (token path : Text)

/-- A leftover load is cleared, and the script loaded once more. -/
def reload (script : Option Int) : Program (Option Int) :=
  if script = some (-1) then do
    let _ ← ask .unloadScript
    let again ← ask (.loadScript path)
    Tree.ofOutcome (parseLoadId database again)
  else .done script

def accept : Option Int → Program Int
  | some id => if id < 0 then .raised .probeFailed else .done id
  | none => .raised .probeFailed

/-- `_load`. -/
def load : Program Int := do
  let answer ← ask (.loadScript path)
  let script ← Tree.ofOutcome (parseLoadId database answer)
  let settled ← reload database path script
  accept settled

def suppressed (error : Raised) : Option (Program Unit) :=
  if error = .probeFailed ∨ error = .osError then some (.done ()) else none

/-- Load, run, and unload what was loaded. -/
def session : Program Unit := do
  let id ← load database path
  (ask (.runScript id)).ensuring ((ask .unloadScript).handling suppressed)

/-- Between two attempts. -/
def pause (left : Nat) : Program Unit := if left = 0 then .done () else ask .sleep

/-- `_read_journal`. -/
def readJournal (since : Int) : Nat → Program (Option Int)
  | 0 => .done none
  | left + 1 => do
    let output ← ask (.readJournal since)
    let pid ← Tree.ofOutcome (parseLine database output token)
    match pid with
    | some pid => .done (some pid)
    | none => do
      pause left
      readJournal since left

end

/-! What a probe owes to the desktop, whatever it is answered. -/

/-- `kept`: what its removal raised. -/
inductive ScriptFile where
  | unmade | there (path : Text) | removed | kept (error : Raised)
deriving DecidableEq

inductive Script where
  | clear | stale | loaded (id : Int)
deriving DecidableEq

structure Trace where
  file : ScriptFile
  script : Script
  read : Option Int

namespace Script

def isLoaded : Script → Bool
  | .loaded _ => true
  | _ => false

/-- What `loadScript` is taken to have done. -/
def ofAnswer : Except Raised (Option Int) → Script
  | .ok (some id) => if id = -1 then .stale else if id < 0 then .clear else .loaded id
  | _ => .clear

end Script

section

variable (database : CharDatabase) (token : Text)

def Trace.permits (trace : Trace) : Request → Bool
  | .buildEnv | .clock | .sleep => true
  | .makeFile _ => trace.file = .unmade
  | .writeScript path _ | .loadScript path | .unlink path =>
    trace.file = .there path && !trace.script.isLoaded
  | .runScript id => trace.script = .loaded id
  | .unloadScript => trace.script ≠ .clear
  | .readJournal _ => !trace.script.isLoaded

def Trace.after (trace : Trace) : (request : Request) → Except Raised request.Answer → Trace
  | .makeFile _, .ok path => { trace with file := .there path }
  | .loadScript _, .ok output => { trace with script := .ofAnswer (parseLoadId database output) }
  | .loadScript _, .error _ | .unloadScript, _ => { trace with script := .clear }
  | .readJournal _, .ok output =>
    { trace with read := (parseLine database output token).toOption.join }
  | .unlink _, .ok _ => { trace with file := .removed }
  | .unlink _, .error error => { trace with file := .kept error }
  | _, _ => trace

def Trace.step (trace : Trace) (exchange : Exchange Request.Answer Raised) : Option Trace :=
  if trace.permits exchange.request
    then some (trace.after database token exchange.request exchange.answer) else none

end

section

variable {database : CharDatabase} {token path : Text} {α β : Type}

end

end SysadminAssistant.Games.FocusProbe
