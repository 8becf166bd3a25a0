import SysadminAssistant.Python.Dict
import SysadminAssistant.Python.Json
import SysadminAssistant.Python.Text

namespace SysadminAssistant.Monitor

open Python

/-! The stable identity of one recurring fault (`sysadmin/monitor/log_signature.py`). -/

def isHexDigit (c : CodePoint) : Bool :=
  (48 ≤ c.val && c.val ≤ 57) || (65 ≤ c.val && c.val ≤ 70) || (97 ≤ c.val && c.val ≤ 102)

/-- The length of a match of `\b0x[0-9a-fA-F]+\b` at the head of the text, after
the code point `previous`.  The run of hex digits is maximal: a shorter one would
end before a word character. -/
def hexLiteralLength (database : CharDatabase) (previous : Option CodePoint) : Text → Option Nat
  | zero :: x :: rest =>
    if zero.val = 48 ∧ x.val = 120 ∧ previous.all (fun c => !database.isWord c) then
      let digits := rest.takeWhile isHexDigit
      let following := (rest.dropWhile isHexDigit).head?
      if digits ≠ [] ∧ following.all (fun c => !database.isWord c) then
        some (digits.length + 2)
      else none
    else none
  | _ => none

/-- `_HEX.sub("0xN", …)`.  `skip` counts the rest of a match already replaced. -/
def substituteHex (database : CharDatabase) : Option CodePoint → Nat → Text → Text
  | _, _, [] => []
  | _, skip + 1, c :: rest => substituteHex database (some c) skip rest
  | previous, 0, c :: rest =>
    match hexLiteralLength database previous (c :: rest) with
    | some length => text "0xN" ++ substituteHex database (some c) (length - 1) rest
    | none => c :: substituteHex database (some c) 0 rest

/-- Digit runs become `N`, hex literals `0xN`, white space one blank. -/
def signature (database : CharDatabase) (message : Text) : Text :=
  let hex := substituteHex database none 0 message
  let digits := Text.collapseRuns database.isDigit (text "N") false hex
  Text.strip (Text.collapseRuns CodePoint.isSpace (text " ") false digits)

def titleMax : Int := 255

/-- What the title needs from outside the repository: the estate library's cut, its
marker, and the first eight hex digits of the SHA-256 of a signature that encodes. -/
structure TitleTools where
  truncateAtWord : Text → Nat → Text
  truncationMarker : Text
  signatureDigest : Text → Text

/-- The rungs of a journal line; `chk_alert_severity` knows only three of them. -/
inductive LogSeverity where
  | debug | info | warning | error | critical
deriving DecidableEq, Repr

def LogSeverity.name : LogSeverity → Text
  | .debug => text "debug"
  | .info => text "info"
  | .warning => text "warning"
  | .error => text "error"
  | .critical => text "critical"

/-- The deduplication key, which is also what the reader sees. -/
def alertTitle (database : CharDatabase) (tools : TitleTools) (severity : LogSeverity)
    (source message : Text) : Text :=
  let before := text "Log " ++ severity.name ++ text ": " ++ source ++ text " — "
  let budget : Int := titleMax - before.length - tools.truncationMarker.length - 1
  let body := signature database message
  if body.length ≤ budget then before ++ body
  else
    let suffix := text " [" ++ tools.signatureDigest body ++ text "]"
    before ++ tools.truncateAtWord body (max (budget - suffix.length) 1).toNat ++ suffix

/-- A title that is cut digests its signature, and UTF-8 has no half a surrogate pair. -/
def titleEncodes (database : CharDatabase) (tools : TitleTools) (severity : LogSeverity)
    (source message : Text) : Bool :=
  let before := text "Log " ++ severity.name ++ text ": " ++ source ++ text " — "
  let budget : Int := titleMax - before.length - tools.truncationMarker.length - 1
  let body := signature database message
  body.length ≤ budget || body.all fun c => !c.isSurrogate

example : signature .ascii (text "usb 1-11:\tdevice at 0x1f, error -110 ") =
    text "usb N-N: device at NxN, error -N" := by decide

/-! One ingested line, and the rung gate both readers share
(`sysadmin/monitor/journal.py`). -/

/-- An entry dict.  `loggedAt` is in microseconds since the epoch. -/
structure Entry where
  source : Text
  severity : LogSeverity
  message : Text
  loggedAt : Int
  rawLine : Text
  metadata : List (Text × Json)

/-- A row of `log_entries`. -/
structure LogRow where
  id : Nat
  source : Text
  severity : LogSeverity
  message : Text
  loggedAt : Int
  rawLine : Option Text
  metadata : List (Text × Json)

/-- `SEVERITY_ORDER`. -/
def LogSeverity.order : LogSeverity → Nat
  | .debug => 0
  | .info => 1
  | .warning => 2
  | .error => 3
  | .critical => 4

/-- `SEVERITY_ORDER.get(name, 0)`. -/
def severityOrder (name : Text) : Nat :=
  (([.debug, .info, .warning, .error, .critical] : List LogSeverity).find?
    (fun severity => severity.name = name)).elim 0 LogSeverity.order

/-- Is this line stored: by its rung, or by a declaration below it? -/
def admits (database : CharDatabase) (severity : LogSeverity) (severityFilter message : Text)
    (declared : Dict Text LogSeverity) : Bool :=
  if severity.order ≥ severityOrder severityFilter then true
  else if declared.entries.isEmpty then false
  else (declared.get? (signature database message)).isSome

end SysadminAssistant.Monitor
