import SysadminAssistant.Python.Dict
import SysadminAssistant.Python.GroupedFolds
import SysadminAssistant.Python.Json
import SysadminAssistant.Python.JsonReload
import SysadminAssistant.Python.DecimalText
import SysadminAssistant.Units.UnitAlerts

namespace SysadminAssistant.Units

open Python

/-! Who held each port, as of one stored sweep (`sysadmin/units/ports.py`). -/

structure PortAttribution where
  holders : Dict Int Text
  transientHolders : Dict Int Text
  observedAt : Option Text
  /-- `none`: the stored sweep cannot answer. -/
  unattributed : Option (List Int)

def PortAttribution.empty : PortAttribution := ⟨.empty, .empty, none, none⟩

structure PortHolder where
  unit : Text
  scope : Text
  transient : Bool
  observedAt : Option Text

inductive PortReading where
  | held | transient | unattributed | unswept | unknown
deriving DecidableEq

def PortReading.name : PortReading → Text
  | .held => text "held"
  | .transient => text "transient"
  | .unattributed => text "unattributed"
  | .unswept => text "unswept"
  | .unknown => text "unknown"

/-- `value.partition(":")`, without the separator. -/
def partitionColon (value : Text) : Text × Text :=
  (value.takeWhile fun c => c ≠ codePoint ':', (value.dropWhile fun c => c ≠ codePoint ':').drop 1)

namespace PortAttribution

def holderOf (attribution : PortAttribution) (holder : Text) (transient : Bool) : PortHolder :=
  let parts := partitionColon holder
  { unit := parts.2, scope := parts.1, transient, observedAt := attribution.observedAt }

def of (attribution : PortAttribution) (port : Int) : Option PortHolder :=
  match (attribution.holders.get? port).filter (· ≠ []) with
  | some holder => some (attribution.holderOf holder false)
  | none => ((attribution.transientHolders.get? port).filter (· ≠ [])).map fun holder =>
    attribution.holderOf holder true

/-- `reading`: always an answer. -/
def reading (attribution : PortAttribution) (port : Int) : PortReading :=
  if (attribution.holders.get? port).isSome then .held
  else if (attribution.transientHolders.get? port).isSome then .transient
  else match attribution.unattributed with
    | none => .unknown
    | some ports => if port ∈ ports then .unattributed else .unswept

end PortAttribution

namespace Ports

/-! What one port sweep saw, the blob it is stored as, and the attribution that is read back
(`sysadmin/units/ports.py`). -/

/-- The unit and its scope are read off one cgroup path, which is decoded UTF-8. -/
structure Listener where
  port : Int
  unit : Option Text
  scope : Option Scope
  runtimeCreated : Bool
  together : unit.isSome = scope.isSome
  decoded : ∀ name ∈ unit, ∀ c ∈ name, c.isSurrogate = false

namespace Listener

def attributed (listener : Listener) : Bool := listener.unit.isSome

def transient (listener : Listener) : Bool :=
  match listener.unit with
  | none | some [] => false
  | some unit => (text ".scope").isSuffixOf unit || listener.runtimeCreated

/-- `f"{scope}:{unit}"`. -/
def holder (listener : Listener) : Text :=
  listener.scope.elim (text "None") Scope.name ++ [codePoint ':'] ++ listener.unit.getD (text "None")

end Listener

structure PortReport extends Units.PortReport where
  listeners : List Listener
  unknownRegistryProjects : List Text
  registryDocument : Option Text
  registryRows : Int
  registryError : Option Text
  auditedRanges : List (Int × Int)

def inRange (port : Int) (ranges : List (Int × Int)) : Bool :=
  ranges.any fun range => range.1 ≤ port && port ≤ range.2

/-- A set of ports, ascending. -/
def portSet (ports : List Int) : List Int := ports.dedup.insertionSort (· ≤ ·)

/-- The ports of each holder, both ascending. -/
def heldPorts (listeners : List Listener) : List (Text × List Int) :=
  let held := listeners.foldl (Dict.joinAt Listener.holder fun ports listener =>
    listener.port :: ports.getD []) Dict.empty
  (held.entries.insertionSort fun left right => left.1 ≤ right.1).map fun entry =>
    (entry.1, portSet entry.2)

def optionalText (value : Option Text) : PyValue := value.elim .none .str

/-- A `dict` whose keys are text. -/
def record (fields : List (Text × PyValue)) : PyValue :=
  .dict (fields.map fun field => (.str field.1, field.2))

def display (fields : List (String × PyValue)) : PyValue :=
  record (fields.map fun field => (text field.1, field.2))

def portList (ports : List Int) : PyValue := .list (ports.map .int)

def holderMap (held : List (Text × List Int)) : PyValue :=
  record (held.map fun entry => (entry.1, portList entry.2))

/-- The `limit` of `as_blob`. -/
def blobLimit : Nat := 200

namespace PortReport

def unitPorts (report : PortReport) (auditedOnly : Bool) : List (Text × List Int) :=
  heldPorts (report.listeners.filter fun listener => listener.attributed && !listener.transient &&
    (!auditedOnly || inRange listener.port report.auditedRanges))

def transientPorts (report : PortReport) : List (Text × List Int) :=
  heldPorts (report.listeners.filter fun listener => listener.attributed && listener.transient)

def unattributedPorts (report : PortReport) : List Int :=
  portSet ((report.listeners.filter fun listener => !listener.attributed).map Listener.port)

def blobFields (report : PortReport) (limit : Nat) : List (String × PyValue) := [
  ("ok", .bool report.ok),
  ("error", optionalText report.error),
  ("registry_document", optionalText report.registryDocument),
  ("registry_rows", .int report.registryRows),
  ("registry_error", optionalText report.registryError),
  ("findings_count", .int report.findings.length),
  ("collisions_count", .int report.collisions.length),
  ("advice_count", .int (report.findings.filter fun finding => !finding.isCollision).length),
  ("listeners_count", .int report.listeners.length),
  ("attributed_count", .int (report.listeners.countP Listener.attributed)),
  ("unattributed_ports", portList (report.unattributedPorts.take limit)),
  ("unknown_registry_projects", .list ((report.unknownRegistryProjects.take limit).map .str)),
  ("findings", .list ((report.findings.map fun finding => finding.asDict.toPy).take limit)),
  ("unit_ports", holderMap (report.unitPorts false)),
  ("unit_audited_ports", holderMap (report.unitPorts true)),
  ("transient_ports", holderMap report.transientPorts)]

def asBlob (report : PortReport) (limit : Nat) : PyValue := display (report.blobFields limit)

end PortReport

/-! ## Reading a blob -/

/-- `int(port)`; a port that is no number is passed over. -/
def portNumber (database : CharDatabase) (port : Json) : Except PyError (Option Int) :=
  match intOfJson database port with
  | .ok number => .ok (some number)
  | .error .typeError | .error .valueError => .ok none
  | .error raised => .error raised

/-- `counts` and `transient`. -/
structure Held where
  counts : Dict Int (List Text)
  transient : List Int

def Held.note (isTransient : Bool) (holder : Text) (held : Held) (number : Int) : Held where
  counts := held.counts.set number ((held.counts.get? number).getD [] ++ [holder])
  transient := if isTransient then number :: held.transient else held.transient

def readPorts (database : CharDatabase) (isTransient : Bool) (holder : Text) (held : Held)
    (ports : List Json) : Except PyError Held :=
  ports.foldlM (fun held port => do
    match ← portNumber database port with
    | some number => return held.note isTransient holder number
    | none => return held) held

def readHolders (database : CharDatabase) (blob : List (Text × Json)) (held : Held) (key : Text)
    (isTransient : Bool) : Except PyError Held :=
  match Json.field key blob with
  | .obj entries => entries.foldlM (fun held entry =>
    match entry.2 with
    | .arr ports => readPorts database isTransient entry.1 held ports
    | _ => .ok held) held
  | _ => .ok held

def seePort (database : CharDatabase) (seen : List Int) (port : Json) : Except PyError (List Int) :=
  match port with
  | .bool _ => .ok seen
  | _ => do return (← portNumber database port).toList ++ seen

def seenUnattributed (database : CharDatabase) (blob : List (Text × Json)) :
    Except PyError (Option (List Int)) :=
  if !(Json.field (text "ok") blob).truthy then .ok none
  else match Json.field (text "unattributed_ports") blob with
    | .arr ports => do
      return some (← ports.foldlM (seePort database) [])
    | _ => .ok none

/-- The ports that have one holder, with it. -/
def Held.unique (held : Held) : List (Int × Text) :=
  held.counts.entries.filterMap fun entry =>
    match entry.2 with
    | [name] => some (entry.1, name)
    | _ => none

def attributionFromBlob (database : CharDatabase) (blob : Option (List (Text × Json)))
    (observedAt : Option Text) : Except PyError PortAttribution :=
  match blob with
  | none | some [] => .ok { PortAttribution.empty with observedAt }
  | some blob => do
    let named ← readHolders database blob ⟨.empty, []⟩ (text "unit_ports") false
    let held ← readHolders database blob named (text "transient_ports") true
    return {
      holders := Dict.ofEntries (held.unique.filter fun entry => entry.1 ∉ held.transient)
      transientHolders := Dict.ofEntries (held.unique.filter fun entry => entry.1 ∈ held.transient)
      observedAt
      unattributed := ← seenUnattributed database blob }

end Ports

end SysadminAssistant.Units
