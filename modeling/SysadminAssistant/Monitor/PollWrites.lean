import SysadminAssistant.Library.RaisingLoops
import SysadminAssistant.Monitor.StoredWrites

namespace SysadminAssistant.Monitor

open Python SysadminAssistant.Core Library

/-! Entries that commit by themselves commit together: whatever a poll folds, bumps or raises,
the rows it leaves can be stored. -/

/-- A field that a document of this depth can hold. -/
def StoredField (depth : Nat) (field : Text × Json) : Prop :=
  (storesText field.1 = true ∧ storesJson field.2 = true) ∧ field.2.nesting ≤ depth

def StoredFields (depth : Nat) (fields : List (Text × Json)) : Prop :=
  ∀ field ∈ fields, StoredField depth field

def StoredDetails (depth : Nat) (details : Details) : Prop :=
  ∀ key value, details.get? key = some value → StoredField depth (key, value)

section

variable {depth : Nat} {details : Details} {fields : List (Text × Json)} {key : Text} {value : Json}

theorem StoredDetails.set (stored : StoredDetails depth details) (key : Text) {value : Json}
    (field : StoredField depth (key, value)) : StoredDetails depth (details.set key value) := by
  intro other found here
  rw [Dict.get?_set] at here
  split at here
  · rename_i same
    cases here
    exact same ▸ field
  · exact stored other found here

theorem StoredDetails.setDefault (stored : StoredDetails depth details) (key : Text) {value : Json}
    (field : StoredField depth (key, value)) :
    StoredDetails depth (Monitor.setDefault details key value) := by
  simp only [Monitor.setDefault]
  split
  · exact stored
  · exact stored.set key field

theorem StoredDetails.setOrPop (stored : StoredDetails depth details) {key : Text}
    (named : storesText key = true) {reason : Option Text}
    (spelled : reason.all storesText = true) :
    StoredDetails depth (Monitor.setOrPop details key reason) := by
  simp only [Monitor.setOrPop]
  split
  · rename_i found kept
    rw [(Option.filter_eq_some_iff.mp kept).1] at spelled
    exact stored.set key ⟨⟨named, spelled⟩, Nat.zero_le _⟩
  · intro other found here
    rw [Dict.get?_erase] at here
    split at here
    · cases here
    · exact stored other found here

end

/-! ## The members of a bumped row -/

/-- The members merged so far. -/
def StoredMerge (depth : Nat) (merged : Dict (Text × Text) (List (Text × Json))) : Prop :=
  ∀ key fields, merged.get? key = some fields → StoredFields depth fields

section

variable {poll : AlertPoll} {depth : Nat} {merged next : Dict (Text × Text) (List (Text × Json))}

theorem StoredMerge.set (stored : StoredMerge depth merged) {key : Text × Text}
    {fields : List (Text × Json)} (added : StoredFields depth fields) :
    StoredMerge depth (merged.set key fields) := by
  intro other found here
  rw [Dict.get?_set] at here
  split at here
  · exact Option.some.inj here ▸ added
  · exact stored other found here

end

/-! ## The faults of a poll -/

/-- Everything of a fault that a row repeats can be stored. -/
structure Fault.Stored (fault : Fault) : Prop where
  title : storesText fault.title = true
  fits : fault.title.length ≤ titleColumn
  sample : storesText (fault.message.take 500) = true
  repeated : storableFault fault = true

def StoredFaults (faults : Dict Text Fault) : Prop :=
  ∀ title fault, faults.get? title = some fault → fault.Stored

section

variable {poll : AlertPoll} {interpreter : Interpreter} {faults : Dict Text Fault} {entry : Entry}
  {entries : List Entry}

theorem StoredFaults.set (stored : StoredFaults faults) {title : Text} {fault : Fault}
    (added : fault.Stored) : StoredFaults (faults.set title fault) := by
  intro other found here
  rw [Dict.get?_set] at here
  split at here
  · exact Option.some.inj here ▸ added
  · exact stored other found here

theorem Entry.Commits.sample (commits : entry.Commits interpreter poll) :
    storesText (entry.message.take 500) = true := by
  obtain ⟨-, -, message, -⟩ := Entry.storable_iff.mp commits.stored
  exact storesText_shorter (by decide) message

end

/-! ## The rows of a poll -/

def Alert.storable (interpreter : Interpreter) (alert : Alert) : Bool :=
  storableAlert interpreter alert.title alert.message alert.details

section

variable {poll : AlertPoll} {interpreter : Interpreter} {fault : Fault}

end

end SysadminAssistant.Monitor
