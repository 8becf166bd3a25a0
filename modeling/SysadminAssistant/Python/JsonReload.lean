import Mathlib.Data.List.Induction
import Mathlib.Data.List.Nodup
import SysadminAssistant.Python.JsonDecode

namespace SysadminAssistant.Python

/-! `json.loads(json.dumps(value))`: what a value that is written as JSON comes back as.  Only
what `json.dumps` writes is a `PyValue`. -/

inductive PyKey where
  | str (value : Text)
  | int (value : Int)
  | float (value : PyFloat)
  | bool (value : Bool)
  | none

inductive PyValue where
  | none
  | bool (value : Bool)
  | int (value : Int)
  | float (value : PyFloat)
  | str (value : Text)
  | list (items : List PyValue)
  | tuple (items : List PyValue)
  | dict (entries : List (PyKey × PyValue))

namespace CodePoint

def isHigh (c : CodePoint) : Bool := 0xD800 ≤ c.val && c.val ≤ 0xDBFF

def isLow (c : CodePoint) : Bool := 0xDC00 ≤ c.val && c.val ≤ 0xDFFF

/-- The code point of two surrogate halves. -/
def joined (high low : CodePoint) : CodePoint :=
  Fin.ofNat _ (0x10000 + (high.val - 0xD800) * 0x400 + (low.val - 0xDC00))

end CodePoint

/-- A surrogate pair is written as two escapes and read as one code point. -/
def Text.paired : Text → Text
  | [] => []
  | [c] => [c]
  | high :: low :: rest =>
    if high.isHigh && low.isLow then high.joined low :: paired rest else high :: paired (low :: rest)

/-- The name `json.dumps` gives a field; `repr` is `float.__repr__`. -/
def PyKey.written (repr : PyFloat → Text) : PyKey → Text
  | .str value => value
  | .int value => intText value
  | .float value => repr value
  | .bool value => if value then text "true" else text "false"
  | .none => text "null"

/-- What `dict(pairs)` leaves of the pairs. -/
def Json.ofPairs (pairs : List (Text × Json)) : List (Text × Json) :=
  pairs.foldl (fun fields entry => setField entry.1 entry.2 fields) []

namespace PyValue

variable (repr : PyFloat → Text)

mutual

/-- A field that is written twice keeps its first place and its last value. -/
def reloaded : PyValue → Json
  | .none => .null
  | .bool value => .bool value
  | .int value => .int value
  | .float value => .float value
  | .str value => .str value.paired
  | .list items | .tuple items => .arr (reloadedItems items)
  | .dict entries => .obj (Json.ofPairs (reloadedEntries entries))

def reloadedItems : List PyValue → List Json
  | [] => []
  | item :: rest => reloaded item :: reloadedItems rest

def reloadedEntries : List (PyKey × PyValue) → List (Text × Json)
  | [] => []
  | (key, value) :: rest => ((key.written repr).paired, reloaded value) :: reloadedEntries rest

end

theorem reloadedItems_eq (items : List PyValue) :
    reloadedItems repr items = items.map (reloaded repr) := by
  induction items with
  | nil => rfl
  | cons item rest ih => rw [reloadedItems, ih, List.map_cons]

theorem reloadedEntries_eq (entries : List (PyKey × PyValue)) : reloadedEntries repr entries =
    entries.map fun entry => ((entry.1.written repr).paired, reloaded repr entry.2) := by
  induction entries with
  | nil => rfl
  | cons entry rest ih => rw [reloadedEntries, ih, List.map_cons]

end PyValue

mutual

/-- What `json.loads` returned, as a value to write. -/
def Json.toPy : Json → PyValue
  | .null => .none
  | .bool value => .bool value
  | .int value => .int value
  | .float value => .float value
  | .str value => .str value
  | .arr items => .list (itemsToPy items)
  | .obj fields => .dict (fieldsToPy fields)

def Json.itemsToPy : List Json → List PyValue
  | [] => []
  | item :: rest => item.toPy :: itemsToPy rest

def Json.fieldsToPy : List (Text × Json) → List (PyKey × PyValue)
  | [] => []
  | (key, value) :: rest => (.str key, value.toPy) :: fieldsToPy rest

end

theorem codePoint_plain (c : Char) : (codePoint c).isSurrogate = false := by
  have valid := c.valid
  have value : (codePoint c).val = c.val.toNat := rfl
  simp only [UInt32.isValidChar, Nat.isValidChar] at valid
  simp only [CodePoint.isSurrogate, Bool.and_eq_false_iff, decide_eq_false_iff_not, value]
  omega

theorem text_plain (literal : String) : ∀ c ∈ text literal, c.isSurrogate = false := by
  intro c member
  obtain ⟨character, _, same⟩ := List.mem_map.mp member
  rw [← same]
  exact codePoint_plain character

theorem Text.paired_of_plain {value : Text} (plain : ∀ c ∈ value, c.isSurrogate = false) :
    value.paired = value := by
  induction value with
  | nil => rfl
  | cons high rest ih =>
    have tail := ih fun c member => plain c (List.mem_cons_of_mem _ member)
    have first := plain high List.mem_cons_self
    have unpaired : high.isHigh = false := by
      simp only [CodePoint.isSurrogate, CodePoint.isHigh, Bool.and_eq_false_iff,
        decide_eq_false_iff_not] at first ⊢
      omega
    cases rest with
    | nil => rfl
    | cons low rest => simp [paired, unpaired, tail]

namespace Json

theorem setField_keys (key : Text) (value : Json) (fields : List (Text × Json)) :
    (setField key value fields).map Prod.fst =
      if key ∈ fields.map Prod.fst then fields.map Prod.fst else fields.map Prod.fst ++ [key] := by
  induction fields with
  | nil => rfl
  | cons field rest ih =>
    obtain ⟨other, old⟩ := field
    by_cases same : other = key
    · simp [setField, same]
    · simp only [setField, if_neg same, List.map_cons, ih, List.mem_cons, Ne.symm same, false_or]
      split <;> simp

theorem setField_fresh {key : Text} (value : Json) {fields : List (Text × Json)}
    (fresh : key ∉ fields.map Prod.fst) : setField key value fields = fields ++ [(key, value)] := by
  induction fields with
  | nil => rfl
  | cons field rest ih =>
    rw [List.map_cons, List.mem_cons, not_or] at fresh
    rw [setField, if_neg (Ne.symm fresh.1), ih fresh.2, List.cons_append]

theorem ofPairs_append (front : List (Text × Json)) (entry : Text × Json) :
    ofPairs (front ++ [entry]) = setField entry.1 entry.2 (ofPairs front) := by
  rw [ofPairs, List.foldl_append]
  rfl

theorem ofPairs_of_nodup {pairs : List (Text × Json)} (nodup : (pairs.map Prod.fst).Nodup) :
    ofPairs pairs = pairs := by
  induction pairs using List.reverseRecOn with
  | nil => rfl
  | append_singleton front entry ih =>
    rw [List.map_append, List.nodup_append] at nodup
    obtain ⟨distinct, _, apart⟩ := nodup
    rw [ofPairs_append, ih distinct]
    exact setField_fresh _ fun member => apart _ member _ (by simp) rfl

theorem ofPairs_nodup (pairs : List (Text × Json)) : ((ofPairs pairs).map Prod.fst).Nodup := by
  induction pairs using List.reverseRecOn with
  | nil => exact List.nodup_nil
  | append_singleton front entry ih =>
    rw [ofPairs_append, setField_keys]
    split
    · exact ih
    · rename_i fresh
      refine List.nodup_append.mpr ⟨ih, List.nodup_singleton _, ?_⟩
      intro left member right single same
      rw [List.mem_singleton.mp single] at same
      exact fresh (same ▸ member)

theorem field?_of_mem {fields : List (Text × Json)} (nodup : (fields.map Prod.fst).Nodup)
    {key : Text} {value : Json} (member : (key, value) ∈ fields) :
    field? key fields = some value := by
  induction fields with
  | nil => cases member
  | cons field rest ih =>
    obtain ⟨other, old⟩ := field
    obtain ⟨fresh, distinct⟩ := List.nodup_cons.mp nodup
    rcases List.mem_cons.mp member with here | later
    · obtain ⟨rfl, rfl⟩ := Prod.mk.inj here
      simp [field?]
    · have apart : other ≠ key := by
        intro same
        exact fresh (List.mem_map.mpr ⟨_, later, same.symm⟩)
      rw [field?, if_neg apart, ih distinct later]

end Json

end SysadminAssistant.Python
