import SysadminAssistant.Python.JsonReload

namespace SysadminAssistant.Python

/-! When two loaded values agree, leaf by leaf: as `==` sees them, and as JSON. -/

namespace Json

mutual

/-- Arrays item by item, objects field by field in whatever order, and anything else by `leaf`. -/
def agree (leaf : Json → Json → Bool) : Json → Json → Bool
  | .arr left, .arr right => agreeItems leaf left right
  | .obj left, .obj right => left.length = right.length && agreeFields leaf left right
  | left, right => leaf left right

def agreeItems (leaf : Json → Json → Bool) : List Json → List Json → Bool
  | [], [] => true
  | left :: lefts, right :: rights => agree leaf left right && agreeItems leaf lefts rights
  | _, _ => false

def agreeFields (leaf : Json → Json → Bool) : List (Text × Json) → List (Text × Json) → Bool
  | [], _ => true
  | (key, value) :: rest, fields =>
    (match field? key fields with
      | some other => agree leaf value other
      | none => false) && agreeFields leaf rest fields

end

/-- `left == right`.  The `nan` that `json.loads` hands out is always the same object, and what is
inside a container is compared by identity first. -/
def pyLeaf : Json → Json → Bool
  | .null, .null => true
  | .str left, .str right => left = right
  | .float .nan, .float .nan => true
  | left, right => equalNumbers left right

def isBool : Json → Bool
  | .bool _ => true
  | _ => false

def kindLeaf (left right : Json) : Bool := left.isBool == right.isBool

/-- JSON's own equality of leaves: a boolean is no number. -/
def jsonLeaf (left right : Json) : Bool := pyLeaf left right && kindLeaf left right

/-- `left == right` of two containers that `json.loads` built. -/
def pyEqual : Json → Json → Bool := agree pyLeaf

/-- The same JSON value. -/
def sameJson : Json → Json → Bool := agree jsonLeaf

/-- Booleans stand where booleans stand. -/
def boolsAgree : Json → Json → Bool := agree kindLeaf

mutual

/-- No object has two fields of one name. -/
def Distinct : Json → Prop
  | .arr items => DistinctItems items
  | .obj fields => (fields.map Prod.fst).Nodup ∧ DistinctFields fields
  | _ => True

def DistinctItems : List Json → Prop
  | [] => True
  | item :: rest => Distinct item ∧ DistinctItems rest

def DistinctFields : List (Text × Json) → Prop
  | [] => True
  | (_, value) :: rest => Distinct value ∧ DistinctFields rest

end

/-- Every leaf agrees with itself. -/
def Reflexive (leaf : Json → Json → Bool) : Prop :=
  ∀ value, (∀ items, value ≠ .arr items) → (∀ fields, value ≠ .obj fields) → leaf value value = true

mutual

theorem agree_refl {leaf : Json → Json → Bool} (refl : Reflexive leaf) :
    ∀ value : Json, Distinct value → agree leaf value value = true
  | .null, _ => refl .null nofun nofun
  | .bool value, _ => refl (.bool value) nofun nofun
  | .int value, _ => refl (.int value) nofun nofun
  | .float value, _ => refl (.float value) nofun nofun
  | .str value, _ => refl (.str value) nofun nofun
  | .arr items, distinct => agreeItems_refl refl items distinct
  | .obj fields, distinct => by
    simp only [agree, decide_true, Bool.true_and]
    exact agreeFields_refl refl fields fields distinct.1 (fun _ member => member) distinct.2

theorem agreeItems_refl {leaf : Json → Json → Bool} (refl : Reflexive leaf) :
    ∀ items : List Json, DistinctItems items → agreeItems leaf items items = true
  | [], _ => rfl
  | item :: rest, distinct => by
    rw [agreeItems, agree_refl refl item distinct.1, agreeItems_refl refl rest distinct.2,
      Bool.and_self]

theorem agreeFields_refl {leaf : Json → Json → Bool} (refl : Reflexive leaf) :
    ∀ part fields :
      List (Text × Json), (fields.map Prod.fst).Nodup → part ⊆ fields → DistinctFields part →
      agreeFields leaf part fields = true
  | [], _, _, _, _ => rfl
  | (key, value) :: rest, fields, nodup, inside, distinct => by
    have found := field?_of_mem nodup (inside List.mem_cons_self)
    have later :=
      agreeFields_refl refl rest fields nodup (fun _ member =>
        inside (List.mem_cons_of_mem _ member)) distinct.2
    simp only [agreeFields, found, agree_refl refl value distinct.1, later, Bool.and_self]

end

theorem pyLeaf_refl : Reflexive pyLeaf := by
  intro value noArr noObj
  cases value with
  | null => rfl
  | bool value => simp [pyLeaf, equalNumbers, number?]
  | int value => simp [pyLeaf, equalNumbers, number?]
  | float value =>
    cases value with
    | finite value => simp [pyLeaf, equalNumbers, number?]
    | infinite negative => simp [pyLeaf, equalNumbers, number?]
    | nan => rfl
  | str value => exact decide_eq_true rfl
  | arr items => exact absurd rfl (noArr items)
  | obj fields => exact absurd rfl (noObj fields)

theorem jsonLeaf_refl : Reflexive jsonLeaf := by
  intro value noArr noObj
  rw [jsonLeaf, pyLeaf_refl value noArr noObj, kindLeaf, BEq.rfl, Bool.and_self]

mutual

theorem agree_and (first second : Json → Json → Bool) : ∀ left right : Json,
    agree (fun left right => first left right && second left right) left right =
      (agree first left right && agree second left right)
  | .arr left, .arr right => agreeItems_and first second left right
  | .obj left, .obj right => by
    rw [agree, agree, agree, agreeFields_and first second left right]
    cases decide (left.length = right.length) <;> simp
  | .null, right | .bool _, right | .int _, right | .float _, right | .str _, right => by
    cases right <;> rfl
  | .arr _, .null | .arr _, .bool _ | .arr _, .int _ | .arr _, .float _ | .arr _, .str _ | .arr _,
      .obj _ => rfl
  | .obj _, .null | .obj _, .bool _ | .obj _, .int _ | .obj _, .float _ | .obj _, .str _ | .obj _,
      .arr _ => rfl

theorem agreeItems_and (first second : Json → Json → Bool) : ∀ left right : List Json,
    agreeItems (fun left right => first left right && second left right) left right =
      (agreeItems first left right && agreeItems second left right)
  | [], [] => rfl
  | [], _ :: _ => rfl
  | _ :: _, [] => rfl
  | left :: lefts, right :: rights => by
    rw [agreeItems, agreeItems, agreeItems, agree_and first second left right,
      agreeItems_and first second lefts rights]
    ac_rfl

theorem agreeFields_and (first second : Json → Json → Bool) : ∀ left right : List (Text × Json),
    agreeFields (fun left right => first left right && second left right) left right =
      (agreeFields first left right && agreeFields second left right)
  | [], _ => rfl
  | (key, value) :: rest, right => by
    rw [agreeFields, agreeFields, agreeFields, agreeFields_and first second rest right]
    cases found : field? key right with
    | none => rfl
    | some other =>
      simp only [agree_and first second value other]
      ac_rfl

end

theorem sameJson_eq (left right : Json) :
    sameJson left right = (pyEqual left right && boolsAgree left right) :=
  agree_and pyLeaf kindLeaf left right

/-! ## What is loaded has distinct names -/

theorem setField_distinct {key : Text} {value : Json} {fields : List (Text × Json)}
    (new : Distinct value) (old : DistinctFields fields) :
    DistinctFields (setField key value fields) := by
  induction fields with
  | nil => exact ⟨new, trivial⟩
  | cons field rest ih =>
    obtain ⟨other, kept⟩ := field
    rw [setField]
    split
    · exact ⟨new, old.2⟩
    · exact ⟨old.1, ih old.2⟩

theorem ofPairs_distinct {pairs : List (Text × Json)} (each : ∀ pair ∈ pairs, Distinct pair.2) :
    DistinctFields (ofPairs pairs) := by
  induction pairs using List.reverseRecOn with
  | nil => trivial
  | append_singleton front pair ih =>
    rw [ofPairs_append]
    refine setField_distinct (each pair (by simp)) (ih ?_)
    exact fun other member => each other (List.mem_append_left _ member)

end Json

mutual

theorem PyValue.reloaded_distinct (repr : PyFloat → Text) :
    ∀ value : PyValue, (value.reloaded repr).Distinct
  | .none | .bool _ | .int _ | .float _ | .str _ => trivial
  | .list items | .tuple items => reloadedItems_distinct repr items
  | .dict entries =>
    ⟨Json.ofPairs_nodup _, Json.ofPairs_distinct (reloadedEntries_distinct repr entries)⟩

theorem PyValue.reloadedItems_distinct (repr : PyFloat → Text) :
    ∀ items : List PyValue, Json.DistinctItems (reloadedItems repr items)
  | [] => trivial
  | item :: rest => ⟨reloaded_distinct repr item, reloadedItems_distinct repr rest⟩

theorem PyValue.reloadedEntries_distinct (repr : PyFloat → Text) :
    ∀ entries : List (PyKey × PyValue), ∀ pair ∈ reloadedEntries repr entries, Json.Distinct pair.2
  | [], _, member => nomatch member
  | (key, value) :: rest, pair, member => by
    rcases List.mem_cons.mp member with here | later
    · rw [here]
      exact reloaded_distinct repr value
    · exact reloadedEntries_distinct repr rest pair later

end

end SysadminAssistant.Python
