import Mathlib.Data.Finset.Insert
import SysadminAssistant.Monitor.LogSources
import SysadminAssistant.Units.UnitFiles

namespace SysadminAssistant.Units

open Python Monitor.Sources

/-! The declared dependency graph (`declared_relations` of `sysadmin/units/scan.py`) and what
`unit_relations` of `sysadmin/monitor/log_query.py` makes of it. -/

structure UnitRelation where
  directive : Text
  unit : Text

/-- What the graph is built from of a unit file. -/
structure RelatedUnit where
  name : Text
  scope : Scope
  relations : List UnitRelation

abbrev RelationGraph := Dict (Scope × Text) (Finset Text)

/-- `by_scope.setdefault(key, set()).add(name)`. -/
def addRelated (graph : RelationGraph) (key : Scope × Text) (name : Text) : RelationGraph :=
  graph.set key (insert name ((graph.get? key).getD ∅))

def addRelation (unit : RelatedUnit) (graph : RelationGraph) (relation : UnitRelation) :
    RelationGraph :=
  if relation.unit = unit.name then graph
  else addRelated (addRelated graph (unit.scope, unit.name) relation.unit)
    (unit.scope, relation.unit) unit.name

/-- `declared_relations`: each pair from both ends. -/
def declaredRelations (units : List RelatedUnit) : RelationGraph :=
  units.foldl (fun graph unit => unit.relations.foldl (addRelation unit) graph) .empty

/-- The manager of a source. -/
def managerOf (source : LogSource) : Scope := if source.user then .user else .system

def sourceScopes (sources : List LogSource) : Dict Text Scope :=
  .ofEntries (sources.filterMap fun source => source.unitName.map fun unit => (unit, managerOf source))

/-- `unit_relations`: the graph with plain names, each source in its own scope. -/
def unitRelations (units : List RelatedUnit) (sources : List LogSource) : Dict Text (Finset Text) :=
  .ofEntries ((sourceScopes sources).entries.filterMap fun entry =>
    ((declaredRelations units).get? (entry.2, entry.1)).map fun related => (entry.1, related))

/-! What the graph holds. -/

section

variable {units : List RelatedUnit} {sources : List LogSource} {scope : Scope} {left right : Text}

/-- A unit file of the scope relates its unit to another. -/
def Declares (units : List RelatedUnit) (scope : Scope) (left right : Text) : Prop :=
  left ≠ right ∧ ∃ unit ∈ units, unit.scope = scope ∧ unit.name = left ∧
    ∃ relation ∈ unit.relations, relation.unit = right

/-- One of the two declares the other. -/
def Related (units : List RelatedUnit) (scope : Scope) (left right : Text) : Prop :=
  Declares units scope left right ∨ Declares units scope right left

theorem Related.symm (related : Related units scope left right) : Related units scope right left :=
  Or.symm related

theorem Related.ne (related : Related units scope left right) : left ≠ right := by
  rcases related with declares | declares
  · exact declares.1
  · exact declares.1.symm

/-- The names in an entry of the graph. -/
def Holds (graph : RelationGraph) (scope : Scope) (left right : Text) : Prop :=
  ∃ names, graph.get? (scope, left) = some names ∧ right ∈ names

theorem holds_addRelated {graph : RelationGraph} {key : Scope × Text} {name : Text} :
    Holds (addRelated graph key name) scope left right ↔
      Holds graph scope left right ∨ (key = (scope, left) ∧ right = name) := by
  by_cases same : key = (scope, left)
  · subst same
    simp only [Holds, addRelated, Dict.get?_set_self, Option.some.injEq, exists_eq_left',
      Finset.mem_insert, true_and]
    cases graph.get? (scope, left) <;> simp [or_comm]
  · simp [Holds, addRelated, Dict.get?_set_other _ _ same, same]

theorem holds_addRelation {graph : RelationGraph} {unit : RelatedUnit} {relation : UnitRelation} :
    Holds (addRelation unit graph relation) scope left right ↔ Holds graph scope left right ∨
      (unit.scope = scope ∧ left ≠ right ∧
        ((unit.name = left ∧ relation.unit = right) ∨
          (unit.name = right ∧ relation.unit = left))) := by
  rw [addRelation]
  split
  · rename_i itself
    constructor
    · exact Or.inl
    · intro either
      rcases either with held | ⟨_, apart, ⟨from_, to_⟩ | ⟨from_, to_⟩⟩
      · exact held
      · exact absurd (from_.symm.trans (itself.symm.trans to_)) apart
      · exact absurd (to_.symm.trans (itself.trans from_)) apart
  · rename_i other
    rw [holds_addRelated, holds_addRelated, Prod.mk.injEq, Prod.mk.injEq]
    constructor
    · intro either
      rcases either with (held | ⟨⟨same, from_⟩, to_⟩) | ⟨⟨same, to_⟩, from_⟩
      · exact Or.inl held
      · exact Or.inr ⟨same, fun equal => other (to_.symm.trans (equal.symm.trans from_.symm)),
          Or.inl ⟨from_, to_.symm⟩⟩
      · exact Or.inr ⟨same, fun equal => other (to_.trans (equal.trans from_)),
          Or.inr ⟨from_.symm, to_⟩⟩
    · intro either
      rcases either with held | ⟨same, _, ⟨from_, to_⟩ | ⟨from_, to_⟩⟩
      · exact Or.inl (Or.inl held)
      · exact Or.inl (Or.inr ⟨⟨same, from_⟩, to_.symm⟩)
      · exact Or.inr ⟨⟨same, to_⟩, from_.symm⟩

theorem holds_unit {graph : RelationGraph} {unit : RelatedUnit} (relations : List UnitRelation) :
    Holds (relations.foldl (addRelation unit) graph) scope left right ↔
      Holds graph scope left right ∨ ∃ relation ∈ relations, unit.scope = scope ∧ left ≠ right ∧
        ((unit.name = left ∧ relation.unit = right) ∨ (unit.name = right ∧ relation.unit = left)) := by
  induction relations generalizing graph with
  | nil => simp
  | cons relation rest ih =>
    rw [List.foldl_cons, ih, holds_addRelation, or_assoc]
    simp only [List.mem_cons, exists_eq_or_imp]

theorem holds_units {graph : RelationGraph} :
    Holds (units.foldl (fun graph unit => unit.relations.foldl (addRelation unit) graph) graph)
      scope left right ↔
      Holds graph scope left right ∨ ∃ unit ∈ units, ∃ relation ∈ unit.relations,
        unit.scope = scope ∧ left ≠ right ∧
        ((unit.name = left ∧ relation.unit = right) ∨ (unit.name = right ∧ relation.unit = left)) := by
  induction units generalizing graph with
  | nil => simp
  | cons unit rest ih =>
    rw [List.foldl_cons, ih, holds_unit, or_assoc]
    simp only [List.mem_cons, exists_eq_or_imp]

theorem declaredRelations_holds : Holds (declaredRelations units) scope left right ↔
    Related units scope left right := by
  have empty : ¬ Holds .empty scope left right := by simp [Holds]
  rw [declaredRelations, holds_units, or_iff_right empty]
  constructor
  · intro found
    obtain ⟨unit, member, relation, listed, same, apart, ⟨from_, to_⟩ | ⟨from_, to_⟩⟩ := found
    · exact Or.inl ⟨apart, unit, member, same, from_, relation, listed, to_⟩
    · exact Or.inr ⟨apart.symm, unit, member, same, from_, relation, listed, to_⟩
  · intro related
    rcases related with ⟨apart, unit, member, same, from_, relation, listed, to_⟩ |
      ⟨apart, unit, member, same, from_, relation, listed, to_⟩
    · exact ⟨unit, member, relation, listed, same, apart, Or.inl ⟨from_, to_⟩⟩
    · exact ⟨unit, member, relation, listed, same, apart.symm, Or.inr ⟨from_, to_⟩⟩

/-- The entry of a source has the other. -/
def Lists (units : List RelatedUnit) (sources : List LogSource) (left right : Text) : Prop :=
  ∃ names, (unitRelations units sources).get? left = some names ∧ right ∈ names

theorem unitRelations_get? {names : Finset Text} :
    (unitRelations units sources).get? left = some names ↔
    ∃ scope, (sourceScopes sources).get? left = some scope ∧ (declaredRelations units).get?
      (scope, left) = some names := by
  have listed : ∀ {names}, (left, names) ∈ (sourceScopes sources).entries.filterMap (fun entry =>
      ((declaredRelations units).get? (entry.2, entry.1)).map fun related => (entry.1, related)) ↔
      ∃ scope, (sourceScopes sources).get? left = some scope ∧
        (declaredRelations units).get? (scope, left) = some names := by
    intro names
    rw [List.mem_filterMap]
    constructor
    · intro found
      obtain ⟨⟨unit, scope⟩, member, shape⟩ := found
      obtain ⟨related, there, same⟩ := Option.map_eq_some_iff.mp shape
      obtain ⟨rfl, rfl⟩ := Prod.mk.inj same
      exact ⟨scope, Dict.get?_eq_some.mpr member, there⟩
    · intro found
      obtain ⟨scope, declared, there⟩ := found
      exact ⟨(left, scope), Dict.get?_eq_some.mp declared, by rw [there]; rfl⟩
  constructor
  · exact fun found => listed.mp (Dict.get?_ofEntries_mem found)
  · intro found
    obtain ⟨other, held⟩ := Dict.exists_get?_ofEntries (listed.mpr found)
    obtain ⟨scope, declared, there⟩ := found
    obtain ⟨again, alike, same⟩ := listed.mp (Dict.get?_ofEntries_mem held)
    rw [declared] at alike
    cases alike
    rw [there] at same
    cases same
    exact held

theorem lists_iff : Lists units sources left right ↔
    ∃ scope, (sourceScopes sources).get? left = some scope ∧ Related units scope left right := by
  simp only [Lists, unitRelations_get?, ← declaredRelations_holds, Holds]
  constructor
  · intro listed
    obtain ⟨names, ⟨scope, declared, there⟩, member⟩ := listed
    exact ⟨scope, declared, names, there, member⟩
  · intro related
    obtain ⟨scope, declared, names, there, member⟩ := related
    exact ⟨names, ⟨scope, declared, there⟩, member⟩

/-- The source is declared in the scope. -/
def DeclaredIn (sources : List LogSource) (unit : Text) (scope : Scope) : Prop :=
  ∃ source ∈ sources, source.unitName = some unit ∧ managerOf source = scope

theorem declaredIn_listed {unit : Text} {scope : Scope} : DeclaredIn sources unit scope ↔
    (unit, scope) ∈ sources.filterMap fun source => source.unitName.map fun unit =>
      (unit, managerOf source) := by
  rw [List.mem_filterMap]
  constructor
  · intro declared
    obtain ⟨source, member, named, rfl⟩ := declared
    exact ⟨source, member, by rw [named]; rfl⟩
  · intro listed
    obtain ⟨source, member, shape⟩ := listed
    obtain ⟨name, named, same⟩ := Option.map_eq_some_iff.mp shape
    obtain ⟨rfl, rfl⟩ := Prod.mk.inj same
    exact ⟨source, member, named, rfl⟩

theorem sourceScopes_declared {unit : Text} {scope : Scope}
    (found : (sourceScopes sources).get? unit = some scope) :
    DeclaredIn sources unit scope := declaredIn_listed.mpr (Dict.get?_ofEntries_mem found)

theorem declared_sourceScopes {unit : Text} {scope : Scope}
    (declared : DeclaredIn sources unit scope) :
    ∃ own, (sourceScopes sources).get? unit = some own :=
  Dict.exists_get?_ofEntries (declaredIn_listed.mp declared)

/-- Sources are related within one manager, and from both ends. -/
structure KeepsScopes (units : List RelatedUnit) (sources : List LogSource) (left right : Text) :
    Prop where
  oneScope : ∃ scope, DeclaredIn sources left scope ∧ DeclaredIn sources right scope
  bothEnds : Lists units sources right left
  apart : left ≠ right

end

/-- Every relation of two sources keeps to one manager, exactly if no unit file in the scope of a
source relates it to a source of the other scope (a name declared in both scopes goes by the
last). -/
theorem keepsScopes_iff (units : List RelatedUnit) (sources : List LogSource) :
    (∀ left right, Lists units sources left right → (∃ scope, DeclaredIn sources left scope) →
      (∃ scope, DeclaredIn sources right scope) → KeepsScopes units sources left right) ↔
    ∀ left right own other, (sourceScopes sources).get? left = some own →
      (sourceScopes sources).get? right = some other → Related units own left right →
      own = other ∨ (Related units other left right ∧
        ∃ scope, DeclaredIn sources left scope ∧ DeclaredIn sources right scope) := by
  constructor
  · intro keeps left right own other leftScope rightScope related
    have kept :=
      keeps left right (lists_iff.mpr ⟨own, leftScope, related⟩)
        ⟨own, sourceScopes_declared leftScope⟩ ⟨other, sourceScopes_declared rightScope⟩
    obtain ⟨scope, found, back⟩ := lists_iff.mp kept.bothEnds
    rw [rightScope] at found
    cases found
    exact Or.inr ⟨back.symm, kept.oneScope⟩
  · intro keeps left right listed _ declared
    obtain ⟨own, leftScope, related⟩ := lists_iff.mp listed
    obtain ⟨_, declared⟩ := declared
    obtain ⟨other, rightScope⟩ := declared_sourceScopes declared
    rcases keeps left right own other leftScope rightScope related with rfl | ⟨back, shared⟩
    · exact ⟨⟨own, sourceScopes_declared leftScope, sourceScopes_declared rightScope⟩,
        lists_iff.mpr ⟨own, rightScope, related.symm⟩, related.ne⟩
    · exact ⟨shared, lists_iff.mpr ⟨other, rightScope, back.symm⟩, related.ne⟩

def alfredSources : List LogSource := [
  { name := text "alfred", type := text "journalctl", unit := some (text "alfred.service"), user := true },
  { name := text "mosquitto", type := text "journalctl", unit := some (text "mosquitto.service") }]

/-- A user unit that names a system unit in `After=`. -/
theorem user_unit_related_to_system_source :
    ¬ ∀ units sources left right, Lists units sources left right →
    (∃ scope, DeclaredIn sources left scope) → (∃ scope, DeclaredIn sources right scope) →
    KeepsScopes units sources left right := by
  intro claim
  have alfred : DeclaredIn alfredSources (text "alfred.service") .user :=
    ⟨_, List.mem_cons_self, by decide, rfl⟩
  have mosquitto : DeclaredIn alfredSources (text "mosquitto.service") .system :=
    ⟨_, List.mem_cons_of_mem _ List.mem_cons_self, by decide, rfl⟩
  have kept := claim [⟨text "alfred.service", .user, [⟨text "After", text "mosquitto.service"⟩]⟩]
    alfredSources (text "alfred.service") (text "mosquitto.service")
    (lists_iff.mpr ⟨.user, by decide, Or.inl ⟨by decide, _, List.mem_cons_self, rfl, rfl, _,
      List.mem_cons_self, rfl⟩⟩) ⟨.user, alfred⟩ ⟨.system, mosquitto⟩
  obtain ⟨scope, found, related⟩ := lists_iff.mp kept.bothEnds
  have system : (sourceScopes alfredSources).get? (text "mosquitto.service") =
      some .system := by decide
  rw [system] at found
  cases found
  rcases related with ⟨_, unit, member, placed, _⟩ | ⟨_, unit, member, placed, _⟩ <;>
    · rw [List.mem_singleton.mp member] at placed
      cases placed

end SysadminAssistant.Units
