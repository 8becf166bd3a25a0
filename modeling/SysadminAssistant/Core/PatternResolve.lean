import SysadminAssistant.Core.Alerts
import SysadminAssistant.Library.LikePatterns

namespace SysadminAssistant.Core

open Python Library

/-! Closing rows by what their titles look like: `UPDATE alerts … WHERE agent = … AND NOT resolved
AND title …`, and `BaseAgent.resolve_alerts`. -/

def asciiLower (c : CodePoint) : CodePoint :=
  if upper : 65 ≤ c.val ∧ c.val ≤ 90 then ⟨c.val + 32, by omega⟩ else c

/-- How the database's locale lowers a code point. -/
structure Lowering where
  lower : CodePoint → CodePoint
  ascii : ∀ c : CodePoint, c.val < 128 → lower c = asciiLower c

/-- The locale that lowers nothing else. -/
def Lowering.c : Lowering := ⟨asciiLower, fun _ _ => rfl⟩

def Lowering.text (lowering : Lowering) (value : Text) : Text := value.map lowering.lower

theorem Lowering.text_ascii (lowering : Lowering) {value : Text}
    (ascii : value.all (fun c => c.val < 128) = true) :
    lowering.text value = value.map asciiLower :=
  List.map_congr_left fun c member =>
    lowering.ascii c (of_decide_eq_true (List.all_eq_true.mp ascii c member))

def sqlWildcards : Wildcards CodePoint := ⟨codePoint '%', codePoint '_', 0x5C⟩

/-- `title LIKE pattern`. -/
def like (pattern value : Text) : Bool := sqlWildcards.like pattern value

/-- `title ILIKE pattern`. -/
def ilike (lowering : Lowering) (pattern value : Text) : Bool :=
  sqlWildcards.like (lowering.text pattern) (lowering.text value)

/-- Does `resolve_alerts` take a row of this title? -/
def patternTakes (lowering : Lowering) (titlePattern title : Text) : Bool :=
  ilike lowering (text "%" ++ titlePattern ++ text "%") title

def resolveWhere (table : AlertTable) (agent : Text) (titled : Text → Bool) (at_ : Int) : AlertTable :=
  table.amend (resolving (fun row =>
    decide (row.agent = agent) && row.resolvedAt.isNone && titled row.title) at_)

def resolveAlerts (lowering : Lowering) (table : AlertTable) (agent titlePattern : Text)
    (at_ : Int) : AlertTable := resolveWhere table agent (patternTakes lowering titlePattern) at_

section

variable {table : AlertTable} {agent : Text} {titled : Text → Bool} {at_ : Int}

theorem openRow?_resolveWhere (owner title : Text) :
    (resolveWhere table agent titled at_).openRow? (owner, title) =
      if owner = agent ∧ titled title = true then none else table.openRow? (owner, title) := by
  rw [resolveWhere, openRow?_resolving]
  cases found : table.openRow? (owner, title) with
  | none => simp
  | some row =>
    obtain ⟨inOpen, key⟩ := Table.openRow?_eq_some.mp found
    have owned : row.agent = owner := congrArg Prod.fst key
    have named : row.title = title := congrArg Prod.snd key
    have opened : row.resolvedAt.isNone = true := (List.mem_filter.mp inOpen).2
    rw [Option.filter_some, owned, named, opened]
    by_cases ours : owner = agent <;> cases taken : titled title <;> simp [ours]

theorem resolving_spared {row : Alert}
    (spared : row.resolvedAt.isSome = true ∨ ¬ (row.agent = agent ∧ titled row.title = true)) :
    (resolving (fun row => decide (row.agent = agent) && row.resolvedAt.isNone && titled row.title)
      at_).apply row = row := by
  refine if_neg fun chosen => ?_
  simp only [Bool.and_eq_true, decide_eq_true_eq, Option.isNone_iff_eq_none] at chosen
  rcases spared with closed | other
  · rw [chosen.1.2] at closed
    cases closed
  · exact other ⟨chosen.1.1, chosen.2⟩

theorem mem_resolveWhere {row : Alert} (spared : row.agent = agent → titled row.title = true →
    table.openRow? (row.agent, row.title) = none) :
    row ∈ (resolveWhere table agent titled at_).rows ↔ row ∈ table.rows := by
  have untaken : ∀ old ∈ table.rows, old.agent = row.agent → old.title = row.title →
      old.resolvedAt.isSome = true ∨ ¬ (old.agent = agent ∧ titled old.title = true) := by
    intro old inside sameAgent sameTitle
    by_cases taken : old.agent = agent ∧ titled old.title = true
    · left
      have absent := Table.openRow?_eq_none.mp (spared (sameAgent ▸ taken.1) (sameTitle ▸ taken.2))
      cases opened : old.resolvedAt with
      | some _ => rfl
      | none =>
        have inOpen : old ∈ table.openRows :=
          List.mem_filter.mpr ⟨inside, Option.isNone_iff_eq_none.mpr opened⟩
        exact absurd (Prod.ext sameAgent sameTitle) (absent old inOpen)
    · exact Or.inr taken
  constructor
  · intro member
    obtain ⟨old, inside, same⟩ := List.mem_map.mp member
    have keys : (old.agent, old.title) = (row.agent, row.title) := by
      rw [← same]
      exact ((resolving _ at_).key_apply old).symm
    obtain ⟨sameAgent, sameTitle⟩ := Prod.mk.inj keys
    rw [← same, resolving_spared (untaken old inside sameAgent sameTitle)]
    exact inside
  · intro member
    exact List.mem_map.mpr ⟨row, member, resolving_spared (untaken row member rfl rfl)⟩

theorem closed_resolveWhere {row : Alert} (member : row ∈ table.rows)
    (closed : row.resolvedAt.isSome = true) : row ∈ (resolveWhere table agent titled at_).rows :=
  List.mem_map.mpr ⟨row, member, resolving_spared (Or.inl closed)⟩

end

theorem patternTakes_literal {lowering : Lowering} {titlePattern : Text}
    (plain : sqlWildcards.Literal (lowering.text titlePattern)) (title : Text) :
    patternTakes lowering titlePattern title = true ↔
      lowering.text titlePattern <:+: lowering.text title := by
  have percent : lowering.text (text "%") = [codePoint '%'] :=
    (lowering.text_ascii (by decide)).trans (by decide)
  have shape : lowering.text (text "%" ++ titlePattern ++ text "%") =
      codePoint '%' :: (lowering.text titlePattern ++ [codePoint '%']) := by
    rw [Lowering.text, List.map_append, List.map_append, ← Lowering.text, percent]
    rfl
  rw [patternTakes, ilike, shape]
  exact Wildcards.like_infix plain (by decide) _

end SysadminAssistant.Core
