import Mathlib.Data.Option.Basic
import Mathlib.Order.Basic
import Mathlib.Tactic.Linarith

namespace SysadminAssistant.Library

/-! Rows that each record one stretch of time of a group, extended or closed from one observation
to the next. -/

structure Stretch where
  startedAt : Int
  lastSeenAt : Int
  endedAt : Option Int
deriving DecidableEq

namespace Stretch

def covers (stretch : Stretch) (time : Int) : Prop :=
  stretch.startedAt ≤ time ∧ time ≤ stretch.lastSeenAt

def closed (stretch : Stretch) : Stretch := { stretch with endedAt := some stretch.lastSeenAt }

/-- An open stretch goes on until now, or was closed when it was last seen. -/
def polled (now : Int) (goesOn : Bool) (stretch : Stretch) : Stretch :=
  if stretch.endedAt.isSome then stretch
  else if goesOn then { stretch with lastSeenAt := now } else stretch.closed

@[simp] theorem closed_covers (stretch : Stretch) (time : Int) :
    stretch.closed.covers time ↔ stretch.covers time :=
  Iff.rfl

theorem polled_cases (now : Int) (goesOn : Bool) (stretch : Stretch) :
    (stretch.endedAt ≠ none ∧ stretch.polled now goesOn = stretch) ∨
    (stretch.endedAt = none ∧ goesOn = false ∧ stretch.polled now goesOn = stretch.closed) ∨
    (stretch.endedAt = none ∧ goesOn = true ∧
      stretch.polled now goesOn = { stretch with lastSeenAt := now }) := by
  cases ended : stretch.endedAt <;> cases goesOn <;> simp [polled, ended]

theorem polled_startedAt (now : Int) (goesOn : Bool) (stretch : Stretch) :
    (stretch.polled now goesOn).startedAt = stretch.startedAt := by
  rcases stretch.polled_cases now goesOn with ⟨_, same⟩ | ⟨_, _, same⟩ | ⟨_, _, same⟩
  · rw [same]
  · rw [same, closed]
  · rw [same]

theorem polled_lastSeenAt (now : Int) (goesOn : Bool) (stretch : Stretch) :
    (stretch.polled now goesOn).lastSeenAt = stretch.lastSeenAt ∨
      (stretch.endedAt = none ∧ goesOn = true) := by
  rcases stretch.polled_cases now goesOn with ⟨_, same⟩ | ⟨_, _, same⟩ | ⟨opened, goes, _⟩
  · exact Or.inl (by rw [same])
  · exact Or.inl (by rw [same]; rfl)
  · exact Or.inr ⟨opened, goes⟩

theorem polled_open {now : Int} {goesOn : Bool} {stretch : Stretch}
    (opened : (stretch.polled now goesOn).endedAt = none) :
    stretch.endedAt = none ∧ goesOn = true := by
  rcases stretch.polled_cases now goesOn with ⟨ended, same⟩ | ⟨_, _, same⟩ | ⟨still, goes, _⟩
  · exact absurd (same ▸ opened) ended
  · rw [same] at opened
    cases opened
  · exact ⟨still, goes⟩

end Stretch

variable {ι κ : Type*} {before after : ι → Option (κ × Stretch)} {times : Int → Prop}
  {tip : Option Int} {now : Int} {goesOn : ι → Bool}

/-- The stretches of a group are disjoint, and only one that lasts to the newest time is open. -/
structure Timeline (rows : ι → Option (κ × Stretch)) (times : Int → Prop) (tip : Option Int) :
    Prop where
  ordered : ∀ {item group stretch}, rows item = some (group, stretch) →
    stretch.startedAt ≤ stretch.lastSeenAt
  ended : ∀ {item group stretch last}, rows item = some (group, stretch) →
    stretch.endedAt = some last → last = stretch.lastSeenAt
  timed : ∀ {item group stretch}, rows item = some (group, stretch) →
    times stretch.startedAt ∧ times stretch.lastSeenAt
  openAt : ∀ {item group stretch}, rows item = some (group, stretch) → stretch.endedAt = none →
    tip = some stretch.lastSeenAt
  oneOpen : ∀ {first second group left right}, rows first = some (group, left) →
    rows second = some (group, right) → left.endedAt = none → right.endedAt = none → first = second
  disjoint : ∀ {first second group left right}, rows first = some (group, left) →
    rows second = some (group, right) → first ≠ second →
    left.lastSeenAt < right.startedAt ∨ right.lastSeenAt < left.startedAt

theorem Timeline.empty (times : Int → Prop) :
    Timeline (fun _ => none : ι → Option (κ × Stretch)) times none := by
  constructor <;> simp

theorem Timeline.imp {rows : ι → Option (κ × Stretch)} {more : Int → Prop}
    (line : Timeline rows times tip) (within : ∀ time, times time → more time) :
    Timeline rows more tip where
  ordered := line.ordered
  ended := line.ended
  timed found := ⟨within _ (line.timed found).1, within _ (line.timed found).2⟩
  openAt := line.openAt
  oneOpen := line.oneOpen
  disjoint := line.disjoint

theorem Timeline.disjoint_polled (line : Timeline before times tip)
    (newest : ∀ last, tip = some last → ∀ time, times time → time ≤ last) {first second : ι}
    {group : κ} {left right : Stretch} (leftRow : before first = some (group, left))
    (rightRow : before second = some (group, right)) (apart : first ≠ second) :
    (left.polled now (goesOn first)).lastSeenAt < right.startedAt ∨
      (right.polled now (goesOn second)).lastSeenAt < left.startedAt := by
  have base := line.disjoint leftRow rightRow apart
  rcases left.polled_lastSeenAt now (goesOn first) with leftSame | ⟨leftOpen, _⟩ <;>
    rcases right.polled_lastSeenAt now (goesOn second) with rightSame | ⟨rightOpen, _⟩
  · rw [leftSame, rightSame]
    exact base
  · have reached := newest _ (line.openAt rightRow rightOpen) _ (line.timed leftRow).1
    rw [leftSame]
    exact Or.inl (base.resolve_right (by omega))
  · have reached := newest _ (line.openAt leftRow leftOpen) _ (line.timed rightRow).1
    rw [rightSame]
    exact Or.inr (base.resolve_left (by omega))
  · exact absurd (line.oneOpen leftRow rightRow leftOpen rightOpen) apart

/-- One observation: open rows go on or are closed, and new ones begin. -/
structure Moves (before after : ι → Option (κ × Stretch)) (now : Int) (goesOn : ι → Bool) : Prop where
  old : ∀ {item group stretch}, before item = some (group, stretch) →
    after item = some (group, stretch.polled now (goesOn item))
  new : ∀ {item group stretch}, before item = none → after item = some (group, stretch) →
    stretch = ⟨now, now, none⟩
  newOnce : ∀ {first second group left right}, before first = none → before second = none →
    after first = some (group, left) → after second = some (group, right) → first = second
  newAlone : ∀ {item other group stretch old}, before item = none →
    after item = some (group, stretch) →
    before other = some (group, old) → old.endedAt = none → goesOn other = false

namespace Moves

variable (moves : Moves before after now goesOn)

include moves

theorem origin {item : ι} {group : κ} {stretch : Stretch}
    (found : after item = some (group, stretch)) :
    (∃ old, before item = some (group, old) ∧ stretch = old.polled now (goesOn item)) ∨
      (before item = none ∧ stretch = ⟨now, now, none⟩) := by
  cases earlier : before item with
  | none => exact Or.inr ⟨rfl, moves.new earlier found⟩
  | some row =>
    obtain ⟨group', old⟩ := row
    rw [moves.old earlier] at found
    cases found
    exact Or.inl ⟨old, rfl, rfl⟩

theorem covers_old (line : Timeline before times tip)
    (newest : ∀ last, tip = some last → ∀ time, times time → time ≤ last)
    (later : ∀ time, times time → time < now) {time : Int} (known : times time) (item : ι)
    (group : κ) :
    (∃ stretch, after item = some (group, stretch) ∧ stretch.covers time) ↔
      ∃ stretch, before item = some (group, stretch) ∧ stretch.covers time := by
  constructor
  · intro row
    obtain ⟨stretch, found, covers⟩ := row
    rcases moves.origin found with ⟨old, there, rfl⟩ | ⟨_, rfl⟩
    · refine ⟨old, there, ?_⟩
      rcases old.polled_cases now (goesOn item) with ⟨_, same⟩ | ⟨_, _, same⟩ | ⟨opened, _, same⟩
      · rwa [same] at covers
      · rwa [same] at covers
      · rw [same] at covers
        exact ⟨covers.1, newest _ (line.openAt there opened) time known⟩
    · have before := later time known
      have reached : now ≤ time := covers.1
      omega
  · intro row
    obtain ⟨old, there, covers⟩ := row
    refine ⟨_, moves.old there, ?_⟩
    rcases old.polled_cases now (goesOn item) with ⟨_, same⟩ | ⟨_, _, same⟩ | ⟨_, _, same⟩
    · rwa [same]
    · rwa [same]
    · rw [same]
      exact ⟨covers.1, (later time known).le⟩

theorem covers_now (line : Timeline before times tip) (later : ∀ time, times time → time < now)
    {item : ι} {group : κ} {stretch : Stretch} (found : after item = some (group, stretch)) :
    stretch.covers now ↔ stretch.endedAt = none := by
  rcases moves.origin found with ⟨old, there, rfl⟩ | ⟨_, rfl⟩
  · have past := later _ (line.timed there).2
    have began := later _ (line.timed there).1
    rcases old.polled_cases now (goesOn item) with ⟨ended, same⟩ | ⟨_, _, same⟩ | ⟨opened, _, same⟩
    · simp only [same, Stretch.covers, ended, iff_false]
      omega
    · simp only [same, Stretch.covers, Stretch.closed, reduceCtorEq, iff_false]
      omega
    · simp only [same, Stretch.covers, opened, iff_true]
      omega
  · simp [Stretch.covers]

theorem oneOpen (line : Timeline before times tip) {first second : ι} {group : κ}
    {left right : Stretch} (leftRow : after first = some (group, left))
    (rightRow : after second = some (group, right)) (leftOpen : left.endedAt = none)
    (rightOpen : right.endedAt = none) : first = second := by
  rcases moves.origin leftRow with ⟨old, there, rfl⟩ | ⟨fresh, rfl⟩ <;>
    rcases moves.origin rightRow with ⟨other, held, rfl⟩ | ⟨newer, rfl⟩
  · exact line.oneOpen there held (Stretch.polled_open leftOpen).1 (Stretch.polled_open rightOpen).1
  · obtain ⟨opened, goes⟩ := Stretch.polled_open leftOpen
    rw [moves.newAlone newer rightRow there opened] at goes
    cases goes
  · obtain ⟨opened, goes⟩ := Stretch.polled_open rightOpen
    rw [moves.newAlone fresh leftRow held opened] at goes
    cases goes
  · exact moves.newOnce fresh newer leftRow rightRow

theorem before_new (line : Timeline before times tip) (later : ∀ time, times time → time < now)
    {item other : ι} {group : κ} {old : Stretch} (fresh : before item = none)
    (row : after item = some (group, ⟨now, now, none⟩)) (held : before other = some (group, old)) :
    (old.polled now (goesOn other)).lastSeenAt < now := by
  rcases old.polled_lastSeenAt now (goesOn other) with same | ⟨opened, goes⟩
  · rw [same]
    exact later _ (line.timed held).2
  · rw [moves.newAlone fresh row held opened] at goes
    cases goes

theorem disjoint (line : Timeline before times tip)
    (newest : ∀ last, tip = some last → ∀ time, times time → time ≤ last)
    (later : ∀ time, times time → time < now) {first second : ι} {group : κ} {left right : Stretch}
    (leftRow : after first = some (group, left)) (rightRow : after second = some (group, right))
    (apart : first ≠ second) :
    left.lastSeenAt < right.startedAt ∨ right.lastSeenAt < left.startedAt := by
  rcases moves.origin leftRow with ⟨old, there, rfl⟩ | ⟨fresh, rfl⟩ <;>
    rcases moves.origin rightRow with ⟨other, held, rfl⟩ | ⟨newer, rfl⟩
  · rw [Stretch.polled_startedAt, Stretch.polled_startedAt]
    exact line.disjoint_polled newest there held apart
  · exact Or.inl (moves.before_new line later newer rightRow there)
  · exact Or.inr (moves.before_new line later fresh leftRow held)
  · exact absurd (moves.newOnce fresh newer leftRow rightRow) apart

theorem timeline (line : Timeline before times tip)
    (newest : ∀ last, tip = some last → ∀ time, times time → time ≤ last)
    (later : ∀ time, times time → time < now) :
    Timeline after (fun time => times time ∨ time = now) (some now) := by
  refine ⟨?_, ?_, ?_, ?_, moves.oneOpen line, moves.disjoint line newest later⟩
  · intro item group stretch found
    rcases moves.origin found with ⟨old, there, rfl⟩ | ⟨_, rfl⟩
    · have ordered := line.ordered there
      have began := later _ (line.timed there).1
      rcases old.polled_cases now (goesOn item) with ⟨_, same⟩ | ⟨_, _, same⟩
        | ⟨_, _, same⟩ <;> rw [same]
      · exact ordered
      · exact ordered
      · exact began.le
    · exact le_rfl
  · intro item group stretch last found closed
    rcases moves.origin found with ⟨old, there, rfl⟩ | ⟨_, rfl⟩
    · rcases old.polled_cases now (goesOn item) with ⟨_, same⟩ | ⟨_, _, same⟩ | ⟨opened, _, same⟩ <;>
        rw [same] at closed ⊢
      · exact line.ended there closed
      · exact (Option.some.inj closed).symm
      · rw [opened] at closed
        cases closed
    · cases closed
  · intro item group stretch found
    rcases moves.origin found with ⟨old, there, rfl⟩ | ⟨_, rfl⟩
    · obtain ⟨began, seen⟩ := line.timed there
      rcases old.polled_cases now (goesOn item) with ⟨_, same⟩ | ⟨_, _, same⟩
        | ⟨_, _, same⟩ <;> rw [same]
      · exact ⟨Or.inl began, Or.inl seen⟩
      · exact ⟨Or.inl began, Or.inl seen⟩
      · exact ⟨Or.inl began, Or.inr rfl⟩
    · exact ⟨Or.inr rfl, Or.inr rfl⟩
  · intro item group stretch found opened
    rcases moves.origin found with ⟨old, there, rfl⟩ | ⟨_, rfl⟩
    · rcases old.polled_cases now (goesOn item) with ⟨ended, same⟩ | ⟨_, _, same⟩ | ⟨_, _, same⟩ <;>
        rw [same] at opened ⊢
      · exact absurd opened ended
      · cases opened
    · rfl

end Moves

theorem Timeline.closeAll (line : Timeline before times tip)
    (closes : ∀ item, after item = (before item).map fun row =>
      (row.1, if row.2.endedAt.isNone then row.2.closed else row.2)) : Timeline after times none := by
  have origin : ∀ {item group stretch}, after item = some (group, stretch) → ∃ old,
      before item = some (group, old) ∧ stretch.startedAt = old.startedAt ∧
        stretch.lastSeenAt = old.lastSeenAt ∧
      stretch.endedAt = some (old.endedAt.getD old.lastSeenAt) := by
    intro item group stretch found
    rw [closes] at found
    obtain ⟨⟨_, old⟩, there, same⟩ := Option.map_eq_some_iff.mp found
    obtain ⟨rfl, rfl⟩ := Prod.mk.inj same
    refine ⟨old, there, ?_⟩
    cases ended : old.endedAt <;> simp [Stretch.closed, ended]
  constructor
  · intro item group stretch found
    obtain ⟨old, there, began, seen, _⟩ := origin found
    rw [began, seen]
    exact line.ordered there
  · intro item group stretch last found closed
    obtain ⟨old, there, _, seen, ended⟩ := origin found
    rw [ended] at closed
    rw [seen, ← Option.some.inj closed]
    cases finished : old.endedAt with
    | none => rfl
    | some last => exact line.ended there finished
  · intro item group stretch found
    obtain ⟨old, there, began, seen, _⟩ := origin found
    rw [began, seen]
    exact line.timed there
  · intro item group stretch found opened
    obtain ⟨_, _, _, _, ended⟩ := origin found
    rw [ended] at opened
    cases opened
  · intro first second group left right found _ opened
    obtain ⟨_, _, _, _, ended⟩ := origin found
    rw [ended] at opened
    cases opened
  · intro first second group left right leftRow rightRow apart
    obtain ⟨_, there, leftBegan, leftSeen, _⟩ := origin leftRow
    obtain ⟨_, held, rightBegan, rightSeen, _⟩ := origin rightRow
    rw [leftBegan, leftSeen, rightBegan, rightSeen]
    exact line.disjoint there held apart

end SysadminAssistant.Library
