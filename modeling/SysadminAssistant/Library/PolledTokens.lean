import Mathlib.Algebra.Order.Field.Rat
import Mathlib.Algebra.Order.Ring.Int
import Mathlib.Data.List.Basic
import Mathlib.Tactic.Linarith
import Mathlib.Tactic.Ring

namespace SysadminAssistant.Library

/-! The unbroken runs of items of one kind in a list. -/

namespace HeldRuns

variable {α : Type*} (holds : α → Bool)

def close (run : List α) : List (List α) := if run.isEmpty then [] else [run]

/-- From the run that is open. -/
def runs : List α → List α → List (List α)
  | run, [] => close run
  | run, item :: rest => if holds item then runs (run ++ [item]) rest else close run ++ runs [] rest

variable {holds}

theorem close_flatten (run : List α) : (close run).flatten = run := by
  cases run with
  | nil => rfl
  | cons first rest => exact List.append_nil _

theorem runs_flatten (run items : List α) :
    (runs holds run items).flatten = run ++ items.filter holds := by
  induction items generalizing run with
  | nil =>
    rw [runs, close_flatten, List.filter_nil, List.append_nil]
  | cons item rest ih =>
    rw [runs, List.filter_cons]
    cases kind : holds item with
    | true => rw [if_pos rfl, if_pos rfl, ih, List.append_assoc, List.singleton_append]
    | false =>
      rw [if_neg Bool.false_ne_true, if_neg Bool.false_ne_true, List.flatten_append,
        close_flatten, ih, List.nil_append]

theorem runs_sublist {items closed : List α} (member : closed ∈ runs holds [] items) :
    closed.Sublist items := by
  have part := List.sublist_flatten_of_mem member
  rw [runs_flatten, List.nil_append] at part
  exact part.trans List.filter_sublist

end HeldRuns

/-! Something that fires now and then, and a token that shows by its value alone whether it fired
between two looks.  The token may be missing. -/

structure TokenHistory (α : Type*) where
  fired : Int → Prop
  token : Int → Option α
  changes : ∀ {earlier later : Int} {before after : α}, earlier ≤ later → token earlier = some before →
    token later = some after → (before = after ↔ ∀ instant, earlier < instant → instant ≤ later →
      ¬ fired instant)

namespace TokenHistory

variable {α : Type*} {history : TokenHistory α} {earlier middle later : Int}

def FiredBetween (history : TokenHistory α) (earlier later : Int) : Prop :=
  ∃ instant, earlier < instant ∧ instant ≤ later ∧ history.fired instant

theorem firedBetween_split (first : earlier ≤ middle) (second : middle ≤ later) :
    history.FiredBetween earlier later ↔ history.FiredBetween earlier middle ∨
      history.FiredBetween middle later := by
  constructor
  · intro fires
    obtain ⟨instant, above, below, fired⟩ := fires
    rcases le_or_gt instant middle with early | late
    · exact Or.inl ⟨instant, above, early, fired⟩
    · exact Or.inr ⟨instant, late, below, fired⟩
  · intro fires
    rcases fires with ⟨instant, above, below, fired⟩ | ⟨instant, above, below, fired⟩
    · exact ⟨instant, above, below.trans second, fired⟩
    · exact ⟨instant, first.trans_lt above, below, fired⟩

theorem firedBetween_iff {before after : α} (ordered : earlier ≤ later)
    (first : history.token earlier = some before) (second : history.token later = some after) :
    history.FiredBetween earlier later ↔ before ≠ after := by
  rw [ne_eq, history.changes ordered first second]
  constructor
  · intro fires quiet
    obtain ⟨instant, above, below, fired⟩ := fires
    exact quiet instant above below fired
  · intro fires
    by_contra quiet
    exact fires fun instant above below fired => quiet ⟨instant, above, below, fired⟩

end TokenHistory

/-- Each item with the one that follows it. -/
def adjacent {ρ : Type*} (items : List ρ) : List (ρ × ρ) := items.zip (items.drop 1)

@[simp] theorem adjacent_cons_cons {ρ : Type*} (first second : ρ) (rest : List ρ) :
    adjacent (first :: second :: rest) = (first, second) :: adjacent (second :: rest) := rfl

theorem adjacent_rel {ρ : Type*} {relation : ρ → ρ → Prop} {items : List ρ}
    (ordered : items.Pairwise relation) {pair : ρ × ρ} (member : pair ∈ adjacent items) :
    relation pair.1 pair.2 := by
  induction items with
  | nil => cases member
  | cons first rest ih =>
    cases rest with
    | nil => cases member
    | cons second rest =>
      rw [adjacent_cons_cons] at member
      rcases List.mem_cons.mp member with own | later
      · rw [own]
        exact List.rel_of_pairwise_cons ordered List.mem_cons_self
      · exact ih (List.pairwise_cons.mp ordered).2 later

theorem adjacent_mem {ρ : Type*} {items : List ρ} {pair : ρ × ρ} (member : pair ∈ adjacent items) :
    pair.1 ∈ items ∧ pair.2 ∈ items :=
  ⟨(List.of_mem_zip member).1, List.mem_of_mem_drop (List.of_mem_zip member).2⟩

/-! Probing until something stops it, with a clock that moves on between two probes. -/

section Polls

variable {stop : Nat → Bool}

/-- The first probe from `probe` on that stops, if it is among the next `fuel`. -/
def firstStop (stop : Nat → Bool) : Nat → Nat → Option Nat
  | 0, _ => none
  | fuel + 1, probe => if stop probe then some probe else firstStop stop fuel (probe + 1)

theorem firstStop_eq_some {fuel start probe : Nat} : firstStop stop fuel start = some probe ↔
    start ≤ probe ∧ probe < start + fuel ∧ stop probe = true ∧
      ∀ earlier, start ≤ earlier → earlier < probe → stop earlier = false := by
  induction fuel generalizing start with
  | zero =>
    simp only [firstStop, reduceCtorEq, false_iff]
    omega
  | succ fuel ih =>
    rw [firstStop]
    cases here : stop start with
    | true =>
      rw [if_pos rfl, Option.some.injEq]
      constructor
      · rintro rfl
        exact ⟨le_rfl, by omega, here, fun earlier late early => by omega⟩
      · intro first
        obtain ⟨late, _, _, before⟩ := first
        rcases late.eq_or_lt with same | later
        · exact same
        · exact absurd (here.symm.trans (before start le_rfl later)) (by decide)
    | false =>
      rw [if_neg (by decide), ih]
      constructor
      · intro first
        obtain ⟨_, _, stops, before⟩ := first
        refine ⟨by omega, by omega, stops, fun earlier late early => ?_⟩
        rcases late.eq_or_lt with same | later
        · exact same ▸ here
        · exact before earlier later early
      · intro first
        obtain ⟨late, inside, stops, before⟩ := first
        have past : start ≠ probe := by
          rintro rfl
          exact absurd (here.symm.trans stops) (by decide)
        exact ⟨by omega, by omega, stops, fun earlier late early => before earlier (by omega) early⟩

theorem firstStop_isSome {fuel start probe : Nat} (stops : stop probe = true)
    (later : start ≤ probe) (inside : probe < start + fuel) :
    (firstStop stop fuel start).isSome = true := by
  induction fuel generalizing start with
  | zero => omega
  | succ fuel ih =>
    rw [firstStop]
    split
    · rfl
    · rename_i goesOn
      have past : start ≠ probe := by
        rintro rfl
        exact goesOn stops
      exact ih (by omega) (by omega)

end Polls

/-- A clock that is past `step` more at each reading has come as far as that many steps. -/
theorem clock_past {clock : Nat → ℚ} {step : ℚ}
    (advances : ∀ reading, clock reading + step ≤ clock (reading + 1)) (readings : Nat) :
    clock 0 + readings * step ≤ clock readings := by
  induction readings with
  | zero => simp
  | succ readings ih =>
    have onward := advances readings
    push_cast
    linarith only [ih, onward]

end SysadminAssistant.Library
