import Mathlib.Data.List.Induction
import SysadminAssistant.Library.LocalSteps

namespace SysadminAssistant.Library

/-! What happens along a run of fallible steps.  A property of a step is read at the state
before it. -/

section

variable {σ ι : Type*}

/-- Every step of the run meets `meets`. -/
def Throughout (step : σ → ι → Option σ) (meets : σ → ι → Prop) : σ → List ι → Prop
  | _, [] => True
  | state, item :: rest =>
    meets state item ∧ (step state item).elim True fun next => Throughout step meets next rest

/-- Some step of the run is an `event`. -/
def Happens (step : σ → ι → Option σ) (event : σ → ι → Prop) : σ → List ι → Prop
  | _, [] => False
  | state, item :: rest =>
    event state item ∨ (step state item).elim False fun next => Happens step event next rest

variable {step : σ → ι → Option σ} {meets event : σ → ι → Prop}

instance Throughout.decidable [∀ state item, Decidable (meets state item)] :
    ∀ state items, Decidable (Throughout step meets state items)
  | _, [] => .isTrue trivial
  | state, item :: rest =>
    have : Decidable ((step state item).elim True fun next => Throughout step meets next rest) :=
      match step state item with
      | none => .isTrue trivial
      | some next => Throughout.decidable next rest
    inferInstanceAs (Decidable (_ ∧ _))

instance Happens.decidable [∀ state item, Decidable (event state item)] :
    ∀ state items, Decidable (Happens step event state items)
  | _, [] => .isFalse id
  | state, item :: rest =>
    have : Decidable ((step state item).elim False fun next => Happens step event next rest) :=
      match step state item with
      | none => .isFalse id
      | some next => Happens.decidable next rest
    inferInstanceAs (Decidable (_ ∨ _))

theorem Throughout.append {start middle : σ} {early late : List ι}
    (ran : early.foldlM step start = some middle) :
    Throughout step meets start (early ++ late) ↔
      Throughout step meets start early ∧ Throughout step meets middle late := by
  induction early generalizing start with
  | nil =>
    rw [List.foldlM_nil] at ran
    cases ran
    simp [Throughout]
  | cons item rest ih =>
    obtain ⟨next, stepped, later⟩ := foldlM_cons_some.mp ran
    simp only [List.cons_append, Throughout, stepped, Option.elim_some, ih later, and_assoc]

theorem Happens.append {start middle : σ} {early late : List ι}
    (ran : early.foldlM step start = some middle) :
    Happens step event start (early ++ late) ↔
      Happens step event start early ∨ Happens step event middle late := by
  induction early generalizing start with
  | nil =>
    rw [List.foldlM_nil] at ran
    cases ran
    simp [Happens]
  | cons item rest ih =>
    obtain ⟨next, stepped, later⟩ := foldlM_cons_some.mp ran
    simp only [List.cons_append, Happens, stepped, Option.elim_some, ih later, or_assoc]

theorem Throughout.keeps {holds : σ → Prop} {items : List ι} {start final : σ}
    (preserves : ∀ {before after item}, holds before → meets before item →
      step before item = some after → holds after)
    (initial : holds start) (met : Throughout step meets start items)
    (ran : items.foldlM step start = some final) : holds final := by
  induction items generalizing start with
  | nil =>
    rw [List.foldlM_nil] at ran
    exact Option.some.inj ran ▸ initial
  | cons item rest ih =>
    obtain ⟨next, stepped, later⟩ := foldlM_cons_some.mp ran
    simp only [Throughout, stepped, Option.elim_some] at met
    exact ih (preserves initial met.1 stepped) met.2 later

theorem Throughout.congr {holds : σ → Prop} {agrees : σ → ι → Prop} {items : List ι} {start : σ}
    (preserves : ∀ {before after item}, holds before → step before item = some after → holds after)
    (same : ∀ {state item}, holds state → (meets state item ↔ agrees state item))
    (initial : holds start) :
    Throughout step meets start items ↔ Throughout step agrees start items := by
  induction items generalizing start with
  | nil => exact Iff.rfl
  | cons item rest ih =>
    simp only [Throughout, same initial]
    cases stepped : step start item with
    | none => exact Iff.rfl
    | some next => simp only [Option.elim_some, ih (preserves initial stepped)]

theorem Throughout.carries {holds : σ → Prop} {gives : σ → ι → Prop} {items : List ι} {start : σ}
    (onward : ∀ {before item}, holds before → meets before item →
      gives before item ∧ ∀ after, step before item = some after → holds after)
    (initial : holds start) (met : Throughout step meets start items) :
    Throughout step gives start items := by
  induction items generalizing start with
  | nil => trivial
  | cons item rest ih =>
    obtain ⟨now, later⟩ := met
    obtain ⟨given, kept⟩ := onward initial now
    refine ⟨given, ?_⟩
    cases stepped : step start item with
    | none => trivial
    | some next =>
      rw [stepped] at later
      exact ih (kept next stepped) later

theorem Throughout.of_forall {items : List ι} (every : ∀ item ∈ items, ∀ state, meets state item)
    (start : σ) : Throughout step meets start items := by
  induction items generalizing start with
  | nil => trivial
  | cons item rest ih =>
    refine ⟨every item List.mem_cons_self start, ?_⟩
    cases step start item with
    | none => trivial
    | some next => exact ih (fun later member => every later (List.mem_cons_of_mem _ member)) next

theorem Throughout.meets_mem (total : ∀ state item, (step state item).isSome) {items : List ι}
    {start : σ} (met : Throughout step meets start items) {item : ι} (member : item ∈ items) :
    ∃ state, meets state item := by
  induction items generalizing start with
  | nil => cases member
  | cons first rest ih =>
    obtain ⟨next, stepped⟩ := Option.isSome_iff_exists.mp (total start first)
    simp only [Throughout, stepped, Option.elim_some] at met
    rcases List.mem_cons.mp member with here | later
    · exact ⟨start, here ▸ met.1⟩
    · exact ih met.2 later

theorem Throughout.unless {holds : σ → Prop} {items : List ι} {start final : σ}
    (preserves : ∀ {before after item}, holds before → meets before item → ¬ event before item →
      step before item = some after → holds after)
    (initial : holds start) (met : Throughout step meets start items)
    (quiet : ¬ Happens step event start items)
    (ran : items.foldlM step start = some final) : holds final := by
  induction items generalizing start with
  | nil =>
    rw [List.foldlM_nil] at ran
    exact Option.some.inj ran ▸ initial
  | cons item rest ih =>
    obtain ⟨next, stepped, later⟩ := foldlM_cons_some.mp ran
    simp only [Throughout, Happens, stepped, Option.elim_some, not_or] at met quiet
    exact ih (preserves initial met.1 quiet.1 stepped) met.2 quiet.2 later

theorem Happens.first [∀ state item, Decidable (event state item)] {items : List ι}
    {start final : σ} (happened : Happens step event start items)
    (ran : items.foldlM step start = some final) :
    ∃ early item late before after, items = early ++ item :: late ∧
      early.foldlM step start = some before ∧ ¬ Happens step event start early ∧
      event before item ∧ step before item = some after ∧ late.foldlM step after = some final := by
  induction items generalizing start with
  | nil => exact happened.elim
  | cons item rest ih =>
    obtain ⟨next, stepped, later⟩ := foldlM_cons_some.mp ran
    by_cases now : event start item
    · exact ⟨[], item, rest, start, next, rfl, rfl, id, now, stepped, later⟩
    · simp only [Happens, stepped, Option.elim_some, now, false_or] at happened
      obtain ⟨early, first, late, before, after, shape, reached, quiet, isEvent, moved, ended⟩ :=
        ih happened later
      refine ⟨item :: early, first, late, before, after, by rw [shape, List.cons_append], ?_, ?_,
        isEvent, moved, ended⟩
      · simp [List.foldlM_cons, stepped, reached]
      · simpa [Happens, stepped, now] using quiet

end

/-! What stands for a subject that is looked at again and again: what was first seen of it since it
was last seen to be gone. -/

inductive Sighting (τ : Type*) where
  | gone
  | unmoved
  | seen (what : τ)

namespace Sighting

variable {τ σ ε : Type*}

def carry (standing : Option τ) : Sighting τ → Option τ
  | gone => none
  | unmoved => standing
  | seen what => some (standing.getD what)

def what? : Sighting τ → Option τ
  | seen what => some what
  | _ => none

def isGone : Sighting τ → Bool
  | gone => true
  | _ => false

/-- What was first seen after the subject was last gone. -/
def firstSeen (sightings : List (Sighting τ)) : Option τ :=
  ((sightings.reverse.takeWhile fun sighting => !sighting.isGone).filterMap what?).getLast?

theorem foldl_carry (sightings : List (Sighting τ)) :
    sightings.foldl carry none = firstSeen sightings := by
  induction sightings using List.reverseRecOn with
  | nil => rfl
  | append_singleton early last ih =>
    rw [List.foldl_append, List.foldl_cons, List.foldl_nil, ih]
    simp only [firstSeen, List.reverse_append, List.reverse_singleton, List.singleton_append,
      List.takeWhile_cons]
    cases last with
    | gone => rfl
    | unmoved => rfl
    | seen what => exact (List.getLast?_cons).symm

/-- The sightings of a subject along a run, each read at the state before its event. -/
def along (next : σ → ε → σ) (sight : σ → ε → Sighting τ) : σ → List ε → List (Sighting τ)
  | _, [] => []
  | state, event :: rest => sight state event :: along next sight (next state event) rest

theorem carried_along {next : σ → ε → σ} {sight : σ → ε → Sighting τ} {holds : σ → Prop}
    {standing : σ → Option τ} (keeps : ∀ state event, holds state → holds (next state event))
    (carries : ∀ state event, holds state →
      standing (next state event) = carry (standing state) (sight state event))
    {state : σ} (initial : holds state) (events : List ε) :
    standing (events.foldl next state) = (along next sight state events).foldl carry
      (standing state) := by
  induction events generalizing state with
  | nil => rfl
  | cons event rest ih =>
    rw [List.foldl_cons, ih (keeps state event initial), carries state event initial]
    rfl

theorem firstSeen_along {next : σ → ε → σ} {sight : σ → ε → Sighting τ} {holds : σ → Prop}
    {standing : σ → Option τ} (keeps : ∀ state event, holds state → holds (next state event))
    (carries : ∀ state event, holds state →
      standing (next state event) = carry (standing state) (sight state event))
    {state : σ} (initial : holds state) (nothing : standing state = none) (events : List ε) :
    standing (events.foldl next state) = firstSeen (along next sight state events) := by
  rw [carried_along keeps carries initial, nothing, foldl_carry]

end Sighting

end SysadminAssistant.Library
