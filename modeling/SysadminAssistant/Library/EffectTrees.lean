import Mathlib.Data.List.Basic

namespace SysadminAssistant.Library

/-! Programs as trees of calls.  The world answers a call or raises; what a program may call, and
what is owed when it ends, is read off its tree against a monitor, and holds of every run. -/

/-- A call, and what the world made of it. -/
structure Exchange {ε : Type} (ρ : ε → Type) (χ : Type) where
  request : ε
  answer : Except χ (ρ request)

inductive Tree {ε : Type} (ρ : ε → Type) (χ α : Type) where
  | done (value : α)
  | raised (error : χ)
  | call (request : ε) (next : Except χ (ρ request) → Tree ρ χ α)

/-- The world, which answers by what has been asked so far. -/
abbrev World {ε : Type} (ρ : ε → Type) (χ : Type) :=
  List (Exchange ρ χ) → (request : ε) → Except χ (ρ request)

variable {ε χ α β μ : Type} {ρ : ε → Type}

/-- What is owed of a result and the monitor's state there. -/
def onOutcome (returned : α → μ → Prop) (failed : χ → μ → Prop) : Except χ α → μ → Prop
  | .ok value => returned value
  | .error error => failed error

namespace Tree

def ofOutcome : Except χ α → Tree ρ χ α
  | .ok value => .done value
  | .error error => .raised error

def perform (request : ε) : Tree ρ χ (ρ request) := .call request ofOutcome

def bind : Tree ρ χ α → (α → Tree ρ χ β) → Tree ρ χ β
  | .done value, onward => onward value
  | .raised error, _ => .raised error
  | .call request next, onward => .call request fun answer => (next answer).bind onward

/-- `try` with the clauses of its `except`. -/
def handling : Tree ρ χ α → (χ → Option (Tree ρ χ α)) → Tree ρ χ α
  | .done value, _ => .done value
  | .raised error, clauses => (clauses error).getD (.raised error)
  | .call request next, clauses => .call request fun answer => (next answer).handling clauses

/-- `try` with a `finally`, whose own error takes the place of the body's. -/
def ensuring : Tree ρ χ α → Tree ρ χ Unit → Tree ρ χ α
  | .done value, cleanup => cleanup.bind fun _ => .done value
  | .raised error, cleanup => cleanup.bind fun _ => .raised error
  | .call request next, cleanup => .call request fun answer => (next answer).ensuring cleanup

instance treeMonad : Monad (Tree ρ χ) where
  pure := .done
  bind := Tree.bind

/-- What is asked after a history, and how it ends. -/
def run (world : World ρ χ) : Tree ρ χ α → List (Exchange ρ χ) → List (Exchange ρ χ) × Except χ α
  | .done value, history => (history, .ok value)
  | .raised error, history => (history, .error error)
  | .call request next, history =>
    (next (world history request)).run world (history ++ [⟨request, world history request⟩])

/-- Whatever the world may answer, the monitor permits each exchange and the end is as owed. -/
def Respects (step : μ → Exchange ρ χ → Option μ) (may : μ → Exchange ρ χ → Prop) :
    Tree ρ χ α → μ → (Except χ α → μ → Prop) → Prop
  | .done value, state, owed => owed (.ok value) state
  | .raised error, state, owed => owed (.error error) state
  | .call request next, state, owed => ∀ answer, may state ⟨request, answer⟩ →
      ∃ after, step state ⟨request, answer⟩ = some after ∧ Respects step may (next answer) after owed

variable {step : μ → Exchange ρ χ → Option μ} {may : μ → Exchange ρ χ → Prop}

theorem Respects.mono {tree : Tree ρ χ α} {state : μ} {owed weaker : Except χ α → μ → Prop}
    (respects : tree.Respects step may state owed)
    (implies : ∀ outcome after, owed outcome after → weaker outcome after) :
    tree.Respects step may state weaker := by
  induction tree generalizing state with
  | done value => exact implies _ _ respects
  | raised error => exact implies _ _ respects
  | call request next ih =>
    intro answer allowed
    obtain ⟨after, stepped, later⟩ := respects answer allowed
    exact ⟨after, stepped, ih answer later⟩

theorem respects_bind {tree : Tree ρ χ α} {onward : α → Tree ρ χ β} {state : μ}
    {owed : Except χ β → μ → Prop} :
    (tree.bind onward).Respects step may state owed ↔
      tree.Respects step may state
        (onOutcome (fun value after => (onward value).Respects step may after owed)
        fun error after => owed (.error error) after) := by
  induction tree generalizing state with
  | done value => exact Iff.rfl
  | raised error => exact Iff.rfl
  | call request next ih => simp only [bind, Respects, ih]

theorem respects_perform {request : ε} {state : μ} {owed : Except χ (ρ request) → μ → Prop} :
    (perform request : Tree ρ χ (ρ request)).Respects step may state owed ↔ ∀ answer,
      may state ⟨request, answer⟩ →
      ∃ after, step state ⟨request, answer⟩ = some after ∧ owed answer after := by
  have ended : ∀ answer after, (ofOutcome answer : Tree ρ χ (ρ request)).Respects step may after owed ↔
      owed answer after := by
    intro answer after
    cases answer <;> exact Iff.rfl
  simp only [perform, Respects, ended]

theorem respects_handling {tree : Tree ρ χ α} {clauses : χ → Option (Tree ρ χ α)} {state : μ}
    {owed : Except χ α → μ → Prop} :
    (tree.handling clauses).Respects step may state owed ↔
      tree.Respects step may state (onOutcome (fun value after => owed (.ok value) after)
        fun error after => ((clauses error).getD (.raised error)).Respects step may after owed) := by
  induction tree generalizing state with
  | done value => exact Iff.rfl
  | raised error => exact Iff.rfl
  | call request next ih => simp only [handling, Respects, ih]

theorem respects_ensuring {tree : Tree ρ χ α} {cleanup : Tree ρ χ Unit} {state : μ}
    {owed : Except χ α → μ → Prop} :
    (tree.ensuring cleanup).Respects step may state owed ↔
      tree.Respects step may state fun outcome after => cleanup.Respects step may after
        (onOutcome (fun _ => owed outcome) fun error => owed (.error error)) := by
  induction tree generalizing state with
  | done value => exact respects_bind
  | raised error => exact respects_bind
  | call request next ih => simp only [ensuring, Respects, ih]

theorem Respects.run {tree : Tree ρ χ α} {start state : μ} {owed : Except χ α → μ → Prop}
    {world : World ρ χ} (respects : tree.Respects step may state owed)
    (answers : ∀ history reached request, history.foldlM step start = some reached →
      may reached ⟨request, world history request⟩)
    {history : List (Exchange ρ χ)} (reached : history.foldlM step start = some state) :
    ∃ after, (tree.run world history).1.foldlM step start = some after ∧
      owed (tree.run world history).2 after := by
  induction tree generalizing state history with
  | done value => exact ⟨state, reached, respects⟩
  | raised error => exact ⟨state, reached, respects⟩
  | call request next ih =>
    obtain ⟨after, stepped, later⟩ := respects _ (answers history state request reached)
    refine ih _ later ?_
    simp only [List.foldlM_append, reached, List.foldlM_cons, List.foldlM_nil, stepped,
      Option.bind_eq_bind, Option.bind_some, Option.pure_def]

end Tree

end SysadminAssistant.Library
