import Mathlib.Data.List.Basic
import Mathlib.Data.List.Forall2

namespace SysadminAssistant.Library

/-! Loops over a list whose body may raise. -/

section

variable {α β γ : Type*}

theorem mapM_isSome {run : α → Option β} {inputs : List α} :
    (inputs.mapM run).isSome ↔ ∀ input ∈ inputs, (run input).isSome := by
  induction inputs with
  | nil => simp
  | cons input rest ih =>
    rw [List.mapM_cons, List.forall_mem_cons, ← ih]
    cases run input <;> cases rest.mapM run <;> simp

theorem mapM_each {run : α → Option β} {result : α → β} {inputs : List α}
    (each : ∀ input ∈ inputs, run input = some (result input)) :
    inputs.mapM run = some (inputs.map result) := by
  induction inputs with
  | nil => rfl
  | cons input rest ih =>
    obtain ⟨here, later⟩ := List.forall_mem_cons.mp each
    rw [List.mapM_cons, here, ih later]
    rfl

theorem mapM_cons_some {run : α → Option β} {input : α} {rest : List α} {outputs : List β} :
    (input :: rest).mapM run = some outputs ↔
      ∃ output tail, run input = some output ∧ rest.mapM run = some tail ∧
        output :: tail = outputs := by
  rw [List.mapM_cons]
  cases run input <;> cases rest.mapM run <;> simp

theorem mapM_map {run : α → Option β} {ofOutput : β → γ} {ofInput : α → γ} {inputs : List α}
    {outputs : List β}
    (each : ∀ input ∈ inputs, ∀ output, run input = some output → ofOutput output = ofInput input)
    (ran : inputs.mapM run = some outputs) : outputs.map ofOutput = inputs.map ofInput := by
  induction inputs generalizing outputs with
  | nil =>
    cases ran
    rfl
  | cons input rest ih =>
    obtain ⟨here, later⟩ := List.forall_mem_cons.mp each
    obtain ⟨output, tail, first, others, rfl⟩ := mapM_cons_some.mp ran
    rw [List.map_cons, List.map_cons, here output first, ih later others]

theorem mapM_mem {run : α → Option β} {inputs : List α} {outputs : List β}
    (ran : inputs.mapM run = some outputs) {output : β} (member : output ∈ outputs) :
    ∃ input ∈ inputs, run input = some output := by
  induction inputs generalizing outputs with
  | nil =>
    cases ran
    cases member
  | cons input rest ih =>
    obtain ⟨found, tail, first, others, rfl⟩ := mapM_cons_some.mp ran
    rcases List.mem_cons.mp member with here | later
    · exact ⟨input, List.mem_cons_self, here ▸ first⟩
    · obtain ⟨other, inside, result⟩ := ih others later
      exact ⟨other, List.mem_cons_of_mem _ inside, result⟩

theorem mapM_result {run : α → Option β} {inputs : List α} {outputs : List β}
    (ran : inputs.mapM run = some outputs) {input : α} (member : input ∈ inputs) :
    ∃ output ∈ outputs, run input = some output := by
  induction inputs generalizing outputs with
  | nil => cases member
  | cons first rest ih =>
    obtain ⟨output, tail, here, others, rfl⟩ := mapM_cons_some.mp ran
    rcases List.mem_cons.mp member with rfl | later
    · exact ⟨output, List.mem_cons_self, here⟩
    · obtain ⟨other, inside, result⟩ := ih others later
      exact ⟨other, List.mem_cons_of_mem _ inside, result⟩

/-! Loops that say what they raise. -/

section

variable {ε : Type*} {run : α → Except ε β} {inputs : List α}

theorem exceptM_error {error : ε} (failed : inputs.mapM run = .error error) :
    ∃ input ∈ inputs, run input = .error error := by
  induction inputs with
  | nil => simp [pure, Except.pure] at failed
  | cons input rest ih =>
    rw [List.mapM_cons] at failed
    cases first : run input with
    | error raised =>
      simp only [first, bind, Except.bind, Except.error.injEq] at failed
      exact ⟨input, List.mem_cons_self, failed ▸ first⟩
    | ok output =>
      cases others : rest.mapM run with
      | error raised =>
        simp only [first, others, bind, Except.bind, Except.error.injEq] at failed
        obtain ⟨other, inside, result⟩ := ih (failed ▸ others)
        exact ⟨other, List.mem_cons_of_mem _ inside, result⟩
      | ok outputs => simp [first, others, bind, Except.bind, pure, Except.pure] at failed

theorem exceptM_ok : (∃ outputs, inputs.mapM run = .ok outputs) ↔ ∀ input ∈ inputs, ∃ output,
    run input = .ok output := by
  induction inputs with
  | nil => simp [pure, Except.pure]
  | cons input rest ih =>
    rw [List.mapM_cons, List.forall_mem_cons, ← ih]
    cases run input <;> cases rest.mapM run <;> simp [bind, Except.bind, pure, Except.pure]

theorem exceptM_map {result : α → β} (each : ∀ input ∈ inputs, run input = .ok (result input)) :
    inputs.mapM run = .ok (inputs.map result) := by
  induction inputs with
  | nil => rfl
  | cons input rest ih =>
    obtain ⟨here, later⟩ := List.forall_mem_cons.mp each
    simp only [List.mapM_cons, here, ih later, bind, Except.bind, pure, Except.pure, List.map_cons]

end

theorem exceptM_cons_ok {ε : Type*} {run : α → Except ε β} {input : α} {rest : List α}
    {outputs : List β} :
    (input :: rest).mapM run = .ok outputs ↔
      ∃ output tail, run input = .ok output ∧ rest.mapM run = .ok tail ∧ outputs = output :: tail := by
  rw [List.mapM_cons]
  cases run input <;> cases rest.mapM run <;> simp [bind, Except.bind, pure, Except.pure, eq_comm]

theorem exceptM_each {ε : Type*} {run : α → Except ε β} {inputs : List α} {outputs : List β} :
    inputs.mapM run = .ok outputs ↔
      List.Forall₂ (fun input output => run input = .ok output) inputs outputs := by
  induction inputs generalizing outputs with
  | nil =>
    rw [List.forall₂_nil_left_iff, List.mapM_nil]
    exact ⟨fun ran => (Except.ok.inj ran).symm, fun none => by rw [none]; rfl⟩
  | cons input rest ih =>
    rw [exceptM_cons_ok, List.forall₂_cons_left_iff]
    simp only [ih, exists_and_left]

theorem exceptM_mem {ε : Type*} {run : α → Except ε β} {inputs : List α} {outputs : List β}
    (ran : inputs.mapM run = .ok outputs) {output : β} :
    output ∈ outputs ↔ ∃ input ∈ inputs, run input = .ok output := by
  have each := exceptM_each.mp ran
  clear ran
  induction each with
  | nil => simp
  | cons first others ih =>
    rw [List.mem_cons, List.exists_mem_cons_iff, first, Except.ok.injEq]
    exact or_congr eq_comm ih

end

/-! A state carried along a list by a step that may stop it. -/

section

variable {α β ε δ : Type*} {run : β → α → Except ε β} {items rest : List α} {item : α}
  {start last : β} {raised : ε}

theorem foldlM_cons_ok : (item :: rest).foldlM run start = .ok last ↔
    ∃ next, run start item = .ok next ∧ rest.foldlM run next = .ok last := by
  rw [List.foldlM_cons]
  cases run start item <;> simp [bind, Except.bind]

theorem foldlM_cons_error : (item :: rest).foldlM run start = .error raised ↔
    run start item = .error raised ∨ ∃ next, run start item = .ok next ∧
      rest.foldlM run next = .error raised := by
  rw [List.foldlM_cons]
  cases run start item <;> simp [bind, Except.bind]

theorem foldlM_invariant {Holds : β → Prop}
    (preserved : ∀ state item next, Holds state → run state item = .ok next → Holds next)
    (begun : Holds start) (ran : items.foldlM run start = .ok last) : Holds last := by
  induction items generalizing start with
  | nil =>
    cases ran
    exact begun
  | cons item rest ih =>
    obtain ⟨next, stepped, later⟩ := foldlM_cons_ok.mp ran
    exact ih (preserved start item next begun stepped) later

theorem foldlM_stopped : items.foldlM run start = .error raised ↔ ∃ front item back reached,
    items = front ++ item :: back ∧ front.foldlM run start = .ok reached ∧
      run reached item = .error raised := by
  induction items generalizing start with
  | nil =>
    constructor
    · intro impossible
      cases impossible
    · intro stopped
      obtain ⟨front, item, back, _, shape, _⟩ := stopped
      simp at shape
  | cons first rest ih =>
    rw [foldlM_cons_error]
    constructor
    · intro stopped
      rcases stopped with here | ⟨next, stepped, later⟩
      · exact ⟨[], first, rest, start, rfl, rfl, here⟩
      · obtain ⟨front, item, back, reached, rfl, ran, failed⟩ := ih.mp later
        exact ⟨first :: front, item, back, reached, rfl,
          foldlM_cons_ok.mpr ⟨next, stepped, ran⟩, failed⟩
    · intro stopped
      obtain ⟨front, item, back, reached, shape, ran, failed⟩ := stopped
      cases front with
      | nil =>
        cases shape
        cases ran
        exact Or.inl failed
      | cons _ front =>
        cases shape
        obtain ⟨next, stepped, later⟩ := foldlM_cons_ok.mp ran
        exact Or.inr ⟨next, stepped, ih.mpr ⟨front, item, back, reached, rfl, later, failed⟩⟩

theorem foldlM_mapError {finer : β → α → Except δ β} {name : δ → ε}
    (each : ∀ state item, run state item = (finer state item).mapError name) (items : List α)
    (start : β) :
    items.foldlM run start = (items.foldlM finer start).mapError name := by
  induction items generalizing start with
  | nil => rfl
  | cons item rest ih =>
    simp only [List.foldlM_cons, each, bind, Except.bind]
    cases finer start item with
    | error found => rfl
    | ok next => exact ih next

end

end SysadminAssistant.Library
