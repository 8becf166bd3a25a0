import Mathlib.Data.List.Basic
import Mathlib.Data.List.Nodup

namespace SysadminAssistant.Library

/-! Fallible steps that, on valid states, read and write only a footprint.  Over
pairwise disjoint footprints a run of them is the steps taken side by side, as far
as `observe` can tell. -/

section

variable {σ ι κ ν μ : Type*}

theorem foldlM_cons_some {step : σ → ι → Option σ} {item : ι} {rest : List ι} {start final : σ} :
    (item :: rest).foldlM step start = some final ↔
      ∃ next, step start item = some next ∧ rest.foldlM step next = some final := by
  rw [List.foldlM_cons]
  exact Option.bind_eq_some_iff

theorem run_preserves (holds : σ → Prop) {step : σ → ι → Option σ}
    (preserves : ∀ {before after item}, holds before → step before item = some after → holds after)
    {items : List ι} {start final : σ} (initial : holds start)
    (ran : items.foldlM step start = some final) : holds final := by
  induction items generalizing start with
  | nil =>
    rw [List.foldlM_nil] at ran
    exact Option.some.inj ran ▸ initial
  | cons item rest ih =>
    obtain ⟨next, stepped, later⟩ := foldlM_cons_some.mp ran
    exact ih (preserves initial stepped) later

theorem run_reaches {Done : List ι → σ → Prop} {step : σ → ι → Option σ} {items : List ι}
    {start : σ} (initial : Done [] start)
    (turn : ∀ {early item late state}, items = early ++ item :: late → Done early state →
      ∃ next, step state item = some next ∧ Done (early ++ [item]) next) :
    ∃ final, items.foldlM step start = some final ∧ Done items final := by
  suffices onward : ∀ rest early state, items = early ++ rest → Done early state →
      ∃ final, rest.foldlM step state = some final ∧
        Done items final from onward items [] start rfl initial
  intro rest
  induction rest with
  | nil =>
    intro early state shape done
    rw [List.append_nil] at shape
    exact ⟨state, rfl, shape ▸ done⟩
  | cons item rest ih =>
    intro early state shape done
    obtain ⟨next, stepped, following⟩ := turn shape done
    obtain ⟨final, later, all⟩ := ih (early ++ [item]) next (by simp [shape]) following
    exact ⟨final, foldlM_cons_some.mpr ⟨next, stepped, later⟩, all⟩

structure LocalStep (valid : σ → Prop) (view : σ → κ → ν) (observe : ν → μ)
    (step : σ → ι → Option σ) (footprint : ι → κ → Prop) : Prop where
  preserves : ∀ {before after item}, valid before → step before item = some after → valid after
  frame : ∀ {before after item key}, valid before → step before item = some after →
    ¬ footprint item key → view after key = view before key
  reads : ∀ {left right item after}, valid left →
    (∀ key, footprint item key → view left key = view right key) → step left item = some after →
    ∃ other, step right item = some other ∧
      ∀ key, footprint item key → observe (view other key) = observe (view after key)

namespace LocalStep

variable {valid : σ → Prop} {view : σ → κ → ν} {observe : ν → μ}
  {step : σ → ι → Option σ} {footprint : ι → κ → Prop}

theorem run_disjoint (steps : LocalStep valid view observe step footprint) {items : List ι}
    {start : σ} (startValid : valid start)
    (disjoint : items.Pairwise fun left right => ∀ key, footprint left key → ¬ footprint right key)
    (enabled : ∀ item ∈ items, ∃ after, step start item = some after) :
    ∃ final, items.foldlM step start = some final ∧
      (∀ item ∈ items, ∃ after, step start item = some after ∧
        ∀ key, footprint item key → observe (view final key) = observe (view after key)) ∧
      ∀ key, (∀ item ∈ items, ¬ footprint item key) → view final key = view start key := by
  induction items generalizing start with
  | nil => exact ⟨start, rfl, by simp, fun _ _ => rfl⟩
  | cons first rest ih =>
    obtain ⟨apart, restDisjoint⟩ := List.pairwise_cons.mp disjoint
    obtain ⟨next, stepped⟩ := enabled first (by simp)
    have agree : ∀ item ∈ rest, ∀ key, footprint item key → view start key = view next key := by
      intro item member key inside
      exact (steps.frame startValid stepped fun overlap => apart item member key overlap inside).symm
    have restEnabled : ∀ item ∈ rest, ∃ after, step next item = some after := by
      intro item member
      obtain ⟨after, found⟩ := enabled item (by simp [member])
      obtain ⟨other, moved, _⟩ := steps.reads startValid (agree item member) found
      exact ⟨other, moved⟩
    obtain ⟨final, ran, inside, outside⟩ := 
      ih (steps.preserves startValid stepped) restDisjoint restEnabled
    refine ⟨final, ?_, ?_, ?_⟩
    · simpa [List.foldlM_cons, stepped] using ran
    · intro item member
      rcases List.mem_cons.mp member with rfl | later
      · refine ⟨next, stepped, fun key owned => ?_⟩
        rw [outside key fun other otherMember => apart other otherMember key owned]
      · obtain ⟨after, found⟩ := enabled item member
        obtain ⟨moved, movedStep, same⟩ := steps.reads startValid (agree item later) found
        obtain ⟨reached, reachedStep, settled⟩ := inside item later
        have unique : moved = reached := Option.some.inj (movedStep.symm.trans reachedStep)
        subst unique
        exact ⟨after, found, fun key owned => (settled key owned).trans (same key owned)⟩
    · intro key outsideAll
      have first := steps.frame startValid stepped (outsideAll first (by simp))
      have later := outside key fun item member => outsideAll item (by simp [member])
      exact later.trans first

end LocalStep

end

/-! A fold whose steps each change the view of one key: over distinct keys it shows at each key what
that key's own step does to the view it started with. -/

section

variable {σ ι κ ν : Type*} {valid : σ → Prop} {view : σ → κ → ν} {step : σ → ι → σ} {key : ι → κ}

structure LocalFold (valid : σ → Prop) (view : σ → κ → ν) (step : σ → ι → σ) (key : ι → κ)
    (items : List ι) : Prop where
  preserves : ∀ {state item}, valid state → item ∈ items → valid (step state item)
  frame : ∀ {state item other}, valid state → item ∈ items → other ≠ key item →
    view (step state item) other = view state other

namespace LocalFold

theorem tail {first : ι} {rest : List ι} (fold : LocalFold valid view step key (first :: rest)) :
    LocalFold valid view step key rest where
  preserves held member := fold.preserves held (List.mem_cons_of_mem _ member)
  frame held member := fold.frame held (List.mem_cons_of_mem _ member)

theorem valid_foldl {items : List ι} (fold : LocalFold valid view step key items) {start : σ}
    (initial : valid start) : valid (items.foldl step start) := by
  induction items generalizing start with
  | nil => exact initial
  | cons first rest ih => exact ih fold.tail (fold.preserves initial List.mem_cons_self)

theorem view_absent {items : List ι} (fold : LocalFold valid view step key items) {start : σ}
    (initial : valid start) {other : κ} (absent : other ∉ items.map key) :
    view (items.foldl step start) other = view start other := by
  induction items generalizing start with
  | nil => rfl
  | cons first rest ih =>
    simp only [List.map_cons, List.mem_cons, not_or] at absent
    have later := ih fold.tail (fold.preserves initial List.mem_cons_self) absent.2
    exact later.trans (fold.frame initial List.mem_cons_self absent.1)

theorem view_present {items : List ι} (fold : LocalFold valid view step key items)
    (nodup : (items.map key).Nodup) {start : σ} (initial : valid start) {item : ι}
    (member : item ∈ items) :
    ∃ state, valid state ∧ view state (key item) = view start (key item) ∧
      view (items.foldl step start) (key item) = view (step state item) (key item) := by
  induction items generalizing start with
  | nil => cases member
  | cons first rest ih =>
    obtain ⟨fresh, nodup⟩ := List.nodup_cons.mp nodup
    have next : valid (step start first) := fold.preserves initial List.mem_cons_self
    rcases List.mem_cons.mp member with here | later
    · subst here
      exact ⟨start, initial, rfl, fold.tail.view_absent next fresh⟩
    · have apart : key item ≠ key first := fun same => fresh (same ▸ List.mem_map_of_mem later)
      obtain ⟨state, held, same, final⟩ := ih fold.tail nodup next later
      exact ⟨state, held, same.trans (fold.frame initial List.mem_cons_self apart), final⟩

end LocalFold

end

end SysadminAssistant.Library
