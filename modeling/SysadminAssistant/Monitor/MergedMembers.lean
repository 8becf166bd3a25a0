import Mathlib.Algebra.BigOperators.Group.List.Basic
import SysadminAssistant.Monitor.LogAlerts
import SysadminAssistant.Python.GroupedFolds

namespace SysadminAssistant.Monitor

open Python
open Json (field field? setField)

/-! The members an alert row has swallowed, and for which stored values they merge by adding up. -/

/-- The texts of its source and signature that a member is known by. -/
def memberKey (poll : AlertPoll) (member : List (Text × Json)) : Text × Text :=
  (fieldText poll (text "source") member, fieldText poll (text "signature") member)

/-- `member.get("occurrences") or 0`. -/
def occurrencesOf (member : List (Text × Json)) : Json :=
  (field (text "occurrences") member).orElse (.int 0)

/-- The dict entries of what was stored: only a list holds any. -/
def storedEntries : Json → List (List (Text × Json))
  | .arr items => items.filterMap Json.items
  | _ => []

/-- The dict entries of both sides. -/
def memberEntries (existing : Json) (incoming : List Member) : List (List (Text × Json)) :=
  storedEntries existing ++ incoming.map memberFields

/-- The occurrences of a member, if they are an integer. -/
def integerOccurrences? (member : List (Text × Json)) : Option Int :=
  match field (text "occurrences") member with
  | .int count => some count
  | _ => none

/-- The entries of one `(source, signature)`. -/
def entriesOf (poll : AlertPoll) (existing : Json) (incoming : List Member) (key : Text × Text) :
    List (List (Text × Json)) :=
  (memberEntries existing incoming).filter fun member => memberKey poll member = key

/-- The merge returns, an entry for each `(source, signature)` as they first come, each with the sum
of its integer occurrences. -/
def MergesAdditively (poll : AlertPoll) (existing : Json) (incoming : List Member) : Prop :=
  ∃ result : List (List (Text × Json)), mergeMembers poll existing incoming =
    .ok (.arr (result.map .obj)) ∧
    result.map (memberKey poll) = ((memberEntries existing incoming).map (memberKey poll)).eraseDups ∧
    ∀ merged ∈ result, occurrencesOf merged =
      .int ((entriesOf poll existing incoming (memberKey poll merged)).filterMap
        integerOccurrences?).sum

/-- What the stored value must be for that. -/
structure Mergeable (poll : AlertPoll) (existing : Json) (incoming : List Member) : Prop where
  /-- It can be iterated, or is falsy. -/
  iterable : existing.truthy = true → existing.iterate.isSome
  /-- The occurrences of an entry that shares its key with no other are an integer, or falsy. -/
  alone : ∀ key member, entriesOf poll existing incoming key = [member] →
    (integerOccurrences? member).isSome ∨ (field (text "occurrences") member).truthy = false
  /-- Where several share a key, `int` takes each of the occurrences that are no integers, and they
  come to nothing. -/
  shared : ∀ key, 2 ≤ (entriesOf poll existing incoming key).length →
    ∃ counts, ((entriesOf poll existing incoming key).filter fun member =>
      (integerOccurrences? member).isNone).mapM
      (fun member => intOrZero poll (field (text "occurrences") member)) = .ok counts ∧ counts.sum = 0

section

variable {poll : AlertPoll}

theorem field?_setField (key other : Text) (value : Json) (fields : List (Text × Json)) :
    field? other (setField key value fields) = if key = other then some value
      else field? other fields := by
  induction fields with
  | nil => rfl
  | cons entry rest ih =>
    obtain ⟨name, old⟩ := entry
    by_cases same : name = key
    · rw [setField, if_pos same, field?, field?, same]
      split <;> rfl
    · rw [setField, if_neg same, field?, field?, ih]
      by_cases here : name = other
      · rw [if_pos here, if_pos here, if_neg fun equal => same (here.trans equal.symm)]
      · rw [if_neg here, if_neg here]

theorem setField_setField (key : Text) (first second : Json) (fields : List (Text × Json)) :
    setField key second (setField key first fields) = setField key second fields := by
  induction fields with
  | nil => simp [setField]
  | cons entry rest ih =>
    obtain ⟨name, old⟩ := entry
    by_cases same : name = key
    · simp [setField, same]
    · simp [setField, same, ih]

theorem memberKey_setField (value : Json) (member : List (Text × Json)) :
    memberKey poll (setField (text "occurrences") value member) = memberKey poll member := by
  have source : text "occurrences" ≠ text "source" := by decide
  have signature : text "occurrences" ≠ text "signature" := by decide
  rw [memberKey, fieldText, fieldText, field?_setField, field?_setField, if_neg source,
    if_neg signature]
  rfl

theorem orElse_int (count : Int) : (Json.int count).orElse (.int 0) = .int count := by
  by_cases zero : count = 0 <;> simp [Json.orElse, Json.truthy, zero]

theorem occurrencesOf_setField (count : Int) (member : List (Text × Json)) :
    occurrencesOf (setField (text "occurrences") (.int count) member) = .int count := by
  rw [occurrencesOf, field, field?_setField, if_pos rfl]
  exact orElse_int count

theorem occurrencesOf_integer {member : List (Text × Json)} {count : Int}
    (integer : integerOccurrences? member = some count) : occurrencesOf member = .int count := by
  rw [integerOccurrences?] at integer
  split at integer
  · rename_i found
    cases integer
    rw [occurrencesOf, found]
    exact orElse_int count
  · cases integer

theorem intOrZero_int (count : Int) : intOrZero poll (.int count) = .ok count := by
  by_cases zero : count = 0 <;> simp [intOrZero, Json.truthy, zero, intOfJson]

def countedOccurrences (poll : AlertPoll) (member : List (Text × Json)) : Except PyError Int :=
  intOrZero poll (field (text "occurrences") member)

/-- What the loop makes of a member whose key holds an entry already, or none. -/
def joinMember (poll : AlertPoll) (held : Option (List (Text × Json)))
    (member : List (Text × Json)) : Except PyError (List (Text × Json)) :=
  match held with
  | some held => do
    let before ← countedOccurrences poll held
    let more ← countedOccurrences poll member
    return setField (text "occurrences") (.int (before + more)) held
  | none => .ok member

theorem mergeMember_eq (merged : Dict (Text × Text) (List (Text × Json)))
    (member : List (Text × Json)) :
    mergeMember poll merged member = Dict.joinAtM (memberKey poll)
      (joinMember poll) merged member := by
  rw [mergeMember, Dict.joinAtM, memberKey]
  cases merged.get? (fieldText poll (text "source") member,
    fieldText poll (text "signature") member) with
  | none => rfl
  | some held =>
    simp only [joinMember, countedOccurrences]
    cases intOrZero poll (field (text "occurrences") held) with
    | error raised => rfl
    | ok before => cases intOrZero poll (field (text "occurrences") member) <;> rfl

theorem joinMember_held_ok {held member joined : List (Text × Json)} :
    joinMember poll (some held) member = .ok joined ↔ ∃ before more,
      countedOccurrences poll held = .ok before ∧
      countedOccurrences poll member = .ok more ∧ joined = setField (text "occurrences")
        (.int (before + more)) held := by
  rw [joinMember]
  cases countedOccurrences poll held <;> cases countedOccurrences poll member <;>
    simp [bind, Except.bind, pure, Except.pure, eq_comm]

theorem counted_setField (count : Int) (member : List (Text × Json)) :
    countedOccurrences poll (setField (text "occurrences") (.int count) member) = .ok count := by
  rw [countedOccurrences, field, field?_setField, if_pos rfl]
  exact intOrZero_int count

theorem joinedM_held {held member : List (Text × Json)} {rest : List (List (Text × Json))}
    {last : Option (List (Text × Json))} :
    Dict.joinedM (joinMember poll) (member :: rest) (some held) = .ok last ↔
      ∃ counts, (held :: member :: rest).mapM (countedOccurrences poll) = .ok counts ∧
        last = some (setField (text "occurrences") (.int counts.sum) held) := by
  induction rest generalizing held member with
  | nil =>
    rw [Dict.joinedM_cons_ok]
    constructor
    · intro joined
      obtain ⟨value, first, ended⟩ := joined
      obtain ⟨before, more, counted, counted', rfl⟩ := joinMember_held_ok.mp first
      cases ended
      refine ⟨[before, more], ?_, by simp⟩
      exact Library.exceptM_each.mpr (.cons counted (.cons counted' .nil))
    · intro joined
      obtain ⟨counts, ran, rfl⟩ := joined
      obtain ⟨before, tail, counted, ran', rfl⟩ := Library.exceptM_cons_ok.mp ran
      obtain ⟨more, tail', counted', ended, rfl⟩ := Library.exceptM_cons_ok.mp ran'
      cases ended
      refine ⟨_, joinMember_held_ok.mpr ⟨before, more, counted, counted', rfl⟩, ?_⟩
      simp [Dict.joinedM, pure, Except.pure]
  | cons next rest ih =>
    rw [Dict.joinedM_cons_ok]
    constructor
    · intro joined
      obtain ⟨value, first, others⟩ := joined
      obtain ⟨before, more, counted, counted', rfl⟩ := joinMember_held_ok.mp first
      obtain ⟨counts, ran, rfl⟩ := ih.mp others
      obtain ⟨total, tail, summed, ran', rfl⟩ := Library.exceptM_cons_ok.mp ran
      rw [counted_setField] at summed
      cases summed
      refine ⟨before :: more :: tail, ?_, ?_⟩
      · exact Library.exceptM_cons_ok.mpr ⟨_, _, counted,
          Library.exceptM_cons_ok.mpr ⟨_, _, counted', ran', rfl⟩, rfl⟩
      · rw [setField_setField, List.sum_cons, List.sum_cons, List.sum_cons, add_assoc]
    · intro joined
      obtain ⟨counts, ran, rfl⟩ := joined
      obtain ⟨before, tail, counted, ran', rfl⟩ := Library.exceptM_cons_ok.mp ran
      obtain ⟨more, tail', counted', ran'', rfl⟩ := Library.exceptM_cons_ok.mp ran'
      refine ⟨_, joinMember_held_ok.mpr ⟨before, more, counted, counted', rfl⟩,
        ih.mpr ⟨(before + more) :: tail', ?_, ?_⟩⟩
      · exact Library.exceptM_cons_ok.mpr ⟨_, _, counted_setField _ _, ran'', rfl⟩
      · rw [setField_setField, List.sum_cons, List.sum_cons, List.sum_cons, add_assoc]

theorem counted_sum {group : List (List (Text × Json))} :
    (∃ counts, group.mapM (countedOccurrences poll) = .ok counts ∧
        counts.sum = (group.filterMap integerOccurrences?).sum) ↔
      ∃ counts, (group.filter fun member => (integerOccurrences? member).isNone).mapM
        (countedOccurrences poll) = .ok counts ∧ counts.sum = 0 := by
  suffices split : ∀ total : Int, (∃ counts, group.mapM (countedOccurrences poll) = .ok counts ∧
        counts.sum = total + (group.filterMap integerOccurrences?).sum) ↔
      ∃ counts, (group.filter fun member => (integerOccurrences? member).isNone).mapM
        (countedOccurrences poll) = .ok counts ∧ counts.sum = total by
    simpa using split 0
  induction group with
  | nil => simp [pure, Except.pure, eq_comm]
  | cons member rest ih =>
    intro total
    simp only [Library.exceptM_cons_ok]
    cases integer : integerOccurrences? member with
    | some count =>
      have counted : countedOccurrences poll member = .ok count := by
        rw [integerOccurrences?] at integer
        split at integer
        · rename_i found
          cases integer
          rw [countedOccurrences, found]
          exact intOrZero_int count
        · cases integer
      rw [List.filter_cons_of_neg (by simp [integer]), List.filterMap_cons_some integer,
        List.sum_cons, ← ih total, counted]
      constructor
      · rintro ⟨_, ⟨first, tail, same, ran, rfl⟩, summed⟩
        cases same
        exact ⟨tail, ran, by rw [List.sum_cons] at summed; omega⟩
      · rintro ⟨tail, ran, summed⟩
        exact ⟨count :: tail, ⟨count, tail, rfl, ran, rfl⟩, by rw [List.sum_cons]; omega⟩
    | none =>
      rw [List.filter_cons_of_pos (by simp [integer]), List.filterMap_cons_none integer]
      simp only [Library.exceptM_cons_ok]
      constructor
      · rintro ⟨_, ⟨first, tail, counted, ran, rfl⟩, summed⟩
        rw [List.sum_cons] at summed
        obtain ⟨counts, ran', summed'⟩ := (ih (total - first)).mp ⟨tail, ran, by omega⟩
        exact ⟨first :: counts, ⟨first, counts, counted, ran', rfl⟩, by rw [List.sum_cons]; omega⟩
      · rintro ⟨_, ⟨first, tail, counted, ran, rfl⟩, summed⟩
        rw [List.sum_cons] at summed
        obtain ⟨counts, ran', summed'⟩ := (ih (total - first)).mpr ⟨tail, ran, by omega⟩
        exact ⟨first :: counts, ⟨first, counts, counted, ran', rfl⟩, by rw [List.sum_cons]; omega⟩

theorem occurrencesOf_alone (member : List (Text × Json)) :
    occurrencesOf member = .int ([member].filterMap integerOccurrences?).sum ↔
      (integerOccurrences? member).isSome ∨ (field (text "occurrences") member).truthy = false := by
  cases integer : integerOccurrences? member with
  | some count => simp [List.filterMap_cons_some integer, occurrencesOf_integer integer]
  | none =>
    rw [List.filterMap_cons_none integer]
    rw [integerOccurrences?] at integer
    rw [occurrencesOf, Json.orElse]
    cases truth : (field (text "occurrences") member).truthy with
    | false => simp
    | true =>
      simp only [if_true, List.filterMap_nil, List.sum_nil, Option.isSome_none,
        Bool.false_eq_true, false_or, Bool.true_eq_false, iff_false]
      intro zero
      rw [zero] at truth
      cases truth

theorem storedEntries_falsy {existing : Json} (falsy : existing.truthy = false) :
    storedEntries existing = [] := by
  cases existing with
  | arr stored =>
    have empty : stored = [] := by simpa [Json.truthy] using falsy
    rw [empty]
    rfl
  | _ => rfl

theorem memberItems_ok {existing : Json} {items : List (List (Text × Json))} :
    memberItems existing = .ok items ↔
    (existing.truthy = true → existing.iterate.isSome) ∧ items = storedEntries existing := by
  by_cases truth : existing.truthy = true
  · have returns : existing.iterate.isSome → memberItems existing = .ok (storedEntries existing) := by
      intro iterable
      cases existing with
      | arr stored =>
        rw [memberItems, if_pos truth, storedEntries]
        refine congrArg Except.ok (List.filterMap_congr fun item _ => ?_)
        cases item <;> rfl
      | obj fields => rw [memberItems, if_pos truth]; rfl
      | str value => rw [memberItems, if_pos truth]; rfl
      | _ => cases iterable
    have raises : existing.iterate.isSome = false → memberItems existing = .error .typeError := by
      intro uniterable
      cases existing with
      | arr stored => cases uniterable
      | obj fields => cases uniterable
      | str value => cases uniterable
      | _ => exact if_pos truth
    cases iterable : existing.iterate.isSome with
    | true =>
      rw [returns iterable, Except.ok.injEq]
      exact ⟨fun same => ⟨fun _ => rfl, same.symm⟩, fun named => named.2.symm⟩
    | false =>
      rw [raises iterable]
      exact ⟨fun impossible => (by cases impossible), fun named => (by cases named.1 truth)⟩
  · have falsy : existing.truthy = false := by simpa using truth
    have returns : memberItems existing = .ok [] := by
      cases existing <;> exact if_neg truth
    rw [returns, storedEntries_falsy falsy, Except.ok.injEq]
    exact ⟨fun same => ⟨fun truthy => absurd truthy truth, same.symm⟩, fun named => named.2.symm⟩

theorem mergeMembers_ok {existing returned : Json} {incoming : List Member} :
    mergeMembers poll existing incoming = .ok returned ↔
      (existing.truthy = true → existing.iterate.isSome) ∧ ∃ merged,
        (memberEntries existing incoming).foldlM
        (Dict.joinAtM (memberKey poll) (joinMember poll)) Dict.empty = .ok merged ∧ returned = .arr
          (merged.values.map .obj) := by
  have turn : mergeMember poll = Dict.joinAtM (memberKey poll) (joinMember poll) :=
    funext fun merged => funext fun member => mergeMember_eq merged member
  rw [mergeMembers, turn]
  cases stored : memberItems existing with
  | error raised =>
    have uniterable : ¬ (existing.truthy = true → existing.iterate.isSome) := fun iterable => by
      rw [memberItems_ok.mpr ⟨iterable, rfl⟩] at stored
      cases stored
    simp only [bind, Except.bind, reduceCtorEq, false_iff, not_and]
    exact fun iterable => absurd iterable uniterable
  | ok items =>
    obtain ⟨iterable, rfl⟩ := memberItems_ok.mp stored
    rw [memberEntries]
    cases looped : (storedEntries existing ++ incoming.map memberFields).foldlM
        (Dict.joinAtM (memberKey poll) (joinMember poll)) Dict.empty with
    | error raised => simp [bind, Except.bind, looped]
    | ok merged =>
      simp only [bind, Except.bind, looped, pure, Except.pure, Except.ok.injEq, exists_eq_left']
      exact ⟨fun same => ⟨iterable, same.symm⟩, fun named => named.2.symm⟩

theorem obj_injective : Function.Injective (List.map Json.obj) :=
  List.map_injective_iff.mpr fun _ _ same => Json.obj.inj same

theorem joinedM_group {group : List (List (Text × Json))} {last : Option (List (Text × Json))} :
    Dict.joinedM (joinMember poll) group none = .ok last ↔
      (group = [] ∧ last = none) ∨ (∃ member, group = [member] ∧ last = some member) ∨
        ∃ first second rest counts, group = first :: second :: rest ∧ group.mapM
          (countedOccurrences poll) = .ok counts ∧
          last = some (setField (text "occurrences") (.int counts.sum) first) := by
  cases group with
  | nil => simp [Dict.joinedM, pure, Except.pure, eq_comm]
  | cons first others =>
    rw [Dict.joinedM_cons_ok]
    simp only [joinMember, Except.ok.injEq, exists_eq_left']
    cases others with
    | nil => simp [Dict.joinedM, pure, Except.pure, eq_comm]
    | cons second rest =>
      rw [joinedM_held]
      simp

theorem get?_of_alone {existing : Json} {incoming : List Member}
    {merged : Dict (Text × Text) (List (Text × Json))}
    (looped : (memberEntries existing incoming).foldlM
    (Dict.joinAtM (memberKey poll) (joinMember poll)) Dict.empty = .ok merged)
    {key : Text × Text} {member : List (Text × Json)}
    (alone : entriesOf poll existing incoming key = [member]) :
    merged.get? key = some member := by
  have left : Dict.joinedM (joinMember poll) (entriesOf poll existing incoming key) none =
      .ok (merged.get? key) :=
    Dict.joinedM_of_foldlM looped key
  rw [alone, joinedM_group] at left
  rcases left with ⟨none, _⟩ | ⟨only, same, found⟩ | ⟨_, _, _, _, several, _⟩
  · cases none
  · cases same
    exact found
  · cases several

theorem get?_of_shared {existing : Json} {incoming : List Member}
    {merged : Dict (Text × Text) (List (Text × Json))}
    (looped : (memberEntries existing incoming).foldlM
    (Dict.joinAtM (memberKey poll) (joinMember poll)) Dict.empty = .ok merged)
    {key : Text × Text} (several : 2 ≤ (entriesOf poll existing incoming key).length) :
    ∃ first counts, first ∈ entriesOf poll existing incoming key ∧
      (entriesOf poll existing incoming key).mapM (countedOccurrences poll) = .ok counts ∧
      merged.get? key = some (setField (text "occurrences") (.int counts.sum) first) := by
  have left : Dict.joinedM (joinMember poll) (entriesOf poll existing incoming key) none =
      .ok (merged.get? key) :=
    Dict.joinedM_of_foldlM looped key
  rcases joinedM_group.mp left with ⟨none, _⟩ | ⟨only, same, _⟩ | ⟨first, second, rest, counts,
    group, ran, found⟩
  · simp [none] at several
  · simp [same] at several
  · exact ⟨first, counts, by simp [group], ran, found⟩

theorem memberKey_of_mem {existing : Json} {incoming : List Member} {key : Text × Text}
    {member : List (Text × Json)} (inside : member ∈ entriesOf poll existing incoming key) :
    memberKey poll member = key := by
  simpa using (List.mem_filter.mp inside).2

theorem memberKey_of_get? {existing : Json} {incoming : List Member}
    {merged : Dict (Text × Text) (List (Text × Json))}
    (looped : (memberEntries existing incoming).foldlM
    (Dict.joinAtM (memberKey poll) (joinMember poll)) Dict.empty = .ok merged)
    {key : Text × Text} {member : List (Text × Json)} (found : merged.get? key = some member) :
    memberKey poll member = key := by
  have left : Dict.joinedM (joinMember poll) (entriesOf poll existing incoming key) none =
      .ok (merged.get? key) :=
    Dict.joinedM_of_foldlM looped key
  rw [found, joinedM_group] at left
  rcases left with ⟨_, impossible⟩ | ⟨only, group, same⟩ | ⟨first, second, rest, counts,
    group, _, same⟩
  · cases impossible
  · have inside : only ∈ entriesOf poll existing incoming key := by simp [group]
    rw [Option.some.inj same]
    exact memberKey_of_mem inside
  · have inside : first ∈ entriesOf poll existing incoming key := by simp [group]
    rw [Option.some.inj same, memberKey_setField]
    exact memberKey_of_mem inside

/-- The merge returns each member once with its integer occurrences added up exactly where the
stored value is mergeable: a truthy number or `true` cannot be iterated, and occurrences that are no
integers are kept, added or raised on. -/
theorem mergesAdditively_iff (poll : AlertPoll) (existing : Json) (incoming : List Member) :
    MergesAdditively poll existing incoming ↔ Mergeable poll existing incoming := by
  constructor
  · intro merges
    obtain ⟨result, ran, _, additive⟩ := merges
    obtain ⟨iterable, merged, looped, returned⟩ := mergeMembers_ok.mp ran
    obtain rfl := obj_injective (Json.arr.inj returned)
    refine ⟨iterable, ?_, ?_⟩
    · intro key member alone
      have found := get?_of_alone looped alone
      have added := additive member (Dict.mem_values.mpr ⟨key, found⟩)
      rw [memberKey_of_get? looped found, alone] at added
      exact (occurrencesOf_alone member).mp added
    · intro key several
      obtain ⟨first, counts, _, ran', found⟩ := get?_of_shared looped several
      have added := additive _ (Dict.mem_values.mpr ⟨key, found⟩)
      rw [memberKey_of_get? looped found, occurrencesOf_setField, Json.int.injEq] at added
      exact counted_sum.mp ⟨counts, ran', added⟩
  · intro mergeable
    have each : ∀ wanted, ∃ value,
        Dict.joinedM (joinMember poll) (entriesOf poll existing incoming wanted)
        (Dict.empty.get? wanted) = .ok value := by
      intro wanted
      rw [Dict.get?_empty]
      cases group : entriesOf poll existing incoming wanted with
      | nil => exact ⟨none, rfl⟩
      | cons first others =>
        cases others with
        | nil => exact ⟨some first, rfl⟩
        | cons second rest =>
          obtain ⟨counts, ran, _⟩ := counted_sum.mpr (mergeable.shared wanted (by simp [group]))
          rw [group] at ran
          exact ⟨_, joinedM_group.mpr (Or.inr (Or.inr ⟨first, second, rest, counts, rfl, ran, rfl⟩))⟩
    obtain ⟨merged, looped⟩ := Dict.exists_foldlM_joinAtM each
    refine ⟨merged.values, mergeMembers_ok.mpr ⟨mergeable.iterable, merged, looped, rfl⟩, ?_, ?_⟩
    · have named : merged.values.map (memberKey poll) = merged.keys := by
        rw [Dict.values, Dict.keys, List.map_map]
        refine List.map_congr_left fun entry inside => ?_
        exact memberKey_of_get? looped (Dict.get?_eq_some.mpr inside)
      have start : (Dict.empty : Dict (Text × Text) (List (Text × Json))).keys = [] := rfl
      rw [named, Dict.keys_foldlM_joinAtM looped, start, List.removeAll_nil, List.nil_append]
    · intro member inside
      obtain ⟨key, found⟩ := Dict.mem_values.mp inside
      rw [memberKey_of_get? looped found]
      cases group : entriesOf poll existing incoming key with
      | nil =>
        have left := Dict.joinedM_of_foldlM looped key
        change Dict.joinedM _ (entriesOf poll existing incoming key) none = _ at left
        rw [group, found] at left
        cases left
      | cons first others =>
        cases others with
        | nil =>
          rw [get?_of_alone looped group] at found
          rw [← Option.some.inj found]
          exact (occurrencesOf_alone first).mpr (mergeable.alone key first group)
        | cons second rest =>
          have several : 2 ≤ (entriesOf poll existing incoming key).length := by simp [group]
          obtain ⟨anchor, counts, _, ran, found'⟩ := get?_of_shared looped several
          obtain ⟨counts', ran', summed⟩ := counted_sum.mpr (mergeable.shared key several)
          rw [ran] at ran'
          cases ran'
          rw [found] at found'
          cases found'
          rw [occurrencesOf_setField, summed, group]

/-- An entry that a later release wrote with its count in words. -/
def wordedMembers : Json :=
  .arr [.obj [(text "source", .str (text "kernel")), (text "signature", .str (text "a")),
    (text "occurrences", .str (text "many"))]]

def wordedPoll : AlertPoll where
  database := .ascii
  titles := ⟨fun value limit => value.take limit, text "…", fun _ => text "1c3d6500"⟩
  isoformat _ := text "2026-09-04T00:00:00+00:00"
  str _ := text "null"
  castMoment _ := none
  knownNoise := Dict.empty
  relations := Dict.empty
  criticalRepeat := 0
  alertQuiet := 0
  stamp := 0
  now := 0

/-- `int("many")` raises as soon as the fault is seen again. -/
theorem wordedMembers_raise :
    ¬ MergesAdditively wordedPoll wordedMembers [⟨text "kernel", text "a", text "A", 4⟩] := by
  intro merges
  obtain ⟨result, ran, _⟩ := merges
  have raised : mergeMembers wordedPoll wordedMembers [⟨text "kernel", text "a", text "A", 4⟩] =
      .error .valueError := by rfl
  rw [raised] at ran
  cases ran

end

end SysadminAssistant.Monitor
