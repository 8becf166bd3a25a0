import Mathlib.Data.List.Pairwise
import SysadminAssistant.Library.LocalSteps
import SysadminAssistant.Monitor.LogActions
import SysadminAssistant.Monitor.LogFaults

namespace SysadminAssistant.Monitor

open Python SysadminAssistant.Core Library

/-! Folding a declared fault's siblings into it (`fold_declared_incidents` of
`sysadmin/monitor/log_aggregator.py`). -/

/-- `_FaultMoment`. -/
structure Moment where
  title : Text
  source : Text
  signature : Text
  firstSeen : Int
deriving DecidableEq

instance : Correlatable Moment where
  source := Moment.source
  signature := Moment.signature
  firstSeen := Moment.firstSeen

def memberOf (fault : Fault) : Member where
  source := fault.source
  signature := fault.signature
  alertTitle := fault.title
  occurrences := fault.count

def momentOf (title : Text) (fault : Fault) : Moment where
  title
  source := fault.source
  signature := fault.signature
  firstSeen := fault.firstLoggedAt

def moments (faults : Dict Text Fault) : List Moment :=
  faults.entries.map fun entry => momentOf entry.1 entry.2

def isDeclared (folded : Dict Text Fault) (moment : Moment) : Bool :=
  ((folded.get? moment.title).bind Fault.declared).isSome

/-- `folded[m.title]` for every moment of a list; a missing key raises. -/
def lookupAll (folded : Dict Text Fault) : List Moment → Option (List (Moment × Fault))
  | [] => some []
  | moment :: rest => do
    let fault ← folded.get? moment.title
    let later ← lookupAll folded rest
    some ((moment, fault) :: later)

/-- A fold: the row that gives the name, and the faults it swallows. -/
structure Absorption where
  named : Text
  anchor : Fault
  swallowed : List Fault

/-- What one group folds into.  The outer `none` is a `KeyError`, the inner one a
group that comes back as it arrived. -/
def absorption (folded : Dict Text Fault) (group : List Moment) : Option (Option Absorption) :=
  if group.length < 2 then some none
  else do
    let declared ← lookupAll folded (group.filter (isDeclared folded))
    -- A louder declaration stands by itself, so only the quietest rung competes for the name.
    let quietest := declared.filter fun item =>
      !declared.any fun other => isLouderThan item.2.severity other.2.severity
    match quietest with
    | [(named, anchor)] => do
      let others ← lookupAll folded (group.filter fun moment => moment.title ≠ named.title)
      let swallowed := (others.map Prod.snd).filter fun fault =>
        !isLouderThan fault.severity anchor.severity
      if swallowed.isEmpty then some none else some (some ⟨named.title, anchor, swallowed⟩)
    | _ => some none

def settle (folded : Dict Text Fault) : Option Absorption → Dict Text Fault
  | none => folded
  | some folding =>
    let anchor := { folding.anchor with
      members := folding.anchor.members ++ folding.swallowed.map memberOf }
    folding.swallowed.foldl (fun faults fault => faults.erase fault.title)
      (folded.set folding.named anchor)

def foldGroup (folded : Dict Text Fault) (group : List Moment) : Option (Dict Text Fault) :=
  (absorption folded group).map (settle folded)

def foldDeclaredIncidents (faults : Dict Text Fault) (related : Option Relations)
    (window : PyFloat) : Option (Dict Text Fault) :=
  (correlate related window (moments faults)).foldlM foldGroup faults

/-! ## One group -/

theorem lookupAll_eq_some {folded : Dict Text Fault} {group : List Moment}
    {found : List (Moment × Fault)} :
    lookupAll folded group = some found ↔
      found.map Prod.fst = group ∧ ∀ item ∈ found, folded.get? item.1.title = some item.2 := by
  induction group generalizing found with
  | nil =>
    constructor
    · intro looked
      simp only [lookupAll, Option.some.injEq] at looked
      simp [← looked]
    · intro held
      obtain ⟨shape, _⟩ := held
      simp [lookupAll, List.map_eq_nil_iff.mp shape]
  | cons moment rest ih =>
    constructor
    · intro looked
      simp only [lookupAll, Option.bind_eq_bind, Option.bind_eq_some_iff, Option.some.injEq]
        at looked
      obtain ⟨fault, here, later, rested, rfl⟩ := looked
      obtain ⟨shape, values⟩ := ih.mp rested
      refine ⟨by simp [shape], ?_⟩
      intro item member
      rcases List.mem_cons.mp member with rfl | inside
      · exact here
      · exact values item inside
    · intro held
      obtain ⟨shape, values⟩ := held
      cases found with
      | nil => simp at shape
      | cons item later =>
        obtain ⟨first, fault⟩ := item
        simp only [List.map_cons, List.cons.injEq] at shape
        obtain ⟨rfl, shape⟩ := shape
        have here := values (first, fault) (by simp)
        have rested := ih.mpr ⟨shape, fun item member => values item (by simp [member])⟩
        simp only [lookupAll] at here ⊢
        simp [here, rested]

def Present (folded : Dict Text Fault) (group : List Moment) : Prop :=
  ∀ moment ∈ group, ∃ fault, folded.get? moment.title = some fault

theorem lookupAll_present {folded : Dict Text Fault} {group : List Moment}
    (present : Present folded group) : ∃ found, lookupAll folded group = some found := by
  induction group with
  | nil => exact ⟨[], rfl⟩
  | cons moment rest ih =>
    obtain ⟨fault, here⟩ := present moment (by simp)
    obtain ⟨later, rested⟩ := ih fun other member => present other (by simp [member])
    exact ⟨(moment, fault) :: later, by simp [lookupAll, here, rested]⟩

def Agree (group : List Moment) (left right : Dict Text Fault) : Prop :=
  ∀ moment ∈ group, left.get? moment.title = right.get? moment.title

theorem lookupAll_congr {left right : Dict Text Fault} {group : List Moment}
    (agree : Agree group left right) : lookupAll left group = lookupAll right group := by
  induction group with
  | nil => rfl
  | cons moment rest ih =>
    have later := ih fun other member => agree other (by simp [member])
    simp only [lookupAll, agree moment (by simp), later]

theorem absorption_congr {left right : Dict Text Fault} {group : List Moment}
    (agree : Agree group left right) : absorption left group = absorption right group := by
  have declared : group.filter (isDeclared left) = group.filter (isDeclared right) :=
    List.filter_congr fun moment member => by simp only [isDeclared, agree moment member]
  have filtered : ∀ keep : Moment → Bool,
      lookupAll left (group.filter keep) = lookupAll right (group.filter keep) := fun keep =>
    lookupAll_congr fun moment member => agree moment (List.mem_filter.mp member).1
  simp only [absorption, declared, filtered]

theorem absorption_present {folded : Dict Text Fault} {group : List Moment}
    (present : Present folded group) : ∃ outcome, absorption folded group = some outcome := by
  have filtered : ∀ keep : Moment → Bool, ∃ found,
      lookupAll folded (group.filter keep) = some found := fun keep =>
    lookupAll_present fun moment member => present moment (List.mem_filter.mp member).1
  simp only [absorption]
  split
  · exact ⟨none, rfl⟩
  · obtain ⟨declared, foundDeclared⟩ := filtered (isDeclared folded)
    simp only [foundDeclared, Option.bind_eq_bind, Option.bind_some]
    split
    · rename_i named anchor _
      obtain ⟨others, foundOthers⟩ := filtered fun moment => moment.title ≠ named.title
      simp only [foundOthers, Option.bind_some]
      split <;> exact ⟨_, rfl⟩
    · exact ⟨none, rfl⟩

/-- Every fault sits under its own title, as the ingest loop leaves it. -/
def Titled (folded : Dict Text Fault) : Prop :=
  ∀ {title fault}, folded.get? title = some fault → fault.title = title

structure Absorbs (folded : Dict Text Fault) (group : List Moment) (folding : Absorption) : Prop where
  several : 2 ≤ group.length
  named : ∃ moment ∈ group, moment.title = folding.named
  found : folded.get? folding.named = some folding.anchor
  declared : folding.anchor.declared.isSome
  swallowed : ∀ fault ∈ folding.swallowed, fault.title ≠ folding.named ∧
    (∃ moment ∈ group, moment.title = fault.title) ∧
    folded.get? fault.title = some fault ∧
    isLouderThan fault.severity folding.anchor.severity = false
  once : (group.map Moment.title).Nodup → (folding.swallowed.map Fault.title).Nodup

theorem absorption_sound {folded : Dict Text Fault} {group : List Moment} {folding : Absorption}
    (titled : Titled folded) (absorbed : absorption folded group = some (some folding)) :
    Absorbs folded group folding := by
  simp only [absorption] at absorbed
  split at absorbed
  · simp at absorbed
  · rename_i several
    simp only [Option.bind_eq_bind, Option.bind_eq_some_iff] at absorbed
    obtain ⟨declared, foundDeclared, absorbed⟩ := absorbed
    obtain ⟨declaredShape, declaredValues⟩ := lookupAll_eq_some.mp foundDeclared
    split at absorbed
    · rename_i named anchor sole
      simp only [Option.bind_eq_some_iff] at absorbed
      obtain ⟨others, foundOthers, absorbed⟩ := absorbed
      obtain ⟨othersShape, othersValues⟩ := lookupAll_eq_some.mp foundOthers
      split at absorbed
      · simp at absorbed
      · simp only [Option.some.injEq] at absorbed
        subst absorbed
        have member : (named, anchor) ∈ declared :=
          (List.mem_filter.mp (sole ▸ List.mem_singleton_self (named, anchor))).1
        have inGroup : named ∈ group ∧ isDeclared folded named = true := by
          have image : named ∈ declared.map Prod.fst := List.mem_map.mpr ⟨_, member, rfl⟩
          rw [declaredShape] at image
          exact List.mem_filter.mp image
        have here : folded.get? named.title = some anchor := declaredValues _ member
        have otherTitles : others.map (fun item => item.2.title) =
            (group.filter fun moment => moment.title ≠ named.title).map Moment.title := by
          rw [← othersShape, List.map_map]
          exact List.map_congr_left fun item inside => titled (othersValues item inside)
        refine ⟨Nat.le_of_not_lt several, ⟨named, inGroup.1, rfl⟩, here, ?_, ?_, ?_⟩
        · simpa [isDeclared, here] using inGroup.2
        · intro fault inside
          obtain ⟨kept, quiet⟩ := List.mem_filter.mp inside
          obtain ⟨item, itemMember, rfl⟩ := List.mem_map.mp kept
          have value := othersValues item itemMember
          have image : item.1 ∈ others.map Prod.fst := List.mem_map.mpr ⟨item, itemMember, rfl⟩
          rw [othersShape] at image
          obtain ⟨ofGroup, different⟩ := List.mem_filter.mp image
          rw [titled value]
          exact ⟨by simpa using different, ⟨item.1, ofGroup, rfl⟩, value, by simpa using quiet⟩
        · intro distinct
          have sub : (((others.map Prod.snd).filter fun fault =>
              !isLouderThan fault.severity anchor.severity).map Fault.title).Sublist
              (others.map fun item => item.2.title) := by
            simpa only [List.map_map, Function.comp_def] using
              (@List.filter_sublist _ _ (others.map Prod.snd)).map Fault.title
          rw [otherTitles] at sub
          exact (distinct.sublist (List.filter_sublist.map _)).sublist sub
    · simp at absorbed

theorem get?_settle_some {folded : Dict Text Fault} {folding : Absorption} (title : Text) :
    (settle folded (some folding)).get? title =
      if title ∈ folding.swallowed.map Fault.title then none
      else if folding.named = title then
        some { folding.anchor with
          members := folding.anchor.members ++ folding.swallowed.map memberOf }
      else folded.get? title := by
  have erased := Dict.get?_foldl_erase (folding.swallowed.map Fault.title)
    (folded.set folding.named { folding.anchor with
      members := folding.anchor.members ++ folding.swallowed.map memberOf }) title
  rw [List.foldl_map] at erased
  simp only [settle, erased, Dict.get?_set]

theorem foldGroup_local : LocalStep Titled Dict.get? id foldGroup
    fun group title => ∃ moment ∈ group, moment.title = title where
  preserves {before after group} titled stepped := by
    simp only [foldGroup, Option.map_eq_some_iff] at stepped
    obtain ⟨outcome, absorbed, rfl⟩ := stepped
    cases outcome with
    | none => exact titled
    | some folding =>
      have sound := absorption_sound titled absorbed
      intro title fault found
      rw [get?_settle_some] at found
      split at found
      · simp at found
      · split at found
        · rename_i same
          have own := titled sound.found
          rw [← Option.some.inj found, ← same]
          exact own
        · exact titled found
  frame {before after group title} titled stepped outside := by
    simp only [foldGroup, Option.map_eq_some_iff] at stepped
    obtain ⟨outcome, absorbed, rfl⟩ := stepped
    cases outcome with
    | none => rfl
    | some folding =>
      have sound := absorption_sound titled absorbed
      have kept : title ∉ folding.swallowed.map Fault.title := by
        intro member
        obtain ⟨fault, swallowed, rfl⟩ := List.mem_map.mp member
        exact outside (sound.swallowed fault swallowed).2.1
      have unnamed : folding.named ≠ title := by
        intro same
        subst same
        exact outside sound.named
      rw [get?_settle_some, if_neg kept, if_neg unnamed]
  reads {left right group after} _ agree stepped := by
    simp only [foldGroup, Option.map_eq_some_iff] at stepped
    obtain ⟨outcome, absorbed, rfl⟩ := stepped
    have onGroup : Agree group left right := fun moment member => agree _ ⟨moment, member, rfl⟩
    rw [absorption_congr onGroup] at absorbed
    refine ⟨settle right outcome, by simp [foldGroup, absorbed], ?_⟩
    intro title owned
    cases outcome with
    | none => exact (agree title owned).symm
    | some folding => rw [get?_settle_some, get?_settle_some, agree title owned]

theorem absorption_undeclared {folded : Dict Text Fault} {group : List Moment}
    {outcome : Option Absorption} (absorbed : absorption folded group = some outcome)
    (undeclared : ∀ moment ∈ group, isDeclared folded moment = false) : outcome = none := by
  have empty : group.filter (isDeclared folded) = [] :=
    List.filter_eq_nil_iff.mpr fun moment member => by simp [undeclared moment member]
  simp only [absorption, empty, lookupAll, Option.bind_eq_bind, Option.bind_some,
    List.filter_nil] at absorbed
  split at absorbed <;> exact (Option.some.inj absorbed).symm

/-- A moment whose rung competes for the name: declared, and louder than no other
declaration of its group. -/
def AtQuietestRung (folded : Dict Text Fault) (group : List Moment) (moment : Moment) : Prop :=
  moment ∈ group ∧ ∃ fault, folded.get? moment.title = some fault ∧ fault.declared.isSome ∧
    ∀ other ∈ group, ∀ rival, folded.get? other.title = some rival → rival.declared.isSome →
      isLouderThan fault.severity rival.severity = false

theorem mem_quietest {faults : Dict Text Fault} {group : List Moment}
    {declared : List (Moment × Fault)} {moment : Moment} {fault : Fault}
    (found : lookupAll faults (group.filter (isDeclared faults)) = some declared) :
    (moment, fault) ∈ (declared.filter fun item =>
        !declared.any fun other => isLouderThan item.2.severity other.2.severity) ↔
      AtQuietestRung faults group moment ∧ faults.get? moment.title = some fault := by
  obtain ⟨shape, values⟩ := lookupAll_eq_some.mp found
  have listed : ∀ other rival, (other, rival) ∈ declared ↔
      other ∈ group ∧ faults.get? other.title = some rival ∧ rival.declared.isSome := by
    intro other rival
    have image : other ∈ declared.map Prod.fst ↔ other ∈ group ∧ isDeclared faults other = true := by
      rw [shape]
      exact List.mem_filter
    constructor
    · intro member
      have value := values _ member
      obtain ⟨inside, isSome⟩ := image.mp (List.mem_map.mpr ⟨_, member, rfl⟩)
      exact ⟨inside, value, by simpa [isDeclared, value] using isSome⟩
    · intro facts
      obtain ⟨inside, value, isSome⟩ := facts
      obtain ⟨item, member, same⟩ :=
        List.mem_map.mp (image.mpr ⟨inside, by simpa [isDeclared, value] using isSome⟩)
      obtain ⟨first, stored⟩ := item
      subst same
      have equal : stored = rival := Option.some.inj ((values _ member).symm.trans value)
      exact equal ▸ member
  rw [List.mem_filter, listed]
  simp only [Bool.not_eq_true', List.any_eq_false, Bool.not_eq_true]
  constructor
  · intro facts
    obtain ⟨⟨inside, value, isSome⟩, quiet⟩ := facts
    refine ⟨⟨inside, fault, value, isSome, fun other member rival there declares => ?_⟩, value⟩
    exact quiet (other, rival) ((listed other rival).mpr ⟨member, there, declares⟩)
  · intro facts
    obtain ⟨⟨inside, stored, found, isSome, quiet⟩, value⟩ := facts
    have equal : stored = fault := Option.some.inj (found.symm.trans value)
    subst equal
    refine ⟨⟨inside, value, isSome⟩, fun item member => ?_⟩
    obtain ⟨ofGroup, there, declares⟩ := (listed item.1 item.2).mp member
    exact quiet item.1 ofGroup item.2 there declares

theorem absorption_contested {folded : Dict Text Fault} {group : List Moment}
    {outcome : Option Absorption} (absorbed : absorption folded group = some outcome)
    {left right : Moment} (different : left ≠ right)
    (leftQuiet : AtQuietestRung folded group left)
    (rightQuiet : AtQuietestRung folded group right) : outcome = none := by
  simp only [absorption] at absorbed
  split at absorbed
  · exact (Option.some.inj absorbed).symm
  · simp only [Option.bind_eq_bind, Option.bind_eq_some_iff] at absorbed
    obtain ⟨declared, foundDeclared, absorbed⟩ := absorbed
    have competes : ∀ moment, AtQuietestRung folded group moment → ∃ fault, (moment, fault) ∈
        declared.filter fun item =>
          !declared.any fun other => isLouderThan item.2.severity other.2.severity := by
      intro moment quietest
      have stored := quietest.2
      obtain ⟨fault, found, _⟩ := stored
      exact ⟨fault, (mem_quietest foundDeclared).mpr ⟨quietest, found⟩⟩
    split at absorbed
    · rename_i named anchor sole
      obtain ⟨leftFault, leftIn⟩ := competes left leftQuiet
      obtain ⟨rightFault, rightIn⟩ := competes right rightQuiet
      rw [sole] at leftIn rightIn
      have leftSame := congrArg Prod.fst (List.mem_singleton.mp leftIn)
      have rightSame := congrArg Prod.fst (List.mem_singleton.mp rightIn)
      exact absurd (leftSame.trans rightSame.symm) different
    · exact (Option.some.inj absorbed).symm

/-! ## A whole poll -/

section Fold

variable {faults : Dict Text Fault} {related : Option Relations} {window : PyFloat}

theorem mem_moments {moment : Moment} :
    moment ∈ moments faults ↔
      ∃ fault, faults.get? moment.title = some fault ∧ moment = momentOf moment.title fault := by
  constructor
  · intro member
    obtain ⟨⟨title, fault⟩, stored, rfl⟩ := List.mem_map.mp member
    exact ⟨fault, Dict.get?_eq_some.mpr stored, rfl⟩
  · intro held
    obtain ⟨fault, found, same⟩ := held
    rw [same]
    exact List.mem_map.mpr ⟨(moment.title, fault), Dict.get?_eq_some.mp found, rfl⟩

theorem group_of {title : Text} {fault : Fault} (found : faults.get? title = some fault) :
    ∃ group ∈ correlate related window (moments faults), momentOf title fault ∈ group := by
  have member : momentOf title fault ∈ moments faults := mem_moments.mpr ⟨fault, found, rfl⟩
  exact List.mem_flatten.mp ((correlate_perm related window _).mem_iff.mpr member)

theorem moment_of_group {group : List Moment} {moment : Moment}
    (ofFaults : group ∈ correlate related window (moments faults)) (member : moment ∈ group) :
    ∃ fault, faults.get? moment.title = some fault ∧ moment = momentOf moment.title fault :=
  mem_moments.mp ((correlate_perm related window _).mem_iff.mp
    (List.mem_flatten.mpr ⟨group, ofFaults, member⟩))

theorem groups_titles_nodup :
    (((correlate related window (moments faults)).map (List.map Moment.title)).flatten).Nodup := by
  have same := (correlate_perm related window (moments faults)).map Moment.title
  rw [List.map_flatten] at same
  apply same.nodup_iff.mpr
  simpa only [moments, List.map_map, Function.comp_def, momentOf] using faults.nodup

theorem groups_disjoint : (correlate related window (moments faults)).Pairwise
    fun left right => ∀ title, (∃ moment ∈ left, moment.title = title) →
      ¬ ∃ moment ∈ right, moment.title = title := by
  have disjoint := (List.nodup_flatten.mp (@groups_titles_nodup faults related window)).2
  rw [List.pairwise_map] at disjoint
  refine disjoint.imp ?_
  intro left right apart title held kept
  obtain ⟨moment, inLeft, rfl⟩ := held
  obtain ⟨other, inRight, same⟩ := kept
  exact apart (List.mem_map.mpr ⟨moment, inLeft, rfl⟩) (List.mem_map.mpr ⟨other, inRight, same⟩)

theorem group_unique {left right : List Moment} {first second : Moment}
    (ofLeft : left ∈ correlate related window (moments faults))
    (ofRight : right ∈ correlate related window (moments faults))
    (inLeft : first ∈ left) (inRight : second ∈ right) (same : first.title = second.title) :
    left = right := by
  by_contra different
  have : Std.Symm fun left right : List Moment =>
      ∀ title, (∃ moment ∈ left, moment.title = title) →
        ¬ ∃ moment ∈ right, moment.title = title :=
    ⟨fun _ _ apart title inRight inLeft => apart title inLeft inRight⟩
  exact groups_disjoint.forall ofLeft ofRight different first.title ⟨first, inLeft, rfl⟩
    ⟨second, inRight, same.symm⟩

/-- What the loop over the groups leaves, one group at a time. -/
structure FoldedBy (related : Option Relations) (window : PyFloat)
    (faults result : Dict Text Fault) : Prop where
  titled : Titled faults
  inside : ∀ group ∈ correlate related window (moments faults), ∃ outcome,
    absorption faults group = some outcome ∧
    ∀ moment ∈ group, result.get? moment.title = (settle faults outcome).get? moment.title
  outside : ∀ title, faults.get? title = none → result.get? title = none

theorem fold_groups (titled : Titled faults) : ∃ result,
    foldDeclaredIncidents faults related window = some result ∧
      FoldedBy related window faults result := by
  have enabled : ∀ group ∈ correlate related window (moments faults),
      ∃ after, foldGroup faults group = some after := by
    intro group ofFaults
    have present : Present faults group := fun moment member =>
      (moment_of_group ofFaults member).imp fun _ facts => facts.1
    obtain ⟨outcome, absorbed⟩ := absorption_present present
    exact ⟨settle faults outcome, by simp [foldGroup, absorbed]⟩
  obtain ⟨result, ran, inside, outside⟩ := foldGroup_local.run_disjoint titled groups_disjoint enabled
  refine ⟨result, ran, titled, ?_, ?_⟩
  · intro group ofFaults
    obtain ⟨after, stepped, same⟩ := inside group ofFaults
    simp only [foldGroup, Option.map_eq_some_iff] at stepped
    obtain ⟨outcome, absorbed, rfl⟩ := stepped
    exact ⟨outcome, absorbed, fun moment member => same _ ⟨moment, member, rfl⟩⟩
  · intro title absent
    rw [← absent]
    apply outside
    intro group ofFaults held
    obtain ⟨moment, member, rfl⟩ := held
    obtain ⟨fault, found, _⟩ := moment_of_group ofFaults member
    simp [absent] at found

namespace FoldedBy

variable {result : Dict Text Fault}

theorem survivor (folded : FoldedBy related window faults result) {holder : Text} {fault : Fault}
    (kept : result.get? holder = some fault) :
    ∃ original, faults.get? holder = some original ∧
      fault = { original with members := fault.members } ∧
      (fault.members = original.members ∨ ∃ group ∈ correlate related window (moments faults),
        ∃ folding, absorption faults group = some (some folding) ∧ folding.named = holder ∧
          fault.members = original.members ++ folding.swallowed.map memberOf) := by
  cases found : faults.get? holder with
  | none => simp [folded.outside holder found] at kept
  | some original =>
    obtain ⟨group, ofFaults, member⟩ := @group_of faults related window _ _ found
    obtain ⟨outcome, absorbed, same⟩ := folded.inside group ofFaults
    have here : result.get? holder = (settle faults outcome).get? holder := same _ member
    rw [kept] at here
    cases outcome with
    | none =>
      have unchanged : fault = original := Option.some.inj (here.trans found)
      exact ⟨original, rfl, by rw [unchanged], Or.inl (by rw [unchanged])⟩
    | some folding =>
      have sound := absorption_sound folded.titled absorbed
      rw [get?_settle_some] at here
      split at here
      · simp at here
      · split at here
        · rename_i named
          have anchor : folding.anchor = original :=
            Option.some.inj (sound.found.symm.trans (named ▸ found))
          rw [anchor] at here
          have shape := Option.some.inj here
          refine ⟨original, rfl, by rw [shape], Or.inr ⟨group, ofFaults, folding, absorbed, named, ?_⟩⟩
          rw [shape]
        · have unchanged : fault = original := Option.some.inj (here.trans found)
          exact ⟨original, rfl, by rw [unchanged], Or.inl (by rw [unchanged])⟩

theorem holder_of_member (folded : FoldedBy related window faults result)
    (unfolded : Unfolded faults) {holder : Text} {survivor : Fault} {member : Member}
    (kept : result.get? holder = some survivor) (inside : member ∈ survivor.members) :
    ∃ group ∈ correlate related window (moments faults), ∃ folding,
      absorption faults group = some (some folding) ∧ folding.named = holder ∧
      survivor.members = folding.swallowed.map memberOf ∧
      ∃ fault ∈ folding.swallowed, member = memberOf fault := by
  obtain ⟨original, found, _, same | ⟨group, ofFaults, folding, absorbed, named, same⟩⟩ :=
    folded.survivor kept
  · rw [same, unfolded.memberless found] at inside
    simp at inside
  · rw [unfolded.memberless found, List.nil_append] at same
    rw [same] at inside
    obtain ⟨fault, swallowed, rfl⟩ := List.mem_map.mp inside
    exact ⟨group, ofFaults, folding, absorbed, named, same, fault, swallowed, rfl⟩

theorem named_in_own_group (folded : FoldedBy related window faults result)
    (unfolded : Unfolded faults) {group : List Moment} {moment : Moment}
    {outcome : Option Absorption} (ofFaults : group ∈ correlate related window (moments faults))
    (inGroup : moment ∈ group) (absorbed : absorption faults group = some outcome)
    {holder : Text} {survivor : Fault} {member : Member}
    (kept : result.get? holder = some survivor) (inside : member ∈ survivor.members)
    (names : member.alertTitle = moment.title) :
    ∃ folding, outcome = some folding ∧ folding.named = holder ∧
      moment.title ∈ folding.swallowed.map Fault.title := by
  obtain ⟨other, ofOther, folding, absorbedOther, named, _, fault, swallowed, rfl⟩ :=
    folded.holder_of_member unfolded kept inside
  have sound := absorption_sound folded.titled absorbedOther
  obtain ⟨_, ⟨own, inOther, sameTitle⟩, _, _⟩ := sound.swallowed fault swallowed
  have sameGroup : other = group :=
    group_unique ofOther ofFaults inOther inGroup (sameTitle.trans names)
  rw [sameGroup, absorbed] at absorbedOther
  exact ⟨folding, Option.some.inj absorbedOther, named, List.mem_map.mpr ⟨fault, swallowed, names⟩⟩

theorem naming_row (folded : FoldedBy related window faults result) {group : List Moment}
    {folding : Absorption} (ofFaults : group ∈ correlate related window (moments faults))
    (absorbed : absorption faults group = some (some folding)) :
    result.get? folding.named = some { folding.anchor with
      members := folding.anchor.members ++ folding.swallowed.map memberOf } := by
  obtain ⟨outcome, settled, same⟩ := folded.inside group ofFaults
  have outcomeSame : outcome = some folding := Option.some.inj (settled.symm.trans absorbed)
  subst outcomeSame
  have sound := absorption_sound folded.titled absorbed
  obtain ⟨owner, ownerMember, ownerTitle⟩ := sound.named
  have here := same owner ownerMember
  rw [ownerTitle, get?_settle_some] at here
  have kept : folding.named ∉ folding.swallowed.map Fault.title := by
    intro member
    obtain ⟨fault, swallowed, same⟩ := List.mem_map.mp member
    exact (sound.swallowed fault swallowed).1 same
  rw [here, if_neg kept, if_pos rfl]

end FoldedBy

/-- `title` appears once in the members of one row, as `member`. -/
def NamedOnce (result : Dict Text Fault) (title : Text) (member : Member) : Prop :=
  ∃ holder survivor, result.get? holder = some survivor ∧
    (survivor.members.filter fun named => named.alertTitle = title) = [member] ∧
    ∀ other rival, result.get? other = some rival →
      (∃ named ∈ rival.members, named.alertTitle = title) → other = holder

def Unnamed (result : Dict Text Fault) (title : Text) : Prop :=
  ∀ holder survivor, result.get? holder = some survivor →
    ∀ named ∈ survivor.members, named.alertTitle ≠ title

/-- What folding keeps of `faults`. -/
structure Conserves (related : Option Relations) (window : PyFloat)
    (faults result : Dict Text Fault) : Prop where
  accounted : ∀ title fault, faults.get? title = some fault →
    (∃ survivor, result.get? title = some survivor) ∧ Unnamed result title ∨
      result.get? title = none ∧ NamedOnce result title (memberOf fault)
  survivors : ∀ title survivor, result.get? title = some survivor →
    ∃ fault, faults.get? title = some fault ∧ survivor = { fault with members := survivor.members }
  members : ∀ holder survivor member, result.get? holder = some survivor →
    member ∈ survivor.members → survivor.declared.isSome ∧
      ∃ fault, faults.get? member.alertTitle = some fault ∧ member = memberOf fault ∧
        isLouderThan fault.severity survivor.severity = false ∧
        ∃ group ∈ correlate related window (moments faults), ∃ first,
          Together related window group first (momentOf member.alertTitle fault) ∧
          momentOf holder survivor ∈ group ∧ momentOf member.alertTitle fault ∈ group
  undeclared : ∀ group ∈ correlate related window (moments faults),
    (∀ moment ∈ group, isDeclared faults moment = false) →
      ∀ moment ∈ group, result.get? moment.title = faults.get? moment.title
  contested : ∀ group ∈ correlate related window (moments faults), ∀ left right, left ≠ right →
    AtQuietestRung faults group left → AtQuietestRung faults group right →
      ∀ moment ∈ group, result.get? moment.title = faults.get? moment.title

private theorem filter_single {faults : List Fault} {fault : Fault}
    (member : fault ∈ faults) (distinct : (faults.map Fault.title).Nodup) :
    ((faults.map memberOf).filter fun named => named.alertTitle = fault.title) = [memberOf fault] := by
  induction faults with
  | nil => simp at member
  | cons first rest ih =>
    simp only [List.map_cons, List.nodup_cons, List.mem_map, not_exists, not_and] at distinct
    rcases List.mem_cons.mp member with rfl | later
    · have others : (rest.map memberOf).filter (fun named => named.alertTitle = fault.title) = [] := by
        apply List.filter_eq_nil_iff.mpr
        intro named inside
        obtain ⟨other, otherMember, rfl⟩ := List.mem_map.mp inside
        exact fun same => distinct.1 other otherMember (of_decide_eq_true same)
      have here : (memberOf fault).alertTitle = fault.title := rfl
      simp only [List.map_cons, List.filter_cons, here, decide_true, if_true, others]
    · have different : (memberOf first).alertTitle ≠ fault.title :=
        fun same => distinct.1 fault later same.symm
      simp only [List.map_cons, List.filter_cons, different, decide_false, Bool.false_eq_true,
        if_false]
      exact ih later distinct.2

theorem FoldedBy.conserves {result : Dict Text Fault} (unfolded : Unfolded faults)
    (folded : FoldedBy related window faults result) : Conserves related window faults result where
  accounted := by
    intro title fault found
    obtain ⟨group, ofFaults, inGroup⟩ := @group_of faults related window _ _ found
    obtain ⟨outcome, absorbed, same⟩ := folded.inside group ofFaults
    have here : result.get? title = (settle faults outcome).get? title := same _ inGroup
    have names := fun {holder survivor member} =>
      @FoldedBy.named_in_own_group _ _ _ _ folded unfolded _ _ _ ofFaults inGroup absorbed
        holder survivor member
    cases outcome with
    | none =>
      refine Or.inl ⟨⟨fault, here.trans found⟩, ?_⟩
      intro holder survivor kept member inside named
      obtain ⟨folding, impossible, _⟩ := names kept inside named
      simp at impossible
    | some folding =>
      have sound := absorption_sound folded.titled absorbed
      rw [get?_settle_some] at here
      split at here
      · rename_i swallowed
        obtain ⟨other, otherMember, otherTitle⟩ := List.mem_map.mp swallowed
        have otherFound := (sound.swallowed other otherMember).2.2.1
        rw [otherTitle, found] at otherFound
        have sameFault : fault = other := Option.some.inj otherFound
        subst sameFault
        have distinct : (group.map Moment.title).Nodup :=
          (List.nodup_flatten.mp (@groups_titles_nodup faults related window)).1 _
            (List.mem_map.mpr ⟨group, ofFaults, rfl⟩)
        have memberless := unfolded.memberless sound.found
        refine Or.inr ⟨here, folding.named, _, folded.naming_row ofFaults absorbed, ?_, ?_⟩
        · have single := filter_single otherMember (sound.once distinct)
          rw [otherTitle] at single
          simpa only [memberless, List.nil_append] using single
        · intro holder rival kept held
          obtain ⟨member, inside, named⟩ := held
          obtain ⟨_, same, holds, _⟩ := names kept inside named
          rw [← holds, ← Option.some.inj same]
      · rename_i standing
        refine Or.inl ⟨?_, ?_⟩
        · rw [here]
          split
          · exact ⟨_, rfl⟩
          · exact ⟨fault, found⟩
        · intro holder survivor kept member inside named
          obtain ⟨_, same, _, swallowed⟩ := names kept inside named
          rw [← Option.some.inj same] at swallowed
          exact standing swallowed
  survivors := by
    intro title survivor kept
    obtain ⟨fault, found, shape, _⟩ := folded.survivor kept
    exact ⟨fault, found, shape⟩
  members := by
    intro holder survivor member kept inside
    obtain ⟨group, ofFaults, folding, absorbed, named, _, fault, swallowed, rfl⟩ :=
      folded.holder_of_member unfolded kept inside
    have sound := absorption_sound folded.titled absorbed
    obtain ⟨_, ⟨own, ownMember, ownTitle⟩, found, quiet⟩ := sound.swallowed fault swallowed
    obtain ⟨owner, ownerMember, ownerTitle⟩ := sound.named
    have row := folded.naming_row ofFaults absorbed
    rw [named, kept] at row
    have shape := Option.some.inj row
    have ownFault : own = momentOf fault.title fault := by
      obtain ⟨stored, storedFound, same⟩ := moment_of_group ofFaults ownMember
      rw [ownTitle, found] at storedFound
      rw [same, ownTitle, Option.some.inj storedFound]
    have ownerFault : owner = momentOf holder survivor := by
      obtain ⟨stored, storedFound, same⟩ := moment_of_group ofFaults ownerMember
      rw [ownerTitle, sound.found] at storedFound
      rw [same, ownerTitle, named, shape, ← Option.some.inj storedFound]
      rfl
    obtain ⟨first, together⟩ := correlate_together ofFaults sound.several
    refine ⟨by rw [shape]; exact sound.declared, fault, found, rfl, by rw [shape]; exact quiet, group,
      ofFaults, first, ownFault ▸ together own ownMember, ownerFault ▸ ownerMember,
      ownFault ▸ ownMember⟩
  undeclared := by
    intro group ofFaults none moment member
    obtain ⟨outcome, absorbed, same⟩ := folded.inside group ofFaults
    rw [same moment member, absorption_undeclared absorbed none, settle]
  contested := by
    intro group ofFaults left right different leftQuiet rightQuiet moment member
    obtain ⟨outcome, absorbed, same⟩ := folded.inside group ofFaults
    rw [same moment member, absorption_contested absorbed different leftQuiet rightQuiet, settle]

/-- Folding never fails, and conserves the faults the ingest loop built. -/
theorem foldDeclaredIncidents_conserves (related : Option Relations) (window : PyFloat)
    (unfolded : Unfolded faults) :
    ∃ result, foldDeclaredIncidents faults related window = some result ∧
      Conserves related window faults result := by
  obtain ⟨result, ran, folded⟩ := fold_groups unfolded.titled
  exact ⟨result, ran, folded.conserves unfolded⟩

end Fold

/-! ## The shape of a card reset -/

def alertIncidentWindowSeconds : PyFloat := .finite (roundToDouble (59 / 10))

def sampleTools : TitleTools where
  truncateAtWord value length := value.take length
  truncationMarker := text "…"
  signatureDigest _ := text "00000000"

def kernelLine (severity : LogSeverity) (message : String) (loggedAt : Int) : Entry where
  source := text "kernel"
  severity
  message := text message
  loggedAt
  rawLine := text message
  metadata := []

/-- The first error of a reset, and 4.96 s later the line that names it. -/
def resetFaults : Dict Text Fault := ingest .ascii sampleTools Dict.empty
  [kernelLine .error "amdgpu 0000:03:00.0: ring gfx_0.0.0 timeout" 1000000,
    kernelLine .info "amdgpu 0000:03:00.0: VRAM is lost due to GPU reset!" 5960000]

example : (foldDeclaredIncidents resetFaults none alertIncidentWindowSeconds).map Dict.keys =
    some [gpuReset.title] := by decide +kernel

theorem resetFaults_conserved : ∃ result,
    foldDeclaredIncidents resetFaults none alertIncidentWindowSeconds = some result ∧
      Conserves none alertIncidentWindowSeconds resetFaults result :=
  foldDeclaredIncidents_conserves none alertIncidentWindowSeconds (ingest_unfolded _)

end SysadminAssistant.Monitor
