import SysadminAssistant.Monitor.LogAlerts

namespace SysadminAssistant.Monitor

open Python SysadminAssistant.Core Library

/-! Silence resolves the rows a poll has not seen.  What it has seen is asked of the folded
faults, so a fault that another one took in counts as silent. -/

/-- The one declaration at the quietest declared rung of a group. -/
def GivesName (faults : Dict Text Fault) (group : List Moment) (named : Moment) : Prop :=
  AtQuietestRung faults group named ∧ ∀ other, AtQuietestRung faults group other → other = named

/-- Another fault of the poll takes this one in: it names their group, and is no quieter. -/
def Swallowed (related : Option Relations) (window : PyFloat) (faults : Dict Text Fault)
    (title : Text) : Prop :=
  ∃ group ∈ correlate related window (moments faults), ∃ named, GivesName faults group named ∧
    named.title ≠ title ∧ (∃ moment ∈ group, moment.title = title) ∧
    ∃ fault anchor, faults.get? title = some fault ∧ faults.get? named.title = some anchor ∧
      isLouderThan fault.severity anchor.severity = false

section

variable {faults : Dict Text Fault} {related : Option Relations} {window : PyFloat}
  {group : List Moment}

theorem singleton_of_nodup {α : Type*} {items : List α} {item : α} (distinct : items.Nodup)
    (member : item ∈ items) (only : ∀ other ∈ items, other = item) : items = [item] := by
  cases items with
  | nil => cases member
  | cons first rest =>
    have same := only first List.mem_cons_self
    subst same
    cases rest with
    | nil => rfl
    | cons second more =>
      have equal := only second (by simp)
      simp [equal] at distinct

theorem group_titles_nodup (ofFaults : group ∈ correlate related window (moments faults)) :
    (group.map Moment.title).Nodup :=
  (List.nodup_flatten.mp (@groups_titles_nodup faults related window)).1 _
    (List.mem_map.mpr ⟨group, ofFaults, rfl⟩)

theorem absorption_of_givesName (ofFaults : group ∈ correlate related window (moments faults))
    {named : Moment} {anchor : Fault} (gives : GivesName faults group named)
    (found : faults.get? named.title = some anchor) {title : Text} (apart : named.title ≠ title)
    {moment : Moment} (inside : moment ∈ group) (titled : moment.title = title) {fault : Fault}
    (held : faults.get? title = some fault) (own : fault.title = title)
    (quiet : isLouderThan fault.severity anchor.severity = false) :
    ∃ folding, absorption faults group = some (some folding) ∧
      title ∈ folding.swallowed.map Fault.title := by
  have present : Present faults group := fun moment member =>
    (moment_of_group ofFaults member).imp fun _ facts => facts.1
  have filtered : ∀ keep : Moment → Bool, ∃ found, lookupAll faults (group.filter keep) = some found :=
    fun keep => lookupAll_present fun moment member => present moment (List.mem_filter.mp member).1
  have several : ¬ group.length < 2 := by
    intro short
    have single : group.length = 1 := by
      have := List.length_pos_of_mem inside
      omega
    obtain ⟨only, shape⟩ := List.length_eq_one_iff.mp single
    have first := gives.1.1
    rw [shape, List.mem_singleton] at first inside
    exact apart (by rw [first, ← inside, titled])
  obtain ⟨declared, foundDeclared⟩ := filtered (isDeclared faults)
  obtain ⟨shape, _⟩ := lookupAll_eq_some.mp foundDeclared
  have distinct : declared.Nodup := by
    apply List.Nodup.of_map Prod.fst
    rw [shape]
    exact ((group_titles_nodup ofFaults).of_map Moment.title).sublist List.filter_sublist
  have sole : (declared.filter fun item =>
      !declared.any fun other => isLouderThan item.2.severity other.2.severity) =
        [(named, anchor)] := by
    apply singleton_of_nodup (distinct.sublist List.filter_sublist)
    · exact (mem_quietest foundDeclared).mpr ⟨gives.1, found⟩
    · intro other member
      obtain ⟨quietest, value⟩ := (mem_quietest foundDeclared).mp member
      have same := gives.2 other.1 quietest
      rw [same, found] at value
      exact Prod.ext same (Option.some.inj value).symm
  obtain ⟨others, foundOthers⟩ := filtered fun moment => moment.title ≠ named.title
  obtain ⟨othersShape, othersValues⟩ := lookupAll_eq_some.mp foundOthers
  have swallowed : fault ∈ (others.map Prod.snd).filter fun fault =>
      !isLouderThan fault.severity anchor.severity := by
    have image : moment ∈ others.map Prod.fst := by
      rw [othersShape]
      exact List.mem_filter.mpr ⟨inside, by simpa [titled] using apart.symm⟩
    obtain ⟨item, member, same⟩ := List.mem_map.mp image
    have value := othersValues item member
    rw [same, titled, held] at value
    rw [Option.some.inj value]
    refine List.mem_filter.mpr ⟨List.mem_map.mpr ⟨item, member, rfl⟩, ?_⟩
    rw [← Option.some.inj value, quiet]
    rfl
  have nonempty : ((others.map Prod.snd).filter fun fault =>
      !isLouderThan fault.severity anchor.severity).isEmpty = false := by
    cases none : ((others.map Prod.snd).filter fun fault =>
        !isLouderThan fault.severity anchor.severity).isEmpty with
    | false => rfl
    | true =>
      rw [List.isEmpty_iff.mp none] at swallowed
      cases swallowed
  refine ⟨⟨named.title, anchor, _⟩, ?_, List.mem_map.mpr ⟨fault, swallowed, own⟩⟩
  simp only [absorption, if_neg several, foundDeclared, Option.bind_eq_bind, Option.bind_some, sole,
    foundOthers, nonempty, Bool.false_eq_true, if_false]

theorem givesName_of_absorption {folding : Absorption}
    (absorbed : absorption faults group = some (some folding)) :
    ∃ named, named.title = folding.named ∧ GivesName faults group named := by
  simp only [absorption] at absorbed
  split at absorbed
  · cases absorbed
  · simp only [Option.bind_eq_bind, Option.bind_eq_some_iff] at absorbed
    obtain ⟨declared, foundDeclared, absorbed⟩ := absorbed
    split at absorbed
    · rename_i named anchor sole
      simp only [Option.bind_eq_some_iff] at absorbed
      obtain ⟨others, foundOthers, absorbed⟩ := absorbed
      split at absorbed
      · cases absorbed
      · cases absorbed
        have own := (mem_quietest foundDeclared).mp (sole ▸ List.mem_singleton_self (named, anchor))
        refine ⟨named, rfl, own.1, fun other quietest => ?_⟩
        obtain ⟨fault, value, _⟩ := quietest.2
        have member := (mem_quietest foundDeclared).mpr ⟨quietest, value⟩
        rw [sole] at member
        exact congrArg Prod.fst (List.mem_singleton.mp member)
    · cases absorbed

theorem FoldedBy.absent_iff {result : Dict Text Fault}
    (folded : FoldedBy related window faults result) {title : Text}
    (observed : (faults.get? title).isSome) :
    result.get? title = none ↔ Swallowed related window faults title := by
  obtain ⟨fault, held⟩ := Option.isSome_iff_exists.mp observed
  constructor
  · intro absent
    obtain ⟨group, ofFaults, member⟩ := @group_of faults related window _ _ held
    obtain ⟨outcome, absorbed, same⟩ := folded.inside group ofFaults
    have here : result.get? title = (settle faults outcome).get? title := same _ member
    rw [absent] at here
    cases outcome with
    | none => simp [settle, held] at here
    | some folding =>
      have sound := absorption_sound folded.titled absorbed
      rw [get?_settle_some] at here
      split at here
      · rename_i swallowed
        obtain ⟨taken, inside, titled⟩ := List.mem_map.mp swallowed
        obtain ⟨apart, ofGroup, value, quiet⟩ := sound.swallowed taken inside
        obtain ⟨named, namedTitle, gives⟩ := givesName_of_absorption absorbed
        rw [titled] at apart ofGroup value
        exact ⟨group, ofFaults, named, gives, namedTitle ▸ apart.symm, ofGroup, taken,
          folding.anchor, value, namedTitle ▸ sound.found, quiet⟩
      · split at here
        · cases here
        · simp [held] at here
  · intro swallowed
    obtain ⟨group, ofFaults, named, gives, apart, ⟨moment, inside, titled⟩, taken, anchor,
        value, found, quiet⟩ := swallowed
    obtain ⟨folding, absorbed, member⟩ :=
      absorption_of_givesName ofFaults gives found apart inside titled
      value (folded.titled value) quiet
    obtain ⟨outcome, settled, same⟩ := folded.inside group ofFaults
    have equal : outcome = some folding := Option.some.inj (settled.symm.trans absorbed)
    subst equal
    have here := same moment inside
    rw [titled, get?_settle_some, if_pos member] at here
    exact here

end

section

variable {poll : AlertPoll} {table : AlertTable} {entries : List Entry} {outcome : AlertOutcome}

/-- No open row whose title the poll has observed is resolved. -/
def ObservedStand (observed : Dict Text Fault) (outcome : AlertOutcome) : Prop :=
  ∀ row ∈ outcome.raised.openRows, row.agent = logAggregatorName →
    (observed.get? row.title).isSome → row ∈ outcome.after.openRows

/-- No fault that another one takes in has an open row that is due to be resolved. -/
def SwallowedFresh (poll : AlertPoll) (table : AlertTable) (observed : Dict Text Fault) : Prop :=
  ∀ title, Swallowed (some poll.relations) alertIncidentWindowSeconds observed title →
    ∀ row, table.openRow? (logAggregatorName, title) = some row → wentQuiet poll row = false

theorem alertPhase_absent_iff (polled : alertPhase poll table entries = some outcome) {title : Text}
    (observed : ((observedFaults poll entries).get? title).isSome) :
    outcome.faults.get? title = none ↔
      Swallowed (some poll.relations) alertIncidentWindowSeconds
        (observedFaults poll entries) title := by
  have folded := (alertPhase_eq_some polled).1
  obtain ⟨result, ran, settled⟩ := @fold_groups (observedFaults poll entries) (some poll.relations)
    alertIncidentWindowSeconds (ingest_unfolded entries).titled
  have same : result = outcome.faults := Option.some.inj (ran.symm.trans folded)
  subst same
  exact settled.absent_iff observed

/-- Whether an observed fault's row survives the poll that observes it. -/
theorem observed_stand_iff (poll : AlertPoll) (table : AlertTable) (entries : List Entry)
    (outcome : AlertOutcome) (polled : alertPhase poll table entries = some outcome) :
    ObservedStand (observedFaults poll entries) outcome ↔
      SwallowedFresh poll table (observedFaults poll entries) := by
  obtain ⟨_, raised, resolved⟩ := alertPhase_eq_some polled
  obtain ⟨_, others⟩ := raiseFaults_rows raised
  constructor
  · intro stand title swallowed row standing
    obtain ⟨_, _, _, _, _, _, fault, _, held, _⟩ := id swallowed
    have observed : ((observedFaults poll entries).get? title).isSome := by rw [held]; rfl
    have absent := (alertPhase_absent_iff polled observed).mpr swallowed
    have kept := others title absent
    rw [standing] at kept
    obtain ⟨member, keyed⟩ := Table.openRow?_eq_some.mp kept
    obtain ⟨agent, titled⟩ := Prod.mk.inj keyed
    have after := stand row member agent (by rw [titled]; exact observed)
    have found : outcome.after.openRow? (logAggregatorName, title) = some row :=
      Table.openRow?_eq_some.mpr ⟨after, keyed⟩
    rw [resolveQuiet_openRow? resolved, kept, Option.filter_eq_some_iff] at found
    have opened : row.resolvedAt.isNone = true := (List.mem_filter.mp member).2
    have unseen : title ∉ outcome.faults.keys := by
      rw [Dict.mem_keys]
      simp [absent]
    simpa [mayResolve, agent, opened, titled, unseen] using found.2
  · intro fresh row member agent observed
    have standing : outcome.raised.openRow? (logAggregatorName, row.title) = some row :=
      Table.openRow?_eq_some.mpr ⟨member, by rw [← agent]; rfl⟩
    have spared : (mayResolve outcome.faults.keys row && wentQuiet poll row) = false := by
      cases absent : outcome.faults.get? row.title with
      | some fault =>
        have seen : row.title ∈ outcome.faults.keys := Dict.mem_keys.mpr ⟨fault, absent⟩
        simp [mayResolve, seen]
      | none =>
        have swallowed := (alertPhase_absent_iff polled observed).mp absent
        have before := others row.title absent
        rw [standing] at before
        rw [fresh row.title swallowed row before.symm, Bool.and_false]
    have after : outcome.after.openRow? (logAggregatorName, row.title) = some row := by
      rw [resolveQuiet_openRow? resolved, standing, Option.filter_eq_some_iff]
      exact ⟨rfl, by rw [spared]; rfl⟩
    exact (Table.openRow?_eq_some.mp after).1

theorem ObservedStand.openRow? {observed : Dict Text Fault} (stand : ObservedStand observed outcome)
    {title : Text} (seen : (observed.get? title).isSome)
    (standing : (outcome.raised.openRow? (logAggregatorName, title)).isSome) :
    (outcome.after.openRow? (logAggregatorName, title)).isSome := by
  obtain ⟨row, found⟩ := Option.isSome_iff_exists.mp standing
  obtain ⟨member, keyed⟩ := Table.openRow?_eq_some.mp found
  obtain ⟨agent, titled⟩ := Prod.mk.inj keyed
  have after := stand row member agent (by rw [titled]; exact seen)
  exact Option.isSome_iff_exists.mpr ⟨row, Table.openRow?_eq_some.mpr ⟨after, keyed⟩⟩

end

/-! A card reset, one hour into the life of a row for one of its fragments. -/

def epoch : Text := text "1970-01-01T00:00:00+00:00"

def tenToOne : Text := text "1970-01-01T00:50:00+00:00"

def resetPoll : AlertPoll where
  database := .ascii
  titles := sampleTools
  isoformat _ := text "1970-01-01T01:00:00+00:00"
  str _ := text "None"
  castMoment moment := match moment with
    | .str value =>
      if value = epoch then some 0 else if value = tenToOne then some 3000000000 else none
    | _ => none
  knownNoise := .empty
  relations := .empty
  criticalRepeat := 86400000000
  alertQuiet := 900000000
  stamp := 3600000000
  now := 3600000000

def resetLines : List Entry :=
  [kernelLine .error "amdgpu 0000:03:00.0: ring gfx_0.0.0 timeout" 3595000000,
    kernelLine .info "amdgpu 0000:03:00.0: VRAM is lost due to GPU reset!" 3599960000]

def fragmentTitle : Text := text "Log error: kernel — amdgpu N:N:N.N: ring gfx_N.N.N timeout"

/-- The fragment was raised at the epoch and last seen then. -/
def fragmentRow (lastSeen : Text) : AlertTable :=
  (raiseAlert Table.empty logAggregatorName 0
    ⟨.warning, fragmentTitle, text "amdgpu 0000:03:00.0: ring gfx_0.0.0 timeout",
      .ofEntries [(text "last_seen_at", .str lastSeen)]⟩).getD Table.empty

/-- A fragment that was seen ten minutes ago keeps its row. -/
theorem reset_stands :
    ∃ outcome, alertPhase resetPoll (fragmentRow tenToOne) resetLines = some outcome ∧
    ObservedStand (observedFaults resetPoll resetLines) outcome ∧
    (outcome.after.openRow? (logAggregatorName, fragmentTitle)).isSome := by
  have facts : (alertPhase resetPoll (fragmentRow tenToOne) resetLines).any (fun outcome =>
      ((observedFaults resetPoll resetLines).get? fragmentTitle).isSome &&
        (outcome.raised.openRow? (logAggregatorName, fragmentTitle)).isSome) = true := by
          decide +kernel
  obtain ⟨outcome, polled, seen⟩ := Option.any_eq_true _ _ |>.mp facts
  rw [Bool.and_eq_true] at seen
  have fresh : ((fragmentRow tenToOne).openRows.all fun row => !wentQuiet resetPoll row) = true := by
    decide +kernel
  have stand := (observed_stand_iff resetPoll (fragmentRow tenToOne) resetLines outcome polled).mpr
    fun title _ row standing => by
      simpa using List.all_eq_true.mp fresh row (Table.openRow?_eq_some.mp standing).1
  exact ⟨outcome, polled, stand, stand.openRow? seen.1 seen.2⟩

/-- The poll that logs the fragment again resolves its row. -/
theorem reset_resolves_fragment :
    ∃ outcome, alertPhase resetPoll (fragmentRow epoch) resetLines = some outcome ∧
    ¬ ObservedStand (observedFaults resetPoll resetLines) outcome := by
  have facts : (alertPhase resetPoll (fragmentRow epoch) resetLines).all (fun outcome =>
      ((observedFaults resetPoll resetLines).get? fragmentTitle).isSome &&
        (outcome.raised.openRow? (logAggregatorName, fragmentTitle)).isSome &&
        (outcome.after.openRow? (logAggregatorName, fragmentTitle)).isNone) = true := by decide +kernel
  have done : (alertPhase resetPoll (fragmentRow epoch) resetLines).isSome = true := by decide +kernel
  obtain ⟨outcome, polled⟩ := Option.isSome_iff_exists.mp done
  refine ⟨outcome, polled, fun stand => ?_⟩
  rw [polled, Option.all_some, Bool.and_eq_true, Bool.and_eq_true] at facts
  have kept := stand.openRow? facts.1.1 facts.1.2
  simp [Option.isNone_iff_eq_none.mp facts.2] at kept

end SysadminAssistant.Monitor
