import SysadminAssistant.Python.Json
import SysadminAssistant.Units.SweptReadings

namespace SysadminAssistant.Units.Ports

open Python

/-! When the reading of a port is what the sweep saw of it. -/

namespace PortReport

/-- The attribution that is read back off the stored sweep. -/
def readBack (database : CharDatabase) (repr : PyFloat → Text) (report : PortReport)
    (observedAt : Option Text) : Except PyError PortAttribution :=
  attributionFromBlob database ((report.asBlob blobLimit).reloaded repr).items observedAt

/-- The listeners on a port that name a unit. -/
def namedOn (report : PortReport) (port : Int) : List Listener :=
  report.listeners.filter fun listener => listener.attributed && listener.port = port

/-- The listeners on the port that name a unit name the same one. -/
def HeldBy (report : PortReport) (port : Int) (unit : Text) (scope : Scope)
    (transient : Bool) : Prop :=
  report.namedOn port ≠ [] ∧ ∀ listener ∈ report.namedOn port,
    listener.unit = some unit ∧ listener.scope = some scope ∧ listener.transient = transient

def Contested (report : PortReport) (port : Int) : Prop :=
  ∃ left ∈ report.namedOn port, ∃ right ∈ report.namedOn port,
    (left.unit, left.scope) ≠ (right.unit, right.scope)

/-- What the attribution says of a port is what the sweep saw of it. -/
structure Faithful (report : PortReport) (attribution : PortAttribution) (port : Int) : Prop where
  unswept : report.ok = true →
    (attribution.reading port = .unswept ↔ ∀ listener ∈ report.listeners, listener.port ≠ port)
  held : report.ok = true → attribution.reading port = .held → ∃ unit scope,
    report.HeldBy port unit scope false ∧
    attribution.of port = some ⟨unit, scope.name, false, attribution.observedAt⟩
  transient : report.ok = true → attribution.reading port = .transient → ∃ unit scope,
    report.HeldBy port unit scope true ∧ attribution.of port = some ⟨unit, scope.name, true,
      attribution.observedAt⟩
  contested : report.ok = true → report.Contested port → attribution.of port = none
  failed : report.ok = false → attribution.reading port = .unknown

/-- The named listeners on the port have one holder, of one kind. -/
def OneHolder (report : PortReport) (port : Int) : Prop :=
  ∀ left ∈ report.namedOn port, ∀ right ∈ report.namedOn port,
    left.unit = right.unit ∧ left.scope = right.scope ∧ left.transient = right.transient

/-- A port that has several holders has an unnamed listener too; no port of a failed sweep has one
holder. -/
def Readable (report : PortReport) (port : Int) : Prop :=
  if report.ok then (∃ listener ∈ report.listeners, listener.port = port ∧
    listener.attributed = false) ∨ report.OneHolder port
  else report.namedOn port = [] ∨ ¬ report.OneHolder port

theorem mem_namedOn {report : PortReport} {port : Int} {listener : Listener} :
    listener ∈ report.namedOn port ↔
    listener ∈ report.listeners ∧ listener.attributed = true ∧ listener.port = port := by
  rw [namedOn, List.mem_filter, Bool.and_eq_true, decide_eq_true_eq]

end PortReport

/-! ## Holders -/

theorem partitionColon_append {front : Text} (rest : Text) (absent : codePoint ':' ∉ front) :
    partitionColon (front ++ [codePoint ':'] ++ rest) = (front, rest) := by
  have apart : ∀ c ∈ front, decide (c ≠ codePoint ':') = true := by
    intro c member
    rw [decide_eq_true_eq]
    intro same
    exact absent (same ▸ member)
  rw [partitionColon, List.append_assoc, List.takeWhile_append_of_pos apart,
    List.dropWhile_append_of_pos apart]
  simp

theorem colon_notMem (scope : Scope) : codePoint ':' ∉ scope.name := by cases scope <;> decide

theorem scopeName_injective {left right : Scope} (same : left.name = right.name) : left = right := by
  cases left <;> cases right <;> first | rfl | exact absurd same (by decide)

theorem attributed_iff {listener : Listener} : listener.attributed = true ↔
    ∃ unit scope, listener.unit = some unit ∧ listener.scope = some scope := by
  have together := listener.together
  rw [Listener.attributed]
  cases unit : listener.unit <;> cases scope : listener.scope <;> simp_all

theorem holder_of {listener : Listener} {unit : Text} {scope : Scope}
    (named : listener.unit = some unit) (placed : listener.scope = some scope) :
    listener.holder = scope.name ++ [codePoint ':'] ++ unit := by
  rw [Listener.holder, named, placed]
  rfl

theorem holder_eq_iff {left right : Listener} (leftNamed : left.attributed = true)
    (rightNamed : right.attributed = true) :
    left.holder = right.holder ↔ left.unit = right.unit ∧ left.scope = right.scope := by
  obtain ⟨leftUnit, leftScope, leftHas, leftIn⟩ := attributed_iff.mp leftNamed
  obtain ⟨rightUnit, rightScope, rightHas, rightIn⟩ := attributed_iff.mp rightNamed
  rw [holder_of leftHas leftIn, holder_of rightHas rightIn, leftHas, rightHas, leftIn, rightIn]
  constructor
  · intro same
    have parts := congrArg partitionColon same
    rw [partitionColon_append _ (colon_notMem leftScope),
      partitionColon_append _ (colon_notMem rightScope)] at parts
    obtain ⟨scopes, units⟩ := Prod.mk.inj parts
    exact ⟨congrArg some units, congrArg some (scopeName_injective scopes)⟩
  · intro same
    rw [Option.some.inj same.1, Option.some.inj same.2]

/-! ## The attribution -/

/-- What the attribution keeps of a sweep. -/
structure Kept (report : PortReport) (attribution : PortAttribution) : Prop where
  holders : ∀ port name, attribution.holders.get? port = some name ↔
    report.sightings.filter (fun sighting => sighting.port = port) = [⟨port, name, false⟩]
  transient : ∀ port name, attribution.transientHolders.get? port = some name ↔
    report.sightings.filter (fun sighting => sighting.port = port) = [⟨port, name, true⟩]
  unattributed : if report.ok then ∃ ports, attribution.unattributed = some ports ∧
      ∀ port, port ∈ ports ↔ ∃ listener ∈ report.listeners, listener.port = port ∧
        listener.attributed = false
    else attribution.unattributed = none

theorem seenUnattributed_ok (database : CharDatabase) {blob : List (Text × Json)} {ports : List Int}
    (ok : Json.field (text "ok") blob = .bool true)
    (listed : Json.field (text "unattributed_ports") blob = .arr (ports.map .int)) :
    ∃ seen, seenUnattributed database blob = .ok (some seen) ∧ ∀ port, port ∈ seen ↔ port ∈ ports := by
  have gathered : ∀ before, ∃ seen, (ports.map Json.int).foldlM (seePort database) before =
      .ok seen ∧ ∀ port, port ∈ seen ↔ port ∈ before ∨ port ∈ ports := by
    clear listed
    induction ports with
    | nil => exact fun before => ⟨before, rfl, by simp⟩
    | cons first rest ih =>
      intro before
      obtain ⟨seen, run, inside⟩ := ih (first :: before)
      refine ⟨seen, run, fun port => ?_⟩
      rw [inside, List.mem_cons, List.mem_cons]
      tauto
  obtain ⟨seen, run, inside⟩ := gathered []
  refine ⟨seen, ?_, by simpa using inside⟩
  simp only [seenUnattributed, ok, Json.truthy, Bool.not_true, Bool.false_eq_true, if_false,
    listed, run]
  rfl

def attributionOf (report : PortReport) (observedAt : Option Text)
    (unattributed : Option (List Int)) : PortAttribution :=
  let held := Held.noteAll ⟨.empty, []⟩ report.sightings
  { holders := Dict.ofEntries (held.unique.filter fun entry => entry.1 ∉ held.transient)
    transientHolders := Dict.ofEntries (held.unique.filter fun entry => entry.1 ∈ held.transient)
    observedAt
    unattributed }

theorem readBack_kept (database : CharDatabase) (repr : PyFloat → Text) (report : PortReport)
    (observedAt : Option Text) (few : report.ok = true → report.unattributedPorts.length ≤ 200) :
    ∃ attribution, report.readBack database repr observedAt = .ok attribution ∧
      attribution.observedAt = observedAt ∧ Kept report attribution := by
  obtain ⟨blob, stored, filled, ok, listed, units, passing⟩ := reloaded_asBlob repr report blobLimit
  have held : readHolders database blob ⟨.empty, []⟩ (text "unit_ports") false =
      .ok (Held.noteAll ⟨.empty, []⟩ (sightings false (report.unitPorts false))) :=
    readHolders_fields database false _ units
  have all : readHolders database blob
      (Held.noteAll ⟨.empty, []⟩ (sightings false (report.unitPorts false)))
      (text "transient_ports") true = .ok (Held.noteAll ⟨.empty, []⟩ report.sightings) := by
    rw [readHolders_fields database true _ passing, PortReport.sightings, noteAll_append]
  have distinct := unique_nodup (Held.noteAll ⟨.empty, []⟩ report.sightings)
  have seen : ∃ unattributed, seenUnattributed database blob = .ok unattributed ∧
      if report.ok then ∃ ports, unattributed = some ports ∧
        ∀ port, port ∈ ports ↔ ∃ listener ∈ report.listeners, listener.port = port ∧
          listener.attributed = false
      else unattributed = none := by
    cases done : report.ok with
    | true =>
      have whole : report.unattributedPorts.take blobLimit = report.unattributedPorts :=
        List.take_of_length_le (few done)
      rw [done] at ok
      rw [whole] at listed
      obtain ⟨ports, read, inside⟩ := seenUnattributed_ok database ok listed
      refine ⟨some ports, read, ports, rfl, fun port => ?_⟩
      rw [inside, PortReport.unattributedPorts, mem_portSet]
      simp only [List.mem_map, List.mem_filter, Bool.not_eq_true']
      constructor
      · intro known
        obtain ⟨listener, ⟨member, unnamed⟩, at_⟩ := known
        exact ⟨listener, member, at_, unnamed⟩
      · intro known
        obtain ⟨listener, member, at_, unnamed⟩ := known
        exact ⟨listener, ⟨member, unnamed⟩, at_⟩
    | false => exact ⟨none, by simp [seenUnattributed, ok, done, Json.truthy], rfl⟩
  obtain ⟨unattributed, read, known⟩ := seen
  have back : report.readBack database repr observedAt =
      .ok (attributionOf report observedAt unattributed) := by
    cases blob with
    | nil => exact absurd rfl filled
    | cons field rest =>
      simp only [PortReport.readBack, stored, Json.items, attributionFromBlob, held, all, read,
        bind, Except.bind, pure, Except.pure, attributionOf]
  refine ⟨_, back, rfl, ?_, ?_, known⟩
  · intro port name
    rw [attributionOf, ofEntries_iff (distinct.sublist (List.filter_sublist.map _)),
      List.mem_filter, ← once_iff]
    simp
  · intro port name
    rw [attributionOf, ofEntries_iff (distinct.sublist (List.filter_sublist.map _)),
      List.mem_filter, ← once_iff]
    simp

/-! ## The readings -/

theorem filter_eq_singleton {seen : List Sighting} (nodup : seen.Nodup) {port : Int}
    {sighting : Sighting} (member : sighting ∈ seen) (at_ : sighting.port = port)
    (only : ∀ other ∈ seen, other.port = port → other = sighting) :
    seen.filter (fun sighting => sighting.port = port) = [sighting] := by
  refine List.perm_singleton.mp
    ((List.perm_ext_iff_of_nodup (nodup.filter _) (List.nodup_singleton _)).mpr ?_)
  intro other
  rw [List.mem_filter, decide_eq_true_eq, List.mem_singleton]
  constructor
  · exact fun inside => only other inside.1 inside.2
  · intro same
    rw [same]
    exact ⟨member, at_⟩

theorem sightedOnce_iff {report : PortReport} {port : Int} :
    (∃ sighting, report.sightings.filter (fun sighting => sighting.port = port) = [sighting]) ↔
      report.namedOn port ≠ [] ∧ report.OneHolder port := by
  have sighted : ∀ listener ∈ report.namedOn port,
      (⟨listener.port, listener.holder, listener.transient⟩ : Sighting) ∈ report.sightings ∧
        listener.port = port := by
    intro listener member
    obtain ⟨inside, named, at_⟩ := PortReport.mem_namedOn.mp member
    exact ⟨PortReport.mem_sightings.mpr ⟨listener, inside, named, rfl⟩, at_⟩
  constructor
  · intro known
    obtain ⟨sighting, once⟩ := known
    have only : ∀ listener ∈ report.namedOn port,
        (⟨listener.port, listener.holder, listener.transient⟩ : Sighting) = sighting := by
      intro listener member
      obtain ⟨inside, at_⟩ := sighted listener member
      exact List.mem_singleton.mp (once ▸ List.mem_filter.mpr ⟨inside, decide_eq_true at_⟩)
    have taken : sighting ∈ report.sightings.filter fun sighting => sighting.port = port :=
      once ▸ List.mem_cons_self
    obtain ⟨listed, at_⟩ := List.mem_filter.mp taken
    obtain ⟨listener, member, named, same⟩ := PortReport.mem_sightings.mp listed
    refine ⟨?_, ?_⟩
    · refine List.ne_nil_of_mem (PortReport.mem_namedOn.mpr ⟨member, named, ?_⟩)
      rw [same] at at_
      exact of_decide_eq_true at_
    · intro left leftIn right rightIn
      have one := (only left leftIn).trans (only right rightIn).symm
      have names := (holder_eq_iff (PortReport.mem_namedOn.mp leftIn).2.1
        (PortReport.mem_namedOn.mp rightIn).2.1).mp (congrArg Sighting.holder one)
      exact ⟨names.1, names.2, congrArg Sighting.transient one⟩
  · intro known
    obtain ⟨some, one⟩ := known
    obtain ⟨listener, member⟩ := List.exists_mem_of_ne_nil _ some
    obtain ⟨inside, at_⟩ := sighted listener member
    refine ⟨_, filter_eq_singleton report.sightings_nodup inside at_ ?_⟩
    intro other listed same
    obtain ⟨found, foundIn, named, rfl⟩ := PortReport.mem_sightings.mp listed
    have also : found ∈ report.namedOn port := PortReport.mem_namedOn.mpr ⟨foundIn, named, same⟩
    obtain ⟨units, scopes, kinds⟩ := one found also listener member
    have names := (holder_eq_iff named (PortReport.mem_namedOn.mp member).2.1).mpr ⟨units, scopes⟩
    rw [Sighting.mk.injEq]
    exact ⟨same.trans at_.symm, names, kinds⟩

variable {report : PortReport} {attribution : PortAttribution} {port : Int}

theorem reading_heldBy (kept : Kept report attribution) (some : report.namedOn port ≠ [])
    (one : report.OneHolder port) : ∃ unit scope transient, report.HeldBy port unit scope transient ∧
      attribution.reading port = (if transient then .transient else .held) ∧
      attribution.of port = .some ⟨unit, scope.name, transient, attribution.observedAt⟩ := by
  obtain ⟨sighting, once⟩ := sightedOnce_iff.mpr ⟨some, one⟩
  have taken : sighting ∈ report.sightings.filter fun sighting => sighting.port = port :=
    once ▸ List.mem_cons_self
  obtain ⟨listed, at_⟩ := List.mem_filter.mp taken
  obtain ⟨listener, member, named, rfl⟩ := PortReport.mem_sightings.mp listed
  have here : listener ∈ report.namedOn port :=
    PortReport.mem_namedOn.mpr ⟨member, named, of_decide_eq_true at_⟩
  obtain ⟨unit, scope, inUnit, inScope⟩ := attributed_iff.mp named
  have parts : partitionColon listener.holder = (scope.name, unit) := by
    rw [holder_of inUnit inScope, partitionColon_append _ (colon_notMem scope)]
  have filled : (Option.some listener.holder).filter (· ≠ []) = Option.some listener.holder := by
    rw [holder_of inUnit inScope]
    simp
  have place : listener.port = port := of_decide_eq_true at_
  rw [place] at once
  refine ⟨unit, scope, listener.transient, ⟨some, fun other inside => ?_⟩, ?_⟩
  · obtain ⟨units, scopes, kinds⟩ := one other inside listener here
    exact ⟨units.trans inUnit, scopes.trans inScope, kinds⟩
  · cases kind : listener.transient with
    | false =>
      rw [kind] at once
      have found := (kept.holders port _).mpr once
      simp only [PortAttribution.reading, PortAttribution.of, PortAttribution.holderOf, found,
        filled, parts]
      exact ⟨rfl, trivial⟩
    | true =>
      rw [kind] at once
      have found := (kept.transient port _).mpr once
      have absent : attribution.holders.get? port = none := by
        cases held : attribution.holders.get? port with
        | none => rfl
        | some name =>
          have other := (kept.holders port name).mp held
          rw [once] at other
          simp at other
      simp only [PortAttribution.reading, PortAttribution.of, PortAttribution.holderOf, found,
        absent, filled]
      simp [parts]

theorem reading_unheld (kept : Kept report attribution)
    (several : ¬(report.namedOn port ≠ [] ∧ report.OneHolder port)) : attribution.of port = none ∧
      attribution.reading port = match attribution.unattributed with
        | none => .unknown
        | some ports => if port ∈ ports then .unattributed else .unswept := by
  rw [← sightedOnce_iff] at several
  have held : attribution.holders.get? port = none := by
    cases found : attribution.holders.get? port with
    | none => rfl
    | some name => exact absurd ⟨_, (kept.holders port name).mp found⟩ several
  have passing : attribution.transientHolders.get? port = none := by
    cases found : attribution.transientHolders.get? port with
    | none => rfl
    | some name => exact absurd ⟨_, (kept.transient port name).mp found⟩ several
  simp only [PortAttribution.of, PortAttribution.reading, held, passing]
  exact ⟨rfl, rfl⟩

theorem contested_not_one (contested : report.Contested port) : ¬ report.OneHolder port := by
  intro one
  obtain ⟨left, leftIn, right, rightIn, apart⟩ := contested
  obtain ⟨units, scopes, _⟩ := one left leftIn right rightIn
  exact apart (by rw [units, scopes])

theorem faithful_of_readable (kept : Kept report attribution) (readable : report.Readable port) :
    report.Faithful attribution port := by
  have stored := kept.unattributed
  rw [PortReport.Readable] at readable
  by_cases held : report.namedOn port ≠ [] ∧ report.OneHolder port
  · obtain ⟨unit, scope, transient, heldBy, reading, of⟩ := reading_heldBy kept held.1 held.2
    obtain ⟨listener, member⟩ := List.exists_mem_of_ne_nil _ held.1
    obtain ⟨inside, _, at_⟩ := PortReport.mem_namedOn.mp member
    refine ⟨?_, ?_, ?_, ?_, ?_⟩
    · intro _
      rw [reading]
      refine iff_of_false (by cases transient <;> simp) ?_
      exact fun none => none listener inside at_
    · intro _ isHeld
      cases transient with
      | false => exact ⟨unit, scope, heldBy, of⟩
      | true => simp [reading] at isHeld
    · intro _ isTransient
      cases transient with
      | false => simp [reading] at isTransient
      | true => exact ⟨unit, scope, heldBy, of⟩
    · exact fun _ contested => absurd held.2 (contested_not_one contested)
    · intro failed
      rw [failed, if_neg Bool.false_ne_true] at readable
      exact absurd held (by tauto)
  · obtain ⟨nobody, reading⟩ := reading_unheld kept held
    cases done : report.ok with
    | false =>
      rw [done, if_neg Bool.false_ne_true] at stored
      rw [stored] at reading
      exact ⟨by simp [done], by simp [done], by simp [done], by simp [done], fun _ => reading⟩
    | true =>
      rw [done, if_pos rfl] at stored readable
      obtain ⟨ports, known, listed⟩ := stored
      rw [known] at reading
      change attribution.reading port = if port ∈ ports then .unattributed else .unswept at reading
      have unnamedOrNone : port ∉ ports ↔ ∀ listener ∈ report.listeners, listener.port ≠ port := by
        rw [listed]
        constructor
        · intro unlisted listener member at_
          refine held ⟨List.ne_nil_of_mem (PortReport.mem_namedOn.mpr ⟨member, ?_, at_⟩), ?_⟩
          · by_contra unnamed
            exact unlisted ⟨listener, member, at_, Bool.eq_false_of_not_eq_true unnamed⟩
          · exact readable.resolve_left unlisted
        · intro none found
          obtain ⟨listener, member, at_, _⟩ := found
          exact none listener member at_
      refine ⟨fun _ => ?_, ?_, ?_, fun _ _ => nobody, by simp [done]⟩
      · rw [← unnamedOrNone, reading]
        split
        · rename_i inside
          simp [inside]
        · rename_i outside
          simp [outside]
      · intro _ isHeld
        rw [reading] at isHeld
        split at isHeld <;> cases isHeld
      · intro _ isTransient
        rw [reading] at isTransient
        split at isTransient <;> cases isTransient

theorem readable_of_faithful (kept : Kept report attribution)
    (faithful : report.Faithful attribution port) : report.Readable port := by
  have stored := kept.unattributed
  rw [PortReport.Readable]
  cases done : report.ok with
  | false =>
    rw [if_neg Bool.false_ne_true]
    by_contra readable
    rw [not_or, not_not] at readable
    obtain ⟨unit, scope, transient, _, reading, _⟩ := reading_heldBy kept readable.1 readable.2
    rw [faithful.failed done] at reading
    cases transient <;> cases reading
  | true =>
    rw [if_pos rfl, or_iff_not_imp_right]
    intro several
    rw [done, if_pos rfl] at stored
    obtain ⟨ports, known, listed⟩ := stored
    rw [← listed]
    by_contra outside
    have reading := (reading_unheld kept fun held => several held.2).2
    rw [known] at reading
    have unswept := (faithful.unswept done).mp (by simp [reading, outside])
    refine several fun left leftIn _ _ => ?_
    obtain ⟨member, _, at_⟩ := PortReport.mem_namedOn.mp leftIn
    exact absurd at_ (unswept left member)

/-- The readings of a stored sweep say what it saw exactly when no port that several holders hold
lacks an unnamed listener. -/
theorem readBack_faithful_iff (database : CharDatabase) (repr : PyFloat → Text)
    (report : PortReport) (observedAt : Option Text)
    (few : report.ok = true → report.unattributedPorts.length ≤ 200) :
    ∃ attribution, report.readBack database repr observedAt = .ok attribution ∧
      attribution.observedAt = observedAt ∧
      ((∀ port, report.Faithful attribution port) ↔ ∀ port, report.Readable port) := by
  obtain ⟨attribution, read, stamped, kept⟩ := readBack_kept database repr report observedAt few
  refine ⟨attribution, read, stamped, ?_⟩
  exact ⟨fun faithful port => readable_of_faithful kept (faithful port),
    fun readable port => faithful_of_readable kept (readable port)⟩

/-! ## A port that two units hold -/

def listenerOf (port : Int) (unit : String) : Listener where
  port
  unit := some (text unit)
  scope := some .user
  runtimeCreated := false
  together := rfl
  decoded := by
    intro name member
    rw [← Option.some.inj member]
    exact text_plain unit

def reportOf (listeners : List Listener) : PortReport where
  findings := []
  error := none
  listeners
  unknownRegistryProjects := []
  registryDocument := none
  registryRows := 0
  registryError := none
  auditedRanges := []

def sharedPort : PortReport := reportOf [listenerOf 8080 "a.service", listenerOf 8080 "b.service"]

/-- A unit and a session scope, each on a port of its own, and one that listens twice. -/
def ownPorts : PortReport :=
  reportOf [listenerOf 8080 "a.service", listenerOf 5432 "code.scope", listenerOf 8080 "a.service"]

theorem readBack_faithful_ownPorts :
    ∃ attribution, ownPorts.readBack .ascii (fun _ => []) none = .ok attribution ∧
    attribution.observedAt = none ∧ ∀ port, ownPorts.Faithful attribution port := by
  obtain ⟨attribution, read, stamped, faithful⟩ :=
    readBack_faithful_iff .ascii (fun _ => []) ownPorts none fun _ => by decide
  have one : (ownPorts.listeners.all fun left => ownPorts.listeners.all fun right =>
      left.port ≠ right.port ||
      (left.unit = right.unit && left.scope = right.scope && left.transient = right.transient)) =
        true := by
    decide
  simp only [List.all_eq_true, Bool.or_eq_true, Bool.and_eq_true, decide_eq_true_eq] at one
  refine ⟨attribution, read, stamped, faithful.mpr fun port => ?_⟩
  rw [PortReport.Readable, if_pos (show ownPorts.ok = true from rfl)]
  right
  intro left inLeft right inRight
  obtain ⟨leftMember, _, leftPort⟩ := PortReport.mem_namedOn.mp inLeft
  obtain ⟨rightMember, _, rightPort⟩ := PortReport.mem_namedOn.mp inRight
  obtain ⟨⟨unit, scope⟩, transient⟩ :=
    (one left leftMember right rightMember).resolve_left
      (not_not_intro (leftPort.trans rightPort.symm))
  exact ⟨unit, scope, transient⟩

/-- Two units listen on 8080, and the sweep is read as not having seen the port. -/
theorem sharedPort_unswept :
    ∃ attribution, sharedPort.readBack .ascii (fun _ => []) none = .ok attribution ∧
    attribution.reading 8080 = .unswept ∧ ¬ sharedPort.Faithful attribution 8080 := by
  obtain ⟨attribution, read, _, kept⟩ :=
    readBack_kept .ascii (fun _ => []) sharedPort none fun _ => by decide
  have first : listenerOf 8080 "a.service" ∈ sharedPort.namedOn 8080 := by
    simp [PortReport.namedOn, sharedPort, reportOf, listenerOf, Listener.attributed]
  have second : listenerOf 8080 "b.service" ∈ sharedPort.namedOn 8080 := by
    simp [PortReport.namedOn, sharedPort, reportOf, listenerOf, Listener.attributed]
  have several : ¬ sharedPort.OneHolder 8080 := by
    intro one
    have same := (one _ first _ second).1
    exact absurd (text_injective (Option.some.inj same)) (by simp)
  have reading := (reading_unheld kept fun held => several held.2).2
  obtain ⟨ports, known, listed⟩ := kept.unattributed
  rw [known] at reading
  have unlisted : (8080 : Int) ∉ ports := by
    rw [listed]
    simp [sharedPort, reportOf, listenerOf, Listener.attributed]
  have unswept : attribution.reading 8080 = .unswept := reading.trans (if_neg unlisted)
  refine ⟨attribution, read, unswept, fun faithful => ?_⟩
  exact (faithful.unswept rfl).mp unswept _ (PortReport.mem_namedOn.mp first).1 rfl

end SysadminAssistant.Units.Ports
