import SysadminAssistant.Python.DecimalText
import SysadminAssistant.Units.SweptPorts

namespace SysadminAssistant.Units.Ports

open Python

/-! What the attribution that is read back off a stored sweep says of each port. -/

/-! ## What is stored -/

theorem mem_portSet {ports : List Int} {port : Int} : port ∈ portSet ports ↔ port ∈ ports := by
  rw [portSet, List.mem_insertionSort, List.mem_dedup]

theorem portSet_nodup (ports : List Int) : (portSet ports).Nodup :=
  (List.perm_insertionSort _ _).nodup_iff.mpr (List.nodup_dedup ports)

private theorem gathered_iff {listeners : List Listener} {port : Int} (old : Option (List Int)) :
    (∃ ports, listeners.foldl (fun old listener => some (listener.port :: old.getD [])) old =
      some ports ∧
      port ∈ ports) ↔ (∃ listener ∈ listeners, listener.port = port) ∨ ∃ ports, old = some ports ∧
        port ∈ ports := by
  induction listeners generalizing old with
  | nil => simp
  | cons listener rest ih =>
    rw [List.foldl_cons, ih]
    cases old with
    | none => simp [or_comm, eq_comm]
    | some ports =>
      simp only [Option.getD_some, Option.some.injEq, exists_eq_left', List.mem_cons, exists_eq_or_imp]
      constructor
      · intro known
        rcases known with ⟨other, member, same⟩ | same | before
        · exact Or.inl (Or.inr ⟨other, member, same⟩)
        · exact Or.inl (Or.inl same.symm)
        · exact Or.inr before
      · intro known
        rcases known with (same | ⟨other, member, same⟩) | before
        · exact Or.inr (Or.inl same.symm)
        · exact Or.inl ⟨other, member, same⟩
        · exact Or.inr (Or.inr before)

theorem heldPorts_iff {listeners : List Listener} {holder : Text} {port : Int} :
    (∃ ports, (holder, ports) ∈ heldPorts listeners ∧ port ∈ ports) ↔
      ∃ listener ∈ listeners, listener.holder = holder ∧ listener.port = port := by
  have gathered := @gathered_iff (listeners.filter fun listener => listener.holder = holder) port none
  simp only [reduceCtorEq, false_and, exists_false, or_false, List.mem_filter, decide_eq_true_eq]
    at gathered
  constructor
  · intro known
    obtain ⟨ports, member, inside⟩ := known
    obtain ⟨entry, listed, same⟩ := List.mem_map.mp member
    obtain ⟨rfl, rfl⟩ := Prod.mk.inj same
    have found := Dict.get?_eq_some.mpr ((List.mem_insertionSort _).mp listed)
    rw [Dict.get?_foldl_joinAt] at found
    obtain ⟨listener, ⟨taken, named⟩, at_⟩ := gathered.mp ⟨entry.2, found, mem_portSet.mp inside⟩
    exact ⟨listener, taken, named, at_⟩
  · intro known
    obtain ⟨listener, taken, named, at_⟩ := known
    obtain ⟨ports, found, inside⟩ := gathered.mpr ⟨listener, ⟨taken, named⟩, at_⟩
    have listed :=
      Dict.get?_eq_some.mp ((Dict.get?_foldl_joinAt listeners Dict.empty holder).trans found)
    refine ⟨portSet ports, List.mem_map.mpr ⟨(holder, ports), (List.mem_insertionSort _).mpr listed,
      rfl⟩, ?_⟩
    exact mem_portSet.mpr inside

theorem heldPorts_nodup (listeners : List Listener) : ((heldPorts listeners).map Prod.fst).Nodup := by
  rw [heldPorts, List.map_map]
  refine ((List.perm_insertionSort _ _).map _).nodup_iff.mpr ?_
  exact Dict.nodup _

theorem heldPorts_portsNodup {listeners : List Listener} {entry : Text × List Int}
    (member : entry ∈ heldPorts listeners) : entry.2.Nodup := by
  obtain ⟨listed, _, same⟩ := List.mem_map.mp member
  rw [← same]
  exact portSet_nodup _

theorem heldPorts_key {listeners : List Listener} {entry : Text × List Int}
    (member : entry ∈ heldPorts listeners) : ∃ listener ∈ listeners, listener.holder = entry.1 := by
  obtain ⟨listed, inside, same⟩ := List.mem_map.mp member
  have found := Dict.get?_eq_some.mpr ((List.mem_insertionSort _).mp inside)
  rw [← same]
  exact Dict.exists_of_get?_foldl_joinAt found

theorem holder_plain (listener : Listener) : ∀ c ∈ listener.holder, c.isSurrogate = false := by
  intro c member
  rcases List.mem_append.mp member with front | inUnit
  · rcases List.mem_append.mp front with inScope | colon
    · cases named : listener.scope with
      | none => exact text_plain _ c (by simpa [named] using inScope)
      | some scope =>
        rw [named] at inScope
        cases scope <;> exact text_plain _ c inScope
    · rw [List.mem_singleton.mp colon]
      exact codePoint_plain ':'
  · cases named : listener.unit with
    | none => exact text_plain _ c (by simpa [named] using inUnit)
    | some unit => exact listener.decoded unit named c (by simpa [named] using inUnit)

/-! ## What is read back -/

variable (repr : PyFloat → Text)

theorem reloaded_record {fields : List (Text × PyValue)}
    (plain : ∀ field ∈ fields, ∀ c ∈ field.1, c.isSurrogate = false)
    (nodup : (fields.map Prod.fst).Nodup) :
    (record fields).reloaded repr = .obj
      (fields.map fun field => (field.1, field.2.reloaded repr)) := by
  have pairs : PyValue.reloadedEntries repr (fields.map fun field => (PyKey.str field.1, field.2)) =
      fields.map fun field => (field.1, field.2.reloaded repr) := by
    rw [PyValue.reloadedEntries_eq, List.map_map]
    refine List.map_congr_left ?_
    intro field member
    exact Prod.ext (Text.paired_of_plain (plain field member)) rfl
  rw [record, PyValue.reloaded, pairs,
    Json.ofPairs_of_nodup (by simpa [List.map_map, Function.comp_def] using nodup)]

theorem reloaded_portList (ports : List Int) :
    (portList ports).reloaded repr = .arr (ports.map .int) := by
  rw [portList, PyValue.reloaded, PyValue.reloadedItems_eq, List.map_map]
  rfl

/-- The JSON of a holder map. -/
def holderFields (held : List (Text × List Int)) : List (Text × Json) :=
  held.map fun entry => (entry.1, .arr (entry.2.map .int))

theorem reloaded_holderMap (listeners : List Listener) :
    (holderMap (heldPorts listeners)).reloaded repr = .obj (holderFields (heldPorts listeners)) := by
  rw [holderMap, reloaded_record, holderFields, List.map_map]
  · congr 1
    refine List.map_congr_left ?_
    intro entry _
    exact Prod.ext rfl (reloaded_portList repr entry.2)
  · intro field member
    obtain ⟨entry, listed, same⟩ := List.mem_map.mp member
    obtain ⟨listener, _, named⟩ := heldPorts_key listed
    rw [← same, ← named]
    exact holder_plain listener
  · rw [List.map_map]
    exact heldPorts_nodup listeners

/-- One holder of one port, in one of the two maps. -/
structure Sighting where
  port : Int
  holder : Text
  transient : Bool
deriving DecidableEq

def sightings (transient : Bool) (held : List (Text × List Int)) : List Sighting :=
  held.flatMap fun entry => entry.2.map fun port => ⟨port, entry.1, transient⟩

theorem mem_sightings {transient : Bool} {held : List (Text × List Int)} {sighting : Sighting} :
    sighting ∈ sightings transient held ↔
      sighting.transient = transient ∧ ∃ ports, (sighting.holder, ports) ∈ held ∧
        sighting.port ∈ ports := by
  obtain ⟨port, holder, kind⟩ := sighting
  simp only [sightings, List.mem_flatMap, List.mem_map, Sighting.mk.injEq, Prod.exists]
  constructor
  · intro known
    obtain ⟨name, ports, listed, number, inside, rfl, rfl, rfl⟩ := known
    exact ⟨rfl, ports, listed, inside⟩
  · intro known
    obtain ⟨rfl, ports, listed, inside⟩ := known
    exact ⟨holder, ports, listed, port, inside, rfl, rfl, rfl⟩

theorem sightings_nodup {transient : Bool} {held : List (Text × List Int)}
    (keys : (held.map Prod.fst).Nodup) (ports : ∀ entry ∈ held, entry.2.Nodup) :
    (sightings transient held).Nodup := by
  induction held with
  | nil => exact List.nodup_nil
  | cons entry rest ih =>
    obtain ⟨fresh, distinct⟩ := List.nodup_cons.mp keys
    rw [sightings, List.flatMap_cons, ← sightings]
    refine List.nodup_append.mpr ⟨?_, ih distinct fun other member =>
      ports other (List.mem_cons_of_mem _ member), ?_⟩
    · refine (ports entry List.mem_cons_self).map ?_
      intro left right same
      exact congrArg Sighting.port same
    · intro left inFirst right later same
      obtain ⟨port, _, made⟩ := List.mem_map.mp inFirst
      obtain ⟨_, listed, member, _⟩ := mem_sightings.mp later
      refine fresh (List.mem_map.mpr ⟨_, member, ?_⟩)
      rw [← same, ← made]

def Held.noteAll (held : Held) (seen : List Sighting) : Held :=
  seen.foldl (fun held sighting => held.note sighting.transient sighting.holder sighting.port) held

theorem noteAll_append (held : Held) (first second : List Sighting) :
    held.noteAll (first ++ second) = (held.noteAll first).noteAll second := List.foldl_append

theorem readPorts_ints (database : CharDatabase) (isTransient : Bool) (holder : Text) (held : Held)
    (ports : List Int) : readPorts database isTransient holder held (ports.map .int) =
      .ok (held.noteAll (ports.map fun port => ⟨port, holder, isTransient⟩)) := by
  induction ports generalizing held with
  | nil => rfl
  | cons port rest ih => exact ih (held.note isTransient holder port)

theorem readHolders_fields (database : CharDatabase) {blob : List (Text × Json)} {key : Text}
    {entries : List (Text × List Int)} (isTransient : Bool) (held : Held)
    (found : Json.field key blob = .obj (holderFields entries)) :
    readHolders database blob held key isTransient = .ok
      (held.noteAll (sightings isTransient entries)) := by
  rw [readHolders, found]
  clear found
  induction entries generalizing held with
  | nil => rfl
  | cons entry rest ih =>
    simp only [holderFields, List.map_cons, List.foldlM_cons, readPorts_ints, bind, Except.bind]
    rw [sightings, List.flatMap_cons, noteAll_append]
    exact ih _

theorem noteAll_counts (held : Held) (seen : List Sighting) : (held.noteAll seen).counts =
    seen.foldl (Dict.joinAt Sighting.port fun names sighting => names.getD [] ++ [sighting.holder])
      held.counts := by
  induction seen generalizing held with
  | nil => rfl
  | cons sighting rest ih => exact ih (held.note sighting.transient sighting.holder sighting.port)

theorem noteAll_transient (held : Held) (seen : List Sighting) (port : Int) :
    port ∈ (held.noteAll seen).transient ↔
    port ∈ held.transient ∨ ∃ sighting ∈ seen, sighting.port = port ∧ sighting.transient = true := by
  induction seen generalizing held with
  | nil => simp [Held.noteAll]
  | cons sighting rest ih =>
    rw [Held.noteAll, List.foldl_cons, ← Held.noteAll, ih]
    cases kind : sighting.transient with
    | false => simp [Held.note, kind]
    | true =>
      simp only [Held.note, if_true, List.mem_cons, exists_eq_or_imp, kind, and_true,
        eq_comm (a := port)]
      tauto

private theorem joinedNames (seen : List Sighting) (old : Option (List Text)) :
    seen.foldl (fun names sighting => some (names.getD [] ++ [sighting.holder])) old =
      if seen = [] then old else some (old.getD [] ++ seen.map Sighting.holder) := by
  induction seen generalizing old with
  | nil => rfl
  | cons sighting rest ih =>
    rw [List.foldl_cons, ih, if_neg (List.cons_ne_nil _ _)]
    by_cases last : rest = []
    · rw [if_pos last, last, List.map_cons, List.map_nil]
    · rw [if_neg last, Option.getD_some, List.map_cons, List.append_assoc, List.singleton_append]

theorem unique_iff {seen : List Sighting} {port : Int} {name : Text} :
    (port, name) ∈ (Held.noteAll ⟨.empty, []⟩ seen).unique ↔
      (seen.filter fun sighting => sighting.port = port).map Sighting.holder = [name] := by
  have counted : (Held.noteAll ⟨.empty, []⟩ seen).counts.get? port = some [name] ↔
      (seen.filter fun sighting => sighting.port = port).map Sighting.holder = [name] := by
    rw [noteAll_counts, Dict.get?_foldl_joinAt, joinedNames, Dict.get?_empty]
    split
    · rename_i none
      simp [none]
    · simp
  rw [← counted, Dict.get?_eq_some, Held.unique, List.mem_filterMap]
  constructor
  · intro known
    obtain ⟨entry, listed, single⟩ := known
    split at single
    · rename_i other shape
      obtain ⟨rfl, rfl⟩ := Prod.mk.inj (Option.some.inj single)
      rw [← shape]
      exact listed
    · cases single
  · intro listed
    exact ⟨_, listed, rfl⟩

theorem unique_nodup (held : Held) : (held.unique.map Prod.fst).Nodup := by
  have kept : held.unique.map Prod.fst = (held.counts.entries.filter fun entry =>
      entry.2.length = 1).map Prod.fst := by
    rw [Held.unique]
    induction held.counts.entries with
    | nil => rfl
    | cons entry rest ih =>
      obtain ⟨port, names⟩ := entry
      match names with
      | [] => simpa using ih
      | [name] => simpa using ih
      | first :: second :: more => simpa using ih
  rw [kept]
  exact held.counts.nodup.sublist (List.filter_sublist.map _)

theorem once_iff {seen : List Sighting} {port : Int} {name : Text} {transient : Bool} :
    (port, name) ∈ (Held.noteAll ⟨.empty, []⟩ seen).unique ∧
      (port ∈ (Held.noteAll ⟨.empty, []⟩ seen).transient ↔ transient = true) ↔
      seen.filter (fun sighting => sighting.port = port) = [⟨port, name, transient⟩] := by
  rw [unique_iff, noteAll_transient]
  simp only [List.not_mem_nil, false_or]
  have inside : ∀ sighting, sighting ∈ seen.filter (fun sighting => sighting.port = port) ↔
      sighting ∈ seen ∧ sighting.port = port := by
    intro sighting
    rw [List.mem_filter, decide_eq_true_eq]
  have flagged : (∃ sighting ∈ seen, sighting.port = port ∧ sighting.transient = true) ↔
      ∃ sighting ∈ seen.filter (fun sighting => sighting.port = port), sighting.transient = true := by
    simp only [inside, and_assoc]
  rw [flagged]
  constructor
  · intro known
    obtain ⟨named, kind⟩ := known
    obtain ⟨sighting, once, rfl⟩ := List.map_eq_singleton_iff.mp named
    rw [once] at kind inside ⊢
    have at_ := ((inside sighting).mp List.mem_cons_self).2
    have same : sighting.transient = transient := by
      rw [Bool.eq_iff_iff, ← kind]
      simp
    rw [← at_, ← same]
  · intro once
    rw [once]
    simp

theorem ofEntries_iff {entries : List (Int × Text)} (nodup : (entries.map Prod.fst).Nodup)
    {port : Int} {name : Text} :
    (Dict.ofEntries entries).get? port = some name ↔ (port, name) ∈ entries :=
  ⟨Dict.get?_ofEntries_mem, Dict.get?_ofEntries nodup⟩

/-! ## The sweep and its attribution -/

/-- Every holder of every port, as the two maps store them. -/
def PortReport.sightings (report : PortReport) : List Sighting :=
  Ports.sightings false (report.unitPorts false) ++ Ports.sightings true report.transientPorts

theorem PortReport.mem_sightings {report : PortReport} {sighting : Sighting} :
    sighting ∈ report.sightings ↔ ∃ listener ∈ report.listeners, listener.attributed = true ∧
      sighting = ⟨listener.port, listener.holder, listener.transient⟩ := by
  obtain ⟨port, holder, kind⟩ := sighting
  rw [PortReport.sightings, List.mem_append, Ports.mem_sightings, Ports.mem_sightings,
    PortReport.unitPorts, PortReport.transientPorts, heldPorts_iff, heldPorts_iff]
  simp only [List.mem_filter, Bool.and_eq_true, Bool.not_eq_true', Sighting.mk.injEq]
  constructor
  · intro known
    rcases known with ⟨rfl, listener, ⟨member, ⟨named, lasting⟩, _⟩, rfl, rfl⟩ |
      ⟨rfl, listener, ⟨member, named, passing⟩, rfl, rfl⟩
    · exact ⟨listener, member, named, rfl, rfl, lasting.symm⟩
    · exact ⟨listener, member, named, rfl, rfl, passing.symm⟩
  · intro known
    obtain ⟨listener, member, named, rfl, rfl, rfl⟩ := known
    cases kind : listener.transient with
    | false => exact Or.inl ⟨rfl, listener, ⟨member, ⟨named, kind⟩, by simp⟩, rfl, rfl⟩
    | true => exact Or.inr ⟨rfl, listener, ⟨member, named, kind⟩, rfl, rfl⟩

theorem PortReport.sightings_nodup (report : PortReport) : report.sightings.Nodup := by
  refine List.nodup_append.mpr ⟨?_, ?_, ?_⟩
  · exact Ports.sightings_nodup (heldPorts_nodup _) fun _ member => heldPorts_portsNodup member
  · exact Ports.sightings_nodup (heldPorts_nodup _) fun _ member => heldPorts_portsNodup member
  · intro left lasting right passing same
    have first := (Ports.mem_sightings.mp lasting).1
    have second := (Ports.mem_sightings.mp passing).1
    rw [same, second] at first
    cases first

theorem display_nodup {fields : List (String × PyValue)} (nodup : (fields.map Prod.fst).Nodup) :
    ((fields.map fun field => (text field.1, field.2)).map Prod.fst).Nodup := by
  rw [List.map_map]
  have named := nodup.map text_injective
  rwa [List.map_map] at named

theorem reloaded_display {fields : List (String × PyValue)} (nodup : (fields.map Prod.fst).Nodup) :
    ∃ stored, (display fields).reloaded repr = .obj stored ∧ stored.length = fields.length ∧
      ∀ field ∈ fields, Json.field (text field.1) stored = field.2.reloaded repr := by
  have distinct := display_nodup nodup
  refine ⟨_, reloaded_record repr ?_ distinct, by simp, ?_⟩
  · intro field member
    obtain ⟨named, _, same⟩ := List.mem_map.mp member
    rw [← same]
    exact text_plain _
  · intro field member
    have inside : (text field.1, field.2.reloaded repr) ∈ (fields.map fun field =>
        (text field.1, field.2)).map fun field => (field.1, field.2.reloaded repr) :=
      List.mem_map.mpr ⟨_, List.mem_map.mpr ⟨field, member, rfl⟩, rfl⟩
    rw [Json.field,
      Json.field?_of_mem (by simpa [List.map_map, Function.comp_def] using distinct) inside,
      Option.getD_some]

theorem reloaded_asBlob (report : PortReport) (limit : Nat) :
    ∃ blob, (report.asBlob limit).reloaded repr = .obj blob ∧
    blob ≠ [] ∧ Json.field (text "ok") blob = .bool report.ok ∧
    Json.field (text "unattributed_ports") blob = .arr
      ((report.unattributedPorts.take limit).map .int) ∧
    Json.field (text "unit_ports") blob = .obj (holderFields (report.unitPorts false)) ∧
    Json.field (text "transient_ports") blob = .obj (holderFields report.transientPorts) := by
  have names : ((report.blobFields limit).map Prod.fst).Nodup := by simp [PortReport.blobFields]
  obtain ⟨blob, stored, size, found⟩ := reloaded_display repr names
  have ok := found ("ok", .bool report.ok) (by simp [PortReport.blobFields])
  have unattributed := found ("unattributed_ports", portList (report.unattributedPorts.take limit))
    (by simp [PortReport.blobFields])
  have units :=
    found ("unit_ports", holderMap (report.unitPorts false)) (by simp [PortReport.blobFields])
  have transient :=
    found ("transient_ports", holderMap report.transientPorts) (by simp [PortReport.blobFields])
  refine ⟨blob, stored, ?_, ok, ?_, ?_, ?_⟩
  · intro empty
    rw [empty] at size
    simp [PortReport.blobFields] at size
  · rw [unattributed, reloaded_portList]
  · rw [units, PortReport.unitPorts, reloaded_holderMap]
  · rw [transient, PortReport.transientPorts, reloaded_holderMap]

end SysadminAssistant.Units.Ports
