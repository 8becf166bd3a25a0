import SysadminAssistant.Monitor.HttpCheck

namespace SysadminAssistant.Monitor.Sources

open Python

/-! The log sources that the two files declare (`sysadmin/monitor/services.py`,
`sysadmin/core/config.py`). -/

structure LogRef where
  type : Text := text "journalctl"
  unit : Option Text := none
  path : Option Text := none
  severityFilter : Text := text "warning"
  jsonFormat : Bool := false

structure LogSource where
  name : Text
  type : Text
  unit : Option Text := none
  user : Bool := false
  path : Option Text := none
  severityFilter : Text := text "warning"
  jsonFormat : Bool := false

structure ServiceEntry where
  name : Text
  systemd : Option HttpCheck.SystemdRef
  log : Option LogRef

def ServiceEntry.user (entry : ServiceEntry) : Bool := entry.systemd.all fun ref => ref.scope = .user

/-- `log_unit`: a unit that is not given, or empty, is that of the service. -/
def ServiceEntry.logUnit (entry : ServiceEntry) : Option Text :=
  entry.log.bind fun log => (log.unit.filter (· ≠ [])).or (entry.systemd.map HttpCheck.SystemdRef.unit)

def ServiceEntry.logSource (entry : ServiceEntry) (log : LogRef) : LogSource where
  name := entry.name
  type := log.type
  unit := entry.logUnit
  user := entry.user
  path := log.path
  severityFilter := log.severityFilter
  jsonFormat := log.jsonFormat

/-- `log_sources`. -/
def declaredLogSources (services : List ServiceEntry) : List LogSource :=
  services.filterMap fun entry => entry.log.map entry.logSource

/-- `source.unit`, where it is not empty. -/
def LogSource.unitName (source : LogSource) : Option Text := source.unit.filter (· ≠ [])

def isGiven (value : Option Text) : Bool := value.any (· ≠ [])

def storedSourceName (source : LogSource) : Option Text :=
  if source.type = text "journalctl" && isGiven source.unit then source.unit
  else if source.type = text "file" && isGiven source.path then some source.name
  else none

/-! What the log aggregator reads: the log declarations of services.yaml and the sources of
config.yaml (`sysadmin/monitor/services.py`). -/

/-- A file that was loaded names no service twice. -/
structure ServicesFile where
  services : List ServiceEntry
  distinct : (services.map ServiceEntry.name).Nodup

def logSources (file : ServicesFile) : List LogSource := declaredLogSources file.services

def LogSource.unitKey (source : LogSource) : Option (Text × Bool) :=
  source.unitName.map fun unit => (unit, source.user)

/-- The loop over the sources of config.yaml. -/
def keptExtras (byUnit : List (Text × Bool)) : List Text → List LogSource → List LogSource
  | _, [] => []
  | seen, extra :: rest =>
    if extra.name ∈ seen then keptExtras byUnit seen rest
    else if extra.unitKey.any fun key => key ∈ byUnit then keptExtras byUnit seen rest
    else extra :: keptExtras byUnit (extra.name :: seen) rest

def composedLogSources (file : ServicesFile) (extras : List LogSource) : List LogSource :=
  let sources := logSources file
  sources ++ keptExtras (sources.filterMap LogSource.unitKey)
    (sources.map fun source => source.name) extras

/-! ## What a source is read from -/

/-- A journal, as `journalctl` is asked for it, or a file. -/
inductive Origin where
  | kernel
  | journal (user : Bool) (unit : Text)
  | file (path : Text)
deriving DecidableEq

def LogSource.journalUnit (source : LogSource) : Option Text :=
  if source.type = text "journalctl" then source.unitName else none

def LogSource.filePath (source : LogSource) : Option Text :=
  if source.type = text "file" then source.path.filter (· ≠ []) else none

def journalOf (user : Bool) (unit : Text) : Origin :=
  if unit = text "kernel" then .kernel else .journal user unit

/-- The branches of `LogAggregatorAgent._execute`: a source that names neither a unit nor a path is
not read. -/
def LogSource.origin (source : LogSource) : Option Origin :=
  (source.journalUnit.map (journalOf source.user)).or (source.filePath.map .file)

theorem types_apart : text "journalctl" ≠ text "file" := by decide

theorem LogSource.of_journalUnit {source : LogSource} {unit : Text}
    (journal : source.journalUnit = some unit) :
    source.filePath = none ∧ source.origin = some (journalOf source.user unit) ∧
      storedSourceName source = some unit := by
  have type : source.type = text "journalctl" := by
    by_contra other
    rw [LogSource.journalUnit, if_neg other] at journal
    cases journal
  rw [LogSource.journalUnit, if_pos type] at journal
  have named := Option.filter_eq_some_iff.mp journal
  refine ⟨?_, ?_, ?_⟩
  · rw [LogSource.filePath, if_neg (by rw [type]; exact types_apart)]
  · rw [LogSource.origin, LogSource.journalUnit, if_pos type, journal]
    rfl
  · have given : isGiven source.unit = true := by
      rw [named.1]
      exact named.2
    rw [storedSourceName, type, given, named.1]
    rfl

theorem LogSource.of_filePath {source : LogSource} {path : Text} (file : source.filePath = some path) :
    source.journalUnit = none ∧ source.origin = some (.file path) ∧
      storedSourceName source = some source.name := by
  have type : source.type = text "file" := by
    by_contra other
    rw [LogSource.filePath, if_neg other] at file
    cases file
  rw [LogSource.filePath, if_pos type] at file
  have named := Option.filter_eq_some_iff.mp file
  have other : source.type ≠ text "journalctl" := by rw [type]; exact types_apart.symm
  refine ⟨?_, ?_, ?_⟩
  · rw [LogSource.journalUnit, if_neg other]
  · rw [LogSource.origin, LogSource.journalUnit, if_neg other, LogSource.filePath, if_pos type, file]
    rfl
  · have given : isGiven source.path = true := by
      rw [named.1]
      exact named.2
    rw [storedSourceName, type, given]
    simp [types_apart.symm]

theorem LogSource.origin_cases {source : LogSource} {origin : Origin}
    (reads : source.origin = some origin) :
    (∃ unit, source.journalUnit = some unit ∧ origin = journalOf source.user unit) ∨
      ∃ path, source.filePath = some path ∧ origin = .file path := by
  rw [LogSource.origin] at reads
  cases journal : source.journalUnit with
  | some unit =>
    rw [journal] at reads
    exact Or.inl ⟨unit, rfl, (Option.some.inj reads).symm⟩
  | none =>
    rw [journal, Option.map_none, Option.none_or] at reads
    obtain ⟨path, file, same⟩ := Option.map_eq_some_iff.mp reads
    exact Or.inr ⟨path, file, same.symm⟩

/-! When no line is ingested twice, and no two sources' rows are mixed. -/

/-- No log declaration of services.yaml names its unit under its manager. -/
def Unclaimed (byUnit : List (Text × Bool)) (extra : LogSource) : Prop :=
  ∀ key, extra.unitKey = some key → key ∉ byUnit

/-- The first entry of its name whose unit is unclaimed, where the name is new. -/
def Admitted (byUnit : List (Text × Bool)) (seen : List Text) (extras : List LogSource)
    (extra : LogSource) : Prop :=
  ∃ before after, extras = before ++ extra :: after ∧ extra.name ∉ seen ∧ Unclaimed byUnit extra ∧
    ∀ earlier ∈ before, earlier.name = extra.name → ¬ Unclaimed byUnit earlier

theorem unclaimed_iff {byUnit : List (Text × Bool)} {extra : LogSource} :
    Unclaimed byUnit extra ↔ (extra.unitKey.any fun key => key ∈ byUnit) = false := by
  cases named : extra.unitKey with
  | none => simp [Unclaimed, named]
  | some key => simp [Unclaimed, named]

variable {byUnit : List (Text × Bool)} {seen : List Text} {extra : LogSource}

theorem keptExtras_fresh {extras : List LogSource} :
    ((keptExtras byUnit seen extras).map fun source => source.name).Nodup ∧
      ∀ source ∈ keptExtras byUnit seen extras, source.name ∉ seen := by
  induction extras generalizing seen with
  | nil => exact ⟨List.nodup_nil, fun _ absent => absurd absent List.not_mem_nil⟩
  | cons first rest ih =>
    simp only [keptExtras]
    split
    · exact ih
    · rename_i new
      split
      · exact ih
      · obtain ⟨distinct, fresh⟩ := @ih (first.name :: seen)
        refine ⟨List.nodup_cons.mpr ⟨fun again => ?_, distinct⟩, fun source member => ?_⟩
        · obtain ⟨source, member, same⟩ := List.mem_map.mp again
          exact fresh source member (same ▸ List.mem_cons_self)
        · rcases List.mem_cons.mp member with own | later
          · rw [own]
            exact new
          · exact fun old => fresh source later (List.mem_cons_of_mem _ old)

theorem mem_keptExtras {extras : List LogSource} :
    extra ∈ keptExtras byUnit seen extras ↔ Admitted byUnit seen extras extra := by
  induction extras generalizing seen with
  | nil => simp [keptExtras, Admitted]
  | cons first rest ih =>
    constructor
    · intro kept
      simp only [keptExtras] at kept
      split at kept
      · rename_i old
        obtain ⟨before, after, shape, new, free, none⟩ := ih.mp kept
        refine ⟨first :: before, after, by rw [shape]; rfl, new, free, fun earlier member same => ?_⟩
        rcases List.mem_cons.mp member with own | later
        · rw [← same, own] at new
          exact absurd old new
        · exact none earlier later same
      · split at kept
        · rename_i claimed
          obtain ⟨before, after, shape, new, free, none⟩ := ih.mp kept
          refine ⟨first :: before, after, by rw [shape]; rfl, new, free, fun earlier member same => ?_⟩
          rcases List.mem_cons.mp member with own | later
          · rw [own, unclaimed_iff, claimed]
            decide
          · exact none earlier later same
        · rename_i new claimed
          rcases List.mem_cons.mp kept with own | later
          · rw [own]
            exact ⟨[], rest, rfl, new, unclaimed_iff.mpr (by simpa using claimed), fun _ absent =>
              absurd absent List.not_mem_nil⟩
          · obtain ⟨before, after, shape, other, free, none⟩ := ih.mp later
            refine ⟨first :: before, after,
              by rw [shape]; rfl, fun old => other (List.mem_cons_of_mem _ old), free,
              fun earlier member same => ?_⟩
            rcases List.mem_cons.mp member with own | inside
            · rw [← same, own] at other
              exact absurd List.mem_cons_self other
            · exact none earlier inside same
    · intro admitted
      obtain ⟨before, after, shape, new, free, none⟩ := admitted
      simp only [keptExtras]
      cases before with
      | nil =>
        obtain ⟨rfl, rfl⟩ := List.cons.inj shape
        rw [if_neg new, unclaimed_iff.mp free]
        exact List.mem_cons_self
      | cons head before =>
        obtain ⟨rfl, rfl⟩ := List.cons.inj shape
        have onward : ∀ {later : List Text}, extra.name ∉ later →
            extra ∈ keptExtras byUnit later (before ++ extra :: after) := fun other =>
          ih.mpr ⟨before, after, rfl, other, free, fun earlier member =>
            none earlier (List.mem_cons_of_mem _ member)⟩
        split
        · exact onward new
        · split
          · exact onward new
          · rename_i claimed
            refine List.mem_cons_of_mem _ (onward fun old => ?_)
            rcases List.mem_cons.mp old with same | older
            · exact none first List.mem_cons_self same.symm
                (unclaimed_iff.mpr (by simpa using claimed))
            · exact new older

/-! ## Both files -/

variable (file : ServicesFile) (extras : List LogSource)

/-- A source that the composition has to keep: a declared log, or an admitted entry of config.yaml. -/
def Undropped (source : LogSource) : Prop :=
  source ∈ logSources file ∨ Admitted ((logSources file).filterMap LogSource.unitKey)
    ((logSources file).map fun source => source.name) extras source

theorem mem_composed {source : LogSource} :
    source ∈ composedLogSources file extras ↔ Undropped file extras source := by
  rw [composedLogSources, List.mem_append, mem_keptExtras, Undropped]

theorem logSources_distinct : ((logSources file).map fun source => source.name).Nodup := by
  refine List.Sublist.nodup ?_ file.distinct
  rw [logSources, declaredLogSources, List.map_filterMap]
  induction file.services with
  | nil => exact List.Sublist.slnil
  | cons entry rest ih =>
    cases declared : entry.log with
    | none =>
      rw [List.filterMap_cons_none (by rw [declared]; rfl)]
      exact ih.cons _
    | some log =>
      rw [List.filterMap_cons_some (by rw [declared]; rfl)]
      exact ih.cons_cons _

theorem composed_distinct :
    ((composedLogSources file extras).map fun source => source.name).Nodup := by
  obtain ⟨distinct, fresh⟩ := @keptExtras_fresh ((logSources file).filterMap LogSource.unitKey)
    ((logSources file).map fun source => source.name) extras
  rw [composedLogSources, List.map_append]
  refine List.Nodup.append (logSources_distinct file) distinct fun name declared kept => ?_
  obtain ⟨source, member, rfl⟩ := List.mem_map.mp kept
  exact fresh source member declared

/-- The composed sources: each line is ingested once, from each origin that is declared, and rows of
two origins are told apart. -/
structure IngestsOnce : Prop where
  names : ((composedLogSources file extras).map fun source => source.name).Nodup
  apart : (composedLogSources file extras).Pairwise fun left right =>
    ∀ origin, left.origin = some origin → right.origin ≠ some origin
  covered : ∀ source ∈ logSources file ++ extras, ∀ origin, source.origin = some origin →
    ∃ returned ∈ composedLogSources file extras, returned.origin = some origin
  stored : ∀ left ∈ composedLogSources file extras, ∀ right ∈ composedLogSources file extras,
    ∀ origin other, left.origin = some origin → right.origin = some other → origin ≠ other →
      storedSourceName left ≠ storedSourceName right

/-- The declarations name each thing once, but for an entry of config.yaml that is dropped for its
name or its unit and reads what is read without it. -/
structure Declared : Prop where
  units : ∀ left right, Undropped file extras left → Undropped file extras right →
    left.name ≠ right.name → ∀ unit, left.journalUnit = some unit → right.journalUnit ≠ some unit
  paths : ∀ left right, Undropped file extras left → Undropped file extras right →
    left.name ≠ right.name → ∀ path, left.filePath = some path → right.filePath ≠ some path
  files : ∀ left right, Undropped file extras left → Undropped file extras right →
    left.filePath.isSome → right.journalUnit ≠ some left.name
  dropped : ∀ source ∈ extras, ¬ Undropped file extras source → ∀ origin,
    source.origin = some origin → ∃ kept, Undropped file extras kept ∧ kept.origin = some origin

theorem journalOf_same {leftUser rightUser : Bool} {left right : Text}
    (same : journalOf leftUser left = journalOf rightUser right) : left = right := by
  simp only [journalOf] at same
  split at same
  · rename_i isKernel
    split at same
    · rename_i alsoKernel
      rw [isKernel, alsoKernel]
    · cases same
  · split at same
    · cases same
    · exact (Origin.journal.inj same).2

theorem journalOf_file {user : Bool} {unit path : Text} : journalOf user unit ≠ .file path := by
  simp only [journalOf]
  split <;> exact Origin.noConfusion

variable {file extras}

theorem IngestsOnce.differ (once : IngestsOnce file extras) {left right : LogSource}
    (leftKept : Undropped file extras left) (rightKept : Undropped file extras right)
    (named : left.name ≠ right.name) {origin : Origin} (reads : left.origin = some origin) :
    right.origin ≠ some origin := by
  have : Std.Symm fun left right : LogSource => ∀ origin, left.origin = some origin →
      right.origin ≠ some origin :=
    ⟨fun _ _ apart origin later early => apart origin early later⟩
  have differs : left ≠ right := fun same => named (by rw [same])
  exact once.apart.forall ((mem_composed file extras).mpr leftKept)
    ((mem_composed file extras).mpr rightKept) differs origin reads

theorem IngestsOnce.declared (once : IngestsOnce file extras) : Declared file extras := by
  constructor
  · intro left right leftKept rightKept named unit leftUnit rightUnit
    obtain ⟨_, leftReads, leftStored⟩ := LogSource.of_journalUnit leftUnit
    obtain ⟨_, rightReads, rightStored⟩ := LogSource.of_journalUnit rightUnit
    refine once.stored left ((mem_composed file extras).mpr leftKept) right
      ((mem_composed file extras).mpr rightKept)
      _ _ leftReads rightReads (fun same => ?_) (leftStored.trans rightStored.symm)
    rw [same] at leftReads
    exact once.differ leftKept rightKept named leftReads rightReads
  · intro left right leftKept rightKept named path leftPath rightPath
    exact once.differ leftKept rightKept named (LogSource.of_filePath leftPath).2.1
      (LogSource.of_filePath rightPath).2.1
  · intro left right leftKept rightKept filed rightUnit
    obtain ⟨path, leftPath⟩ := Option.isSome_iff_exists.mp filed
    obtain ⟨_, leftReads, leftStored⟩ := LogSource.of_filePath leftPath
    obtain ⟨_, rightReads, rightStored⟩ := LogSource.of_journalUnit rightUnit
    exact once.stored left ((mem_composed file extras).mpr leftKept) right
      ((mem_composed file extras).mpr rightKept)
      _ _ leftReads rightReads journalOf_file.symm (leftStored.trans rightStored.symm)
  · intro source member _ origin reads
    obtain ⟨returned, kept, same⟩ := once.covered source (List.mem_append_right _ member) origin reads
    exact ⟨returned, (mem_composed file extras).mp kept, same⟩

theorem Declared.same_name (declared : Declared file extras) {left right : LogSource}
    (leftKept : Undropped file extras left) (rightKept : Undropped file extras right)
    {origin : Origin} (leftReads : left.origin = some origin)
    (rightReads : right.origin = some origin) : left.name = right.name := by
  by_contra named
  rcases LogSource.origin_cases leftReads with ⟨unit, leftUnit, rfl⟩ | ⟨path, leftPath, rfl⟩
  · rcases LogSource.origin_cases rightReads with ⟨other, rightUnit, same⟩ | ⟨path, _, same⟩
    · rw [← journalOf_same same] at rightUnit
      exact declared.units left right leftKept rightKept named unit leftUnit rightUnit
    · exact journalOf_file same
  · rcases LogSource.origin_cases rightReads with ⟨other, _, same⟩ | ⟨other, rightPath, same⟩
    · exact journalOf_file same.symm
    · rw [← Origin.file.inj same] at rightPath
      exact declared.paths left right leftKept rightKept named path leftPath rightPath

theorem Declared.stored_apart (declared : Declared file extras) {left right : LogSource}
    (leftKept : Undropped file extras left) (rightKept : Undropped file extras right)
    (named : left.name ≠ right.name) {origin other : Origin} (leftReads : left.origin = some origin)
    (rightReads : right.origin = some other) :
    storedSourceName left ≠ storedSourceName right := by
  intro same
  rcases LogSource.origin_cases leftReads with ⟨unit, leftUnit, _⟩ | ⟨path, leftPath, _⟩
  · rw [(LogSource.of_journalUnit leftUnit).2.2] at same
    rcases LogSource.origin_cases rightReads with ⟨other, rightUnit, _⟩ | ⟨path, rightPath, _⟩
    · rw [(LogSource.of_journalUnit rightUnit).2.2] at same
      exact declared.units left right leftKept rightKept named unit leftUnit (same ▸ rightUnit)
    · rw [(LogSource.of_filePath rightPath).2.2] at same
      refine declared.files right left rightKept leftKept (by rw [rightPath]; rfl) ?_
      rw [leftUnit, same]
  · rw [(LogSource.of_filePath leftPath).2.2] at same
    rcases LogSource.origin_cases rightReads with ⟨unit, rightUnit, _⟩ | ⟨other, rightPath, _⟩
    · rw [(LogSource.of_journalUnit rightUnit).2.2] at same
      refine declared.files left right leftKept rightKept (by rw [leftPath]; rfl) ?_
      rw [rightUnit, same]
    · rw [(LogSource.of_filePath rightPath).2.2] at same
      exact named (Option.some.inj same)

variable (file extras)

/-- The composed sources are distinct if and only if the declarations they keep are, and what they
drop is read by another. -/
theorem composed_sources_distinct_iff : IngestsOnce file extras ↔ Declared file extras := by
  refine ⟨IngestsOnce.declared, fun declared => ?_⟩
  have distinct := composed_distinct file extras
  have unique : ∀ {left right}, left ∈ composedLogSources file extras →
      right ∈ composedLogSources file extras → left.name = right.name → left = right :=
    fun leftKept rightKept named => List.inj_on_of_nodup_map distinct leftKept rightKept named
  refine ⟨distinct, ?_, ?_, ?_⟩
  · refine (List.pairwise_map.mp distinct).imp_of_mem
      fun leftKept rightKept named origin leftReads rightReads => ?_
    exact named (declared.same_name ((mem_composed file extras).mp leftKept)
      ((mem_composed file extras).mp rightKept) leftReads rightReads)
  · intro source member origin reads
    by_cases kept : Undropped file extras source
    · exact ⟨source, (mem_composed file extras).mpr kept, reads⟩
    · rcases List.mem_append.mp member with log | extra
      · exact absurd (Or.inl log) kept
      · obtain ⟨other, still, same⟩ := declared.dropped source extra kept origin reads
        exact ⟨other, (mem_composed file extras).mpr still, same⟩
  · intro left leftKept right rightKept origin other leftReads rightReads apart
    refine declared.stored_apart ((mem_composed file extras).mp leftKept)
      ((mem_composed file extras).mp rightKept) (fun named => ?_) leftReads rightReads
    rw [unique leftKept rightKept named, rightReads] at leftReads
    exact apart (Option.some.inj leftReads).symm

/-- config.yaml names one unit twice. -/
def twiceNamed : List LogSource := ["app", "app-errors"].map fun name =>
  { name := text name, type := text "journalctl", unit := some (text "app.service"), path := none, jsonFormat := false,
    user := true, severityFilter := text "warning" }

theorem twiceNamed_ingested_twice : ¬ IngestsOnce ⟨[], List.nodup_nil⟩ twiceNamed := by
  intro once
  have kept : composedLogSources ⟨[], List.nodup_nil⟩ twiceNamed = twiceNamed := rfl
  have apart := once.apart
  rw [kept] at apart
  have first := List.rel_of_pairwise_cons apart List.mem_cons_self
  exact first (.journal true (text "app.service")) (by decide) (by decide)

end SysadminAssistant.Monitor.Sources
