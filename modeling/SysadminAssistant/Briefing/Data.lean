import Mathlib.Data.List.Dedup
import Mathlib.Data.List.Sort
import SysadminAssistant.Monitor.Services
import SysadminAssistant.Python.Dict
import SysadminAssistant.Python.Json

namespace SysadminAssistant.Briefing

open Python Monitor

/-! `sysadmin/briefing/data.py`: the period of a briefing, what it says of the services, and the
route that says the same of them.  Instants, offsets and readings of a clock are microseconds. -/

/-- A local time zone: the offset before all changes, and the changes, each with the offset from
then on. -/
structure Zone where
  initial : Int
  changes : List (Int × Int)
  rising : changes.Pairwise fun earlier later => earlier.1 < later.1

def Zone.offsetAt (zone : Zone) (instant : Int) : Int :=
  (((zone.changes.filter fun change => change.1 ≤ instant).getLast?).map Prod.snd).getD zone.initial

/-- `schedules.briefing_hour` and `schedules.briefing_minute`. -/
structure BriefingTime where
  hour : Nat
  minute : Nat
  hour_lt : hour < 24
  minute_lt : minute < 60

/-- How far into a day it is. -/
def BriefingTime.reading (time : BriefingTime) : Int := (time.hour * 60 + time.minute) * 60000000

/-- `_period_start`.  `astimezone()` makes a clock of the offset in force now, on which `replace`
and the day taken off are counted. -/
def periodStart (zone : Zone) (time : BriefingTime) (now : Int) : Int :=
  let offset := zone.offsetAt now
  let clock := now + offset
  let boundary := clock / day * day + time.reading
  (if clock < boundary then boundary - day else boundary) - offset

structure Period where
  start : Int
  stop : Int

/-- `_period`. -/
def period (zone : Zone) (time : BriefingTime) (now : Int) : Period := ⟨periodStart zone time now, now⟩

/-! ## The services -/

inductive StatusReading where
  | well | fault | unwatched
deriving DecidableEq

/-- `STATUS_READINGS`. -/
def statusReading : ServiceStatus → StatusReading
  | .ok => .well
  | .degraded | .warning | .critical | .unreachable | .error => .fault
  | .skipped => .unwatched

def isFault (status : ServiceStatus) : Bool := statusReading status = .fault

def isUnwatched (status : ServiceStatus) : Bool := statusReading status = .unwatched

/-- A row of `service_health`. -/
structure ServiceHealth where
  id : Nat
  serviceName : Text
  status : ServiceStatus
  responseTimeMs : Option Int
  details : List (Text × Json)
  checkedAt : Int

/-- In what order the database hands out the rows of a query. -/
structure RowOrder where
  arrange : List ServiceHealth → List ServiceHealth
  perm : ∀ rows, (arrange rows).Perm rows

section

variable (table : List ServiceHealth)

/-- `latest_subq`. -/
def latestChecks : List (Text × Int) :=
  (table.map ServiceHealth.serviceName).dedup.filterMap fun name =>
    ((table.filter fun row => row.serviceName = name).map ServiceHealth.checkedAt).max?.map
      fun newest => (name, newest)

/-- The rows that join it. -/
def latestRows : List ServiceHealth :=
  table.filter fun row => (row.serviceName, row.checkedAt) ∈ latestChecks table

structure ServiceItem where
  name : Text
  status : ServiceStatus
  note : Option Json

def ServiceHealth.item (row : ServiceHealth) : ServiceItem :=
  let note := (Json.field (text "reason") row.details).orElse (Json.field (text "error") row.details)
  ⟨row.serviceName, row.status, if note.truthy then some note else none⟩

structure GatheredServices where
  items : List ServiceItem
  measuredAt : Option Int

def gatherServices (order : RowOrder) : Option GatheredServices :=
  let rows := order.arrange (latestRows table)
  if rows.isEmpty then none
  else some ⟨rows.map ServiceHealth.item, (rows.map ServiceHealth.checkedAt).max?⟩

end

/-- `facts["services"]`. -/
structure ServiceFacts where
  total : Nat
  healthy : Int
  failing : List Text
  unmonitored : Int
  measuredAt : Option Int

def watchedItems (items : List ServiceItem) : List ServiceItem :=
  items.filter fun item => !isUnwatched item.status

def serviceFacts (services : Option GatheredServices) : Option ServiceFacts :=
  services.map fun services =>
    let watched := watchedItems services.items
    let failing := (watched.filter fun item => isFault item.status).map ServiceItem.name
    { total := watched.length
      healthy := watched.length - failing.length
      failing
      unmonitored := services.items.length - watched.length
      measuredAt := services.measuredAt }

structure StatusEntry where
  name : Text
  status : ServiceStatus
  responseTimeMs : Option Int
  details : List (Text × Json)
  checkedAt : Int
  systemdUnit : Option Text
  controllable : Bool

structure StatusResponse where
  services : List StatusEntry
  allHealthy : Bool

/-- `GET /api/sysadmin/status`. -/
def getAllStatuses (table : List ServiceHealth) (order : RowOrder) (services : List ServiceEntry) :
    StatusResponse :=
  let configuredNames := services.map ServiceEntry.name
  let rows :=
    (order.arrange ((latestRows table).filter fun row =>
      row.serviceName ∈ configuredNames)).insertionSort
    fun left right => left.serviceName ≤ right.serviceName
  let unitMap := Dict.ofEntries (services.map fun entry => (entry.name, entry.systemdUnit))
  let controllableMap := Dict.ofEntries (services.map fun entry => (entry.name, entry.controllable))
  { services := rows.map fun row =>
      { name := row.serviceName, status := row.status, responseTimeMs := row.responseTimeMs, details := row.details,
        checkedAt := row.checkedAt, systemdUnit := (unitMap.get? row.serviceName).join,
        controllable := (controllableMap.get? row.serviceName).getD true }
    allHealthy := !rows.any fun row => isFault row.status }

/-! When the briefing's facts and the status route say the same of the services. -/

section

variable (gathered : Option GatheredServices) (route : StatusResponse)

def briefedItems : List ServiceItem := (gathered.map GatheredServices.items).getD []

/-- The services the facts count as watched. -/
def countedWatched : List Text := (watchedItems (briefedItems gathered)).map ServiceItem.name

/-- The services the facts count as healthy. -/
def countedHealthy : List Text :=
  ((watchedItems (briefedItems gathered)).filter fun item => !isFault item.status).map ServiceItem.name

def namedFailing : List Text := ((serviceFacts gathered).map ServiceFacts.failing).getD []

/-- The services that the route serves with a status of some kind. -/
def servedAs (kind : ServiceStatus → Bool) : List Text :=
  (route.services.filter fun entry => kind entry.status).map StatusEntry.name

/-- The briefing and the route describe the same services. -/
structure SameServices : Prop where
  watched : (countedWatched gathered).Perm (servedAs route fun status => !isUnwatched status)
  failing : (namedFailing gathered).Perm (servedAs route isFault)
  healthy : (countedHealthy gathered).Perm (servedAs route fun status => statusReading status = .well)
  once : (countedWatched gathered).Nodup
  totals : ∀ facts, serviceFacts gathered = some facts →
    facts.total = (countedWatched gathered).length ∧ facts.healthy = (countedHealthy gathered).length
  allHealthy : namedFailing gathered = [] ↔ route.allHealthy = true

end

section

variable {table : List ServiceHealth} {services : List ServiceEntry} {order other : RowOrder}
  {row : ServiceHealth}

/-- The names of the latest rows with a status of some kind. -/
def latestAs (table : List ServiceHealth) (kind : ServiceStatus → Bool) : List Text :=
  ((latestRows table).filter fun row => kind row.status).map ServiceHealth.serviceName

theorem briefed_perm :
    (briefedItems (gatherServices table order)).Perm
    ((latestRows table).map ServiceHealth.item) := by
  rw [briefedItems, gatherServices]
  have perm := order.perm (latestRows table)
  split
  · rename_i empty
    rw [List.isEmpty_iff.mp empty] at perm
    rw [List.nil_perm.mp perm]
    rfl
  · exact perm.map _

theorem briefed_as (kind : ServiceStatus → Bool) :
    (((briefedItems (gatherServices table order)).filter fun item => kind item.status).map
      ServiceItem.name).Perm (latestAs table kind) := by
  have perm := ((@briefed_perm table order).filter fun item => kind item.status).map ServiceItem.name
  rw [List.filter_map, List.map_map] at perm
  exact perm

theorem served_as (kind : ServiceStatus → Bool) :
    (servedAs (getAllStatuses table order services) kind).Perm
    ((((latestRows table).filter fun row => kind row.status).filter fun row =>
      row.serviceName ∈ services.map ServiceEntry.name).map ServiceHealth.serviceName) := by
  have perm :=
    (List.perm_insertionSort (fun left right : ServiceHealth =>
      left.serviceName ≤ right.serviceName) _).trans
    (order.perm ((latestRows table).filter fun row =>
      row.serviceName ∈ services.map ServiceEntry.name))
  have kept := (perm.filter fun row => kind row.status).map ServiceHealth.serviceName
  rw [List.filter_comm] at kept
  rw [servedAs, getAllStatuses, List.filter_map, List.map_map]
  exact kept

theorem countedHealthy_as : (countedHealthy (gatherServices table order)).Perm
    (latestAs table fun status => statusReading status = .well) := by
  have kinds : ∀ status, (!isFault status && !isUnwatched status) =
      decide (statusReading status = .well) := by
    intro status
    cases status <;> rfl
  have perm := @briefed_as table order fun status => statusReading status = .well
  simp only [countedHealthy, watchedItems, List.filter_filter, kinds]
  exact perm

theorem namedFailing_as :
    (namedFailing (gatherServices table order)).Perm (latestAs table isFault) := by
  have kinds : ∀ status, (isFault status && !isUnwatched status) = isFault status := by
    intro status
    cases status <;> rfl
  have perm := @briefed_as table order isFault
  cases gathered : gatherServices table order with
  | none =>
    rw [gathered] at perm
    exact perm
  | some items =>
    rw [gathered] at perm
    simp only [namedFailing, serviceFacts, watchedItems, List.filter_filter, kinds,
      Option.map_some, Option.getD_some]
    exact perm

theorem facts_totals (gathered : Option GatheredServices) {facts : ServiceFacts}
    (found : serviceFacts gathered = some facts) :
    facts.total = (countedWatched gathered).length ∧
      facts.healthy = (countedHealthy gathered).length := by
  cases gathered with
  | none => cases found
  | some services =>
    cases found
    have split := List.length_eq_length_filter_add (l := watchedItems services.items) fun item =>
        isFault item.status
    simp only [countedWatched, countedHealthy, briefedItems, Option.map_some, Option.getD_some,
      List.length_map, true_and]
    omega

theorem allHealthy_iff : (getAllStatuses table order services).allHealthy = true ↔
    servedAs (getAllStatuses table order services) isFault = [] := by
  simp only [servedAs, List.map_eq_nil_iff, List.filter_eq_nil_iff, getAllStatuses,
    Bool.not_eq_true', List.any_eq_false, List.forall_mem_map]

end

/-- The briefing describes the services of the route exactly where no watched row is of a service
that is not configured, and no service has two of them at one time. -/
theorem briefing_describes_route_iff (table : List ServiceHealth) (services : List ServiceEntry)
    (order other : RowOrder) :
    SameServices (gatherServices table order) (getAllStatuses table other services) ↔
      (∀ row ∈ latestRows table, isUnwatched row.status = false →
        row.serviceName ∈ services.map ServiceEntry.name) ∧
        (latestAs table fun status => !isUnwatched status).Nodup := by
  have briefed := @briefed_as table order fun status => !isUnwatched status
  constructor
  · intro same
    refine ⟨fun row member watched => ?_, briefed.nodup_iff.mp same.once⟩
    have lengths := (briefed.symm.trans (same.watched.trans (served_as _))).length_eq
    rw [latestAs, List.length_map, List.length_map, eq_comm, List.length_filter_eq_length_iff]
      at lengths
    exact of_decide_eq_true (lengths row (List.mem_filter.mpr ⟨member, by rw [watched]; rfl⟩))
  · intro agree
    obtain ⟨configured, once⟩ := agree
    have alike : ∀ kind : ServiceStatus → Bool, (∀ status, kind status = true →
        isUnwatched status = false) →
        (latestAs table kind).Perm (servedAs (getAllStatuses table other services) kind) := by
      intro kind watched
      have all : ((latestRows table).filter fun row => kind row.status).filter
          (fun row => row.serviceName ∈ services.map ServiceEntry.name) =
            (latestRows table).filter fun row => kind row.status := by
        refine List.filter_eq_self.mpr fun row kept => ?_
        obtain ⟨member, here⟩ := List.mem_filter.mp kept
        exact decide_eq_true (configured row member (watched row.status here))
      have served := @served_as table services other kind
      rw [all] at served
      exact served.symm
    have failing : (namedFailing (gatherServices table order)).Perm
        (servedAs (getAllStatuses table other services) isFault) :=
      namedFailing_as.trans (alike isFault fun status fault => by cases status <;> trivial)
    refine ⟨briefed.trans (alike _ (by simp)), failing,
      countedHealthy_as.trans (alike _ fun status well => by cases status <;> trivial),
      briefed.nodup_iff.mpr once, fun facts found => facts_totals _ found, ?_⟩
    rw [allHealthy_iff]
    constructor
    · intro none
      exact List.nil_perm.mp (none ▸ failing)
    · intro none
      exact List.perm_nil.mp (none ▸ failing)

def tableOrder : RowOrder := ⟨id, fun _ => List.Perm.refl _⟩

def retiredRow : ServiceHealth := ⟨1, text "pa", .critical, none, [], 0⟩

/-- The last row of a service that was taken out of `services.yaml` is a failing service for ever. -/
theorem retired_unserved : ¬ SameServices (gatherServices [retiredRow] tableOrder)
    (getAllStatuses [retiredRow] tableOrder []) := by
  intro same
  have failing := same.failing.length_eq
  revert failing
  decide

end SysadminAssistant.Briefing
