import SysadminAssistant.Monitor.Services
import SysadminAssistant.Python.Json

namespace SysadminAssistant.Estate

open Python
open Monitor (ArbitratedStops)

/-- An exception, as its class and its text. -/
structure Failure where
  className : Text
  message : Text

def describe (exc : Failure) : Text :=
  (Text.squeezed (exc.className ++ text ": " ++ exc.message)).take 300

/-- How one GET went.  `complaint` is the text that `raise_for_status` raises with. -/
inductive Response where
  | lost (exc : Failure)
  | answered (status : Nat) (complaint : Text) (body : Except Failure Json)

/-- `raise_for_status()` and then `json()`. -/
def Response.payload : Response → Except Failure Json
  | .lost exc => .error exc
  | .answered status complaint body =>
    if 200 ≤ status ∧ status ≤ 299 then body else .error ⟨text "HTTPStatusError", complaint⟩

def typeName : Json → Text
  | .null => text "NoneType"
  | .bool _ => text "bool"
  | .int _ => text "int"
  | .float _ => text "float"
  | .str _ => text "str"
  | .arr _ => text "list"
  | .obj _ => text "dict"

/-- `_fetch_object`, whose payload is `none` exactly when its error is not. -/
def fetchObject (response : Response) : Option Json × Option Text :=
  match response.payload with
  | .error exc => (none, some (describe exc))
  | .ok payload =>
    if payload.isObj then (some payload, none)
    else (none, some (text "TypeError: expected a JSON object, got " ++ typeName payload))

/-- The two paths that are asked for: `SURFACE_PATHS["queue_invariants"]` and `LEASE_PATH`. -/
inductive Request where
  | queueInvariants
  | queueLease (leaseId : Int)

structure ReadStops extends ArbitratedStops where
  error : Option Text

def arbitrationGranted : Text := text "granted"

def arbitrationIdle : Text := text "idle"

def arbitrationUnread : Text := text "unread"

def unread (error : Option Text) : ReadStops := ⟨⟨arbitrationUnread, [], none, none⟩, error⟩

/-- From the second request on. -/
def readLease (ask : Request → Response) (leaseId : Int) (profile : Option Text) :
    Option ReadStops :=
  match fetchObject (ask (.queueLease leaseId)) with
  | (none, error) => some ⟨⟨arbitrationUnread, [], leaseId, profile⟩, error⟩
  | (some leasePayload, _) => do
    let units ← leasePayload.get "stopped_units"
    match units with
    | .null => return ⟨⟨arbitrationGranted, [], leaseId, profile⟩, none⟩
    | .arr units => return ⟨⟨arbitrationGranted, units.filterMap Json.text?, leaseId, profile⟩, none⟩
    | units => return ⟨⟨arbitrationUnread, [], leaseId, profile⟩,
        text "TypeError: stopped_units is " ++ typeName units⟩

/-- `none` is an exception that leaves the call. -/
def readArbitratedStops (ask : Request → Response) : Option ReadStops :=
  match fetchObject (ask .queueInvariants) with
  | (none, error) => some (unread error)
  | (some payload, _) => do
    let lease ← payload.get "active_lease"
    match lease with
    | .null => return ⟨⟨arbitrationIdle, [], none, none⟩, none⟩
    | .obj lease =>
      let leaseId ← (Json.obj lease).get "id"
      match leaseId with
      | .int leaseId =>
        let profile ← (Json.obj lease).get "profile"
        readLease ask leaseId profile.text?
      | leaseId => return unread (text "TypeError: active_lease.id is " ++ typeName leaseId)
    | lease => return unread (text "TypeError: active_lease is " ++ typeName lease)

/-! What the calls make of a payload, field by field. -/

theorem fetchObject_ok {response : Response} {fields : List (Text × Json)}
    (read : response.payload = .ok (.obj fields)) :
    fetchObject response = (some (.obj fields), none) := by
  simp only [fetchObject, read, Json.isObj, if_true]

theorem fetchObject_some {response : Response} {payload : Json} {error : Option Text}
    (fetched : fetchObject response = (some payload, error)) :
    ∃ fields, payload = .obj fields ∧ response.payload = .ok (.obj fields) := by
  simp only [fetchObject] at fetched
  cases read : response.payload with
  | error exc => simp only [read, Prod.mk.injEq, reduceCtorEq, false_and] at fetched
  | ok body =>
    rw [read] at fetched
    cases body with
    | obj fields =>
      simp only [Json.isObj, if_true, Prod.mk.injEq, Option.some.injEq] at fetched
      exact ⟨fields, fetched.1.symm, rfl⟩
    | _ => simp [Json.isObj] at fetched

theorem fetchObject_none {response : Response} {error : Option Text}
    (fetched : fetchObject response = (none, error)) (fields : List (Text × Json)) :
    response.payload ≠ .ok (.obj fields) := by
  intro read
  rw [fetchObject_ok read] at fetched
  simp only [Prod.mk.injEq, reduceCtorEq, false_and] at fetched

/-- The body holds no active lease, or does not have the field. -/
def Idles (response : Response) : Prop :=
  ∃ fields, response.payload = .ok (.obj fields) ∧ Json.field (text "active_lease") fields = .null

/-- The body names an active lease by an id that is a whole number. -/
def Names (response : Response) (leaseId : Int) : Prop :=
  ∃ fields lease, response.payload = .ok (.obj fields) ∧
    Json.field (text "active_lease") fields = .obj lease ∧ Json.field (text "id") lease = .int leaseId

/-- The units that are taken from a lease's body, if any are. -/
def Yields (response : Response) (units : List Text) : Prop :=
  ∃ fields, response.payload = .ok (.obj fields) ∧
    (Json.field (text "stopped_units") fields = .null ∧ units = [] ∨
      ∃ items, Json.field (text "stopped_units") fields = .arr items ∧
        units = items.filterMap Json.text?)

theorem Names.unique {response : Response} {left right : Int} (leftNamed : Names response left)
    (rightNamed : Names response right) : left = right := by
  obtain ⟨fields, lease, read, held, named⟩ := leftNamed
  obtain ⟨others, other, again, alsoHeld, alsoNamed⟩ := rightNamed
  rw [read] at again
  cases again
  rw [held] at alsoHeld
  cases alsoHeld
  rw [named] at alsoNamed
  exact Json.int.inj alsoNamed

theorem Names.not_idles {response : Response} {leaseId : Int} (named : Names response leaseId) :
    ¬ Idles response := by
  obtain ⟨fields, lease, read, held, -⟩ := named
  intro idles
  obtain ⟨others, again, free⟩ := idles
  rw [read] at again
  cases again
  rw [held] at free
  cases free

theorem readLease_cases (ask : Request → Response) (leaseId : Int) (profile : Option Text) :
    ∃ stops, readLease ask leaseId profile = some stops ∧ stops.leaseId = some leaseId ∧
      (stops.reading = arbitrationGranted ∧ Yields (ask (.queueLease leaseId)) stops.units ∨
        stops.reading = arbitrationUnread ∧ stops.units = [] ∧
          ∀ units, ¬ Yields (ask (.queueLease leaseId)) units) := by
  cases fetched : fetchObject (ask (.queueLease leaseId)) with
  | mk payload error =>
    cases payload with
    | none =>
      refine ⟨_, by simp only [readLease, fetched]; rfl, rfl, .inr ⟨rfl, rfl, ?_⟩⟩
      intro units yields
      obtain ⟨fields, read, -⟩ := yields
      exact fetchObject_none fetched fields read
    | some payload =>
      obtain ⟨fields, rfl, read⟩ := fetchObject_some fetched
      cases listed : Json.field (text "stopped_units") fields with
      | null =>
        refine ⟨_, by simp only [readLease, fetched, Json.get, listed]; rfl, rfl, .inl ⟨rfl, ?_⟩⟩
        exact ⟨fields, read, .inl ⟨listed, rfl⟩⟩
      | arr items =>
        refine ⟨_, by simp only [readLease, fetched, Json.get, listed]; rfl, rfl, .inl ⟨rfl, ?_⟩⟩
        exact ⟨fields, read, .inr ⟨items, listed, rfl⟩⟩
      | _ =>
        refine ⟨_, by simp only [readLease, fetched, Json.get, listed]; rfl, rfl,
          .inr ⟨rfl, rfl, ?_⟩⟩
        intro units yields
        obtain ⟨others, again, found⟩ := yields
        rw [read] at again
        cases again
        rw [listed] at found
        rcases found with ⟨found, -⟩ | ⟨items, found, -⟩ <;> cases found

theorem readArbitratedStops_cases (ask : Request → Response) :
    ∃ stops, readArbitratedStops ask = some stops ∧
      (stops.reading = arbitrationIdle ∧ stops.units = [] ∧ Idles (ask .queueInvariants) ∨
        (∃ leaseId, Names (ask .queueInvariants) leaseId ∧ stops.leaseId = some leaseId ∧
          stops.reading = arbitrationGranted ∧ Yields (ask (.queueLease leaseId)) stops.units) ∨
        stops.reading = arbitrationUnread ∧ stops.units = [] ∧ ¬ Idles (ask .queueInvariants) ∧
          ∀ leaseId, Names (ask .queueInvariants) leaseId →
            ∀ units, ¬ Yields (ask (.queueLease leaseId)) units) := by
  cases fetched : fetchObject (ask .queueInvariants) with
  | mk payload error =>
    cases payload with
    | none =>
      refine ⟨_, by simp only [readArbitratedStops, fetched]; rfl, .inr (.inr ⟨rfl, rfl, ?_, ?_⟩)⟩
      · intro idles
        obtain ⟨fields, read, -⟩ := idles
        exact fetchObject_none fetched fields read
      · intro leaseId named
        obtain ⟨fields, lease, read, -⟩ := named
        exact absurd read (fetchObject_none fetched fields)
    | some payload =>
      obtain ⟨fields, rfl, read⟩ := fetchObject_some fetched
      -- a body that holds neither `null` nor a lease with a whole number for its id
      have neither (other : Json) (held : Json.field (text "active_lease") fields = other)
          (occupied : other ≠ .null)
          (unnamed : ∀ lease leaseId, other = .obj lease →
            Json.field (text "id") lease ≠ .int leaseId) :
          ¬ Idles (ask .queueInvariants) ∧ ∀ leaseId, Names (ask .queueInvariants) leaseId →
            ∀ units, ¬ Yields (ask (.queueLease leaseId)) units := by
        constructor
        · intro idles
          obtain ⟨others, again, free⟩ := idles
          rw [read] at again
          cases again
          exact occupied (held.symm.trans free)
        · intro leaseId named
          obtain ⟨others, lease, again, found, numbered⟩ := named
          rw [read] at again
          cases again
          exact absurd numbered (unnamed lease leaseId (held.symm.trans found))
      cases held : Json.field (text "active_lease") fields with
      | null =>
        exact ⟨_, by simp only [readArbitratedStops, fetched, Json.get, held]; rfl,
          .inl ⟨rfl, rfl, fields, read, held⟩⟩
      | obj lease =>
        cases numbered : Json.field (text "id") lease with
        | int leaseId =>
          have named : Names (ask .queueInvariants) leaseId := ⟨fields, lease, read, held, numbered⟩
          obtain ⟨stops, returned, sameLease, outcome⟩ :=
            readLease_cases ask leaseId (Json.field (text "profile") lease).text?
          refine ⟨stops, ?_, ?_⟩
          · simp only [readArbitratedStops, fetched, Json.get, held, Option.bind_eq_bind,
              Option.bind_some, numbered]
            exact returned
          · rcases outcome with ⟨granted, yields⟩ | ⟨blind, empty, none⟩
            · exact .inr (.inl ⟨leaseId, named, sameLease, granted, yields⟩)
            · refine .inr (.inr ⟨blind, empty, named.not_idles, ?_⟩)
              intro other also
              rw [also.unique named]
              exact none
        | _ =>
          refine ⟨_, by simp only [readArbitratedStops, fetched, Json.get, held,
              Option.bind_eq_bind, Option.bind_some, numbered]; rfl,
            .inr (.inr ⟨rfl, rfl, neither _ held (by simp) ?_⟩)⟩
          intro other leaseId same
          cases same
          simp [numbered]
      | _ =>
        refine ⟨_, by simp only [readArbitratedStops, fetched, Json.get, held]; rfl,
          .inr (.inr ⟨rfl, rfl, neither _ held (by simp) (by simp)⟩)⟩

variable {ask : Request → Response} {stops : ReadStops}

theorem idle_iff (returned : readArbitratedStops ask = some stops) :
    stops.reading = arbitrationIdle ↔ Idles (ask .queueInvariants) := by
  obtain ⟨same, again, outcome⟩ := readArbitratedStops_cases ask
  rw [returned] at again
  cases again
  rcases outcome with ⟨reading, -, idles⟩ | ⟨leaseId, named, -, reading, -⟩ | ⟨reading, -, occupied, -⟩
  · simp only [reading, idles]
  · simp only [reading, named.not_idles, iff_false]
    decide
  · simp only [reading, occupied, iff_false]
    decide

theorem granted_iff (returned : readArbitratedStops ask = some stops) :
    stops.reading = arbitrationGranted ↔ ∃ leaseId units, Names (ask .queueInvariants) leaseId ∧
      Yields (ask (.queueLease leaseId)) units := by
  obtain ⟨same, again, outcome⟩ := readArbitratedStops_cases ask
  rw [returned] at again
  cases again
  rcases outcome with ⟨reading, -, idles⟩ | ⟨leaseId, named, -, reading, yields⟩ |
    ⟨reading, -, -, nothing⟩
  · refine ⟨fun granted => absurd (reading.symm.trans granted) (by decide), ?_⟩
    intro both
    obtain ⟨leaseId, units, named, -⟩ := both
    exact absurd idles named.not_idles
  · exact ⟨fun _ => ⟨leaseId, stops.units, named, yields⟩, fun _ => reading⟩
  · refine ⟨fun granted => absurd (reading.symm.trans granted) (by decide), ?_⟩
    intro both
    obtain ⟨leaseId, units, named, yields⟩ := both
    exact absurd yields (nothing leaseId named units)

theorem unread_iff (returned : readArbitratedStops ask = some stops) :
    stops.reading = arbitrationUnread ↔
      stops.reading ≠ arbitrationGranted ∧ stops.reading ≠ arbitrationIdle := by
  obtain ⟨same, again, outcome⟩ := readArbitratedStops_cases ask
  rw [returned] at again
  cases again
  rcases outcome with ⟨reading, -⟩ | ⟨leaseId, -, -, reading, -⟩ | ⟨reading, -⟩ <;>
    rw [reading] <;> decide

theorem taken_of_units (returned : readArbitratedStops ask = some stops) (holds : stops.units ≠ []) :
    ∃ leaseId, Names (ask .queueInvariants) leaseId ∧ stops.leaseId = some leaseId ∧
      stops.reading = arbitrationGranted ∧ Yields (ask (.queueLease leaseId)) stops.units := by
  obtain ⟨same, again, outcome⟩ := readArbitratedStops_cases ask
  rw [returned] at again
  cases again
  rcases outcome with ⟨-, empty, -⟩ | taken | ⟨-, empty, -⟩
  · exact absurd empty holds
  · exact taken
  · exact absurd empty holds

theorem Yields.unique {response : Response} {left right : List Text}
    (leftTaken : Yields response left) (rightTaken : Yields response right) : left = right := by
  obtain ⟨fields, read, taken⟩ := leftTaken
  obtain ⟨others, again, alsoTaken⟩ := rightTaken
  rw [read] at again
  cases again
  rcases taken with ⟨found, rfl⟩ | ⟨items, found, rfl⟩
  · rcases alsoTaken with ⟨-, rfl⟩ | ⟨others, alsoFound, -⟩
    · rfl
    · rw [found] at alsoFound
      cases alsoFound
  · rcases alsoTaken with ⟨alsoFound, -⟩ | ⟨others, alsoFound, rfl⟩
    · rw [found] at alsoFound
      cases alsoFound
    · rw [found] at alsoFound
      cases alsoFound
      rfl

theorem units_of_yields (returned : readArbitratedStops ask = some stops) {leaseId : Int}
    {units : List Text} (named : Names (ask .queueInvariants) leaseId)
    (yields : Yields (ask (.queueLease leaseId)) units) :
    stops.leaseId = some leaseId ∧ stops.units = units := by
  obtain ⟨same, again, outcome⟩ := readArbitratedStops_cases ask
  rw [returned] at again
  cases again
  rcases outcome with ⟨-, -, idles⟩ | ⟨other, also, sameLease, -, taken⟩ | ⟨-, -, -, nothing⟩
  · exact absurd idles named.not_idles
  · cases also.unique named
    exact ⟨sameLease, taken.unique yields⟩
  · exact absurd yields (nothing leaseId named units)

end SysadminAssistant.Estate
