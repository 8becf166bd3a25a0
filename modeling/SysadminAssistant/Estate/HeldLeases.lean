import Mathlib.Logic.Function.Basic
import SysadminAssistant.Estate.ArbitratedStops

namespace SysadminAssistant.Estate

open Python
open Monitor (ArbitratedStops)

/-! The arbiter that answers, and what it does between the two answers. -/

structure Lease where
  profile : Text
  stoppedUnits : Option (List Text)

/-- A lease stays in the table when it is released. -/
structure Arbiter where
  leases : Int → Option Lease
  active : Option Int
  kept : ∀ leaseId, active = some leaseId → (leases leaseId).isSome

inductive Move where
  | grant (leaseId : Int) (lease : Lease)
  | release
  | regrant (leaseId : Int)
  | restop (leaseId : Int) (stoppedUnits : Option (List Text))

/-- A move that names a lease which cannot make it changes nothing. -/
def Arbiter.after (arbiter : Arbiter) : Move → Arbiter
  | .grant leaseId lease =>
    if (arbiter.leases leaseId).isSome then arbiter
    else
      { leases := Function.update arbiter.leases leaseId (some lease)
        active := some leaseId
        kept := by
          intro other same
          cases same
          simp }
  | .release => { arbiter with active := none, kept := by simp }
  | .regrant leaseId =>
    if known : (arbiter.leases leaseId).isSome then
      { arbiter with
        active := some leaseId
        kept := by
          intro other same
          cases same
          exact known }
    else arbiter
  | .restop leaseId stoppedUnits =>
    { arbiter with
      leases := Function.update arbiter.leases leaseId
        ((arbiter.leases leaseId).map ({ · with stoppedUnits }))
      kept := by
        intro other held
        by_cases same : other = leaseId
        · subst same
          simpa using arbiter.kept other held
        · simpa [Function.update_of_ne same] using arbiter.kept other held }

def wireUnits : Option (List Text) → Json
  | none => .null
  | some units => .arr (units.map .str)

/-- What the arbiter sends when nothing goes wrong. -/
def Arbiter.respond (arbiter : Arbiter) : Request → Response
  | .queueInvariants =>
    .answered 200 [] (.ok (.obj [(text "active_lease",
      match arbiter.active with
      | none => .null
      | some leaseId => .obj [(text "id", .int leaseId), (text "profile",
          (arbiter.leases leaseId).elim .null fun lease => .str lease.profile)])]))
  | .queueLease leaseId =>
    match arbiter.leases leaseId with
    | none => .answered 404 (text "Client error '404 Not Found'") (.ok (.obj []))
    | some lease => .answered 200 [] (.ok (.obj [(text "id", .int leaseId),
        (text "profile", .str lease.profile), (text "stopped_units", wireUnits lease.stoppedUnits)]))

/-- The two responses of one call, with the arbiter at the time of each. -/
structure Exchange where
  atFirst : Arbiter
  between : List Move
  answers : Request → Response

def Exchange.atSecond (exchange : Exchange) : Arbiter :=
  exchange.between.foldl Arbiter.after exchange.atFirst

/-! What a well-formed body says. -/

def SaysIdle (response : Response) : Prop :=
  ∃ fields, response.payload = .ok (.obj fields) ∧
    Json.field? (text "active_lease") fields = some .null

/-- The body of a lease, with `null` or a list of names where its stopped units stand. -/
def ListsStops (response : Response) (units : List Text) : Prop :=
  ∃ fields stoppedUnits, response.payload = .ok (.obj fields) ∧
    Json.field? (text "stopped_units") fields = some (wireUnits stoppedUnits) ∧
    stoppedUnits.getD [] = units

def BothRead (answers : Request → Response) : Prop :=
  ∃ leaseId units, Names (answers .queueInvariants) leaseId ∧
    ListsStops (answers (.queueLease leaseId)) units

/-- A well-formed body is true when it is sent.  Failures and other bodies may come at any time. -/
structure Exchange.Truthful (exchange : Exchange) : Prop where
  idle : SaysIdle (exchange.answers .queueInvariants) → exchange.atFirst.active = none
  named : ∀ leaseId, Names (exchange.answers .queueInvariants) leaseId →
    exchange.atFirst.active = some leaseId
  listed : ∀ leaseId units, ListsStops (exchange.answers (.queueLease leaseId)) units →
    ∃ lease, exchange.atSecond.leases leaseId = some lease ∧ lease.stoppedUnits.getD [] = units

/-- What the reading is made of, and that it excuses a unit only by a lease that is held when
the second answer is given. -/
structure Exchange.HeldNow (exchange : Exchange) (stops : ReadStops) : Prop where
  granted : stops.reading = arbitrationGranted ↔ BothRead exchange.answers
  idle : stops.reading = arbitrationIdle ↔ SaysIdle (exchange.answers .queueInvariants)
  unread : stops.reading = arbitrationUnread ↔
    ¬ BothRead exchange.answers ∧ ¬ SaysIdle (exchange.answers .queueInvariants)
  units : stops.units ≠ [] → stops.reading = arbitrationGranted
  stopped : exchange.Truthful → ∀ unit, stops.stopped (some unit) = true →
    ∃ leaseId lease, stops.leaseId = some leaseId ∧ exchange.atSecond.active = some leaseId ∧
      exchange.atSecond.leases leaseId = some lease ∧ unit ∈ lease.stoppedUnits.getD []

/-- The bodies have the field they are asked for, a list of units holds names only, and a lease
that was read to stop some unit is still the active one. -/
structure Exchange.Undisturbed (exchange : Exchange) : Prop where
  present : ∀ fields, (exchange.answers .queueInvariants).payload = .ok (.obj fields) →
    Json.field? (text "active_lease") fields ≠ none
  listed : ∀ leaseId fields, Names (exchange.answers .queueInvariants) leaseId →
    (exchange.answers (.queueLease leaseId)).payload = .ok (.obj fields) →
      Json.field? (text "stopped_units") fields ≠ none ∧
        ∀ items, Json.field? (text "stopped_units") fields = some (.arr items) →
          ∀ item ∈ items, ∃ unit, item = .str unit
  held : exchange.Truthful → ∀ leaseId units, Names (exchange.answers .queueInvariants) leaseId →
    ListsStops (exchange.answers (.queueLease leaseId)) units → units ≠ [] →
      exchange.atSecond.active = some leaseId

/-! A well-formed body against what the call takes from it. -/

theorem field_of_field? {key : Text} {fields : List (Text × Json)} {value : Json}
    (found : Json.field? key fields = some value) : Json.field key fields = value := by
  rw [Json.field, found, Option.getD_some]

theorem field?_of_field {key : Text} {fields : List (Text × Json)} {value : Json}
    (found : Json.field key fields = value) (present : Json.field? key fields ≠ none) :
    Json.field? key fields = some value := by
  obtain ⟨held, same⟩ := Option.ne_none_iff_exists'.mp present
  rw [same, ← found, field_of_field? same]

theorem texts_of_strings (units : List Text) :
    (units.map Json.str).filterMap Json.text? = units := by
  induction units with
  | nil => rfl
  | cons unit rest ih => simpa [Json.text?] using ih

theorem strings_of_texts {items : List Json} (named : ∀ item ∈ items, ∃ unit, item = .str unit) :
    (items.filterMap Json.text?).map Json.str = items := by
  induction items with
  | nil => rfl
  | cons item rest ih =>
    obtain ⟨unit, rfl⟩ := named item (List.mem_cons_self ..)
    have later := ih fun other inRest => named other (List.mem_cons_of_mem _ inRest)
    simpa [Json.text?] using later

theorem SaysIdle.idles {response : Response} (said : SaysIdle response) : Idles response := by
  obtain ⟨fields, read, free⟩ := said
  exact ⟨fields, read, field_of_field? free⟩

theorem ListsStops.yields {response : Response} {units : List Text}
    (listed : ListsStops response units) : Yields response units := by
  obtain ⟨fields, stoppedUnits, read, found, rfl⟩ := listed
  cases stoppedUnits with
  | none => exact ⟨fields, read, .inl ⟨field_of_field? found, rfl⟩⟩
  | some units =>
    exact ⟨fields, read, .inr ⟨units.map .str, field_of_field? found, (texts_of_strings units).symm⟩⟩

variable {exchange : Exchange}

theorem Exchange.Undisturbed.said (undisturbed : exchange.Undisturbed)
    (idles : Idles (exchange.answers .queueInvariants)) :
    SaysIdle (exchange.answers .queueInvariants) := by
  obtain ⟨fields, read, free⟩ := idles
  exact ⟨fields, read, field?_of_field free (undisturbed.present fields read)⟩

theorem Exchange.Undisturbed.lists (undisturbed : exchange.Undisturbed) {leaseId : Int}
    {units : List Text} (named : Names (exchange.answers .queueInvariants) leaseId)
    (yields : Yields (exchange.answers (.queueLease leaseId)) units) :
    ListsStops (exchange.answers (.queueLease leaseId)) units := by
  obtain ⟨fields, read, taken⟩ := yields
  obtain ⟨present, strings⟩ := undisturbed.listed leaseId fields named read
  rcases taken with ⟨free, rfl⟩ | ⟨items, found, rfl⟩
  · exact ⟨fields, none, read, field?_of_field free present, rfl⟩
  · have items := field?_of_field found present
    refine ⟨fields, some _, read, ?_, rfl⟩
    rw [items, wireUnits, strings_of_texts (strings _ items)]

theorem Exchange.Undisturbed.saysIdle_iff (undisturbed : exchange.Undisturbed) :
    Idles (exchange.answers .queueInvariants) ↔ SaysIdle (exchange.answers .queueInvariants) :=
  ⟨undisturbed.said, SaysIdle.idles⟩

theorem Exchange.Undisturbed.bothRead_iff (undisturbed : exchange.Undisturbed) :
    (∃ leaseId units, Names (exchange.answers .queueInvariants) leaseId ∧
      Yields (exchange.answers (.queueLease leaseId)) units) ↔ BothRead exchange.answers := by
  constructor
  · intro taken
    obtain ⟨leaseId, units, named, yields⟩ := taken
    exact ⟨leaseId, units, named, undisturbed.lists named yields⟩
  · intro both
    obtain ⟨leaseId, units, named, listed⟩ := both
    exact ⟨leaseId, units, named, listed.yields⟩

variable {stops : ReadStops}

theorem heldNow_of_undisturbed (undisturbed : exchange.Undisturbed)
    (returned : readArbitratedStops exchange.answers = some stops) : exchange.HeldNow stops := by
  have granted := (granted_iff returned).trans undisturbed.bothRead_iff
  have idle := (idle_iff returned).trans undisturbed.saysIdle_iff
  refine ⟨granted, idle, ?_, ?_, ?_⟩
  · rw [unread_iff returned, Ne, Ne, granted, idle]
  · intro holds
    obtain ⟨leaseId, -, -, reading, -⟩ := taken_of_units returned holds
    exact reading
  · intro truthful unit stopped
    have inUnits : unit ∈ stops.units := by simpa [ArbitratedStops.stopped] using stopped
    have holds := List.ne_nil_of_mem inUnits
    obtain ⟨leaseId, named, sameLease, -, yields⟩ := taken_of_units returned holds
    have listed := undisturbed.lists named yields
    obtain ⟨lease, stored, sameUnits⟩ := truthful.listed leaseId stops.units listed
    exact ⟨leaseId, lease, sameLease,
      undisturbed.held truthful leaseId stops.units named listed holds, stored, sameUnits ▸ inUnits⟩

theorem undisturbed_of_heldNow (heldNow : exchange.HeldNow stops)
    (returned : readArbitratedStops exchange.answers = some stops) : exchange.Undisturbed := by
  refine ⟨?_, ?_, ?_⟩
  · intro fields read missing
    have idles : Idles (exchange.answers .queueInvariants) :=
      ⟨fields, read, by rw [Json.field, missing, Option.getD_none]⟩
    obtain ⟨others, again, said⟩ := heldNow.idle.mp ((idle_iff returned).mpr idles)
    rw [read] at again
    cases again
    rw [missing] at said
    cases said
  · intro leaseId fields named read
    -- whatever is taken from this body, a well-formed body stands behind it
    have wired (units : List Text) (yields : Yields (exchange.answers (.queueLease leaseId)) units) :
        ∃ stoppedUnits, Json.field? (text "stopped_units") fields = some (wireUnits stoppedUnits) := by
      have both := heldNow.granted.mp ((granted_iff returned).mpr ⟨leaseId, units, named, yields⟩)
      obtain ⟨other, names, also, others, stoppedUnits, again, found, -⟩ := both
      cases also.unique named
      rw [read] at again
      cases again
      exact ⟨stoppedUnits, found⟩
    constructor
    · intro missing
      obtain ⟨stoppedUnits, found⟩ := wired [] ⟨fields, read, .inl
        ⟨by rw [Json.field, missing, Option.getD_none], rfl⟩⟩
      rw [missing] at found
      cases found
    · intro items found item inItems
      obtain ⟨stoppedUnits, wire⟩ := wired _ ⟨fields, read, .inr ⟨items, field_of_field? found, rfl⟩⟩
      rw [found] at wire
      cases stoppedUnits with
      | none => cases wire
      | some units =>
        simp only [wireUnits, Option.some.injEq, Json.arr.injEq] at wire
        subst wire
        obtain ⟨unit, -, same⟩ := List.mem_map.mp inItems
        exact ⟨unit, same.symm⟩
  · intro truthful leaseId units named listed holds
    obtain ⟨sameLease, sameUnits⟩ := units_of_yields returned named listed.yields
    obtain ⟨unit, inUnits⟩ := List.exists_mem_of_ne_nil units holds
    have stopped : stops.stopped (some unit) = true := by
      simpa [ArbitratedStops.stopped, sameUnits] using inUnits
    obtain ⟨other, lease, also, active, -⟩ := heldNow.stopped truthful unit stopped
    rw [sameLease] at also
    cases also
    exact active

/-! What the arbiter sends is true when it is sent. -/

/-- The exchange in which both responses arrive as the arbiter gives them. -/
def served (atFirst : Arbiter) (between : List Move) : Exchange where
  atFirst := atFirst
  between := between
  answers
    | .queueInvariants => atFirst.respond .queueInvariants
    | .queueLease leaseId => (between.foldl Arbiter.after atFirst).respond (.queueLease leaseId)

theorem listsStops_of_respond {arbiter : Arbiter} {leaseId : Int} {units : List Text}
    (listed : ListsStops (arbiter.respond (.queueLease leaseId)) units) :
    ∃ lease, arbiter.leases leaseId = some lease ∧ lease.stoppedUnits.getD [] = units := by
  obtain ⟨fields, stoppedUnits, read, found, rfl⟩ := listed
  cases stored : arbiter.leases leaseId with
  | none => simp [Arbiter.respond, stored, Response.payload] at read
  | some lease =>
    refine ⟨lease, rfl, ?_⟩
    simp only [Arbiter.respond, stored, Response.payload] at read
    cases read
    have wire : some (wireUnits lease.stoppedUnits) = some (wireUnits stoppedUnits) := found
    cases kept : lease.stoppedUnits with
    | none => cases stoppedUnits <;> simp [wireUnits, kept] at wire ⊢
    | some units =>
      cases stoppedUnits with
      | none => simp [wireUnits, kept] at wire
      | some others =>
        have same := congrArg (List.filterMap Json.text?)
          (by simpa [wireUnits, kept] using wire : units.map Json.str = others.map Json.str)
        rwa [texts_of_strings, texts_of_strings] at same

theorem served_truthful (atFirst : Arbiter) (between : List Move) :
    (served atFirst between).Truthful := by
  refine ⟨?_, ?_, fun leaseId units listed => listsStops_of_respond listed⟩
  · intro said
    obtain ⟨fields, read, found⟩ := said
    cases held : atFirst.active with
    | none => exact held
    | some leaseId =>
      simp only [served, Arbiter.respond, held, Response.payload] at read
      cases read
      cases (show some (Json.obj _) = some Json.null from found)
  · intro leaseId named
    obtain ⟨fields, lease, read, found, numbered⟩ := named
    cases held : atFirst.active with
    | none =>
      simp only [served, Arbiter.respond, held, Response.payload] at read
      cases read
      cases (show Json.null = Json.obj lease from found)
    | some other =>
      simp only [served, Arbiter.respond, held, Response.payload] at read
      cases read
      cases (show Json.obj _ = Json.obj lease from found)
      cases (show Json.int other = Json.int leaseId from numbered)
      exact held

theorem leases_kept {arbiter : Arbiter} {leaseId : Int} (known : (arbiter.leases leaseId).isSome)
    (moves : List Move) : ((moves.foldl Arbiter.after arbiter).leases leaseId).isSome := by
  induction moves generalizing arbiter with
  | nil => exact known
  | cons move rest ih =>
    apply ih
    cases move with
    | grant other lease =>
      simp only [Arbiter.after]
      split
      · exact known
      · by_cases same : leaseId = other
        · simp [same]
        · simpa [Function.update_of_ne same] using known
    | release => exact known
    | regrant other =>
      simp only [Arbiter.after]
      split <;> exact known
    | restop other stoppedUnits =>
      by_cases same : leaseId = other
      · subst same
        simpa [Arbiter.after] using known
      · simpa [Arbiter.after, Function.update_of_ne same] using known

/-- The nightly lease. -/
def nightly : Arbiter where
  leases := fun leaseId =>
    if leaseId = 35 then some ⟨text "venture-nightly-24b", some [text "venture-chat.service"]⟩
    else none
  active := some 35
  kept := by
    intro leaseId held
    cases held
    rfl

/-- A call always returns, and its reading is of a lease that is still held exactly when the
bodies are as they should be and the arbiter has not moved on from a lease that stops units. -/
theorem heldNow_iff (exchange : Exchange) :
    (∃ stops, readArbitratedStops exchange.answers = some stops ∧ exchange.HeldNow stops) ↔
      exchange.Undisturbed := by
  obtain ⟨stops, returned, -⟩ := readArbitratedStops_cases exchange.answers
  constructor
  · intro held
    obtain ⟨other, again, heldNow⟩ := held
    exact undisturbed_of_heldNow heldNow again
  · intro undisturbed
    exact ⟨stops, returned, heldNow_of_undisturbed undisturbed returned⟩

/-- The lease is released after its id is read, and its row still excuses the unit. -/
theorem released_lease_excuses :
    ¬ ∃ stops, readArbitratedStops (served nightly [.release]).answers = some stops ∧
      (served nightly [.release]).HeldNow stops := by
  intro held
  obtain ⟨stops, returned, heldNow⟩ := held
  have taken : stops.units = [text "venture-chat.service"] := by
    cases returned
    rfl
  have stopped : stops.stopped (some (text "venture-chat.service")) = true := by
    simp [ArbitratedStops.stopped, taken]
  obtain ⟨leaseId, lease, -, active, -⟩ := heldNow.stopped (served_truthful ..) _ stopped
  cases active

end SysadminAssistant.Estate
