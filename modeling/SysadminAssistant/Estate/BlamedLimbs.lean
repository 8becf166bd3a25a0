import SysadminAssistant.Estate.QueueInvariants
import SysadminAssistant.Python.Figures

namespace SysadminAssistant.Estate

open Python SysadminAssistant.Core

/-! Which limb a starved queue is blamed on, against the arbiter's own tick. -/

/-! ## The arbiter -/

namespace Arbiter

/-- A busy floor: the sample, if there is one, and the arbiter's own threshold. -/
inductive BusyFloor where
  | unsampled | unreadable
  | sampled (percent threshold : Int)

inductive VramFloor where
  | unmeasured
  | sampled (free need headroom : Int)

inductive Answer where
  | declines | holds | grants
deriving DecidableEq

def BusyFloor.Declines : BusyFloor → Prop
  | .sampled percent threshold => percent > threshold
  | _ => False

instance : DecidablePred BusyFloor.Declines := fun floor => by
  cases floor <;> unfold BusyFloor.Declines <;> infer_instance

def VramFloor.Holds : VramFloor → Prop
  | .sampled free need headroom => need > 0 ∧ free < need + headroom
  | .unmeasured => False

instance : DecidablePred VramFloor.Holds := fun floor => by
  cases floor <;> unfold VramFloor.Holds <;> infer_instance

/-- What a tick does with a waiter while nothing holds a lease. -/
def tick (busy : BusyFloor) (vram : VramFloor) : Answer :=
  if busy.Declines then .declines else if vram.Holds then .holds else .grants

end Arbiter

open Arbiter

/-! ## The shapes it publishes -/

inductive PublishesBusy (payload : Payload) : BusyFloor → Prop where
  | unsampled {floor : Payload} (published : payloadField payload "gpu_floor" = .obj floor)
      (reading : Json.field? (text "reading") floor = some .null) : PublishesBusy payload .unsampled
  | unreadable {floor : Payload} (published : payloadField payload "gpu_floor" = .obj floor)
      (reading : Json.field? (text "reading") floor = some (.str (text "unreadable"))) :
      PublishesBusy payload .unreadable
  | sampled {floor : Payload} {percent threshold : Int}
      (published : payloadField payload "gpu_floor" = .obj floor)
      (reading : Json.field? (text "reading") floor = some (.str (text "sampled")))
      (sample : Json.field (text "percent") floor = .int percent)
      (bound : Json.field (text "threshold_percent") floor = .int threshold) :
      PublishesBusy payload (.sampled percent threshold)

inductive PublishesVram (payload : Payload) : VramFloor → Prop where
  | unread {floor : Payload} (published : payloadField payload "vram_floor" = .obj floor)
      (state : Json.field? (text "state") floor = some .null) : PublishesVram payload .unmeasured
  | unmeasured {floor : Payload} {state : Text}
      (published : payloadField payload "vram_floor" = .obj floor)
      (known : state ∈ vramStates) (other : state ≠ text "sampled")
      (state : Json.field? (text "state") floor = some (.str state)) :
        PublishesVram payload .unmeasured
  | sampled {floor : Payload} {free need headroom : Int}
      (published : payloadField payload "vram_floor" = .obj floor)
      (state : Json.field? (text "state") floor = some (.str (text "sampled")))
      (room : Json.field (text "free_mib") floor = .int free)
      (net : Json.field (text "need_mib") floor = .int need)
      (spare : Json.field (text "headroom_mib") floor = .int headroom) :
      PublishesVram payload (.sampled free need headroom)

def verdictOfBusy : BusyFloor → FloorVerdict
  | .unsampled => .unsampled
  | .unreadable => .unreadable
  | .sampled percent threshold => if percent > threshold then .overThreshold else .wouldGrant

def verdictOfVram (floor : VramFloor) : VramVerdict := if floor.Holds then .holds else .clear

theorem text?_eq_some {value : Json} {name : Text} : value.text? = some name ↔ value = .str name := by
  cases value <;> simp [Json.text?]

theorem integer?_eq_some {value : Json} {number : Int} :
    integer? value = some number ↔ value = .int number := by
  cases value <;> simp [integer?]

theorem floorVerdict_eq_some {payload : Payload} {verdict : FloorVerdict} :
    floorVerdict payload = some verdict ↔ ∃ floor, PublishesBusy payload floor ∧
      verdictOfBusy floor = verdict := by
  constructor
  · intro judged
    unfold floorVerdict at judged
    split at judged
    · rename_i floor published
      split at judged
      · cases judged
      · rename_i reading
        cases judged
        exact ⟨.unsampled, .unsampled published reading, rfl⟩
      · rename_i reading found
        split at judged
        · rename_i unreadable
          cases judged
          rw [text?_eq_some.mp unreadable] at found
          exact ⟨.unreadable, .unreadable published found, rfl⟩
        · split at judged
          · cases judged
          · rename_i sampled
            rw [not_not, text?_eq_some] at sampled
            rw [sampled] at found
            obtain ⟨percent, sample, judged⟩ := Option.bind_eq_some_iff.mp judged
            obtain ⟨threshold, bound, judged⟩ := Option.bind_eq_some_iff.mp judged
            exact ⟨.sampled percent threshold, .sampled published found (integer?_eq_some.mp sample)
              (integer?_eq_some.mp bound), Option.some.inj judged⟩
    · cases judged
  · intro published
    obtain ⟨floor, published, same⟩ := published
    subst same
    cases published with
    | unsampled published reading => simp [floorVerdict, published, reading, verdictOfBusy]
    | unreadable published reading =>
      simp [floorVerdict, published, reading, verdictOfBusy, Json.text?]
    | sampled published reading sample bound =>
      have apart : text "sampled" ≠ text "unreadable" := by decide
      simp [floorVerdict, published, reading, verdictOfBusy, Json.text?, sample, bound,
        integer?, apart]

/-- The state of a VRAM floor that no set can hold. -/
def UnhashableState (payload : Payload) : Prop :=
  ∃ floor state, payloadField payload "vram_floor" = .obj floor ∧
    Json.field? (text "state") floor = some state ∧ state.isHashable = false

theorem vramVerdict_eq_none {payload : Payload} :
    vramVerdict payload = none ↔ UnhashableState payload := by
  constructor
  · intro raised
    unfold vramVerdict at raised
    split at raised
    · rename_i floor published
      split at raised
      · cases raised
      · cases raised
      · rename_i state _ found
        split at raised
        · rename_i unhashable
          exact ⟨floor, state, published, found, by simpa using unhashable⟩
        · split at raised
          · cases raised
          · split at raised <;> cases raised
    · cases raised
  · intro unhashable
    obtain ⟨floor, state, published, found, unhashable⟩ := unhashable
    cases state <;> simp_all [vramVerdict, Json.isHashable]

theorem vramVerdict_eq_some {payload : Payload} {verdict : VramVerdict} :
    vramVerdict payload = some (some verdict) ↔ ∃ floor, PublishesVram payload floor ∧
      verdictOfVram floor = verdict := by
  constructor
  · intro judged
    unfold vramVerdict at judged
    split at judged
    · rename_i floor published
      split at judged
      · cases judged
      · rename_i unread
        cases judged
        exact ⟨.unmeasured, .unread published unread, rfl⟩
      · rename_i state found
        split at judged
        · cases judged
        · split at judged
          · cases judged
          · rename_i name known
            obtain ⟨named, known⟩ := Option.filter_eq_some_iff.mp known
            rw [text?_eq_some.mp named] at found
            split at judged
            · rename_i other
              cases judged
              exact ⟨.unmeasured, .unmeasured published (by simpa using known) other found, rfl⟩
            · rename_i sampled
              rw [not_not] at sampled
              subst sampled
              obtain ⟨free, room, judged⟩ := Option.bind_eq_some_iff.mp (Option.some.inj judged)
              obtain ⟨need, net, judged⟩ := Option.bind_eq_some_iff.mp judged
              obtain ⟨headroom, spare, judged⟩ := Option.bind_eq_some_iff.mp judged
              exact ⟨.sampled free need headroom, .sampled published found (integer?_eq_some.mp room)
                (integer?_eq_some.mp net) (integer?_eq_some.mp spare), Option.some.inj judged⟩
    · cases judged
  · intro published
    obtain ⟨floor, published, same⟩ := published
    subst same
    cases published with
    | unread published state => simp [vramVerdict, published, state, verdictOfVram, VramFloor.Holds]
    | @unmeasured _ name published known other state =>
      have kept : (some name).filter (fun state => decide (state ∈ vramStates)) = some name := by
        simp [Option.filter, known]
      simp [vramVerdict, published, state, verdictOfVram, VramFloor.Holds, Json.isHashable,
        Json.text?, kept, other]
    | sampled published state room net spare =>
      have kept : (some (text "sampled")).filter (fun state => decide (state ∈ vramStates)) =
          some (text "sampled") := by decide
      simp [vramVerdict, published, state, verdictOfVram, VramFloor.Holds, Json.isHashable,
        Json.text?, kept, room, net, spare, integer?]

/-! ## How a row's message closes -/

namespace Arbiter

/-- The limb a sentence names, which is its last words. -/
def Answer.sentence : Answer → Text
  | .declines => text "declining on GPU load no lease declares."
  | .holds => text "waiting for room on the card."
  | .grants => text "tick loop has stopped granting."

end Arbiter

def Blames (message : Text) (limb : Answer) : Prop := limb.sentence <:+ message

instance (message : Text) (limb : Answer) : Decidable (Blames message limb) :=
  inferInstanceAs (Decidable (_ <:+ _))

inductive Closing where
  | limb (answer : Answer)
  | disjunction | caveat

def Closing.words : Closing → Text
  | .limb answer => answer.sentence
  | .disjunction => text "sampler is pinned by undeclared load."
  | .caveat => text "cannot be ruled out."

def closing (verdict : Option FloorVerdict) (vram : Option VramVerdict) (published : Bool) : Closing :=
  if verdict = some .overThreshold then .limb .declines
  else if vram = some .holds then .limb .holds
  else if published = true ∧ vram = none then .caveat
  else if verdict = none then .disjunction
  else .limb .grants

theorem blames_iff {message : Text} {close : Closing} (closed : close.words <:+ message)
    {limb : Answer} :
    Blames message limb ↔ close = .limb limb := by
  constructor
  · intro blamed
    have nested := List.suffix_or_suffix_of_suffix blamed closed
    cases close with
    | limb answer => cases answer <;> cases limb <;> first | rfl | exact absurd nested (by decide)
    | disjunction => cases limb <;> exact absurd nested (by decide)
    | caveat => cases limb <;> exact absurd nested (by decide)
  · intro same
    rw [same] at closed
    exact closed

section

variable (wording : Wording)

theorem agoText_isSome (readAt : Json) (now : Int) : ∃ ago, agoText wording readAt now = some ago := by
  unfold agoText
  split
  · exact ⟨_, rfl⟩
  · dsimp only
    split
    · exact ⟨_, rfl⟩
    · simp only [hoursText, Json.toFloat?, wholeMinutes, Option.bind_eq_bind, Option.bind_some]
      split <;> exact ⟨_, rfl⟩

theorem vramHoldsCause_closes {vram : Payload} {now : Int} :
    ∃ cause, vramHoldsCause wording (.obj vram) now = some cause ∧
      (Closing.limb .holds).words <:+ cause := by
  obtain ⟨ago, taken⟩ := agoText_isSome wording (Json.field (text "read_at") vram) now
  simp only [vramHoldsCause, Json.get, Option.bind_eq_bind, Option.bind_some, taken]
  refine ⟨_, rfl, List.IsSuffix.trans ?_ (List.suffix_append _ _)⟩
  decide

theorem busyFloorCause_closes {verdict : Option FloorVerdict} {floor : Json} {now : Int}
    (object : verdict ≠ none → ∃ fields, floor = .obj fields) :
    ∃ cause, busyFloorCause wording verdict floor now = some cause ∧
      (closing verdict none false).words <:+ cause := by
  cases verdict with
  | none =>
    refine ⟨_, rfl, ?_⟩
    rw [text_append]
    exact List.suffix_append _ _
  | some verdict =>
    obtain ⟨fields, object⟩ := object nofun
    obtain ⟨ago, taken⟩ := agoText_isSome wording (Json.field (text "read_at") fields) now
    simp only [busyFloorCause, object, Json.get, Option.bind_eq_bind, Option.bind_some, taken]
    refine ⟨_, rfl, ?_⟩
    cases verdict with
    | unsampled =>
      dsimp only
      rw [text_append]
      exact List.IsSuffix.trans (by decide) (List.suffix_append _ _)
    | unreadable => exact List.IsSuffix.trans (by decide) (List.suffix_append _ _)
    | overThreshold => exact List.IsSuffix.trans (by decide) (List.suffix_append _ _)
    | wouldGrant => exact List.IsSuffix.trans (by decide) (List.suffix_append _ _)

theorem nothingGrantedCause_closes {payload : Payload} {vram : Option VramVerdict}
    (vramJudged : vramVerdict payload = some vram) (now : Int) :
    ∃ cause, nothingGrantedCause wording payload (floorVerdict payload) vram now = some cause ∧
      (closing (floorVerdict payload) vram
        (Json.field? (text "vram_floor") payload).isSome).words <:+ cause := by
  have busyObject : floorVerdict payload ≠ none → ∃ fields, payloadField payload "gpu_floor" =
      .obj fields := by
    intro judged
    obtain ⟨verdict, judged⟩ := Option.ne_none_iff_exists'.mp judged
    obtain ⟨floor, published, _⟩ := floorVerdict_eq_some.mp judged
    cases published with
    | unsampled published _ => exact ⟨_, published⟩
    | unreadable published _ => exact ⟨_, published⟩
    | sampled published _ _ _ => exact ⟨_, published⟩
  by_cases holding : floorVerdict payload ≠ some .overThreshold ∧ vram = some .holds
  · obtain ⟨notOver, holds⟩ := holding
    rw [holds] at vramJudged
    obtain ⟨floor, published, _⟩ := vramVerdict_eq_some.mp vramJudged
    have object : ∃ fields, payloadField payload "vram_floor" = .obj fields := by
      cases published with
      | unread published _ => exact ⟨_, published⟩
      | unmeasured published _ _ _ => exact ⟨_, published⟩
      | sampled published _ _ _ _ => exact ⟨_, published⟩
    obtain ⟨fields, object⟩ := object
    obtain ⟨cause, worded, closes⟩ := @vramHoldsCause_closes wording fields now
    refine ⟨cause, ?_, ?_⟩
    · rw [nothingGrantedCause, if_pos ⟨notOver, holds⟩, object, worded]
    · simpa [closing, notOver, holds] using closes
  · obtain ⟨cause, worded, closes⟩ := @busyFloorCause_closes wording _ _ now busyObject
    rw [nothingGrantedCause, if_neg holding, worded]
    simp only [Option.bind_eq_bind, Option.bind_some]
    by_cases unread : floorVerdict payload ≠ some .overThreshold ∧
        (Json.field? (text "vram_floor") payload).isSome ∧ vram = none
    · obtain ⟨notOver, present, missing⟩ := unread
      rw [if_pos ⟨notOver, present, missing⟩]
      refine ⟨_, rfl, List.IsSuffix.trans ?_ (List.suffix_append _ _)⟩
      simp only [closing, if_neg notOver, present, missing, reduceCtorEq, if_false, and_self, if_true]
      rw [text_append]
      exact List.IsSuffix.trans (by decide) (List.suffix_append _ _)
    · rw [if_neg unread]
      refine ⟨cause, rfl, ?_⟩
      have same : closing (floorVerdict payload) vram
          (Json.field? (text "vram_floor") payload).isSome =
          closing (floorVerdict payload) none false := by
        unfold closing
        grind
      rw [same]
      exact closes

theorem starvedCause_total {payload : Payload} {reason : Json} {now : Int} :
    ∃ cause, starvedCause wording payload .total reason now = some (cause, none, none) ∧
      Closing.caveat.words <:+ cause := by
  refine ⟨_, rfl, ?_⟩
  rw [text_append]
  exact List.IsSuffix.trans (by decide) ((List.suffix_append _ _).trans (List.suffix_append _ _))

theorem starvedCause_isSome {payload : Payload} {reason : Json} {now : Int}
    (hashable : reason.isHashable = true) :
    (starvedCause wording payload .unexplained reason now).isSome ↔
      (reason = .str (text "nothing_granted") → ¬ UnhashableState payload) := by
  have cause : starvationCause .unexplained reason =
      some ((reason.text?.bind waitCause).getD undiscriminated) := by
    simp [starvationCause, hashable]
  rw [starvedCause, cause, ← text?_eq_some]
  simp only [Option.bind_eq_bind, Option.bind_some]
  by_cases granted : reason.text? = some (text "nothing_granted")
  · rw [if_pos ⟨trivial, granted⟩, ← vramVerdict_eq_none]
    cases judged : vramVerdict payload with
    | none => simp [granted]
    | some vram =>
      obtain ⟨cause, worded, _⟩ := nothingGrantedCause_closes wording judged now
      simp [worded]
  · simp [granted]

theorem starvedCause_closes {payload : Payload} {now : Int} {cause : Text}
    {verdict : Option FloorVerdict} {vram : Option VramVerdict}
    (found : starvedCause wording payload .unexplained (.str (text "nothing_granted")) now =
      some (cause, verdict, vram)) :
    vramVerdict payload = some vram ∧
      (closing (floorVerdict payload) vram
        (Json.field? (text "vram_floor") payload).isSome).words <:+ cause := by
  simp only [starvedCause, starvationCause, Json.isHashable, Option.bind_eq_bind, Option.bind_some,
    Json.text?, Bool.not_true, Bool.false_eq_true, if_false, and_self, if_true,
    Option.bind_eq_some_iff] at found
  obtain ⟨judged, vramJudged, words, worded, same⟩ := found
  cases same
  obtain ⟨cause, again, closes⟩ := nothingGrantedCause_closes wording vramJudged now
  rw [worded] at again
  cases again
  exact ⟨vramJudged, closes⟩

/-- The age of a number that is past a bound is worded unless it is too large for a `float`. -/
theorem hoursText_isSome {waiting : Json} {bound : PyFloat} (past : tooOld waiting bound = some true) :
    (hoursText wording waiting).isSome ↔ ∀ seconds, waiting = .int seconds →
      (PyFloat.ofInt? seconds).isSome := by
  cases waiting with
  | int seconds =>
    simp only [hoursText, Json.toFloat?, wholeMinutes, Json.int.injEq, forall_eq']
    cases PyFloat.ofInt? seconds with
    | none => simp
    | some value =>
      simp only [Option.map_some, Option.bind_eq_bind, Option.bind_some]
      split <;> simp
  | float value =>
    cases value with
    | finite value =>
      simp only [hoursText, Json.toFloat?, wholeMinutes, Option.bind_eq_bind, Option.bind_some]
      split <;> simp
    | infinite negative =>
      cases negative with
      | true => cases bound with
        | infinite other =>
          cases other <;> simp [tooOld, Json.above, Json.number?, PyFloat.less] at past
        | _ => simp [tooOld, Json.above, Json.number?, PyFloat.less] at past
      | false => simp [hoursText, Json.toFloat?, overHour, PyFloat.less]
    | nan => simp [hoursText, Json.toFloat?, overHour, PyFloat.less]
  | bool value =>
    simp only [hoursText, Json.toFloat?, wholeMinutes, Option.bind_eq_bind, Option.bind_some]
    rw [apply_ite Option.isSome]
    simp
  | null => simp [tooOld] at past
  | str _ => simp [tooOld, Json.above, Json.number?] at past
  | arr _ => simp [tooOld, Json.above, Json.number?] at past
  | obj _ => simp [tooOld, Json.above, Json.number?] at past

end

/-! ## The starved row -/

def starvedTitle : Text := text "Estate queue starved"

def nothingGranted : Json := .str (text "nothing_granted")

/-- A message blames no limb but the one that the readings imply, and that one where both are known. -/
structure BlamesItsLimb (payload : Payload) (message : Text) : Prop where
  declining : Blames message .declines → ∃ busy, PublishesBusy payload busy ∧ busy.Declines
  waiting : Blames message .holds → (∀ busy, PublishesBusy payload busy → ¬ busy.Declines) ∧
    ∃ vram, PublishesVram payload vram ∧ vram.Holds
  stopped : Blames message .grants → (∀ busy, PublishesBusy payload busy → ¬ busy.Declines) ∧
    ∀ vram, PublishesVram payload vram → ¬ vram.Holds
  busyUnread : (∀ busy, ¬ PublishesBusy payload busy) → ¬ Blames message .declines ∧
    ¬ Blames message .grants
  vramUnread : (Json.field? (text "vram_floor") payload).isSome →
    (∀ vram, ¬ PublishesVram payload vram) → ¬ Blames message .holds ∧ ¬ Blames message .grants
  implied : (Json.field? (text unexplainedWaitKey) payload).isSome → ∀ busy vram,
    PublishesBusy payload busy → PublishesVram payload vram → Blames message (tick busy vram)

theorem blamesItsLimb_of_closing {payload : Payload} {message : Text} {vram : Option VramVerdict}
    (vramJudged : vramVerdict payload = some vram)
    (closes :
    (closing (floorVerdict payload) vram (Json.field? (text "vram_floor") payload).isSome).words <:+
      message) : BlamesItsLimb payload message := by
  have busyJudged : ∀ busy, PublishesBusy payload busy →
      floorVerdict payload = some (verdictOfBusy busy) :=
    fun busy published => floorVerdict_eq_some.mpr ⟨busy, published, rfl⟩
  have vramOf : ∀ floor, PublishesVram payload floor → vram = some (verdictOfVram floor) := by
    intro floor published
    have again := vramVerdict_eq_some.mpr ⟨floor, published, rfl⟩
    rw [vramJudged] at again
    exact Option.some.inj again
  have declines : ∀ busy : BusyFloor, busy.Declines ↔ verdictOfBusy busy = .overThreshold := by
    intro busy
    cases busy <;> simp [BusyFloor.Declines, verdictOfBusy]
  have holds : ∀ floor : VramFloor, floor.Holds ↔ verdictOfVram floor = .holds := by
    intro floor
    simp [verdictOfVram]
  refine ⟨?_, ?_, ?_, ?_, ?_, ?_⟩
  · intro blamed
    have said := (blames_iff closes).mp blamed
    have judged : floorVerdict payload = some .overThreshold := by grind [closing]
    obtain ⟨busy, published, verdict⟩ := floorVerdict_eq_some.mp judged
    exact ⟨busy, published, (declines busy).mpr verdict⟩
  · intro blamed
    have said := (blames_iff closes).mp blamed
    have judged : floorVerdict payload ≠ some .overThreshold ∧ vram = some .holds := by grind [closing]
    refine ⟨fun busy published declining => judged.1 ?_, ?_⟩
    · rw [busyJudged busy published, (declines busy).mp declining]
    · rw [judged.2] at vramJudged
      obtain ⟨floor, published, verdict⟩ := vramVerdict_eq_some.mp vramJudged
      exact ⟨floor, published, (holds floor).mpr verdict⟩
  · intro blamed
    have said := (blames_iff closes).mp blamed
    have judged : floorVerdict payload ≠ some .overThreshold ∧ vram ≠ some .holds := by grind [closing]
    refine ⟨fun busy published declining => judged.1 ?_, fun floor published holding => judged.2 ?_⟩
    · rw [busyJudged busy published, (declines busy).mp declining]
    · rw [vramOf floor published, (holds floor).mp holding]
  · intro unread
    have judged : floorVerdict payload = none := by
      rw [Option.eq_none_iff_forall_not_mem]
      intro verdict judged
      obtain ⟨busy, published, _⟩ := floorVerdict_eq_some.mp judged
      exact unread busy published
    rw [blames_iff closes, blames_iff closes]
    grind [closing]
  · intro present unread
    have judged : vram = none := by
      rw [Option.eq_none_iff_forall_not_mem]
      intro verdict judged
      rw [Option.mem_def.mp judged] at vramJudged
      obtain ⟨floor, published, _⟩ := vramVerdict_eq_some.mp vramJudged
      exact unread floor published
    rw [blames_iff closes, blames_iff closes]
    grind [closing]
  · intro _ busy floor busyPublished vramPublished
    rw [blames_iff closes, busyJudged busy busyPublished, vramOf floor vramPublished, tick]
    simp only [closing, declines, holds, Option.some.injEq]
    grind

theorem blamesItsLimb_of_total {payload : Payload} {message : Text}
    (unmasked : Json.field? (text unexplainedWaitKey) payload = none)
    (closes : Closing.caveat.words <:+ message) :
    BlamesItsLimb payload message := by
  have silent : ∀ limb, ¬ Blames message limb := by
    intro limb blamed
    cases (blames_iff closes).mp blamed
  exact ⟨fun blamed => absurd blamed (silent _), fun blamed => absurd blamed (silent _),
    fun blamed => absurd blamed (silent _), fun _ => ⟨silent _, silent _⟩, fun _ _ =>
    ⟨silent _, silent _⟩, fun masked => by rw [unmasked] at masked; cases masked⟩

def NumberOrNull (value : Json) : Prop := value = .null ∨ value.number?.isSome

def Starved (payload : Payload) (maxWaitSeconds : PyFloat) : Prop :=
  tooOld (starvationGauge payload).1 maxWaitSeconds = some true

/-- What a starved queue's row needs: an age that a `float` holds, and no floor state that is an
array or an object where the state would be looked up. -/
def Wordable (payload : Payload) (maxWaitSeconds : PyFloat) : Prop :=
  Starved payload maxWaitSeconds →
    (∀ seconds, (starvationGauge payload).1 = .int seconds → (PyFloat.ofInt? seconds).isSome) ∧
      ((Json.field? (text unexplainedWaitKey) payload).isSome →
        payloadField payload "waiting_reason" = nothingGranted → ¬ UnhashableState payload)

section

variable (wording : Wording)

theorem queueBacklog_rows {payload : Payload} {maxDepth : Int}
    (depth : NumberOrNull (payloadField payload "depth")) :
    ∃ rows, queueBacklog wording payload maxDepth = some rows ∧ ∀ row ∈ rows,
      row.title ≠ starvedTitle := by
  have compared : ∃ deep, ((payloadField payload "depth").orElse (.int 0)).above
      (.finite maxDepth) = some deep := by
    rcases depth with null | number
    · rw [null]
      exact ⟨_, rfl⟩
    · obtain ⟨value, number⟩ := Option.isSome_iff_exists.mp number
      rw [Json.orElse]
      split
      · exact ⟨_, by rw [Json.above, number, Option.map_some]⟩
      · exact ⟨_, rfl⟩
  obtain ⟨deep, compared⟩ := compared
  simp only [queueBacklog, compared, Option.bind_eq_bind, Option.bind_some]
  cases deep with
  | false => exact ⟨[], rfl, by simp⟩
  | true =>
    refine ⟨_, rfl, ?_⟩
    intro row member
    rw [List.mem_singleton.mp member]
    exact show text "Estate queue backlog" ≠ starvedTitle by decide

theorem gauge_compared {payload : Payload} {maxWaitSeconds : PyFloat}
    (oldest : NumberOrNull (payloadField payload "oldest_waiting_seconds"))
    (unexplained : NumberOrNull (payloadField payload unexplainedWaitKey)) :
    ∃ starved, tooOld (starvationGauge payload).1 maxWaitSeconds = some starved := by
  have gauge : NumberOrNull (starvationGauge payload).1 := by
    unfold starvationGauge
    split
    · rename_i waiting found
      rw [payloadField, Json.field, found] at unexplained
      exact unexplained
    · exact oldest
  rcases gauge with null | number
  · rw [null]
    exact ⟨_, rfl⟩
  · obtain ⟨value, number⟩ := Option.isSome_iff_exists.mp number
    unfold tooOld
    split
    · exact ⟨_, rfl⟩
    · exact ⟨_, by rw [Json.above, number, Option.map_some]⟩

theorem queueStarved_starved {payload : Payload} {maxWaitSeconds : PyFloat} {now : Int}
    (starved : Starved payload maxWaitSeconds) :
    ((queueStarved wording payload maxWaitSeconds now).isSome ↔
      (hoursText wording (starvationGauge payload).1).isSome ∧
      (starvedCause wording payload (starvationGauge payload).2
        (payloadField payload "waiting_reason") now).isSome) ∧
      ∀ rows, queueStarved wording payload maxWaitSeconds now = some rows →
        ∃ front cause verdict vram,
          starvedCause wording payload (starvationGauge payload).2
            (payloadField payload "waiting_reason") now = some (cause, verdict, vram) ∧
          ∃ row, rows = [row] ∧ row.title = starvedTitle ∧ row.message = front ++ cause := by
  rw [Starved] at starved
  simp only [queueStarved, starved, Option.bind_eq_bind, Option.bind_some, if_true]
  cases found : starvedCause wording payload (starvationGauge payload).2
    (payloadField payload "waiting_reason") now with
  | none => simp
  | some explained =>
    obtain ⟨cause, verdict, vram⟩ := explained
    cases aged : hoursText wording (starvationGauge payload).1 with
    | none => simp
    | some age =>
      refine ⟨by simp, ?_⟩
      intro rows ran
      exact ⟨_, cause, verdict, vram, rfl, _, (Option.some.inj ran).symm, rfl, rfl⟩

theorem starvedCause_gauged {payload : Payload} {reason : Json} {now : Int}
    (hashable : reason.isHashable = true) :
    (starvedCause wording payload (starvationGauge payload).2 reason now).isSome ↔
      ((Json.field? (text unexplainedWaitKey) payload).isSome → reason = nothingGranted →
        ¬ UnhashableState payload) := by
  cases masked : Json.field? (text unexplainedWaitKey) payload with
  | none => simp [starvationGauge, masked, starvedCause, starvationCause]
  | some waiting =>
    simp only [starvationGauge, masked, Option.isSome_some, true_imp_iff]
    exact starvedCause_isSome wording hashable

theorem queueStarved_isSome {payload : Payload} {maxWaitSeconds : PyFloat} {now : Int}
    (compared : ∃ starved, tooOld (starvationGauge payload).1 maxWaitSeconds = some starved)
    (hashable : (payloadField payload "waiting_reason").isHashable = true) :
    (queueStarved wording payload maxWaitSeconds now).isSome ↔ Wordable payload maxWaitSeconds := by
  obtain ⟨starved, compared⟩ := compared
  cases starved with
  | false => simp [queueStarved, Wordable, Starved, compared]
  | true =>
    have starved : Starved payload maxWaitSeconds := compared
    rw [(queueStarved_starved wording starved).1, hoursText_isSome wording compared,
      starvedCause_gauged wording hashable, Wordable]
    exact ⟨fun both _ => both, fun wordable => wordable starved⟩

theorem queueStarved_blames {payload : Payload} {maxWaitSeconds : PyFloat} {now : Int}
    {rows : List Judgement} (ran : queueStarved wording payload maxWaitSeconds now = some rows)
    (granted : payloadField payload "waiting_reason" = nothingGranted) :
    ∀ row ∈ rows, BlamesItsLimb payload row.message := by
  intro other member
  have starved : Starved payload maxWaitSeconds := by
    rw [Starved]
    cases compared : tooOld (starvationGauge payload).1 maxWaitSeconds with
    | none => simp [queueStarved, compared] at ran
    | some starved =>
      cases starved with
      | false =>
        simp only [queueStarved, compared, Option.bind_eq_bind, Option.bind_some] at ran
        cases ran
        cases member
      | true => rfl
  obtain ⟨front, cause, verdict, vram, found, row, rfl, _, message⟩ :=
    (queueStarved_starved wording starved).2 rows ran
  rw [List.mem_singleton.mp member, message]
  rw [granted] at found
  cases masked : Json.field? (text unexplainedWaitKey) payload with
  | none =>
    simp only [starvationGauge, masked] at found
    obtain ⟨cause, again, closes⟩ := @starvedCause_total wording payload nothingGranted now
    rw [found] at again
    cases again
    exact blamesItsLimb_of_total masked (closes.trans (List.suffix_append _ _))
  | some waiting =>
    simp only [starvationGauge, masked] at found
    obtain ⟨vramJudged, closes⟩ := starvedCause_closes wording found
    exact blamesItsLimb_of_closing vramJudged (closes.trans (List.suffix_append _ _))

/-- The queue is judged, and its starved row blames the limb that the arbiter's readings imply, if
and only if the row can be worded. -/
theorem queue_blamed_iff (payload : Payload) (maxDepth : Int) (maxWaitSeconds : PyFloat) (now : Int)
    (depth : NumberOrNull (payloadField payload "depth"))
    (oldest : NumberOrNull (payloadField payload "oldest_waiting_seconds"))
    (unexplained : NumberOrNull (payloadField payload unexplainedWaitKey))
    (reason : payloadField payload "waiting_reason" = .null ∨
      ∃ words, payloadField payload "waiting_reason" = .str words) :
    (∃ rows, judgeQueueInvariants wording payload maxDepth maxWaitSeconds now = some rows ∧
      (payloadField payload "waiting_reason" = nothingGranted →
        ∀ row ∈ rows, row.title = starvedTitle →
        BlamesItsLimb payload row.message)) ↔ Wordable payload maxWaitSeconds := by
  obtain ⟨backlog, backlogged, others⟩ := @queueBacklog_rows wording _ maxDepth depth
  have hashable : (payloadField payload "waiting_reason").isHashable = true := by
    rcases reason with null | ⟨words, reason⟩
    · rw [null]
      rfl
    · rw [reason]
      rfl
  rw [← @queueStarved_isSome wording payload maxWaitSeconds now
    (gauge_compared oldest unexplained) hashable]
  simp only [judgeQueueInvariants, backlogged, Option.bind_eq_bind, Option.bind_some]
  constructor
  · intro judged
    obtain ⟨rows, ran, _⟩ := judged
    obtain ⟨starved, ran, _⟩ := Option.bind_eq_some_iff.mp ran
    exact Option.isSome_iff_exists.mpr ⟨starved, ran⟩
  · intro worded
    obtain ⟨starved, ran⟩ := Option.isSome_iff_exists.mp worded
    rw [ran]
    refine ⟨_, rfl, ?_⟩
    intro granted row member named
    rcases List.mem_append.mp member with backlogRow | starvedRow
    · exact absurd named (others row backlogRow)
    · exact queueStarved_blames wording ran granted row starvedRow

end

def heldForRoom : Payload :=
  [(text "depth", .int 1), (text unexplainedWaitKey, .float (.finite 1000)),
    (text "waiting_reason", nothingGranted),
    (text "gpu_floor", .obj [(text "reading", .str (text "sampled")), (text "percent", .int 50),
      (text "threshold_percent", .int 50)]),
    (text "vram_floor", .obj [(text "state", .str (text "sampled")), (text "free_mib", .int 900),
      (text "need_mib", .int 8000), (text "headroom_mib", .int 512)])]

theorem heldForRoom_blamed :
    ∃ rows, judgeQueueInvariants bareWording heldForRoom 3 (.finite 900) 0 = some rows ∧
      (payloadField heldForRoom "waiting_reason" = nothingGranted →
        ∀ row ∈ rows, row.title = starvedTitle → BlamesItsLimb heldForRoom row.message) := by
  refine (queue_blamed_iff bareWording heldForRoom 3 (.finite 900) 0 (.inr rfl)
    (.inl rfl) (.inr rfl) (.inr ⟨_, rfl⟩)).mpr ?_
  intro _
  refine ⟨fun seconds whole => ?_, fun _ _ unhashable => ?_⟩
  · cases whole
  · obtain ⟨floor, state, published, found, unhashable⟩ := unhashable
    cases published
    cases found
    cases unhashable

/-- A floor whose state is an empty array. -/
def stateless : Payload :=
  [(text "depth", .int 1), (text unexplainedWaitKey, .int 1000),
    (text "waiting_reason", nothingGranted), (text "vram_floor", .obj [(text "state", .arr [])])]

theorem stateless_unjudged : judgeQueueInvariants bareWording stateless 3 (.finite 900) 0 = none := by
  have compared : tooOld (starvationGauge stateless).1 (.finite 900) = some true := by decide
  have starving : queueStarved bareWording stateless (.finite 900) 0 = none := by
    rw [← Option.not_isSome_iff_eq_none, queueStarved_isSome bareWording ⟨true, compared⟩ rfl]
    exact fun wordable => (wordable compared).2 rfl rfl ⟨_, _, rfl, rfl, rfl⟩
  rw [judgeQueueInvariants, starving]
  cases queueBacklog bareWording stateless 3 <;> rfl

end SysadminAssistant.Estate
