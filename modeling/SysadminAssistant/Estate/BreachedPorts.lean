import SysadminAssistant.Estate.AuditFindings
import SysadminAssistant.Library.RaisingLoops
import SysadminAssistant.Python.DecimalText

namespace SysadminAssistant.Estate

open Python SysadminAssistant.Core SysadminAssistant.Units Library

/-! Which ports the audit's breaches are about, and which ports the rows name. -/

/-- What `str.isdigit` takes: every decimal digit, and nothing that `int` would skip. -/
structure DigitLaws (wording : Wording) : Prop where
  decimal : ∀ c, (wording.database.digit c).isSome → wording.isDigit c = true
  unadorned : ∀ c, wording.isDigit c = true → CharDatabase.Unadorned c

section

variable (wording : Wording)

/-- The port a finding is about: an integer, or a text that denotes a non-negative one. -/
def denotedPort? (finding : Json) : Option Int :=
  match finding.get "detail" with
  | some (.obj detail) =>
    match Json.field (text "port") detail with
    | .int port => some port
    | .str digits => (wording.database.decimal? digits).map Int.ofNat
    | _ => none
  | _ => none

/-- The breaches of the ports check, each with its port. -/
def portBreaches (payload : Payload) : List (Int × Json) :=
  (judgedFindings payload portsCheck).filterMap fun finding =>
    (denotedPort? wording finding).map fun port => (port, finding)

/-- A text that is all digits and that `int` refuses: a digit of it is not decimal, or there are too
many. -/
def RefusedPort (finding : Json) : Prop :=
  ∃ detail digits, finding.get "detail" = some (.obj detail) ∧
    Json.field (text "port") detail = .str digits ∧
    digits ≠ [] ∧ (∀ c ∈ digits, wording.isDigit c = true) ∧
    ((∃ c ∈ digits, wording.database.digit c = none) ∨ intMaxStrDigits < digits.length)

end

section

variable {wording : Wording}

theorem portOf_eq (laws : DigitLaws wording) (finding : Json) :
    (RefusedPort wording finding → portOf wording finding = none) ∧
      (¬ RefusedPort wording finding →
        portOf wording finding = some (denotedPort? wording finding)) := by
  unfold portOf denotedPort?
  cases described : finding.get "detail" with
  | none => exact ⟨fun refused => by simp [RefusedPort, described] at refused, fun _ => rfl⟩
  | some detail =>
    cases detail with
    | obj detail =>
      dsimp only
      cases port : Json.field (text "port") detail with
      | str digits =>
        dsimp only
        by_cases numeric : digits ≠ [] ∧ digits.all wording.isDigit = true
        · have each := List.all_eq_true.mp numeric.2
          rw [if_pos numeric, CharDatabase.intOfText_unadorned (fun c member =>
            laws.unadorned c (each c member)) numeric.1]
          constructor
          · intro refused
            obtain ⟨detail', digits', described', port', _, _, undecimal⟩ := refused
            rw [described] at described'
            cases described'
            rw [port] at port'
            cases port'
            rcases undecimal with undecimal | long
            · obtain ⟨c, member, undecimal⟩ := undecimal
              have none : wording.database.decimal? digits = none := by
                rw [← Option.not_isSome_iff_eq_none, CharDatabase.decimal?_isSome]
                intro decimal
                have digit := decimal.2 c member
                rw [undecimal] at digit
                cases digit
              rw [none]
            · cases wording.database.decimal? digits <;> simp [long]
          · intro taken
            have decimal : (wording.database.decimal? digits).isSome := by
              rw [CharDatabase.decimal?_isSome]
              refine ⟨numeric.1, fun c member => ?_⟩
              by_contra undecimal
              exact taken ⟨detail, digits, described, port, numeric.1, each,
                .inl ⟨c, member, by simpa using undecimal⟩⟩
            have short : ¬ intMaxStrDigits < digits.length := fun long =>
              taken ⟨detail, digits, described, port, numeric.1, each, .inr long⟩
            obtain ⟨number, decimal⟩ := Option.isSome_iff_exists.mp decimal
            rw [decimal]
            simp [short]
        · rw [if_neg numeric]
          constructor
          · intro refused
            obtain ⟨detail', digits', described', port', nonempty, each, _⟩ := refused
            rw [described] at described'
            cases described'
            rw [port] at port'
            cases port'
            exact absurd ⟨nonempty, List.all_eq_true.mpr each⟩ numeric
          · intro _
            have none : wording.database.decimal? digits = none := by
              rw [← Option.not_isSome_iff_eq_none, CharDatabase.decimal?_isSome]
              intro decimal
              exact numeric ⟨decimal.1, List.all_eq_true.mpr fun c member =>
                laws.decimal c (decimal.2 c member)⟩
            rw [none]
            rfl
      | _ => exact ⟨fun refused => by simp [RefusedPort, described, port] at refused, fun _ => rfl⟩
    | _ => exact ⟨fun refused => by simp [RefusedPort, described] at refused, fun _ => rfl⟩

end

/-! ## The rungs -/

theorem loudest_mem {first : Severity} {rest : List Severity} :
    loudest (first :: rest) ∈ first :: rest := by
  rw [loudest]
  induction rest generalizing first with
  | nil => exact List.mem_cons_self
  | cons next rest ih =>
    rw [List.foldl_cons]
    rcases List.mem_cons.mp (@ih (if next.order > first.order then next else first)) with here | later
    · rw [here]
      split
      · exact List.mem_cons_of_mem _ List.mem_cons_self
      · exact List.mem_cons_self
    · exact List.mem_cons_of_mem _ (List.mem_cons_of_mem _ later)

theorem le_loudest {rungs : List Severity} {rung : Severity} (member : rung ∈ rungs) :
    rung.order ≤ (loudest rungs).order := by
  cases rungs with
  | nil => cases member
  | cons first rest =>
    have bounds : ∀ start : Severity, start.order ≤ (rest.foldl (fun loud rung =>
        if rung.order > loud.order then rung else loud) start).order ∧ ∀ rung ∈ rest, rung.order ≤
        (rest.foldl (fun loud rung => if rung.order > loud.order then rung
          else loud) start).order := by
      clear member
      induction rest with
      | nil => exact fun start => ⟨Nat.le_refl _, nofun⟩
      | cons next rest ih =>
        intro start
        obtain ⟨above, others⟩ := ih (if next.order > start.order then next else start)
        have kept : start.order ≤ (if next.order > start.order then next else start).order ∧
            next.order ≤ (if next.order > start.order then next else start).order := by
          split <;> omega
        refine ⟨kept.1.trans above, fun rung inside => ?_⟩
        rcases List.mem_cons.mp inside with here | later
        · rw [here]
          exact kept.2.trans above
        · exact others rung later
    rcases List.mem_cons.mp member with here | later
    · rw [here]
      exact (bounds first).1
    · exact (bounds first).2 rung later

theorem breachSeverity_quiet {holder : Option PortHolder}
    (quiet : (breachSeverity holder).order < defaultSeverity.order) :
    ∃ transient, holder = some transient ∧ transient.transient = true := by
  rw [breachSeverity] at quiet
  split at quiet
  · rename_i transient
    exact Option.any_eq_true _ _ |>.mp transient
  · exact absurd quiet (Nat.lt_irrefl _)

/-! ## The rows -/

def breachRollupTitle : Text := text "Estate port registry breach"

/-- A port in the title of a row of its own, or among those of the roll-up. -/
def NamesPort (rows : List Judgement) (port : Int) : Prop :=
  ∃ row ∈ rows, row.title = breachTitle port ∨ (row.title = breachRollupTitle ∧
    ∃ ports, row.details.get? (text "ports") = some (.arr ports) ∧ .int port ∈ ports)

theorem breachTitle_injective : Function.Injective breachTitle := by
  intro left right same
  exact intText_injective (List.append_cancel_left (List.append_cancel_right same))

theorem breachTitle_ne_rollup (port : Int) : breachTitle port ≠ breachRollupTitle := by
  intro same
  have opened : intText port ++ text " registry breach" = text "registry breach" :=
    List.append_cancel_left (show text "Estate port " ++ (intText port ++ text " registry breach") =
      text "Estate port " ++ text "registry breach" by rw [← List.append_assoc]; exact same)
  have length := congrArg List.length opened
  rw [List.length_append, show (text " registry breach").length = 16 from rfl,
    show (text "registry breach").length = 15 from rfl] at length
  omega

section

variable (wording : Wording) (payload : Payload) (attribution : PortAttribution)

/-- No breach is lost, renamed or quietened. -/
structure SpeaksForPorts (rows : List Judgement) : Prop where
  named : ∀ port, NamesPort rows port ↔ port ∈ (portBreaches wording payload).map Prod.fst
  apart : ∀ row ∈ rows, ∀ other ∈ rows, row.title = other.title →
    row.details.get? (text "port") = other.details.get? (text "port")
  quiet : ∀ row ∈ rows, ∀ port, row.title = breachTitle port →
    row.severity.order < Severity.warning.order →
    ∃ holder, attribution.of port = some holder ∧ holder.transient = true
  rollup : ∀ row ∈ rows, row.title = breachRollupTitle →
    (∀ breach ∈ portBreaches wording payload, ∀ replaced,
      breachRow wording attribution breach = some replaced →
      replaced.severity.order ≤ row.severity.order) ∧
    ∃ breach ∈ portBreaches wording payload, breachSeverity (attribution.of breach.1) = row.severity

/-- No judged finding carries a digit text that `int` refuses, nor, where each has a row of its own,
a whole number of days that is too large for a `float`. -/
structure Readable (maxRows : Int) : Prop where
  ports : ∀ finding ∈ judgedFindings payload portsCheck, ¬ RefusedPort wording finding
  standing : (portBreaches wording payload).length ≤ maxRows →
    ∀ breach ∈ portBreaches wording payload, ∀ days,
    breach.2.get "standing_days" = some (.int days) → (PyFloat.ofInt? days).isSome

end

section

variable {wording : Wording} {payload : Payload} {attribution : PortAttribution} {maxRows : Int}

theorem mem_portBreaches {breach : Int × Json} : breach ∈ portBreaches wording payload ↔
    breach.2 ∈ judgedFindings payload portsCheck ∧ denotedPort? wording breach.2 = some breach.1 := by
  simp only [portBreaches, List.mem_filterMap, Option.map_eq_some_iff]
  constructor
  · intro found
    obtain ⟨finding, member, port, denoted, same⟩ := found
    rw [← same]
    exact ⟨member, denoted⟩
  · intro found
    exact ⟨breach.2, found.1, breach.1, found.2, rfl⟩

theorem judged_isObj {check : Text} {finding : Json}
    (judged : finding ∈ judgedFindings payload check) : ∃ fields, finding = .obj fields := by
  unfold judgedFindings at judged
  split at judged
  · have kept := (List.mem_filter.mp judged).2
    cases finding with
    | obj fields => exact ⟨fields, rfl⟩
    | _ => simp [Json.get] at kept
  · cases judged

theorem withStanding_isSome {summary : Text} {fields : Payload} :
    (withStanding wording summary (.obj fields)).isSome ↔
      ∀ days, Json.get (.obj fields) "standing_days" = some (.int days) →
        (PyFloat.ofInt? days).isSome := by
  have closed : ∀ days, (withStanding.close summary (.obj fields) days).isSome := by
    intro days
    simp only [withStanding.close, Json.get, Option.bind_eq_bind, Option.bind_some]
    split <;> rfl
  simp only [withStanding, Json.get, Option.bind_eq_bind, Option.bind_some, Option.some.injEq]
  split
  · rename_i standing found
    simp only [found, Json.int.injEq, forall_eq']
    cases fits : PyFloat.ofInt? standing with
    | none => simp [Json.toFloat?, fits]
    | some value =>
      simp only [Json.toFloat?, fits, Option.map_some, Option.bind_some, Option.isSome_some, iff_true]
      exact closed _
  · rename_i standing found
    simp only [found, reduceCtorEq, false_implies, implies_true, iff_true]
    exact closed _
  · rename_i other _
    simp only [Option.pure_def, Option.isSome_some, true_iff]
    intro days found
    exact absurd found (other days)

theorem breachRow_outcome {breach : Int × Json} {fields : Payload}
    (object : breach.2 = .obj fields) : ((breachRow wording attribution breach).isSome ↔
      ∀ days, breach.2.get "standing_days" = some (.int days) → (PyFloat.ofInt? days).isSome) ∧
      ∀ row, breachRow wording attribution breach = some row → row.title = breachTitle breach.1 ∧
        row.severity = breachSeverity (attribution.of breach.1) ∧
        row.details.get? (text "port") = some (.int breach.1) := by
  obtain ⟨port, finding⟩ := breach
  dsimp only at object
  subst object
  have standing :=
    @withStanding_isSome wording (wording.str ((Json.field (text "summary") fields).orElse
      (.str (text "port " ++ intText port ++ text " is listening unclaimed")))) fields
  rw [← standing]
  simp only [breachRow, evidence, Json.get, Option.bind_eq_bind, Option.bind_some]
  cases worded : withStanding wording (wording.str ((Json.field (text "summary") fields).orElse
      (.str (text "port " ++ intText port ++ text " is listening unclaimed")))) (.obj fields) with
  | none => simp
  | some message =>
    refine ⟨by simp, ?_⟩
    intro row made
    cases made
    refine ⟨rfl, rfl, Dict.get?_ofEntries ?_ List.mem_cons_self⟩
    simp only [List.map_cons, List.map_nil, List.cons_append, List.nil_append]
    decide

def sortedBreaches (wording : Wording) (payload : Payload) : List (Int × Json) :=
  (portBreaches wording payload).insertionSort fun left right => left.1 ≤ right.1

theorem mem_sortedBreaches {breach : Int × Json} :
    breach ∈ sortedBreaches wording payload ↔ breach ∈ portBreaches wording payload :=
  List.mem_insertionSort _

theorem judgeAuditFindings_readable (laws : DigitLaws wording)
    (readable : ∀ finding ∈ judgedFindings payload portsCheck, ¬ RefusedPort wording finding) :
    judgeAuditFindings wording payload maxRows attribution =
      if (sortedBreaches wording payload).length > maxRows then
        some (if sortedBreaches wording payload = [] then []
          else [breachRollup attribution ((sortedBreaches wording payload).map Prod.fst) maxRows])
      else (sortedBreaches wording payload).mapM (breachRow wording attribution) := by
  have ported : (judgedFindings payload portsCheck).mapM (fun finding => do
      return (← portOf wording finding).map fun port => (port, finding)) =
      some ((judgedFindings payload portsCheck).map fun finding =>
        (denotedPort? wording finding).map fun port => (port, finding)) := by
    refine mapM_each fun finding member => ?_
    rw [(portOf_eq laws finding).2 (readable finding member)]
    rfl
  have kept : ((judgedFindings payload portsCheck).map fun finding =>
      (denotedPort? wording finding).map fun port => (port, finding)).filterMap id =
        portBreaches wording payload := by
    rw [List.filterMap_map]
    rfl
  rw [judgeAuditFindings, ported, Option.bind_eq_bind, Option.bind_some, kept]
  rfl

theorem speaksForPorts_nil (none : sortedBreaches wording payload = []) :
    SpeaksForPorts wording payload attribution [] := by
  have silent : portBreaches wording payload = [] := by
    rw [List.eq_nil_iff_forall_not_mem]
    intro breach member
    rw [← mem_sortedBreaches, none] at member
    cases member
  refine ⟨fun port => ?_, nofun, nofun, nofun⟩
  simp [NamesPort, silent]

theorem mem_rollupRungs {ports : List Int} {rung : Severity} :
    rung ∈
      (Dict.ofEntries (ports.map fun port => (port, breachSeverity (attribution.of port)))).values ↔
      ∃ port ∈ ports, breachSeverity (attribution.of port) = rung := by
  rw [Dict.mem_values]
  constructor
  · intro found
    obtain ⟨port, found⟩ := found
    obtain ⟨other, member, same⟩ := List.mem_map.mp (Dict.get?_ofEntries_mem found)
    exact ⟨other, member, congrArg Prod.snd same⟩
  · intro found
    obtain ⟨port, member, same⟩ := found
    have entry : (port, rung) ∈ ports.map fun port => (port, breachSeverity (attribution.of port)) :=
      List.mem_map.mpr ⟨port, member, by rw [same]⟩
    obtain ⟨kept, found⟩ := Dict.exists_get?_ofEntries entry
    obtain ⟨other, _, again⟩ := List.mem_map.mp (Dict.get?_ofEntries_mem found)
    simp only [Prod.mk.injEq] at again
    exact ⟨port, by rw [found, ← again.2, again.1, same]⟩

theorem speaksForPorts_rollup (some : sortedBreaches wording payload ≠ []) :
    SpeaksForPorts wording payload attribution
      [breachRollup attribution ((sortedBreaches wording payload).map Prod.fst) maxRows] := by
  have ports : ∀ port, port ∈ (sortedBreaches wording payload).map Prod.fst ↔
      port ∈ (portBreaches wording payload).map Prod.fst := by
    intro port
    simp only [List.mem_map, mem_sortedBreaches]
  have listed : (breachRollup attribution ((sortedBreaches wording payload).map Prod.fst)
      maxRows).details.get?
      (text "ports") = .some (.arr (((sortedBreaches wording payload).map Prod.fst).map .int)) := by
    refine Dict.get?_ofEntries ?_ List.mem_cons_self
    simp only [List.map_cons, List.map_nil]
    decide
  refine ⟨fun port => ?_, ?_, ?_, ?_⟩
  · constructor
    · intro names
      obtain ⟨row, member, named⟩ := names
      rw [List.mem_singleton.mp member] at named
      rcases named with titled | ⟨_, others, found, inside⟩
      · exact absurd titled.symm (breachTitle_ne_rollup port)
      · rw [listed] at found
        cases found
        obtain ⟨other, inside, same⟩ := List.mem_map.mp inside
        cases same
        exact (ports port).mp inside
    · intro member
      exact ⟨_, List.mem_singleton_self _,
        .inr ⟨rfl, _, listed, List.mem_map_of_mem ((ports port).mpr member)⟩⟩
  · intro row member other inside _
    rw [List.mem_singleton.mp member, List.mem_singleton.mp inside]
  · intro row member port titled
    rw [List.mem_singleton.mp member] at titled
    exact absurd titled.symm (breachTitle_ne_rollup port)
  · intro row member _
    rw [List.mem_singleton.mp member]
    constructor
    · intro breach inside replaced made
      obtain ⟨fields, object⟩ := judged_isObj (mem_portBreaches.mp inside).1
      rw [((breachRow_outcome object).2 replaced made).2.1]
      exact le_loudest (mem_rollupRungs.mpr ⟨breach.1,
        (ports _).mpr (List.mem_map_of_mem inside), rfl⟩)
    · obtain ⟨breach, inside⟩ := List.exists_mem_of_ne_nil _ some
      have rungs : (Dict.ofEntries (((sortedBreaches wording payload).map Prod.fst).map fun port =>
          (port, breachSeverity (attribution.of port)))).values ≠ [] :=
        List.ne_nil_of_mem (mem_rollupRungs.mpr ⟨breach.1, List.mem_map_of_mem inside, rfl⟩)
      obtain ⟨first, rest, rungs⟩ := List.exists_cons_of_ne_nil rungs
      have loud := @loudest_mem first rest
      rw [← rungs] at loud
      obtain ⟨port, member, same⟩ := mem_rollupRungs.mp loud
      obtain ⟨loudestBreach, inside, rfl⟩ := List.mem_map.mp member
      exact ⟨loudestBreach, mem_sortedBreaches.mp inside, same⟩

theorem speaksForPorts_rows {rows : List Judgement}
    (made : (sortedBreaches wording payload).mapM (breachRow wording attribution) = some rows) :
    SpeaksForPorts wording payload attribution rows := by
  have rowOf : ∀ row ∈ rows, ∃ breach ∈ portBreaches wording payload,
      row.title = breachTitle breach.1 ∧ row.severity = breachSeverity (attribution.of breach.1) ∧
      row.details.get? (text "port") = some (.int breach.1) := by
    intro row member
    obtain ⟨breach, inside, result⟩ := mapM_mem made member
    obtain ⟨fields, object⟩ := judged_isObj (mem_portBreaches.mp (mem_sortedBreaches.mp inside)).1
    exact ⟨breach, mem_sortedBreaches.mp inside, (breachRow_outcome object).2 row result⟩
  refine ⟨fun port => ?_, ?_, ?_, ?_⟩
  · constructor
    · intro names
      obtain ⟨row, member, named⟩ := names
      obtain ⟨breach, inside, titled, _⟩ := rowOf row member
      rw [titled] at named
      rcases named with same | ⟨rollup, _⟩
      · rw [← breachTitle_injective same]
        exact List.mem_map_of_mem inside
      · exact absurd rollup (breachTitle_ne_rollup _)
    · intro member
      obtain ⟨breach, inside, same⟩ := List.mem_map.mp member
      obtain ⟨row, member, result⟩ := mapM_result made (mem_sortedBreaches.mpr inside)
      obtain ⟨fields, object⟩ := judged_isObj (mem_portBreaches.mp inside).1
      refine ⟨row, member, .inl ?_⟩
      rw [((breachRow_outcome object).2 row result).1, same]
  · intro row member other inside same
    obtain ⟨breach, _, titled, _, port⟩ := rowOf row member
    obtain ⟨another, _, otherTitled, _, otherPort⟩ := rowOf other inside
    rw [titled, otherTitled] at same
    rw [port, otherPort, breachTitle_injective same]
  · intro row member port titled quiet
    obtain ⟨breach, _, named, rung, _⟩ := rowOf row member
    rw [titled] at named
    rw [rung, ← breachTitle_injective named] at quiet
    exact breachSeverity_quiet quiet
  · intro row member rollup
    obtain ⟨breach, _, titled, _⟩ := rowOf row member
    rw [titled] at rollup
    exact absurd rollup (breachTitle_ne_rollup _)

/-- No breach of the audit's ports is lost, renamed or quietened, if and only if the findings can be
read. -/
theorem breaches_spoken_iff (laws : DigitLaws wording) :
    (∃ rows, judgeAuditFindings wording payload maxRows attribution = some rows ∧
      SpeaksForPorts wording payload attribution rows) ↔ Readable wording payload maxRows := by
  constructor
  · intro spoken
    obtain ⟨rows, ran, _⟩ := spoken
    have readable : ∀ finding ∈ judgedFindings payload portsCheck, ¬ RefusedPort wording finding := by
      intro finding member refused
      obtain ⟨ported, loop, _⟩ := Option.bind_eq_some_iff.mp ran
      obtain ⟨output, _, turn⟩ := mapM_result loop member
      rw [(portOf_eq laws finding).1 refused] at turn
      cases turn
    refine ⟨readable, ?_⟩
    intro few breach member
    rw [judgeAuditFindings_readable laws readable, if_neg (by
      rw [sortedBreaches, List.length_insertionSort]; omega)] at ran
    obtain ⟨row, _, made⟩ := mapM_result ran (mem_sortedBreaches.mpr member)
    obtain ⟨fields, object⟩ := judged_isObj (mem_portBreaches.mp member).1
    exact (breachRow_outcome object).1.mp (by rw [made]; rfl)
  · intro readable
    rw [judgeAuditFindings_readable laws readable.ports]
    by_cases many : (sortedBreaches wording payload).length > maxRows
    · rw [if_pos many]
      by_cases none : sortedBreaches wording payload = []
      · rw [if_pos none]
        exact ⟨[], rfl, speaksForPorts_nil none⟩
      · rw [if_neg none]
        exact ⟨_, rfl, speaksForPorts_rollup none⟩
    · rw [if_neg many]
      rw [sortedBreaches, List.length_insertionSort] at many
      have made : ((sortedBreaches wording payload).mapM (breachRow wording attribution)).isSome := by
        rw [mapM_isSome]
        intro breach member
        obtain ⟨fields, object⟩ := judged_isObj (mem_portBreaches.mp (mem_sortedBreaches.mp member)).1
        exact (breachRow_outcome object).1.mpr
          (readable.standing (by omega) breach (mem_sortedBreaches.mp member))
      obtain ⟨rows, made⟩ := Option.isSome_iff_exists.mp made
      exact ⟨rows, made, speaksForPorts_rows made⟩

end

theorem bareWording_laws : DigitLaws bareWording := by
  constructor
  · intro c digit
    change (if 48 ≤ c.val ∧ c.val ≤ 57 then some (Fin.ofNat 10 (c.val - 48)) else none).isSome at digit
    split at digit
    · rename_i bounds
      simp [bareWording, bounds.1, bounds.2]
    · cases digit
  · intro c digit
    simp only [bareWording, Bool.or_eq_true, Bool.and_eq_true, decide_eq_true_eq] at digit
    rcases digit with ((bounds | two) | three) | one
    · refine ⟨?_, ?_, ?_, ?_⟩
      · rw [isIntSpace, Bool.and_eq_false_iff]
        left
        simp only [CodePoint.isSpace, Bool.or_eq_false_iff, Bool.and_eq_false_iff,
          decide_eq_false_iff_not, beq_eq_false_iff_ne]
        omega
      all_goals
        intro same
        rw [same] at bounds
        exact absurd bounds (by decide)
    · rw [two]
      exact ⟨by decide, by decide, by decide, by decide⟩
    · rw [three]
      exact ⟨by decide, by decide, by decide, by decide⟩
    · rw [one]
      exact ⟨by decide, by decide, by decide, by decide⟩

/-- A breach, with the port as its producer has it. -/
def breachOf (port : Json) : Json :=
  .obj [(text "check", .str (text "ports")), (text "severity", .str (text "breach")),
    (text "detail", .obj [(text "port", port)]), (text "standing_days", .float (.finite (5 / 2)))]

def oneBreach (port : Json) : Payload := [(text "findings", .arr [breachOf port])]

theorem oneBreach_judged (port : Json) :
    judgedFindings (oneBreach port) portsCheck = [breachOf port] := rfl

/-- A port written out, one that a session scope holds, and one that is no number. -/
def mixedBreaches : Payload :=
  [(text "findings", .arr [breachOf (.str (text "3300")), breachOf (.int 5432),
    breachOf (.str (text "ssh"))])]

def scopedPort : PortAttribution where
  holders := Dict.ofEntries [(3300, text "system:grafana.service")]
  transientHolders := Dict.ofEntries [(5432, text "user:app-code.scope")]
  observedAt := none
  unattributed := some []

theorem mixedBreaches_readable : Readable bareWording mixedBreaches 5 := by
  have judged : judgedFindings mixedBreaches portsCheck =
      [breachOf (.str (text "3300")), breachOf (.int 5432), breachOf (.str (text "ssh"))] := rfl
  constructor
  · intro finding member refused
    obtain ⟨detail, digits, described, port, _, digital, refused⟩ := refused
    rw [judged] at member
    simp only [List.mem_cons, List.not_mem_nil, or_false] at member
    rcases member with rfl | rfl | rfl <;> cases described <;> cases port
    · have decimal : ((text "3300").all fun c => (bareWording.database.digit c).isSome) =
          true := by decide
      rcases refused with undecimal | long
      · obtain ⟨c, inside, undecimal⟩ := undecimal
        have found := List.all_eq_true.mp decimal c inside
        simp [undecimal] at found
      · exact absurd long (by decide)
    · have letters : ((text "ssh").all bareWording.isDigit) = false := by decide
      exact absurd (List.all_eq_true.mpr digital) (by rw [letters]; exact Bool.false_ne_true)
  · intro _ breach member days standing
    have finding := (mem_portBreaches.mp member).1
    rw [judged] at finding
    simp only [List.mem_cons, List.not_mem_nil, or_false] at finding
    rcases finding with same | same | same <;>
    · rw [same] at standing
      cases standing

/-- Only the session scope's port is quiet. -/
theorem mixedBreaches_spoken :
    ∃ rows, judgeAuditFindings bareWording mixedBreaches 5 scopedPort = some rows ∧
    SpeaksForPorts bareWording mixedBreaches scopedPort rows ∧
    rows.map (fun row => (row.title, row.severity)) =
      [(breachTitle 3300, .warning), (breachTitle 5432, .info)] := by
  obtain ⟨rows, judged, speaks⟩ :=
    (@breaches_spoken_iff bareWording mixedBreaches scopedPort 5 bareWording_laws).mpr
    mixedBreaches_readable
  have rungs : (judgeAuditFindings bareWording mixedBreaches 5 scopedPort).map (fun rows =>
      rows.map fun row => (row.title, row.severity)) =
        some [(breachTitle 3300, .warning), (breachTitle 5432, .info)] := by decide +kernel
  rw [judged, Option.map_some, Option.some.injEq] at rungs
  exact ⟨rows, judged, speaks, rungs⟩

/-- A superscript two is a digit, and no decimal one. -/
theorem superscript_unjudged :
    judgeAuditFindings bareWording (oneBreach (.str [0xB2])) 5 .empty = none := by
  have refused : RefusedPort bareWording (breachOf (.str [0xB2])) :=
    ⟨_, [0xB2], rfl, rfl, List.cons_ne_nil _ _,
      by simp [bareWording], .inl ⟨0xB2, List.mem_cons_self, rfl⟩⟩
  rw [judgeAuditFindings, oneBreach_judged, List.mapM_cons, (portOf_eq bareWording_laws _).1 refused]
  rfl

end SysadminAssistant.Estate
