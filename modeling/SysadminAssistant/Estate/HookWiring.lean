import SysadminAssistant.Estate.ArbitratedStops
import SysadminAssistant.Estate.EstateJudge
import SysadminAssistant.Python.JsonTopLevel
import SysadminAssistant.Python.Runs

namespace SysadminAssistant.Estate

open Python

/-! Whether `~/.claude/settings.json` still presents a JSON object
(`sysadmin/estate/hook_wiring.py`), and whether the estate's audit read the same file. -/

/-- What the filesystem answers about `~/.claude/settings.json`.  `home` is what `~` stands for,
without a final slash; `resolve()` may raise an `OSError` or a `RuntimeError`, and opening and
reading an `OSError`. -/
structure SettingsFile where
  home : Text
  resolved : Option Text
  opened : Except Failure Bytes

/-- `SETTINGS_PATH.expanduser()`. -/
def SettingsFile.path (file : SettingsFile) : Text := file.home ++ text "/.claude/settings.json"

/-- `_where`: the path as declared and as it lands. -/
def SettingsFile.where_ (file : SettingsFile) : Payload :=
  (text "path", .str file.path) ::
    match file.resolved with
    | none => []
    | some target => if target ≠ file.path then [(text "resolves_to", .str target)] else []

def kindUnparseable : Text := text "unparseable"

def kindNotAnObject : Text := text "not_an_object"

section

-- how deep the interpreter lets `json.loads` nest, and the text of its `JSONDecodeError`
variable (depthLimit : Nat) (decodeError : Text → Text)

/-- `read_settings`. -/
def readSettings (file : SettingsFile) : Except PyError SurfaceResult :=
  match file.opened with
  | .error exc =>
    .ok (.error (exc.className ++ text ": " ++ file.path ++ text " could not be read (" ++
      exc.message ++ text ")"))
  | .ok bytes => do
    let raw := universalNewlines false (← decode bytes)
    match Json.loadsDefect depthLimit raw with
    | .error .malformed => .ok (.payload (file.where_ ++
        [(text "kind", .str kindUnparseable), (text "fault", .str (decodeError raw))]))
    | .error defect => .error defect.raised
    | .ok settings =>
      if settings.isObj
        then .ok (.payload (file.where_ ++ [(text "kind", .null), (text "fault", .null)]))
      else .ok (.payload (file.where_ ++ [(text "kind", .str kindNotAnObject),
        (text "fault",
        .str (text "the top level is " ++ typeName settings ++ text ", not an object"))]))

end

/-- `compare_settings_paths`, whose halves may be absent.  An absent half is told like one that was
not read. -/
def compareHalves (audit local_ : Option SurfaceResult) : SurfaceResult :=
  compareSettingsPaths (audit.getD (.error [])) (local_.getD (.error []))

/-! ## The two lookups -/

theorem payloadField_where {file : SettingsFile} {later : Payload} {key : String}
    (noPath : text "path" ≠ text key) (noTarget : text "resolves_to" ≠ text key) :
    payloadField (file.where_ ++ later) key = payloadField later key := by
  have skip : ∀ name value rest, name ≠ text key → Json.field? (text key) ((name, value) :: rest) =
      Json.field? (text key) rest := fun name value rest other => if_neg other
  simp only [payloadField, Json.field, SettingsFile.where_]
  cases file.resolved with
  | none => rw [List.cons_append, skip _ _ _ noPath, List.nil_append]
  | some target =>
    simp only
    split
    · rw [List.cons_append, skip _ _ _ noPath, List.cons_append, skip _ _ _ noTarget, List.nil_append]
    · rw [List.cons_append, skip _ _ _ noPath, List.nil_append]

theorem path_strip (file : SettingsFile) : Text.strip file.path ≠ [] := by
  intro nothing
  obtain ⟨before, after, shape, blankBefore, blankAfter, _⟩ := Text.strip_cases file.path
  rw [nothing, List.append_nil] at shape
  have slash : codePoint '/' ∈ before ++ after := by
    rw [← shape, SettingsFile.path]
    exact List.mem_append_right _ (by decide)
  rcases List.mem_append.mp slash with inBefore | inAfter
  · exact absurd (blankBefore _ inBefore) (by decide)
  · exact absurd (blankAfter _ inAfter) (by decide)

/-- What `_where` publishes names a file, whatever is published after it. -/
theorem targetOf_where (file : SettingsFile) (later : Payload) :
    ∃ target, targetOf (file.where_ ++ later) = some target := by
  have named : (payloadField (file.where_ ++ later) "path").text? = some file.path := by
    simp [payloadField, SettingsFile.where_, Json.field, Json.field?, Json.text?]
  cases resolves : ((payloadField (file.where_ ++ later) "resolves_to").text?.filter fun value =>
    value.strip ≠ []) with
  | some target => exact ⟨target, by simp only [targetOf, resolves, Option.some_or]⟩
  | none =>
    refine ⟨file.path, ?_⟩
    simp only [targetOf, resolves, Option.none_or, named]
    exact Option.filter_some_pos (by simpa using path_strip file)

/-! The settings read over every content of the file, and the comparison over every audit summary. -/

/-- A UTF-8 JSON text whose top level is an object. -/
def IsJsonObject (bytes : Bytes) : Prop :=
  ∃ content, decode bytes = .ok content ∧ Json.JsonObjectText content

def SaysNonBlank (pair : Payload) (key : String) (value : Text) : Prop :=
  payloadField pair key = .str value ∧ Text.strip value ≠ []

/-- The file that a `{path, resolves_to?}` pair names. -/
def NamesFile (pair : Payload) (target : Text) : Prop :=
  SaysNonBlank pair "resolves_to" target ∨
    (∀ value, ¬ SaysNonBlank pair "resolves_to" value) ∧ SaysNonBlank pair "path" target

/-- The settings path that an audit summary publishes. -/
def PublishesSettings (summary : Payload) (target : Text) : Prop :=
  ∃ last checks wiring inputs pair, payloadField summary "last_audit" = .obj last ∧
    payloadField last "checks" = .obj checks ∧ payloadField checks "wiring" = .obj wiring ∧
    payloadField wiring "inputs" = .obj inputs ∧ payloadField inputs "settings_file" = .obj pair ∧
    NamesFile pair target

/-- Unread unless both halves are read and the audit publishes a path, and otherwise the two targets
compared. -/
def ComparedExactly (audit local_ : Option SurfaceResult) : Prop :=
  match audit, local_ with
  | some (.payload summary), some (.payload ours) =>
    ((¬ ∃ theirs, PublishesSettings summary theirs) → (compareHalves audit local_).read = false) ∧
      ∀ theirs, PublishesSettings summary theirs → ∃ target fields, NamesFile ours target ∧
        compareHalves audit local_ = .payload fields ∧
        payloadField fields "same_file" = .bool (decide (target = theirs))
  | _, _ => (compareHalves audit local_).read = false

section

variable (depthLimit : Nat) (decodeError : Text → Text)

/-- The read answers: unread for a file that was not read, and for one that was, a fault or none as
its bytes deserve; and what it answers is compared exactly with whatever the audit says. -/
def SettingsAnswered (file : SettingsFile) : Prop :=
  ∃ result, readSettings depthLimit decodeError file = .ok result ∧
    (result.read = false ↔ ∃ exc, file.opened = .error exc) ∧
    (∀ bytes, file.opened = .ok bytes → ∃ fields, result = .payload fields ∧
      (payloadField fields "fault" = .null ↔ IsJsonObject bytes)) ∧
    ∀ audit, ComparedExactly audit none ∧ ComparedExactly audit (some result)

/-- The bytes are UTF-8, and on its way through the text the decoder comes neither to a bracket
inside too many nor behind a whole number of too many digits, nor, in what it takes for an object,
to a `NaN`, `Infinity` or `-Infinity`. -/
def ReadsCleanly (bytes : Bytes) : Prop :=
  ∃ content, decode bytes = .ok content ∧
    (∀ machine rest, Json.Reaches depthLimit content machine rest →
      ¬ Json.AtDepth depthLimit machine rest ∧ ¬ Json.AtLongNumber machine rest) ∧
    ((∃ fields, Json.loads depthLimit content = .ok (.obj fields)) → ∀ machine rest,
      Json.Reaches depthLimit content machine rest → ¬ Json.AtConstant machine rest)

end

/-! ## The comparison -/

theorem fieldsOf_eq_some {value : Json} {fields : Payload} :
    fieldsOf value = some fields ↔ value = .obj fields := by
  cases value <;> simp [fieldsOf]

theorem said_eq_some {pair : Payload} {key : String} {value : Text} :
    ((payloadField pair key).text?.filter fun value => value.strip ≠ []) = some value ↔
      SaysNonBlank pair key value := by
  unfold SaysNonBlank
  cases payloadField pair key <;> simp [Json.text?, Option.filter_eq_some_iff]

theorem said_eq_none {pair : Payload} {key : String} :
    ((payloadField pair key).text?.filter fun value => value.strip ≠ []) = none ↔
      ∀ value, ¬ SaysNonBlank pair key value := by
  rw [Option.eq_none_iff_forall_ne_some]
  exact forall_congr' fun value => not_congr said_eq_some

theorem targetOf_eq_some {pair : Payload} {target : Text} :
    targetOf pair = some target ↔ NamesFile pair target := by
  simp only [targetOf, Option.or_eq_some_iff, said_eq_some, said_eq_none, NamesFile]

theorem published_iff {summary : Payload} {theirs : Text} :
    (below
      (below (below (below (fieldsOf (payloadField summary "last_audit")) "checks") "wiring")
      "inputs")
      "settings_file").bind targetOf = some theirs ↔ PublishesSettings summary theirs := by
  simp only [below, Option.bind_eq_some_iff, fieldsOf_eq_some, targetOf_eq_some, PublishesSettings]
  constructor
  · intro found
    obtain ⟨pair, ⟨inputs, ⟨wiring, ⟨checks, ⟨last, isLast, isChecks⟩, isWiring⟩, isInputs⟩,
        isPair⟩, named⟩ := found
    exact ⟨last, checks, wiring, inputs, pair, isLast, isChecks, isWiring, isInputs, isPair, named⟩
  · intro published
    obtain ⟨last, checks, wiring, inputs, pair, isLast, isChecks, isWiring, isInputs, isPair,
        named⟩ := published
    exact ⟨pair, ⟨inputs, ⟨wiring, ⟨checks, ⟨last, isLast, isChecks⟩, isWiring⟩, isInputs⟩,
      isPair⟩, named⟩

theorem comparedExactly_unread (audit : Option SurfaceResult) : ComparedExactly audit none := by
  cases audit with
  | none => rfl
  | some audit => cases audit <;> rfl

theorem comparedExactly_error (audit : Option SurfaceResult) (reason : Text) :
    ComparedExactly audit (some (.error reason)) := by
  cases audit with
  | none => rfl
  | some audit => cases audit <;> rfl

theorem comparedExactly_of_named {ours : Payload} {target : Text}
    (named : targetOf ours = some target) (audit : Option SurfaceResult) :
    ComparedExactly audit (some (.payload ours)) := by
  cases audit with
  | none => rfl
  | some audit =>
    cases audit with
    | error reason => rfl
    | payload summary =>
      constructor
      · intro nothing
        simp only [compareHalves, Option.getD_some, compareSettingsPaths]
        split
        · rename_i theirs _ _ found
          exact absurd ⟨theirs, published_iff.mp found⟩ nothing
        · rfl
      · intro theirs published
        have found := published_iff.mpr published
        obtain ⟨pair, isPair, isTheirs⟩ := Option.bind_eq_some_iff.mp found
        obtain ⟨last, _, _, _, _, isLast, _⟩ := published
        have read := fieldsOf_eq_some.mpr isLast
        obtain ⟨fields, compared, same⟩ : ∃ fields,
            compareHalves (some (.payload summary)) (some (.payload ours)) = .payload fields ∧
              payloadField fields "same_file" = .bool (decide (target = theirs)) := by
          simp only [compareHalves, Option.getD_some, compareSettingsPaths, isPair,
            Option.bind_some, isTheirs]
          simp only [read, named]
          exact ⟨_, rfl, rfl⟩
        exact ⟨target, fields, targetOf_eq_some.mp named, compared, same⟩

/-! ## The read -/

variable {depthLimit : Nat} {decodeError : Text → Text} {file : SettingsFile} {bytes : Bytes}
  {content : Text}

theorem readSettings_unopened {exc : Failure} (unopened : file.opened = .error exc) :
    ∃ reason, readSettings depthLimit decodeError file = .ok (.error reason) := by
  rw [readSettings, unopened]
  exact ⟨_, rfl⟩

theorem readSettings_undecoded {raised : PyError} (opened : file.opened = .ok bytes)
    (undecoded : decode bytes = .error raised) :
    readSettings depthLimit decodeError file = .error raised := by
  rw [readSettings, opened]
  simp only [undecoded]
  rfl

/-- What a decoded file is answered with: a limit raises, and anything else is a payload that names
the file. -/
theorem readSettings_decoded (opened : file.opened = .ok bytes)
    (decoded : decode bytes = .ok content) : match Json.loadsDefect depthLimit content with
    | .error .malformed => ∃ later fault, readSettings depthLimit decodeError file =
        .ok (.payload (file.where_ ++ later)) ∧ payloadField later "fault" = .str fault
    | .error defect => readSettings depthLimit decodeError file = .error defect.raised
    | .ok settings => ∃ later, readSettings depthLimit decodeError file =
        .ok (.payload (file.where_ ++ later)) ∧
        (payloadField later "fault" = .null ↔ settings.isObj = true) := by
  have unfolded : readSettings depthLimit decodeError file =
      match Json.loadsDefect depthLimit content with
      | .error .malformed => .ok (.payload (file.where_ ++ [(text "kind", .str kindUnparseable),
          (text "fault", .str (decodeError (universalNewlines false content)))]))
      | .error defect => .error defect.raised
      | .ok settings =>
        if settings.isObj
          then .ok (.payload (file.where_ ++ [(text "kind", .null), (text "fault", .null)]))
        else .ok (.payload (file.where_ ++ [(text "kind", .str kindNotAnObject),
          (text "fault",
          .str (text "the top level is " ++ typeName settings ++ text ", not an object"))])) := by
    rw [readSettings, opened]
    simp only [decoded, bind, Except.bind, Json.loadsDefect_newlines]
  rw [unfolded]
  cases Json.loadsDefect depthLimit content with
  | error defect =>
    cases defect with
    | malformed => exact ⟨_, _, rfl, rfl⟩
    | digits => rfl
    | depth => rfl
  | ok settings =>
    cases isObject : settings.isObj with
    | true =>
      simp only [isObject, if_true]
      exact ⟨_, rfl, fun _ => trivial, fun _ => rfl⟩
    | false =>
      simp only [isObject, Bool.false_eq_true, if_false]
      refine ⟨_, rfl, fun impossible => ?_, nofun⟩
      cases impossible

theorem isJsonObject_iff (decoded : decode bytes = .ok content) :
    IsJsonObject bytes ↔ Json.JsonObjectText content := by
  constructor
  · intro object
    obtain ⟨other, same, json⟩ := object
    cases decoded.symm.trans same
    exact json
  · exact fun json => ⟨content, decoded, json⟩

theorem answered_of_payload {later : Payload} (opened : file.opened = .ok bytes)
    (returned : readSettings depthLimit decodeError file = .ok (.payload (file.where_ ++ later)))
    (fault : payloadField later "fault" = .null ↔ IsJsonObject bytes) :
    SettingsAnswered depthLimit decodeError file := by
  refine ⟨_, returned, ?_, ?_, fun audit => ⟨comparedExactly_unread audit, ?_⟩⟩
  · rw [opened]
    exact ⟨nofun, fun unopened => nomatch unopened.choose_spec⟩
  · intro other same
    cases opened.symm.trans same
    refine ⟨_, rfl, ?_⟩
    rw [payloadField_where (by decide) (by decide)]
    exact fault
  · obtain ⟨target, named⟩ := targetOf_where file later
    exact comparedExactly_of_named named audit

theorem readsCleanly_iff (decoded : decode bytes = .ok content) : ReadsCleanly depthLimit bytes ↔
    Json.loadsDefect depthLimit content ≠ .error .digits ∧ Json.loadsDefect depthLimit content ≠
      .error .depth ∧ ∀ fields, Json.loadsDefect depthLimit content = .ok (.obj fields) →
        Json.strictLoads depthLimit content ≠ .error .constant := by
  have loaded : ∀ fields, Json.loads depthLimit content = .ok (.obj fields) ↔
      Json.loadsDefect depthLimit content = .ok (.obj fields) := by
    intro fields
    rw [Json.loads_eq]
    cases Json.loadsDefect depthLimit content <;> simp [Except.mapError]
  simp only [ne_eq, Json.loadsDefect_digits, Json.loadsDefect_depth,
    Json.strictLoads_constant, ← loaded]
  constructor
  · intro clean
    obtain ⟨other, same, noLimit, noConstant⟩ := clean
    cases decoded.symm.trans same
    refine ⟨fun met => ?_, fun met => ?_, fun fields object met => ?_⟩
    · obtain ⟨machine, rest, reached, atLong⟩ := met
      exact (noLimit machine rest reached).2 atLong
    · obtain ⟨machine, rest, reached, atDepth⟩ := met
      exact (noLimit machine rest reached).1 atDepth
    · obtain ⟨machine, rest, reached, atConstant⟩ := met
      exact noConstant ⟨fields, object⟩ machine rest reached atConstant
  · intro outcomes
    obtain ⟨noDigits, noDepth, noConstant⟩ := outcomes
    refine ⟨content, decoded, fun machine rest reached => ⟨fun atDepth => ?_, fun atLong => ?_⟩, ?_⟩
    · exact noDepth ⟨machine, rest, reached, atDepth⟩
    · exact noDigits ⟨machine, rest, reached, atLong⟩
    · intro object machine rest reached atConstant
      obtain ⟨fields, object⟩ := object
      exact noConstant fields object ⟨machine, rest, reached, atConstant⟩

theorem answered_of_clean (opened : file.opened = .ok bytes)
    (clean : ReadsCleanly depthLimit bytes) : SettingsAnswered depthLimit decodeError file := by
  obtain ⟨content, decoded, _⟩ := id clean
  obtain ⟨noDigits, noDepth, noConstant⟩ := (readsCleanly_iff decoded).mp clean
  have read := @readSettings_decoded depthLimit decodeError file bytes content opened decoded
  have object := isJsonObject_iff decoded
  cases outcome : Json.loadsDefect depthLimit content with
  | error defect =>
    cases defect with
    | malformed =>
      rw [outcome] at read
      obtain ⟨later, fault, returned, said⟩ := read
      refine answered_of_payload opened returned ?_
      rw [said, object]
      refine ⟨nofun, fun json => ?_⟩
      rcases @Json.loadsDefect_of_jsonObjectText depthLimit content json with ⟨fields, loaded⟩
        | ⟨defect, limit, failed⟩
      · cases outcome.symm.trans loaded
      · cases outcome.symm.trans failed
        exact absurd rfl limit
    | digits => exact absurd outcome noDigits
    | depth => exact absurd outcome noDepth
  | ok settings =>
    rw [outcome] at read
    obtain ⟨later, returned, said⟩ := read
    refine answered_of_payload opened returned (said.trans ?_)
    rw [object]
    cases settings with
    | obj fields =>
      exact ⟨fun _ => (Json.jsonObjectText_iff outcome).mpr (noConstant fields outcome),
        fun _ => rfl⟩
    | _ =>
      refine ⟨nofun, fun json => ?_⟩
      exact (Json.isObj_iff_of_jsonText json.jsonText outcome).mpr json

theorem clean_of_answered (answered : SettingsAnswered depthLimit decodeError file)
    (opened : file.opened = .ok bytes) : ReadsCleanly depthLimit bytes := by
  obtain ⟨result, returned, _, faults, _⟩ := answered
  cases decoded : decode bytes with
  | error raised => cases (readSettings_undecoded opened decoded).symm.trans returned
  | ok content =>
    have read := @readSettings_decoded depthLimit decodeError file bytes content opened decoded
    refine (readsCleanly_iff decoded).mpr ⟨fun outcome => ?_, fun outcome => ?_,
      fun fields outcome => ?_⟩
    · rw [outcome] at read
      cases read.symm.trans returned
    · rw [outcome] at read
      cases read.symm.trans returned
    · rw [outcome] at read
      obtain ⟨later, payload, said⟩ := read
      obtain ⟨fields, same, fault⟩ := faults bytes opened
      cases same
      cases returned.symm.trans payload
      rw [payloadField_where (by decide) (by decide)] at fault
      exact (Json.jsonObjectText_iff outcome).mp
        ((isJsonObject_iff decoded).mp (fault.mp (said.mpr rfl)))

/-- The read answers for every file that cannot be read, and for one that can just where its bytes
read cleanly. -/
theorem settings_answered_iff (depthLimit : Nat) (decodeError : Text → Text) (file : SettingsFile) :
    SettingsAnswered depthLimit decodeError file ↔
      ∀ bytes, file.opened = .ok bytes → ReadsCleanly depthLimit bytes := by
  constructor
  · exact fun answered bytes opened => clean_of_answered answered opened
  · intro clean
    cases opened : file.opened with
    | ok bytes => exact answered_of_clean opened (clean bytes opened)
    | error exc =>
      obtain ⟨reason, returned⟩ := @readSettings_unopened depthLimit decodeError file exc opened
      refine ⟨_, returned, ⟨fun _ => ⟨exc, opened⟩, fun _ => rfl⟩, fun bytes impossible => ?_,
        fun audit => ⟨comparedExactly_unread audit, comparedExactly_error audit reason⟩⟩
      rw [opened] at impossible
      cases impossible

/-- A file of one byte that begins no character of UTF-8. -/
def latinSettings : SettingsFile := ⟨text "/root", none, .ok [0xFF]⟩

theorem latin_settings_raise :
    ¬ ∀ (depthLimit : Nat) (decodeError : Text → Text) (file : SettingsFile),
    SettingsAnswered depthLimit decodeError file := by
  intro answers
  obtain ⟨result, returned, _⟩ := answers 1000 (fun _ => []) latinSettings
  cases returned

end SysadminAssistant.Estate
