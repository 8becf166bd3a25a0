import SysadminAssistant.Core.ConfigKeys

namespace SysadminAssistant.Core

open Python

/-! The unknown-key report against what the loader ignores. -/

inductive PathStep where
  | key (name : Text)
  | item (index : Nat)
deriving DecidableEq

/-- A path as the report prints it, after what is printed already. -/
def printedFrom (before : Text) : List PathStep → Text
  | [] => before
  | .key name :: rest => printedFrom (keyPath before name) rest
  | .item index :: rest => printedFrom (itemPath before index) rest

def printed (path : List PathStep) : Text := printedFrom [] path

/-- The paths that `FOREIGN_KEYS` declares: the section `tray`, and nine keys under `notifications`
and `tray`. -/
def foreignPaths : List (List PathStep) :=
  [.key (text "tray")] ::
    ["flap_cooldown_minutes", "escalation_polls", "coalesce_threshold", "snooze_minutes",
      "digest_mode", "digest_interval_minutes", "respect_desktop_dnd", "reminder_hours",
      "backend_unreachable_grace_seconds"].map
      fun name => [.key (text "notifications"), .key (text "tray"), .key (text name)]

theorem foreignPaths_printed : foreignPaths.map printed = foreignKeys := by decide

/-- The key that a model takes a field from: its alias before its name. -/
def takenKey (model : ConfigModel) (keys : List Text) (info : FieldInfo) : Option Text :=
  match info.aliased with
  | none => if info.name ∈ keys then some info.name else none
  | some spelling =>
    if spelling ∈ keys then some spelling
    else if model.populateByName ∧ info.name ∈ keys then some info.name
    else none

/-- The field that is taken from a key. -/
def fieldTaken (model : ConfigModel) (keys : List Text) (key : Text) : Option FieldInfo :=
  model.fields.find? fun info => takenKey model keys info = some key

mutual

/-- What validation leaves unread of a value of a model: the keys no field is taken from, in the
model and in the models and lists of models in it; and the fields of those that hold neither a
mapping nor a sequence. -/
def leftUnread (model : ConfigModel) : Yaml → KeyReport (List PathStep)
  | .mapping entries => leftOfEntries model (entries.map Prod.fst) entries
  | _ => {}

def leftOfEntries (model : ConfigModel) (keys : List Text) :
    List (Text × Yaml) → KeyReport (List PathStep)
  | [] => {}
  | (key, value) :: rest =>
    let here : KeyReport (List PathStep) :=
      match fieldTaken model keys key with
      | none => { unknown := [[.key key]] }
      | some info =>
        match info.annotation, value with
        | .model submodel, .mapping entries =>
          (leftOfEntries submodel (entries.map Prod.fst) entries).map (.key key :: ·)
        | .generic .list [.model submodel], .sequence items =>
          (leftOfItems submodel 0 items).map (.key key :: ·)
        | .model _, _ | .generic .list [.model _], _ => { unwalkable := [[.key key]] }
        | _, _ => {}
    here ++ leftOfEntries model keys rest

def leftOfItems (model : ConfigModel) (index : Nat) : List Yaml → KeyReport (List PathStep)
  | [] => {}
  | item :: rest => (leftUnread model item).map (.item index :: ·) ++ leftOfItems model
      (index + 1) rest

end

/-- What of validation the walk relies on: a model accepts mappings only, and in them what the types
of its fields accept; a list of a model is a sequence of what the model accepts, or an empty set. -/
structure Validation where
  accepts : ConfigModel → Yaml → Prop
  mapping {model : ConfigModel} {raw : Yaml} : accepts model raw → ∃ entries, raw = .mapping entries
  nested {model submodel : ConfigModel} {entries : List (Text × Yaml)} {key : Text} {value : Yaml}
    {info : FieldInfo} :
    accepts model (.mapping entries) → (key, value) ∈ entries →
      fieldTaken model (entries.map Prod.fst) key = some info →
      info.annotation = .model submodel → accepts submodel value
  listed {model submodel : ConfigModel} {entries : List (Text × Yaml)} {key : Text} {value : Yaml}
    {info : FieldInfo} :
    accepts model (.mapping entries) → (key, value) ∈ entries →
      fieldTaken model (entries.map Prod.fst) key = some info →
      info.annotation = .generic .list [.model submodel] →
        (∃ items, value = .sequence items ∧ ∀ item ∈ items, accepts submodel item) ∨ value = .set []

/-- The report lists each key that validation ignores once, foreign ones aside, and each section
that it cannot enter; no ignored key is in neither list. -/
def ReportsIgnored (raw : Yaml) : Prop :=
  let report := walk raw .appConfig foreignKeys
  let ignored := (leftUnread .appConfig raw).unknown.filter (· ∉ foreignPaths)
  report.unknown = ignored.map printed ∧
    report.unwalkable = (leftUnread .appConfig raw).unwalkable.map printed ∧
    ∀ path ∈ ignored, printed path ∈ report.unknown ∨ printed path ∈ report.unwalkable

def Yaml.entries : Yaml → List (Text × Yaml)
  | .mapping entries => entries
  | _ => []

def Yaml.keys (value : Yaml) : List Text := value.entries.map Prod.fst

/-- No key is spelled so that the walk takes it for another one. -/
structure PlainlySpelled (raw : Yaml) : Prop where
  /-- `schema_` does not stand beside `schema`. -/
  schema : ∀ database, (text "database", database) ∈ raw.entries →
    ¬(text "schema" ∈ database.keys ∧ text "schema_" ∈ database.keys)
  /-- No key of the file is a dotted foreign path. -/
  root : ∀ key ∈ raw.keys, key ∈ foreignKeys → key = text "tray"
  /-- No key of `notifications` is the rest of one. -/
  notifications : ∀ notifications, (text "notifications", notifications) ∈ raw.entries →
    ∀ key ∈ notifications.keys, text "notifications." ++ key ∉ foreignKeys

namespace KeyReport

variable {π ρ σ : Type}

theorem append_eq (first second : KeyReport π) :
    first ++ second = ⟨first.unknown ++ second.unknown, first.unwalkable ++ second.unwalkable⟩ := rfl

theorem map_append (rename : π → ρ) (first second : KeyReport π) :
    (first ++ second).map rename = first.map rename ++ second.map rename := by
  simp [append_eq, map]

theorem keep_append (wanted : π → Bool) (first second : KeyReport π) :
    (first ++ second).keep wanted = first.keep wanted ++ second.keep wanted := by
  simp [append_eq, keep]

theorem keep_map (wanted : ρ → Bool) (rename : π → ρ) (report : KeyReport π) :
    (report.map rename).keep wanted = (report.keep fun path => wanted (rename path)).map rename := by
  simp [keep, map, List.filter_map, Function.comp_def]

theorem map_map (rename : π → ρ) (rename' : ρ → σ) (report : KeyReport π) :
    (report.map rename).map rename' = report.map fun path => rename' (rename path) := by
  simp [map]

end KeyReport

/-- The keys of a path are all spelled as their models accept them. -/
def declaredPath : ConfigModel → List PathStep → Bool
  | _, [] => true
  | model, .item _ :: rest => declaredPath model rest
  | model, .key name :: rest =>
    match (acceptedNames model).get? name with
    | none => false
    | some info =>
      match modelIn info.annotation with
      | some submodel => declaredPath submodel rest
      | none => rest.isEmpty

/-! What the walk and the loader both use of the models. -/

theorem spellings_nodup (model : ConfigModel) : (model.spellings.map Prod.fst).Nodup := by
  cases model <;> decide

/-- A model stands in a field by itself or in a list. -/
def Annotation.simple : Annotation → Bool
  | .plain | .model _ | .generic .list [.model _] => true
  | annotation => (modelIn annotation).isNone

theorem annotations_simple (model : ConfigModel) :
    (model.fields.all fun info => info.annotation.simple) = true := by
  cases model <;> decide

theorem aliased_fields (model : ConfigModel) : (model.fields.all fun info => info.aliased.isNone ||
    (model = .databaseConfig && info.name = text "schema_" && info.aliased = some (text "schema") &&
      (modelIn info.annotation).isNone)) = true := by
  cases model <;> decide

section

variable {foreign : List Text} {before key : Text} {model submodel : ConfigModel} {info : FieldInfo}
  {path : List PathStep}

theorem declaredPath_key (accepted : (acceptedNames model).get? key = some info) :
    declaredPath model [.key key] = true := by
  simp only [declaredPath, accepted]
  split <;> rfl

theorem declaredPath_nested (accepted : (acceptedNames model).get? key = some info)
    (inside : modelIn info.annotation = some submodel) :
    declaredPath model (.key key :: path) = declaredPath submodel path := by
  simp only [declaredPath, accepted, inside]

mutual

theorem walkInto_foreign (foreign : List Text) (before : Text) (model : ConfigModel)
    (apart : ∀ path, declaredPath model path = true → printedFrom before path ∉ foreign) :
    ∀ raw, walkInto foreign before model raw = (walkInto [] before model raw).keep fun path =>
      path ∉ foreign
  | .null => rfl
  | .scalar _ => rfl
  | .sequence _ => rfl
  | .set _ => rfl
  | .mapping entries => by
    rw [walkInto, walkInto]
    exact walkEntries_foreign foreign before model apart entries

theorem walkEntries_foreign (foreign : List Text) (before : Text) (model : ConfigModel)
    (apart : ∀ path, declaredPath model path = true → printedFrom before path ∉ foreign) :
    ∀ entries, walkEntries foreign before model entries =
      (walkEntries [] before model entries).keep fun path => path ∉ foreign
  | [] => rfl
  | (key, value) :: rest => by
    simp only [walkEntries, KeyReport.keep_append, List.not_mem_nil, if_false]
    rw [walkEntries_foreign foreign before model apart rest]
    congr 1
    cases accepted : (acceptedNames model).get? key with
    | none =>
      by_cases listed : keyPath before key ∈ foreign
      · simp [listed, KeyReport.keep]
      · simp [listed, KeyReport.keep]
    | some info =>
      have unlisted : keyPath before key ∉ foreign := apart [.key key] (declaredPath_key accepted)
      rw [if_neg unlisted]
      cases inside : modelIn info.annotation with
      | none =>
        simp only [inside]
        rfl
      | some submodel =>
        simp only [inside]
        have below : ∀ path, declaredPath submodel path = true →
            printedFrom (keyPath before key) path ∉ foreign :=
          fun path declared =>
            apart (.key key :: path) ((declaredPath_nested accepted inside).trans declared)
        match value with
        | .null => rfl
        | .scalar _ => rfl
        | .set _ => rfl
        | .mapping entries => exact walkEntries_foreign foreign _ submodel below entries
        | .sequence items => exact walkItems_foreign foreign _ submodel below 0 items

theorem walkItems_foreign (foreign : List Text) (before : Text) (model : ConfigModel)
    (apart : ∀ path, declaredPath model path = true → printedFrom before path ∉ foreign)
    (index : Nat) :
    ∀ items, walkItems foreign before model index items =
      (walkItems [] before model index items).keep fun path => path ∉ foreign
  | [] => rfl
  | item :: rest => by
    rw [walkItems, walkItems, KeyReport.keep_append,
      ← walkItems_foreign foreign before model apart (index + 1) rest,
      ← walkInto_foreign foreign (itemPath before index) model (fun path declared =>
        apart (.item index :: path) declared) item]

end

theorem mem_spellings : (key, info) ∈ model.spellings ↔ info ∈ model.fields ∧
    (key = info.name ∨ info.aliased = some key) := by
  simp only [ConfigModel.spellings, List.mem_flatMap, List.mem_cons, Prod.mk.injEq,
    Option.mem_toList, Option.map_eq_some_iff]
  constructor
  · rintro ⟨found, inside, ⟨rfl, rfl⟩ | ⟨spelling, aliased, rfl, rfl⟩⟩
    · exact ⟨inside, Or.inl rfl⟩
    · exact ⟨inside, Or.inr aliased⟩
  · rintro ⟨inside, rfl | aliased⟩
    · exact ⟨info, inside, Or.inl ⟨rfl, rfl⟩⟩
    · exact ⟨info, inside, Or.inr ⟨key, aliased, rfl, rfl⟩⟩

theorem accepted_iff : (acceptedNames model).get? key = some info ↔
    info ∈ model.fields ∧ (key = info.name ∨ info.aliased = some key) := by
  rw [← mem_spellings]
  exact ⟨Dict.get?_ofEntries_mem, Dict.get?_ofEntries (spellings_nodup model)⟩

/-- An alias is of `schema_`, which holds no model. -/
theorem aliased_field {spelling : Text} (inside : info ∈ model.fields)
    (aliased : info.aliased = some spelling) :
    model = .databaseConfig ∧ info.name = text "schema_" ∧ spelling = text "schema" ∧
      modelIn info.annotation = none := by
  have checked := List.all_eq_true.mp (aliased_fields model) info inside
  simpa [aliased, and_assoc] using checked

theorem annotation_cases (inside : info ∈ model.fields)
    (found : modelIn info.annotation = some submodel) :
    info.annotation = .model submodel ∨ info.annotation = .generic .list [.model submodel] := by
  have simple := List.all_eq_true.mp (annotations_simple model) info inside
  rw [ Annotation.simple.eq_def] at simple
  split at simple
  · rename_i plain
    rw [plain, modelIn] at found
    cases found
  · rename_i single held
    rw [held, modelIn, Option.some.injEq] at found
    exact Or.inl (found ▸ held)
  · rename_i single held
    rw [held] at found
    simp only [modelIn, modelInArguments, Option.some.injEq] at found
    exact Or.inr (found ▸ held)
  · rw [found] at simple
    cases simple

section

variable {keys : List Text}

theorem accepted_of_taken (taken : fieldTaken model keys key = some info) :
    (acceptedNames model).get? key = some info := by
  have holds := List.find?_some taken
  have inside := List.mem_of_find?_eq_some taken
  rw [decide_eq_true_eq, takenKey] at holds
  refine accepted_iff.mpr ⟨inside, ?_⟩
  split at holds
  · split at holds
    · exact Or.inl (Option.some.inj holds).symm
    · cases holds
  · rename_i spelling aliased
    split at holds
    · exact Or.inr (holds ▸ aliased)
    · split at holds
      · exact Or.inl (Option.some.inj holds).symm
      · cases holds

theorem shadowed (here : key ∈ keys) (untaken : fieldTaken model keys key = none)
    (accepted : (acceptedNames model).get? key = some info) :
    model = .databaseConfig ∧ key = text "schema_" ∧ text "schema" ∈ keys ∧
      modelIn info.annotation = none := by
  obtain ⟨inside, spelled⟩ := accepted_iff.mp accepted
  have other : takenKey model keys info ≠ some key := by
    have none := List.find?_eq_none.mp untaken info inside
    simpa using none
  cases aliased : info.aliased with
  | none =>
    rw [aliased] at spelled
    have name : key = info.name := by simpa using spelled
    refine absurd ?_ other
    rw [takenKey, aliased, ← name]
    exact if_pos here
  | some spelling =>
    obtain ⟨database, name, schema, leaf⟩ := aliased_field inside aliased
    have beside : spelling ∈ keys := by
      by_contra absent
      rcases spelled with named | named
      · refine other ?_
        simp only [takenKey, aliased, if_neg absent]
        rw [← named, if_pos ⟨by simp [ConfigModel.populateByName, database], here⟩]
      · rw [aliased, Option.some.injEq] at named
        exact absent (named ▸ here)
    refine ⟨database, ?_, schema ▸ beside, leaf⟩
    rcases spelled with named | named
    · exact named.trans name
    · refine absurd ?_ other
      simp only [takenKey, aliased, if_pos beside]
      exact (aliased.symm.trans named)

end

variable {validation : Validation}

theorem unread_below {report : KeyReport (List PathStep)}
    (accepted : (acceptedNames model).get? key = some info)
    (inside : modelIn info.annotation = some submodel) :
    ((report.map (.key key :: ·)).keep fun path => !declaredPath model path).map (printedFrom before) =
      (report.keep fun path => !declaredPath submodel path).map
        (printedFrom (keyPath before key)) := by
  rw [KeyReport.keep_map, KeyReport.map_map]
  simp only [declaredPath_nested accepted inside]
  rfl

mutual

/-- Without foreign keys the walk of what a model accepts reports what validation leaves unread, and
no more; declared paths among them it takes for read. -/
theorem walkInto_unread (validation : Validation) (before : Text) (model : ConfigModel) :
    ∀ raw, validation.accepts model raw → walkInto [] before model raw =
      ((leftUnread model raw).keep fun path => !declaredPath model path).map (printedFrom before)
  | .mapping entries, accepted => by
    rw [walkInto, leftUnread]
    exact walkEntries_unread validation before model entries accepted entries fun _ inside => inside
  | .null, accepted => by cases validation.mapping accepted with | intro _ shape => cases shape
  | .scalar _, accepted => by cases validation.mapping accepted with | intro _ shape => cases shape
  | .sequence _, accepted => by cases validation.mapping accepted with | intro _ shape => cases shape
  | .set _, accepted => by cases validation.mapping accepted with | intro _ shape => cases shape

theorem walkEntries_unread (validation : Validation) (before : Text) (model : ConfigModel)
    (whole : List (Text × Yaml)) (valid : validation.accepts model (.mapping whole)) :
    ∀ entries, (∀ entry ∈ entries, entry ∈ whole) → walkEntries [] before model entries =
      ((leftOfEntries model (whole.map Prod.fst) entries).keep fun path =>
        !declaredPath model path).map (printedFrom before)
  | [], _ => rfl
  | (key, value) :: rest, within => by
    have member : (key, value) ∈ whole := within _ List.mem_cons_self
    have here : key ∈ whole.map Prod.fst := List.mem_map.mpr ⟨_, member, rfl⟩
    simp only [walkEntries, leftOfEntries, KeyReport.keep_append, KeyReport.map_append,
      List.not_mem_nil, if_false]
    rw [walkEntries_unread validation before model whole valid rest fun entry inside =>
      within entry (List.mem_cons_of_mem _ inside)]
    congr 1
    cases taken : fieldTaken model (whole.map Prod.fst) key with
    | none =>
      cases accepted : (acceptedNames model).get? key with
      | none => simp [KeyReport.keep, KeyReport.map, declaredPath, accepted, printedFrom]
      | some info =>
        obtain ⟨_, _, _, leaf⟩ := shadowed here taken accepted
        simp [KeyReport.keep, KeyReport.map, declaredPath, accepted, leaf]
    | some info =>
      have accepted := accepted_of_taken taken
      simp only [accepted]
      cases inside : modelIn info.annotation with
      | none =>
        -- an annotation with a model in it is not this field's
        simp only
        split <;> first | rfl | simp_all [modelIn, modelInArguments]
      | some submodel =>
        simp only
        rcases annotation_cases (accepted_iff.mp accepted).1 inside with held | held
        · have valid' := validation.nested valid member taken held
          match value, validation.mapping valid' with
          | .mapping entries, _ =>
            simp only [held]
            rw [unread_below accepted inside]
            exact walkEntries_unread validation _ submodel entries valid' entries
              fun _ inside => inside
        · have listed := validation.listed valid member taken held
          match value, listed with
          | .sequence items, listed =>
            have each : ∀ item ∈ items, validation.accepts submodel item := by
              rcases listed with ⟨others, same, each⟩ | impossible
              · cases same
                exact each
              · cases impossible
            simp only [held]
            rw [unread_below accepted inside]
            exact walkItems_unread validation _ submodel 0 items each
          | .set members, _ =>
            simp only [held]
            rfl

theorem walkItems_unread (validation : Validation) (before : Text) (model : ConfigModel)
    (index : Nat) :
    ∀ items, (∀ item ∈ items, validation.accepts model item) → walkItems [] before model index items =
      ((leftOfItems model index items).keep fun path => !declaredPath model path).map
        (printedFrom before)
  | [], _ => rfl
  | item :: rest, each => by
    rw [walkItems, leftOfItems, KeyReport.keep_append, KeyReport.map_append,
      walkItems_unread validation before model (index + 1) rest fun item inside =>
      each item (List.mem_cons_of_mem _ inside),
      walkInto_unread validation (itemPath before index) model item
      (each item List.mem_cons_self), KeyReport.keep_map, KeyReport.map_map]
    rfl

end

/-- The keys of a path, its last one aside, are spelled as their models accept them. -/
def reachedPath : ConfigModel → List PathStep → Bool
  | _, [] => true
  | model, .item _ :: rest => reachedPath model rest
  | _, [.key _] => true
  | model, .key name :: rest =>
    match (acceptedNames model).get? name with
    | none => false
    | some info =>
      match modelIn info.annotation with
      | some submodel => reachedPath submodel rest
      | none => false

theorem reachedPath_nested {step : PathStep}
    (reached : reachedPath model (.key key :: step :: path) = true) :
    ∃ info submodel, (acceptedNames model).get? key = some info ∧
      modelIn info.annotation = some submodel ∧ reachedPath submodel (step :: path) = true := by
  rw [reachedPath] at reached
  · split at reached
    · cases reached
    · rename_i info accepted
      split at reached
      · rename_i submodel inside
        exact ⟨info, submodel, accepted, inside, reached⟩
      · cases reached
  · simp

theorem reachedPath_of_nested {step : PathStep} (accepted : (acceptedNames model).get? key = some info)
    (inside : modelIn info.annotation = some submodel)
    (reached : reachedPath submodel (step :: path) = true) :
    reachedPath model (.key key :: step :: path) = true := by
  rw [reachedPath]
  · simp only [accepted, inside, reached]
  · simp

theorem reached_of_declared (declared : declaredPath model path = true) :
    reachedPath model path = true := by
  induction path generalizing model with
  | nil => rfl
  | cons step rest ih =>
    cases step with
    | item index => exact ih declared
    | key name =>
      cases rest with
      | nil => rfl
      | cons next rest =>
        rw [declaredPath] at declared
        split at declared
        · cases declared
        · rename_i info accepted
          split at declared
          · rename_i submodel inside
            exact reachedPath_of_nested accepted inside (ih declared)
          · cases declared

theorem printedFrom_extends (before : Text) (path : List PathStep) :
    before <+: printedFrom before path := by
  induction path generalizing before with
  | nil => exact List.prefix_rfl
  | cons step rest ih =>
    cases step with
    | key name =>
      refine List.IsPrefix.trans ?_ (ih (keyPath before name))
      rw [keyPath]
      split
      · rename_i none
        rw [none]
        exact List.nil_prefix
      · rw [List.append_assoc]
        exact List.prefix_append _ _
    | item index =>
      refine List.IsPrefix.trans ?_ (ih (itemPath before index))
      rw [itemPath, List.append_assoc, List.append_assoc]
      exact List.prefix_append _ _

/-- No foreign key goes on from this text. -/
def leadsNowhere (before : Text) : Bool := foreignKeys.all fun foreign => !before.isPrefixOf foreign

theorem not_foreign_of_leadsNowhere {shown : Text} (nowhere : leadsNowhere before = true)
    (longer : before <+: shown) : shown ∉ foreignKeys := by
  intro listed
  have checked := List.all_eq_true.mp nowhere shown listed
  rw [List.isPrefixOf_iff_prefix.mpr longer] at checked
  cases checked

theorem printed_item (index : Nat) (nowhere : leadsNowhere (before ++ text "[") = true) :
    printedFrom before (.item index :: path) ∉ foreignKeys := by
  refine not_foreign_of_leadsNowhere nowhere
    (List.IsPrefix.trans ?_ (printedFrom_extends (itemPath before index) path))
  rw [itemPath, List.append_assoc]
  exact List.prefix_append _ _

/-- Of the sections of a model, printed after this text, only this one has foreign keys in it. -/
def onlyInto (before : Text) (model : ConfigModel) (wanted : Text) : Bool :=
  model.spellings.all fun (name, info) =>
    (modelIn info.annotation).isNone || name = wanted || leadsNowhere (keyPath before name)

theorem name_of_onlyInto {wanted : Text} (only : onlyInto before model wanted = true)
    (accepted : (acceptedNames model).get? key = some info)
    (inside : modelIn info.annotation = some submodel)
    (foreign : printedFrom before (.key key :: path) ∈ foreignKeys) : key = wanted := by
  have checked := List.all_eq_true.mp only (key, info) (mem_spellings.mpr (accepted_iff.mp accepted))
  by_contra other
  have nowhere : leadsNowhere (keyPath before key) = true := by simpa [inside, other] using checked
  exact not_foreign_of_leadsNowhere nowhere (printedFrom_extends _ path) foreign

theorem notifications_accepted : (acceptedNames .appConfig).get? (text "notifications") =
    some (nested "notifications" .notificationsConfig) :=
  accepted_iff.mpr ⟨by simp [ConfigModel.fields], Or.inl rfl⟩

theorem tray_accepted : (acceptedNames .notificationsConfig).get? (text "tray") =
    some (nested "tray" .trayNotificationsConfig) :=
  accepted_iff.mpr ⟨by simp [ConfigModel.fields], Or.inl rfl⟩

theorem app_onlyInto : onlyInto [] .appConfig (text "notifications") = true := by decide

theorem notifications_onlyInto :
    onlyInto (text "notifications") .notificationsConfig (text "tray") = true := by decide

/-- Nine keys are foreign in the section `tray` of `notifications`. -/
theorem foreign_leaf (foreign : text "notifications.tray." ++ key ∈ foreignKeys) :
    [.key (text "notifications"), .key (text "tray"), .key key] ∈ foreignPaths := by
  rw [← foreignPaths_printed] at foreign
  obtain ⟨path, inside, same⟩ := List.mem_map.mp foreign
  rcases List.mem_cons.mp inside with rfl | leaf
  · have apart : ¬ text "notifications.tray." <+: printed [.key (text "tray")] := by decide
    exact absurd ⟨key, same.symm⟩ apart
  · obtain ⟨name, _, rfl⟩ := List.mem_map.mp leaf
    have shown : printed [.key (text "notifications"), .key (text "tray"), .key (text name)] =
        text "notifications.tray." ++ text name := by
      have front : text "notifications" ≠ [] ∧ text "notifications" ++ text "." ++ text "tray" ≠ [] ∧
          text "notifications" ++ text "." ++ text "tray" ++ text "." =
            text "notifications.tray." := by decide
      simp only [printed, printedFrom, keyPath, if_true, if_neg front.1, if_neg front.2.1, front.2.2]
    rw [shown] at same
    rw [← List.append_cancel_left same]
    exact inside

theorem path_of_foreign (reached : reachedPath .appConfig path = true)
    (foreign : printed path ∈ foreignKeys) :
    path ∈ foreignPaths ∨ (∃ key, path = [.key key] ∧ key ∈ foreignKeys ∧ key ≠ text "tray") ∨
      ∃ key, path = [.key (text "notifications"), .key key] ∧
        text "notifications." ++ key ∈ foreignKeys := by
  match path with
  | [] =>
    have none : [] ∉ foreignKeys := by decide
    exact absurd foreign none
  | .item index :: rest => exact absurd foreign (printed_item index (by decide))
  | [.key key] =>
    by_cases tray : key = text "tray"
    · rw [tray]
      exact Or.inl List.mem_cons_self
    · exact Or.inr (Or.inl ⟨key, rfl, foreign, tray⟩)
  | .key key :: step :: rest =>
    obtain ⟨info, submodel, accepted, inside, below⟩ := reachedPath_nested reached
    obtain rfl := name_of_onlyInto app_onlyInto accepted inside foreign
    rw [notifications_accepted, Option.some.injEq] at accepted
    subst accepted
    cases inside
    have base : keyPath [] (text "notifications") = text "notifications" := rfl
    rw [printed, printedFrom, base] at foreign
    match step, rest with
    | .item index, rest => exact absurd foreign (printed_item index (by decide))
    | .key key, [] =>
      refine Or.inr (Or.inr ⟨key, rfl, ?_⟩)
      have front : text "notifications" ≠ [] ∧
          text "notifications" ++ text "." = text "notifications." := by decide
      rwa [printedFrom, printedFrom, keyPath, if_neg front.1, front.2] at foreign
    | .key key, step :: rest =>
      obtain ⟨info, submodel, accepted, inside, below⟩ := reachedPath_nested below
      obtain rfl := name_of_onlyInto notifications_onlyInto accepted inside foreign
      rw [tray_accepted, Option.some.injEq] at accepted
      subst accepted
      cases inside
      have base : keyPath (text "notifications") (text "tray") = text "notifications.tray" := by decide
      rw [printedFrom, base] at foreign
      match step, rest with
      | .item index, rest => exact absurd foreign (printed_item index (by decide))
      | .key key, [] =>
        have front : text "notifications.tray" ≠ [] ∧ text "notifications.tray" ++ text "." =
            text "notifications.tray." := by
          decide
        rw [printedFrom, printedFrom, keyPath, if_neg front.1, front.2] at foreign
        exact Or.inl (foreign_leaf foreign)
      | .key key, step :: rest =>
        obtain ⟨info, submodel, accepted, inside, _⟩ := reachedPath_nested below
        have leaves : (ConfigModel.trayNotificationsConfig.spellings.all fun (_, info) =>
            (modelIn info.annotation).isNone) = true := by
          decide
        have leaf :=
          List.all_eq_true.mp leaves (key, info)
            (mem_spellings.mpr (accepted_iff.mp accepted))
        simp [inside] at leaf

/-- The unread paths that an entry of a mapping has in it. -/
inductive LeftAt (model : ConfigModel) (keys : List Text) : Text × Yaml → List PathStep → Prop
  | here {key : Text} (value : Yaml) : fieldTaken model keys key = none →
      LeftAt model keys (key, value) [.key key]
  | nested {key : Text} {info : FieldInfo} {submodel : ConfigModel} {entries : List (Text × Yaml)}
      {path : List PathStep} :
      fieldTaken model keys key = some info → info.annotation = .model submodel →
        path ∈ (leftOfEntries submodel (entries.map Prod.fst) entries).unknown →
          LeftAt model keys (key, .mapping entries) (.key key :: path)
  | listed {key : Text} {info : FieldInfo} {submodel : ConfigModel} {items : List Yaml}
      {path : List PathStep} :
      fieldTaken model keys key = some info → info.annotation = .generic .list [.model submodel] →
        path ∈ (leftOfItems submodel 0 items).unknown →
          LeftAt model keys (key, .sequence items) (.key key :: path)

theorem mem_leftOfEntries {keys : List Text} {entries : List (Text × Yaml)} :
    path ∈ (leftOfEntries model keys entries).unknown ↔ ∃ entry ∈ entries,
      LeftAt model keys entry path := by
  induction entries with
  | nil => simp [leftOfEntries]
  | cons entry rest ih =>
    obtain ⟨key, value⟩ := entry
    rw [leftOfEntries, KeyReport.append_eq]
    simp only [List.mem_append, ih, List.exists_mem_cons_iff]
    refine or_congr_left ?_
    constructor
    · intro left
      split at left
      · rename_i untaken
        rw [List.mem_singleton.mp left]
        exact .here value untaken
      · rename_i info taken
        split at left
        · rename_i held
          obtain ⟨path, below, rfl⟩ := List.mem_map.mp left
          exact .nested taken held below
        · rename_i held
          obtain ⟨path, below, rfl⟩ := List.mem_map.mp left
          exact .listed taken held below
        all_goals cases left
    · intro left
      cases left with
      | here value untaken => simp [untaken]
      | nested taken held below =>
        simp only [taken, held]
        exact List.mem_map.mpr ⟨_, below, rfl⟩
      | listed taken held below =>
        simp only [taken, held]
        exact List.mem_map.mpr ⟨_, below, rfl⟩

/-- It holds of an untaken key, and of a path when of what is below its first step. -/
structure Climbs (Holds : ConfigModel → List PathStep → Prop) : Prop where
  here {model : ConfigModel} {keys : List Text} {key : Text} :
    key ∈ keys → fieldTaken model keys key = none → Holds model [.key key]
  nested {model submodel : ConfigModel} {key : Text} {info : FieldInfo} {path : List PathStep} :
    (acceptedNames model).get? key = some info → modelIn info.annotation = some submodel →
      Holds submodel path → Holds model (.key key :: path)
  item {model : ConfigModel} {index : Nat} {path : List PathStep} : Holds model path →
    Holds model (.item index :: path)

section

variable {Holds : ConfigModel → List PathStep → Prop}

mutual

theorem leftUnread_induction (climbs : Climbs Holds) :
    ∀ raw model path, path ∈ (leftUnread model raw).unknown → Holds model path
  | .mapping entries, model, path, left => by
    rw [leftUnread] at left
    exact leftOfEntries_induction climbs entries model (entries.map Prod.fst)
      (fun entry inside => List.mem_map.mpr ⟨entry, inside, rfl⟩) path left
  | .null, _, _, left => by cases left
  | .scalar _, _, _, left => by cases left
  | .sequence _, _, _, left => by cases left
  | .set _, _, _, left => by cases left

theorem leftOfEntries_induction (climbs : Climbs Holds) :
    ∀ (entries : List (Text × Yaml)) model keys, (∀ entry ∈ entries, entry.1 ∈ keys) →
      ∀ path, path ∈ (leftOfEntries model keys entries).unknown → Holds model path
  | [], _, _, _, _, left => by cases left
  | (key, value) :: rest, model, keys, within, path, left => by
    rcases List.exists_mem_cons_iff _ _ _ |>.mp (mem_leftOfEntries.mp left) with first | later
    · match value, first with
      | _, .here _ untaken => exact climbs.here (within _ List.mem_cons_self) untaken
      | .mapping entries, .nested taken held below =>
        exact climbs.nested (accepted_of_taken taken) (by rw [held, modelIn])
          (leftOfEntries_induction climbs entries _ _
            (fun entry inside => List.mem_map.mpr ⟨entry, inside, rfl⟩) _ below)
      | .sequence items, .listed taken held below =>
        exact climbs.nested (accepted_of_taken taken) (by rw [held]; rfl)
          (leftOfItems_induction climbs items _ 0 _ below)
    · exact leftOfEntries_induction climbs rest model keys
        (fun entry inside => within entry (List.mem_cons_of_mem _ inside)) path
          (mem_leftOfEntries.mpr later)

theorem leftOfItems_induction (climbs : Climbs Holds) :
    ∀ (items : List Yaml) model index path, path ∈ (leftOfItems model index items).unknown →
      Holds model path
  | [], _, _, _, left => by cases left
  | first :: rest, model, index, path, left => by
    rw [leftOfItems] at left
    rcases List.mem_append.mp left with inFirst | later
    · obtain ⟨path, below, rfl⟩ := List.mem_map.mp inFirst
      exact climbs.item (leftUnread_induction climbs first model path below)
    · exact leftOfItems_induction climbs rest model (index + 1) path later

end

end

theorem reached_climbs : Climbs fun model path => path ≠ [] ∧ reachedPath model path = true where
  here _ _ := ⟨by simp, rfl⟩
  nested {model submodel key info path} accepted inside below := by
    obtain ⟨some, reached⟩ := below
    obtain ⟨step, path, rfl⟩ := List.exists_cons_of_ne_nil some
    exact ⟨by simp, reachedPath_of_nested accepted inside reached⟩
  item below := ⟨by simp, below.2⟩

theorem reached_of_left {raw : Yaml} (left : path ∈ (leftUnread model raw).unknown) :
    reachedPath model path = true :=
  (leftUnread_induction reached_climbs raw model path left).2

/-- The models that no alias is below. -/
def ConfigModel.unaliased (model : ConfigModel) : Bool := model ≠ .appConfig && model ≠ .databaseConfig

theorem unaliased_below (model : ConfigModel) (unaliased : model.unaliased = true) :
    (model.spellings.all fun (_, info) => (modelIn info.annotation).all ConfigModel.unaliased) =
      true := by
  cases model <;> first | decide | cases unaliased

theorem undeclared_climbs :
    Climbs fun model path => model.unaliased = true → declaredPath model path = false where
  here {model keys key} here untaken unaliased := by
    cases accepted : (acceptedNames model).get? key with
    | none => simp [declaredPath, accepted]
    | some info =>
      rw [(shadowed here untaken accepted).1] at unaliased
      cases unaliased
  nested {model submodel key info path} accepted inside below unaliased := by
    rw [declaredPath_nested accepted inside]
    have checked := List.all_eq_true.mp (unaliased_below model unaliased) (key, info)
        (mem_spellings.mpr (accepted_iff.mp accepted))
    simp only [inside, Option.all_some] at checked
    exact below checked
  item below unaliased := below unaliased

theorem untaken_of_unaccepted {keys : List Text}
    (unaccepted : (acceptedNames model).get? key = none) : fieldTaken model keys key = none := by
  cases taken : fieldTaken model keys key with
  | none => rfl
  | some info =>
    rw [accepted_of_taken taken] at unaccepted
    cases unaccepted

theorem taken_of_accepted {keys : List Text} (here : key ∈ keys)
    (accepted : (acceptedNames model).get? key = some info) (other : model ≠ .databaseConfig) :
    fieldTaken model keys key = some info := by
  cases taken : fieldTaken model keys key with
  | none => exact absurd (shadowed here taken accepted).1 other
  | some found =>
    have same := accepted_of_taken taken
    rwa [accepted, eq_comm] at same

theorem foreign_unaccepted (foreign : key ∈ foreignKeys) :
    (acceptedNames .appConfig).get? key = none := by
  have checked : (foreignKeys.all fun key => ((acceptedNames .appConfig).get? key).isNone) =
      true := by decide
  simpa using List.all_eq_true.mp checked key foreign

theorem foreign_unaccepted_notifications (foreign : text "notifications." ++ key ∈ foreignKeys) :
    (acceptedNames .notificationsConfig).get? key = none := by
  have checked : (ConfigModel.notificationsConfig.spellings.all fun entry =>
      text "notifications." ++ entry.1 ∉ foreignKeys) = true := by
    decide
  cases accepted : (acceptedNames .notificationsConfig).get? key with
  | none => rfl
  | some info =>
    have unlisted :=
      List.all_eq_true.mp checked (key, info) (mem_spellings.mpr (accepted_iff.mp accepted))
    exact absurd foreign (by simpa using unlisted)

theorem declared_not_foreign (declared : declaredPath .appConfig path = true) :
    printed path ∉ foreignKeys := by
  intro foreign
  rcases path_of_foreign (reached_of_declared declared) foreign with listed | ⟨key, rfl, dotted, _⟩
    | ⟨key, rfl, dotted⟩
  · have checked : (foreignPaths.all fun path => !declaredPath .appConfig path) = true := by decide
    have undeclared := List.all_eq_true.mp checked path listed
    rw [declared] at undeclared
    cases undeclared
  · simp [declaredPath, foreign_unaccepted dotted] at declared
  · rw [declaredPath_nested notifications_accepted rfl] at declared
    simp [declaredPath, foreign_unaccepted_notifications dotted] at declared

theorem walk_eq {raw : Yaml} (accepted : validation.accepts .appConfig raw) :
    walk raw .appConfig foreignKeys = ⟨((leftUnread .appConfig raw).unknown.filter fun path =>
        !declaredPath .appConfig path && printed path ∉ foreignKeys).map printed,
      (leftUnread .appConfig raw).unwalkable.map printed⟩ := by
  rw [walk, walkInto_foreign foreignKeys [] .appConfig (fun _ => declared_not_foreign),
    walkInto_unread validation [] .appConfig raw accepted]
  simp only [KeyReport.keep, KeyReport.map, List.filter_map, List.filter_filter, Function.comp_def]
  refine congrArg₂ KeyReport.mk (congrArg (List.map printed) (List.filter_congr fun path _ => ?_)) rfl
  rw [Bool.and_comm]
  rfl

/-- Filters of which one implies the other leave lists of one length only if they are the same on
the list. -/
theorem filter_of_length {α : Type} {fine coarse : α → Bool} {items : List α}
    (finer : ∀ item, fine item = true → coarse item = true)
    (same : (items.filter fine).length = (items.filter coarse).length) {item : α}
    (inside : item ∈ items) (kept : coarse item = true) : fine item = true := by
  have twice : (items.filter coarse).filter fine = items.filter fine := by
    rw [List.filter_filter]
    refine List.filter_congr fun item _ => ?_
    cases holds : fine item with
    | false => rfl
    | true => simp [finer item holds]
  rw [← twice] at same
  exact List.length_filter_eq_length_iff.mp same item (List.mem_filter.mpr ⟨inside, kept⟩)

theorem reportsIgnored_iff_unmistaken {raw : Yaml} (accepted : validation.accepts .appConfig raw) :
    ReportsIgnored raw ↔ ∀ path ∈ (leftUnread .appConfig raw).unknown, path ∉ foreignPaths →
      declaredPath .appConfig path = false ∧ printed path ∉ foreignKeys := by
  have finer : ∀ path, (!declaredPath .appConfig path && decide (printed path ∉ foreignKeys)) = true →
      decide (path ∉ foreignPaths) = true := by
    intro path kept
    simp only [Bool.and_eq_true, decide_eq_true_eq] at kept ⊢
    intro listed
    refine kept.2 ?_
    rw [← foreignPaths_printed]
    exact List.mem_map_of_mem listed
  simp only [ReportsIgnored, walk_eq accepted]
  constructor
  · intro reports path inside own
    have lengths := congrArg List.length reports.1
    rw [List.length_map, List.length_map] at lengths
    have kept := filter_of_length finer lengths inside (by simpa using own)
    simpa using kept
  · intro unmistaken
    have same : (leftUnread .appConfig raw).unknown.filter (fun path =>
        !declaredPath .appConfig path && decide (printed path ∉ foreignKeys)) =
        (leftUnread .appConfig raw).unknown.filter fun path => decide (path ∉ foreignPaths) := by
      refine List.filter_congr fun path inside => ?_
      by_cases own : path ∈ foreignPaths
      · have coarse : decide (path ∉ foreignPaths) = false := by simpa using own
        rw [coarse]
        by_contra kept
        rw [finer path (by simpa using kept)] at coarse
        cases coarse
      · obtain ⟨undeclared, unlisted⟩ := unmistaken path inside own
        simp [undeclared, unlisted, own]
    rw [same]
    exact ⟨rfl, trivial, fun path ignored => Or.inl (List.mem_map_of_mem ignored)⟩

theorem database_accepted : (acceptedNames .appConfig).get? (text "database") =
    some (nested "database" .databaseConfig) :=
  accepted_iff.mpr ⟨by simp [ConfigModel.fields], Or.inl rfl⟩

/-- Only the section `database` holds the model with the alias. -/
theorem database_of_inside (accepted : (acceptedNames .appConfig).get? key = some info)
    (inside : modelIn info.annotation = some submodel) (aliased : submodel.unaliased = false) :
    key = text "database" ∧ info.annotation = .model .databaseConfig := by
  have checked : (ConfigModel.appConfig.spellings.all fun (name, info) =>
      (modelIn info.annotation).all ConfigModel.unaliased || name = text "database") =
        true := by decide
  have entry := List.all_eq_true.mp checked (key, info) (mem_spellings.mpr (accepted_iff.mp accepted))
  have named : key = text "database" := by simpa [inside, aliased] using entry
  rw [named, database_accepted, Option.some.injEq] at accepted
  exact ⟨named, accepted ▸ rfl⟩

theorem schema_accepted : (acceptedNames .databaseConfig).get? (text "schema_") =
    some ⟨text "schema_", some (text "schema"), .plain⟩ :=
  accepted_iff.mpr ⟨by simp [ConfigModel.fields], Or.inl rfl⟩

theorem schema_untaken {keys : List Text} (beside : text "schema" ∈ keys) :
    fieldTaken .databaseConfig keys (text "schema_") = none := by
  cases taken : fieldTaken .databaseConfig keys (text "schema_") with
  | none => rfl
  | some info =>
    have same := accepted_of_taken taken
    rw [schema_accepted, Option.some.injEq] at same
    have holds := List.find?_some taken
    rw [← same, decide_eq_true_eq] at holds
    simp only [takenKey, if_pos beside, Option.some.injEq] at holds
    exact absurd holds (by decide)

theorem database_leaves :
    (ConfigModel.databaseConfig.fields.all fun info => (modelIn info.annotation).isNone) =
    true := by
  decide

theorem schema_of_declared {keys : List Text} {entries : List (Text × Yaml)}
    (within : ∀ entry ∈ entries, entry.1 ∈ keys)
    (left : path ∈ (leftOfEntries .databaseConfig keys entries).unknown)
    (declared : declaredPath .databaseConfig path = true) :
    text "schema" ∈ keys ∧ text "schema_" ∈ keys := by
  obtain ⟨entry, inside, leftAt⟩ := mem_leftOfEntries.mp left
  have leaf : ∀ {info submodel}, fieldTaken .databaseConfig keys entry.1 = some info →
      modelIn info.annotation ≠ some submodel := by
    intro info submodel taken found
    have checked := List.all_eq_true.mp database_leaves info (List.mem_of_find?_eq_some taken)
    rw [found] at checked
    cases checked
  cases leftAt with
  | @here key value untaken =>
    have here := within _ inside
    cases accepted : (acceptedNames .databaseConfig).get? key with
    | none => simp [declaredPath, accepted] at declared
    | some info =>
      obtain ⟨_, name, beside, _⟩ := shadowed here untaken accepted
      exact ⟨beside, name ▸ here⟩
  | nested taken held below => exact absurd (by rw [held, modelIn]) (leaf taken)
  | listed taken held below => exact absurd (by rw [held]; rfl) (leaf taken)

theorem undeclared_of_plain {raw : Yaml} (accepted : validation.accepts .appConfig raw)
    (plain : PlainlySpelled raw) (left : path ∈ (leftUnread .appConfig raw).unknown) :
    declaredPath .appConfig path = false := by
  obtain ⟨whole, rfl⟩ := validation.mapping accepted
  rw [leftUnread] at left
  obtain ⟨entry, inside, leftAt⟩ := mem_leftOfEntries.mp left
  have here : entry.1 ∈ whole.map Prod.fst := List.mem_map.mpr ⟨entry, inside, rfl⟩
  cases leftAt with
  | @here key value untaken =>
    cases known : (acceptedNames .appConfig).get? key with
    | none => simp [declaredPath, known]
    | some info => cases (shadowed here untaken known).1
  | @nested key info submodel entries path taken held below =>
    have known := accepted_of_taken taken
    have found : modelIn info.annotation = some submodel := by rw [held, modelIn]
    rw [declaredPath_nested known found]
    cases unaliased : submodel.unaliased with
    | true =>
      exact leftOfEntries_induction undeclared_climbs entries submodel (entries.map Prod.fst)
        (fun entry inside => List.mem_map.mpr ⟨entry, inside, rfl⟩) path below unaliased
    | false =>
      obtain ⟨rfl, database⟩ := database_of_inside known found unaliased
      rw [held, Annotation.model.injEq] at database
      subst database
      by_contra declared
      have both :=
        schema_of_declared (fun entry inside => List.mem_map.mpr ⟨entry, inside, rfl⟩) below
          (by simpa using declared)
      exact plain.schema (.mapping entries) inside both
  | @listed key info submodel items path taken held below =>
    have known := accepted_of_taken taken
    have found : modelIn info.annotation = some submodel := by rw [held]; rfl
    rw [declaredPath_nested known found]
    cases unaliased : submodel.unaliased with
    | true => exact leftOfItems_induction undeclared_climbs items submodel 0 path below unaliased
    | false =>
      have database := (database_of_inside known found unaliased).2
      rw [held] at database
      cases database

theorem key_of_left {keys : List Text} {entries : List (Text × Yaml)}
    (left : .key key :: path ∈ (leftOfEntries model keys entries).unknown) :
    key ∈ entries.map Prod.fst := by
  obtain ⟨entry, inside, leftAt⟩ := mem_leftOfEntries.mp left
  cases leftAt <;> exact List.mem_map.mpr ⟨_, inside, rfl⟩

theorem unlisted_of_plain {raw : Yaml} (accepted : validation.accepts .appConfig raw)
    (plain : PlainlySpelled raw) (left : path ∈ (leftUnread .appConfig raw).unknown)
    (own : path ∉ foreignPaths) : printed path ∉ foreignKeys := by
  intro foreign
  have reached := reached_of_left left
  obtain ⟨whole, rfl⟩ := validation.mapping accepted
  rw [leftUnread] at left
  rcases path_of_foreign reached foreign with listed | ⟨key, rfl, dotted, other⟩ | ⟨key, rfl, dotted⟩
  · exact own listed
  · exact other (plain.root key (key_of_left left) dotted)
  · obtain ⟨entry, inside, leftAt⟩ := mem_leftOfEntries.mp left
    cases leftAt with
    | @nested _ info submodel entries _ taken held below =>
      exact plain.notifications (.mapping entries) inside key (key_of_left below) dotted
    | listed taken held below =>
      have same := accepted_of_taken taken
      rw [notifications_accepted, Option.some.injEq] at same
      rw [← same] at held
      cases held

/-- A foreign path of one key is `tray`, and none is of two. -/
theorem foreignPaths_lengths (listed : path ∈ foreignPaths) :
    path = [.key (text "tray")] ∨ path.length = 3 := by
  rcases List.mem_cons.mp listed with here | leaf
  · exact Or.inl here
  · obtain ⟨name, _, rfl⟩ := List.mem_map.mp leaf
    exact Or.inr rfl

theorem left_of_section {whole : List (Text × Yaml)} {value : Yaml}
    (accepted : validation.accepts .appConfig (.mapping whole)) (inside : (key, value) ∈ whole)
    (known : (acceptedNames .appConfig).get? key = some info)
    (held : info.annotation = .model submodel) :
    ∃ entries, value = .mapping entries ∧
      ∀ path ∈ (leftOfEntries submodel (entries.map Prod.fst) entries).unknown,
      .key key :: path ∈ (leftUnread .appConfig (.mapping whole)).unknown := by
  have taken :=
    taken_of_accepted (List.mem_map.mpr ⟨_, inside, rfl⟩ : key ∈ whole.map Prod.fst) known
      (by decide)
  obtain ⟨entries, rfl⟩ := validation.mapping (validation.nested accepted inside taken held)
  refine ⟨entries, rfl, fun path below => ?_⟩
  rw [leftUnread]
  exact mem_leftOfEntries.mpr ⟨_, inside, .nested taken held below⟩

theorem left_here {keys : List Text} {entries : List (Text × Yaml)}
    (here : key ∈ entries.map Prod.fst) (untaken : fieldTaken model keys key = none) :
    [.key key] ∈ (leftOfEntries model keys entries).unknown := by
  obtain ⟨entry, inside, rfl⟩ := List.mem_map.mp here
  exact mem_leftOfEntries.mpr ⟨entry, inside, .here entry.2 untaken⟩

theorem plain_of_unmistaken {raw : Yaml} (accepted : validation.accepts .appConfig raw)
    (unmistaken : ∀ path ∈ (leftUnread .appConfig raw).unknown, path ∉ foreignPaths →
      declaredPath .appConfig path = false ∧ printed path ∉ foreignKeys) : PlainlySpelled raw := by
  obtain ⟨whole, rfl⟩ := validation.mapping accepted
  refine ⟨?_, ?_, ?_⟩
  · intro database inside both
    obtain ⟨entries, rfl, left⟩ := left_of_section accepted inside database_accepted rfl
    have path := left _ (left_here both.2 (schema_untaken both.1))
    have own : [.key (text "database"), .key (text "schema_")] ∉ foreignPaths := by
      intro listed
      rcases foreignPaths_lengths listed with one | three
      · cases one
      · cases three
    have undeclared := (unmistaken _ path own).1
    rw [declaredPath_nested database_accepted rfl, declaredPath_key schema_accepted] at undeclared
    cases undeclared
  · intro key here foreign
    by_contra other
    have path : [.key key] ∈ (leftUnread .appConfig (.mapping whole)).unknown := by
      rw [leftUnread]
      exact left_here here (untaken_of_unaccepted (foreign_unaccepted foreign))
    refine (unmistaken _ path ?_).2 foreign
    intro listed
    rcases foreignPaths_lengths listed with one | three
    · simp only [List.cons.injEq, PathStep.key.injEq, and_true] at one
      exact other one
    · cases three
  · intro notifications inside key here foreign
    obtain ⟨entries, rfl, left⟩ := left_of_section accepted inside notifications_accepted rfl
    have path :=
      left _ (left_here here (untaken_of_unaccepted (foreign_unaccepted_notifications foreign)))
    refine (unmistaken _ path ?_).2 ?_
    · intro listed
      rcases foreignPaths_lengths listed with one | three
      · cases one
      · cases three
    · have front : text "notifications" ≠ [] ∧
          text "notifications" ++ text "." = text "notifications." := by decide
      rw [printed, printedFrom, printedFrom, printedFrom, keyPath, keyPath, if_pos rfl,
        if_neg front.1, front.2]
      exact foreign

mutual

/-- Validation where every value of a field without a model in it is of its type. -/
def fits (model : ConfigModel) : Yaml → Bool
  | .mapping entries => fitsEntries model (entries.map Prod.fst) entries
  | _ => false

def fitsEntries (model : ConfigModel) (keys : List Text) : List (Text × Yaml) → Bool
  | [] => true
  | (key, value) :: rest =>
    (match fieldTaken model keys key with
      | none => true
      | some info =>
        match info.annotation, value with
        | .model submodel, .mapping entries => fitsEntries submodel (entries.map Prod.fst) entries
        | .generic .list [.model submodel], .sequence items => fitsItems submodel items
        | .generic .list [.model _], .set [] => true
        | .model _, _ | .generic .list [.model _], _ => false
        | _, _ => true) && fitsEntries model keys rest

def fitsItems (model : ConfigModel) : List Yaml → Bool
  | [] => true
  | item :: rest => fits model item && fitsItems model rest

end

theorem fitsItems_iff {items : List Yaml} :
    fitsItems model items = true ↔ ∀ item ∈ items, fits model item = true := by
  induction items with
  | nil => simp [fitsItems]
  | cons item rest ih => rw [fitsItems, Bool.and_eq_true, ih, List.forall_mem_cons]

theorem fitsEntries_nested {keys : List Text} {entries : List (Text × Yaml)} {value : Yaml}
    (fit : fitsEntries model keys entries = true) (inside : (key, value) ∈ entries)
    (taken : fieldTaken model keys key = some info) (held : info.annotation = .model submodel) :
    fits submodel value = true := by
  induction entries with
  | nil => cases inside
  | cons entry rest ih =>
    obtain ⟨other, found⟩ := entry
    rw [fitsEntries, Bool.and_eq_true] at fit
    rcases List.mem_cons.mp inside with here | later
    · cases here
      have first := fit.1
      simp only [taken, held] at first
      cases value with
      | mapping entries =>
        rw [fits]
        exact first
      | _ => cases first
    · exact ih fit.2 later

theorem fitsEntries_listed {keys : List Text} {entries : List (Text × Yaml)} {value : Yaml}
    (fit : fitsEntries model keys entries = true) (inside : (key, value) ∈ entries)
    (taken : fieldTaken model keys key = some info)
    (held : info.annotation = .generic .list [.model submodel]) :
    (∃ items, value = .sequence items ∧ ∀ item ∈ items, fits submodel item = true) ∨
      value = .set [] := by
  induction entries with
  | nil => cases inside
  | cons entry rest ih =>
    obtain ⟨other, found⟩ := entry
    rw [fitsEntries, Bool.and_eq_true] at fit
    rcases List.mem_cons.mp inside with here | later
    · cases here
      have first := fit.1
      simp only [taken, held] at first
      cases value with
      | sequence items => exact Or.inl ⟨items, rfl, fitsItems_iff.mp first⟩
      | set members =>
        cases members with
        | nil => exact Or.inr rfl
        | cons => cases first
      | _ => cases first
    · exact ih fit.2 later

def shapeValidation : Validation where
  accepts model raw := fits model raw = true
  mapping {model raw} fit := by
    cases raw with
    | mapping entries => exact ⟨entries, rfl⟩
    | _ => cases fit
  nested fit inside taken held := by
    rw [fits] at fit
    exact fitsEntries_nested fit inside taken held
  listed fit inside taken held := by
    rw [fits] at fit
    exact fitsEntries_listed fit inside taken held

/-- The report of a file that loads lists just what validation ignores exactly where no key is
spelled like another one: a key with dots in it like a foreign path, or the name of a field beside
its alias. -/
theorem reportsIgnored_iff {raw : Yaml} (accepted : validation.accepts .appConfig raw) :
    ReportsIgnored raw ↔ PlainlySpelled raw := by
  rw [reportsIgnored_iff_unmistaken accepted]
  exact ⟨plain_of_unmistaken accepted, fun plain path left own =>
    ⟨undeclared_of_plain accepted plain left, unlisted_of_plain accepted plain left own⟩⟩

/-- A file with a misspelled key, a foreign section and a foreign key beside one of ours. -/
def misspelledFile : Yaml :=
  .mapping [(text "schedules", .mapping [(text "briefing_hourr", .scalar (text "9"))]),
    (text "tray", .mapping [(text "status_poll_seconds", .scalar (text "5"))]),
    (text "notifications", .mapping [(text "tray", .mapping [(text "mute_services", .sequence []),
      (text "digest_mode", .scalar (text "hourly"))])])]

theorem misspelledFile_reported : ReportsIgnored misspelledFile := by
  refine (@reportsIgnored_iff shapeValidation misspelledFile
    (show fits .appConfig misspelledFile = true by decide)).mpr ⟨?_, by decide +kernel, ?_⟩
  · intro database member
    have absent : text "database" ∉ misspelledFile.keys := by decide
    exact absurd (List.mem_map_of_mem member) absent
  · have own : ∀ entry ∈ misspelledFile.entries, entry.1 = text "notifications" →
        ∀ key ∈ entry.2.keys, text "notifications." ++ key ∉ foreignKeys := by decide +kernel
    exact fun notifications member => own _ member rfl

example : (walk misspelledFile .appConfig foreignKeys).unknown =
    [text "schedules.briefing_hourr"] := by decide

/-- A database section with the schema under its alias and under its name. -/
def twoSchemas : Yaml :=
  .mapping [(text "database", .mapping [(text "schema", .scalar (text "sysadmin")),
    (text "schema_", .scalar (text "estate"))])]

/-- The second is ignored, and the report is empty. -/
theorem twoSchemas_unreported :
    shapeValidation.accepts .appConfig twoSchemas ∧ ¬ ReportsIgnored twoSchemas := by
  refine ⟨show fits .appConfig twoSchemas = true by decide, ?_⟩
  intro reports
  have silent : (walk twoSchemas .appConfig foreignKeys).unknown = [] := by decide
  have ignored : ((leftUnread .appConfig twoSchemas).unknown.filter (· ∉ foreignPaths)).map
      printed = [text "database.schema_"] := by
    decide
  have listed := reports.1
  rw [silent, ignored] at listed
  cases listed

end

end SysadminAssistant.Core
