import Mathlib.Algebra.Ring.Nat
import SysadminAssistant.Units.UnitText

namespace SysadminAssistant.Units

open Python Python.Text

/-! The sections of a unit file, however its values are spread over lines. -/

/-! ## The value that is read -/

/-- Pieces with one blank between them. -/
def joinPieces (pieces : List Text) : Text := ((pieces.filter (· ≠ [])).intersperse (text " ")).flatten

/-- What a value adds to the length of a joined one. -/
def cost (value : Text) : Nat := if value = [] then 0 else value.length + 1

theorem joinPieces_cons (piece : Text) (rest : List Text) :
    joinPieces (piece :: rest) = glue piece (joinPieces rest) := by
  by_cases empty : piece = []
  · rw [glue, if_pos empty, joinPieces, List.filter_cons_of_neg (by simpa using empty)]
    rfl
  · rw [glue, if_neg empty, joinPieces, List.filter_cons_of_pos (by simpa using empty), joinPieces]
    cases others : rest.filter (· ≠ []) with
    | nil => simp
    | cons first later =>
      have filled : first ≠ [] := by
        have member : first ∈ rest.filter (· ≠ []) := others ▸ List.mem_cons_self
        simpa using (List.mem_filter.mp member).2
      have some : ((first :: later).intersperse (text " ")).flatten ≠ [] := by
        cases later <;> simp [filled]
      rw [if_neg some]
      simp [List.intersperse_cons_cons, List.append_assoc]

theorem glue_nil (value : Text) : glue value [] = value := by
  rw [glue]
  split
  · rename_i empty
    exact empty.symm
  · rfl

theorem glue_assoc (first second third : Text) :
    glue (glue first second) third = glue first (glue second third) := by
  by_cases none : first = []
  · simp [glue, none]
  · by_cases none' : second = []
    · simp [glue, none, none']
    · by_cases none'' : third = []
      · simp [glue, none, none', none'']
      · simp [glue, none, none', none'', List.append_assoc]

theorem glue_foldl (value : Text) (pieces : List Text) :
    pieces.foldl glue value = glue value (joinPieces pieces) := by
  induction pieces generalizing value with
  | nil => exact (glue_nil value).symm
  | cons piece rest ih => rw [List.foldl_cons, ih, glue_assoc, joinPieces_cons]

theorem Assignment.value_eq (written : Assignment) :
    written.value = ((written.splits.map Prod.snd).map strip).foldl glue (strip written.first) := by
  rw [glue_foldl, ← joinPieces_cons]
  rfl

theorem cost_glue (value piece : Text) : cost (glue value piece) = cost value + cost piece := by
  by_cases none : value = []
  · simp [glue, cost, none]
  · by_cases none' : piece = []
    · simp [glue, cost, none, none']
    · simp only [glue, cost, if_neg none, if_neg none']
      rw [if_neg (by simp [none])]
      simp only [List.length_append, text, List.length_map]
      have blank : " ".toList.length = 1 := by decide
      omega

theorem keptPiece_eq {piece : Text} (plain : piece.getLast? ≠ some backslash) :
    keptPiece piece = strip piece := by
  have same : (stripLeft piece).getLast? ≠ some backslash := by
    obtain ⟨before, shape, _⟩ := stripLeft_cases piece
    intro last
    refine plain ?_
    rw [shape, List.getLast?_append, last]
    rfl
  rw [keptPiece, rstripBackslashes_eq same, strip_stripLeft]

theorem keptPiece_length_lt {piece : Text} (marked : piece.getLast? = some backslash) :
    (keptPiece piece).length < (strip piece).length := by
  obtain ⟨front, shape⟩ := List.getLast?_eq_some_iff.mp marked
  have stripped : stripLeft piece = stripLeft front ++ [backslash] := by
    obtain ⟨before, spelt, blank, solid⟩ := stripLeft_cases front
    have solid' : ∀ c ∈ (stripLeft front ++ [backslash]).head?, CodePoint.isSpace c = false := by
      intro c first
      cases rest : stripLeft front with
      | nil =>
        rw [rest] at first
        cases first
        exact backslash_solid
      | cons head others =>
        rw [rest] at first solid
        exact solid c first
    have whole := stripLeft_append blank solid'
    rw [← List.append_assoc, ← spelt, ← shape] at whole
    exact whole
  have same : strip piece = stripLeft front ++ [backslash] := by
    have all := strip_continued front blank_nil
    rwa [← shape] at all
  have shorter := (rstripBackslashes_front (stripLeft front)).length_le
  have trimmed := strip_length_le (rstripBackslashes (stripLeft front))
  rw [keptPiece, stripped, rstripBackslashes_snoc, same, List.length_append]
  simp only [List.length_cons, List.length_nil]
  omega

theorem cost_keptPiece (piece : Text) : cost (keptPiece piece) ≤ cost (strip piece) ∧
    (piece.getLast? = some backslash → cost (keptPiece piece) < cost (strip piece)) := by
  have longer : ∀ {left right : Text}, left.length < right.length → cost left < cost right := by
    intro left right shorter
    have filled : right ≠ [] := by
      intro empty
      rw [empty] at shorter
      exact Nat.not_lt_zero _ shorter
    rw [cost, cost, if_neg filled]
    split <;> omega
  by_cases marked : piece.getLast? = some backslash
  · have less := longer (keptPiece_length_lt marked)
    exact ⟨less.le, fun _ => less⟩
  · exact ⟨by rw [keptPiece_eq marked], fun here => absurd here marked⟩

theorem readFrom_eq {value line : Text} {splits : List (Text × Text)}
    (keeps : ∀ piece ∈ (line :: splits.map Prod.snd).dropLast, piece.getLast? ≠ some backslash) :
    readFrom value line splits = ((line :: splits.map Prod.snd).map strip).foldl glue value := by
  induction splits generalizing value line with
  | nil => rfl
  | cons split rest ih =>
    obtain ⟨pad, piece⟩ := split
    simp only [List.map_cons, List.dropLast_cons_cons, List.forall_mem_cons] at keeps
    rw [readFrom, keptPiece_eq keeps.1, ih keeps.2]
    rfl

theorem cost_foldl (value : Text) (pieces : List Text) :
    cost (pieces.foldl glue value) = cost value + (pieces.map cost).sum := by
  induction pieces generalizing value with
  | nil => rfl
  | cons piece rest ih =>
    rw [List.foldl_cons, ih, cost_glue, List.map_cons, List.sum_cons, Nat.add_assoc]

theorem readFrom_cost (value line : Text) (splits : List (Text × Text)) :
    cost (readFrom value line splits) ≤ cost
      (((line :: splits.map Prod.snd).map strip).foldl glue value) ∧
      ((∃ piece ∈ (line :: splits.map Prod.snd).dropLast, piece.getLast? = some backslash) →
        cost (readFrom value line splits) < cost
          (((line :: splits.map Prod.snd).map strip).foldl glue value)) := by
  induction splits generalizing value line with
  | nil => exact ⟨Nat.le_refl _, fun marked => by simp at marked⟩
  | cons split rest ih =>
    obtain ⟨pad, piece⟩ := split
    obtain ⟨most, less⟩ := ih (glue value (keptPiece line)) piece
    obtain ⟨kept, lost⟩ := cost_keptPiece line
    rw [cost_foldl, cost_glue] at most less
    simp only [List.map_cons, List.dropLast_cons_cons, List.exists_mem_cons_iff, readFrom,
      cost_foldl, List.sum_cons] at most less ⊢
    refine ⟨by omega, fun marked => ?_⟩
    rcases marked with here | later
    · have shorter := lost here
      omega
    · have shorter := less later
      omega

/-- The value is read as it is written, exactly if no piece in the middle has a backslash of its own
at its end. -/
theorem Assignment.read_eq_iff (written : Assignment) :
    written.read = written.value ↔ written.Keeps := by
  rw [written.value_eq, Assignment.Keeps, Assignment.read]
  cases written.splits with
  | nil => exact iff_of_true rfl (by simp)
  | cons split rest =>
    obtain ⟨pad, piece⟩ := split
    constructor
    · intro same member inside marked
      have shorter := (readFrom_cost (strip written.first) piece rest).2 ⟨member, inside, marked⟩
      exact absurd (congrArg cost same) shorter.ne
    · exact fun keeps => readFrom_eq keeps

/-! ## The whole file -/

theorem foldl_parseLine (logical : List UnitLine) (sections : Sections) (current : Option Text) :
    (logical.flatMap UnitLine.lines).foldl parseLine ⟨sections, current, none⟩ =
      ⟨(logical.foldl (declare Assignment.read) (sections, current)).1,
        (logical.foldl (declare Assignment.read) (sections, current)).2, none⟩ := by
  induction logical generalizing sections current with
  | nil => rfl
  | cons line rest ih =>
    rw [List.flatMap_cons, List.foldl_append, List.foldl_cons]
    cases line with
    | ignored raw quiet =>
      have skipped : parseLine ⟨sections, current, none⟩ raw = ⟨sections, current, none⟩ := by
        simp only [parseLine]
        rw [if_pos quiet]
      simp only [UnitLine.lines, List.foldl_cons, List.foldl_nil, skipped, declare]
      exact ih sections current
    | header raw name spelt named =>
      have opened : parseLine ⟨sections, current, none⟩ raw = ⟨openSection sections name,
          some name, none⟩ := by
        have found : sectionName? (strip raw) = some name := by
          obtain ⟨inside, outside⟩ := parted_at named.2 []
          rw [spelt]
          simp only [sectionName?, List.cons_append, inside, outside]
          simp [named.1]
        simp only [parseLine, found]
        rw [if_neg]
        rw [spelt]
        simp
        decide
      simp only [UnitLine.lines, List.foldl_cons, List.foldl_nil, opened, declare]
      exact ih _ _
    | assignment written ended =>
      rw [UnitLine.lines, written.parse_lines sections current ended]
      cases current with
      | none => exact ih sections none
      | some name => exact ih _ (some name)

/-- What a section holds. -/
def entriesOf (sections : Sections) (name : Text) : List (Text × Text) := (sections.get? name).getD []

theorem entriesOf_openSection (sections : Sections) (name other : Text) :
    entriesOf (openSection sections name) other = entriesOf sections other := by
  unfold openSection entriesOf
  cases found : sections.get? name with
  | some entries => rfl
  | none =>
    by_cases same : name = other
    · rw [← same, Dict.get?_set_self, found]
      rfl
    · rw [Dict.get?_set_other _ _ same]

theorem entriesOf_addEntry (sections : Sections) (name other : Text) (entry : Text × Text) :
    entriesOf (addEntry sections name entry) other =
      entriesOf sections other ++ if name = other then [entry] else [] := by
  unfold addEntry entriesOf
  by_cases same : name = other
  · rw [← same, Dict.get?_set_self, if_pos rfl]
    rfl
  · rw [Dict.get?_set_other _ _ same, if_neg same, List.append_nil]

theorem entriesOf_declare (value : Assignment → Text) (logical : List UnitLine)
    (sections : Sections) (current : Option Text) (name : Text) :
    entriesOf (logical.foldl (declare value) (sections, current)).1 name = entriesOf sections name ++
      ((placedFrom current logical).filter fun placed => placed.1 = name).map fun placed =>
        (strip placed.2.key, value placed.2) := by
  induction logical generalizing sections current with
  | nil => simp [placedFrom]
  | cons line rest ih =>
    rw [List.foldl_cons]
    cases line with
    | ignored raw quiet => exact ih sections current
    | header raw opened spelt named =>
      rw [declare, ih, entriesOf_openSection]
      rfl
    | assignment written ended =>
      cases current with
      | none => exact ih sections none
      | some section_ =>
        rw [declare, ih, entriesOf_addEntry, placedFrom, List.append_assoc]
        by_cases same : section_ = name
        · rw [if_pos same, List.filter_cons_of_pos (by simpa using same)]
          rfl
        · rw [if_neg same, List.filter_cons_of_neg (by simpa using same)]
          rfl

theorem declare_current (value : Assignment → Text) (logical : List UnitLine) (sections : Sections)
    (current : Option Text) : (logical.foldl (declare value) (sections, current)).2 =
      logical.foldl (fun current line => match line with
        | .header _ name _ _ => some name
        | .ignored _ _ | .assignment _ _ => current) current := by
  induction logical generalizing sections current with
  | nil => rfl
  | cons line rest ih =>
    rw [List.foldl_cons, List.foldl_cons]
    cases line with
    | ignored raw quiet => exact ih sections current
    | header raw name spelt named => exact ih _ (some name)
    | assignment written ended =>
      cases current with
      | none => exact ih sections none
      | some name => exact ih _ (some name)

theorem declare_congr {value value' : Assignment → Text} {logical : List UnitLine}
    {current : Option Text}
    (same : ∀ placed ∈ placedFrom current logical, value placed.2 = value' placed.2)
    (sections : Sections) :
    logical.foldl (declare value) (sections, current) = logical.foldl (declare value')
      (sections, current) := by
  induction logical generalizing sections current with
  | nil => rfl
  | cons line rest ih =>
    rw [List.foldl_cons, List.foldl_cons]
    cases line with
    | ignored raw quiet => exact ih same sections
    | header raw name spelt named => exact ih same (openSection sections name)
    | assignment written ended =>
      cases current with
      | none => exact ih same sections
      | some name =>
        obtain ⟨here, later⟩ := List.forall_mem_cons.mp same
        simp only [declare, here]
        exact ih later _

theorem parseUnitText_eq {content : Text} {source : UnitSource}
    (spelt : splitLines content = source.lines) :
    parseUnitText content = (source.logical.foldl (declare Assignment.read) (.empty, none)).1 := by
  rw [parseUnitText, spelt, UnitSource.lines, List.foldl_append, foldl_parseLine]
  cases source.unfinished with
  | none => rfl
  | some unfinished =>
    obtain ⟨pending, parsed⟩ := unfinished.assignment.parse_unfinished
      (source.logical.foldl (declare Assignment.read) (.empty, none)).1
      (source.logical.foldl (declare Assignment.read) (.empty, none)).2 unfinished.padded
    rw [Option.elim_some, parsed]

/-- A unit file is parsed as it is written, exactly if nothing in a section is continued at its end
and no piece in the middle of a value has a backslash of its own at its end. -/
theorem parseUnitText_iff (content : Text) (source : UnitSource)
    (spelt : splitLines content = source.lines) :
    parseUnitText content = source.sections ↔ source.Sound := by
  rw [parseUnitText_eq spelt]
  have opened : (source.logical.foldl (declare Assignment.value) (.empty, none)).2 = source.current :=
    declare_current _ _ _ _
  constructor
  · intro same
    have unfinished : source.unfinished = none ∨ source.current = none := by
      cases last : source.unfinished with
      | none => exact Or.inl rfl
      | some unfinished =>
        cases current : source.current with
        | none => exact Or.inr rfl
        | some name =>
          have entries := congrArg (fun sections => (entriesOf sections name).length) same
          simp only [UnitSource.sections, opened, current, last, entriesOf_addEntry,
            entriesOf_declare] at entries
          simp at entries
    have whole : source.sections =
        (source.logical.foldl (declare Assignment.value) (.empty, none)).1 := by
      simp only [UnitSource.sections, opened]
      rcases unfinished with none | none <;> rw [none]
      cases source.current <;> rfl
    refine ⟨?_, unfinished⟩
    intro placed member
    have entries := congrArg (fun sections => entriesOf sections placed.1) (same.trans whole)
    simp only [entriesOf_declare] at entries
    have each := List.map_inj_left.mp (List.append_cancel_left entries) placed
        (List.mem_filter.mpr ⟨member, by simp⟩)
    exact placed.2.read_eq_iff.mp (Prod.mk.inj each).2
  · intro sound
    obtain ⟨keeps, unfinished⟩ := sound
    rw [declare_congr fun placed member => placed.2.read_eq_iff.mpr (keeps placed member)]
    simp only [UnitSource.sections, opened]
    rcases unfinished with none | none <;> rw [none]
    cases source.current <;> rfl

/-! A command over two lines, and one whose file ends in the middle of it. -/

def serviceHeader : UnitLine :=
  .header (text "[Service]") (text "Service") (by decide) ⟨by decide, by decide⟩

/-- `ExecStart=`, a piece of it, and more lines. -/
def execStart (first : Text) (splits : List (Text × Text))
    (padded : ∀ split ∈ splits, Blank split.1) : Assignment where
  key := text "ExecStart"
  first
  splits
  keyed := by decide
  plain := by
    intro c member
    have head : (stripLeft (text "ExecStart")).head? = some (codePoint 'E') := by decide
    rw [head, Option.mem_def, Option.some.injEq] at member
    rw [← member]
    decide
  padded

def twoLines : UnitSource where
  logical := [serviceHeader, .assignment (execStart (text "/usr/bin/rsync ") [([], text "--archive")]
    (by simp [blank_nil])) (by
      intro piece last
      obtain rfl : text "--archive" = piece := Option.some.inj last
      decide)]
  unfinished := none

theorem twoLines_parsed :
    parseUnitText (text "[Service]\nExecStart=/usr/bin/rsync " ++ backslash :: text "\n--archive") =
      twoLines.sections := by
  refine (parseUnitText_iff _ twoLines (by decide)).mpr ⟨?_, Or.inl rfl⟩
  intro placed member piece between
  rw [List.mem_singleton.mp member] at between
  cases between

def cutShort : UnitSource where
  logical := [serviceHeader]
  unfinished := some ⟨execStart (text "/usr/bin/rsync ") [] (by simp), [], blank_nil⟩

theorem cutShort_dropped :
    splitLines (text "[Service]\nExecStart=/usr/bin/rsync " ++ [backslash]) = cutShort.lines ∧
      parseUnitText (text "[Service]\nExecStart=/usr/bin/rsync " ++ [backslash]) ≠
        cutShort.sections := by
  refine ⟨by decide, ?_⟩
  intro same
  have entries := congrArg (fun sections => entriesOf sections (text "Service")) same
  revert entries
  decide

end SysadminAssistant.Units
