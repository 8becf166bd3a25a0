import SysadminAssistant.Python.Dict
import SysadminAssistant.Python.Runs

namespace SysadminAssistant.Units

open Python Python.Text

/-! `parse_unit_text` (`sysadmin/units/scan.py`), and the logical lines its text is made of. -/

def backslash : CodePoint := 92

def equals : CodePoint := codePoint '='

abbrev Sections := Dict Text (List (Text × Text))

/-- The name in a section header: `^\[(?P<name>[^\]]+)\]\s*$`. -/
def sectionName? (line : Text) : Option Text :=
  match line with
  | [] => none
  | opening :: rest =>
    if opening ≠ codePoint '[' then none
    else
      let name := rest.takeWhile (· ≠ codePoint ']')
      match rest.dropWhile (· ≠ codePoint ']') with
      | [] => none
      | _ :: after => if name ≠ [] ∧ after.all CodePoint.isSpace then some name else none

/-- `line.rstrip("\\")`. -/
def rstripBackslashes (line : Text) : Text := (line.reverse.dropWhile (· = backslash)).reverse

/-- `sections.setdefault(name, [])`. -/
def openSection (sections : Sections) (name : Text) : Sections :=
  match sections.get? name with
  | some _ => sections
  | none => sections.set name []

/-- `sections.setdefault(name, []).append(entry)`. -/
def addEntry (sections : Sections) (name : Text) (entry : Text × Text) : Sections :=
  sections.set name ((sections.get? name).getD [] ++ [entry])

structure ParseState where
  sections : Sections
  current : Option Text
  pending : Option Text

/-- What becomes of a logical line that is no header. -/
def record (state : ParseState) (line : Text) : ParseState :=
  match state.current with
  | none => state
  | some name =>
    if equals ∈ line then
      let key := line.takeWhile (· ≠ equals)
      let value := (line.dropWhile (· ≠ equals)).tail
      { state with sections := addEntry state.sections name (strip key, strip value) }
    else state

def parseLine (state : ParseState) (rawLine : Text) : ParseState :=
  let line := strip rawLine
  match state.pending with
  | some pending =>
    let joined := strip (pending ++ text " " ++ rstripBackslashes line)
    if line.getLast? = some backslash then { state with pending := some joined }
    else record { state with pending := none } joined
  | none =>
    if line = [] ∨ line.head? = some (codePoint '#') ∨ line.head? = some (codePoint ';') then state
    else match sectionName? line with
      | some name => { state with sections := openSection state.sections name, current := some name }
      | none =>
        if line.getLast? = some backslash then { state with pending := some (strip line.dropLast) }
        else record state line

def parseUnitText (content : Text) : Sections :=
  ((splitLines content).foldl parseLine ⟨.empty, none, none⟩).sections

/-! ## What a unit file is made of -/

/-- A key and the pieces of its value.  Each further piece stands on a line of its own, after the
blanks that follow the backslash of the line before. -/
structure Assignment where
  key : Text
  first : Text
  splits : List (Text × Text)
  keyed : equals ∉ key
  plain : ∀ c ∈ (stripLeft key).head?, c ∉ [codePoint '#', codePoint ';', codePoint '[']
  padded : ∀ split ∈ splits, Blank split.1

/-- A line, and the lines its value is continued on; the last one may be continued too. -/
def continuedLines (line : Text) : List (Text × Text) → Option Text → List Text
  | [], none => [line]
  | [], some pad => [line ++ backslash :: pad]
  | (pad, piece) :: rest, unfinished =>
    (line ++ backslash :: pad) :: continuedLines piece rest unfinished

namespace Assignment

def pieces (assignment : Assignment) : List Text := assignment.first :: assignment.splits.map Prod.snd

/-- The pieces, with one blank for what is between two of them. -/
def value (assignment : Assignment) : Text :=
  (((assignment.pieces.map strip).filter (· ≠ [])).intersperse (text " ")).flatten

def entry (assignment : Assignment) : Text × Text := (strip assignment.key, assignment.value)

def lines (assignment : Assignment) (unfinished : Option Text) : List Text :=
  continuedLines (assignment.key ++ equals :: assignment.first) assignment.splits unfinished

/-- The last piece is not continued. -/
def Ended (assignment : Assignment) : Prop :=
  ∀ piece ∈ assignment.pieces.getLast?, (strip piece).getLast? ≠ some backslash

/-- No piece between the first and the last has a backslash of its own before the one that continues
it. -/
def Keeps (assignment : Assignment) : Prop :=
  ∀ piece ∈ (assignment.splits.map Prod.snd).dropLast, piece.getLast? ≠ some backslash

end Assignment

inductive UnitLine where
  | ignored (raw : Text)
      (quiet : strip raw = [] ∨ (strip raw).head? = some (codePoint '#') ∨
        (strip raw).head? = some (codePoint ';'))
  | header (raw name : Text) (spelt : strip raw = codePoint '[' :: name ++ [codePoint ']'])
      (named : name ≠ [] ∧ codePoint ']' ∉ name)
  | assignment (assignment : Assignment) (ended : assignment.Ended)

def UnitLine.lines : UnitLine → List Text
  | .ignored raw _ => [raw]
  | .header raw _ _ _ => [raw]
  | .assignment written _ => written.lines none

/-- An assignment whose last line is continued where the file ends. -/
structure Unfinished where
  assignment : Assignment
  pad : Text
  padded : Blank pad

structure UnitSource where
  logical : List UnitLine
  unfinished : Option Unfinished

/-- The assignments in sections, each with its section. -/
def placedFrom : Option Text → List UnitLine → List (Text × Assignment)
  | _, [] => []
  | current, .ignored _ _ :: rest => placedFrom current rest
  | _, .header _ name _ _ :: rest => placedFrom (some name) rest
  | none, .assignment _ _ :: rest => placedFrom none rest
  | some name, .assignment written _ :: rest => (name, written) :: placedFrom (some name) rest

namespace UnitSource

def lines (source : UnitSource) : List Text :=
  source.logical.flatMap UnitLine.lines ++
    source.unfinished.elim [] fun unfinished => unfinished.assignment.lines (some unfinished.pad)

/-- The section that is open at the end. -/
def current (source : UnitSource) : Option Text :=
  source.logical.foldl (fun current line => match line with
    | .header _ name _ _ => some name
    | .ignored _ _ | .assignment _ _ => current) none

end UnitSource

/-- Sections that some logical lines add to: headers open one, assignments go to the one that is
open. -/
def declare (value : Assignment → Text) (state : Sections × Option Text) :
    UnitLine → Sections × Option Text
  | .ignored _ _ => state
  | .header _ name _ _ => (openSection state.1 name, some name)
  | .assignment written _ =>
    match state.2 with
    | none => state
    | some name => (addEntry state.1 name (strip written.key, value written), some name)

/-- Per section and in order, every assignment. -/
def UnitSource.sections (source : UnitSource) : Sections :=
  let declared := source.logical.foldl (declare Assignment.value) (.empty, none)
  match declared.2, source.unfinished with
  | some name, some unfinished => addEntry declared.1 name unfinished.assignment.entry
  | _, _ => declared.1

/-- Nothing that stands in a section is lost. -/
def UnitSource.Sound (source : UnitSource) : Prop :=
  (∀ placed ∈ placedFrom none source.logical, placed.2.Keeps) ∧ (source.unfinished = none ∨
    source.current = none)

/-! What the line loop makes of assignments that are continued over several lines. -/

theorem trim_append {left middle right : Text}
    (solid : ∀ c ∈ left.head?, CodePoint.isSpace c = false) (some : left ≠ [])
    (solid' : ∀ c ∈ right.getLast?, CodePoint.isSpace c = false) (some' : right ≠ []) :
    Trim (left ++ middle ++ right) := by
  constructor
  · intro c first
    cases left with
    | nil => exact absurd rfl some
    | cons head rest => exact solid c first
  · intro c final
    rw [List.getLast?_append_of_ne_nil _ some'] at final
    exact solid' c final

/-- A value and a further piece of it. -/
def glue (value piece : Text) : Text :=
  if value = [] then piece else if piece = [] then value else value ++ text " " ++ piece

/-- The logical line of a key, as far as it has been read: its value so far. -/
structure Pends (pending lead value : Text) : Prop where
  shape : ∃ gap, pending = lead ++ equals :: gap ++ value ∧ Blank gap ∧ (value = [] → gap = [])
  trim : Trim value

/-- The part of a key that a stripped line begins with. -/
structure Leads (lead : Text) : Prop where
  keyed : equals ∉ lead
  solid : ∀ c ∈ lead.head?, CodePoint.isSpace c = false

section

variable {lead pending value : Text}

theorem blank_space : Blank (text " ") := by
  intro c member
  obtain rfl : c = codePoint ' ' := by simpa [text] using member
  decide

theorem equals_solid : CodePoint.isSpace equals = false := by decide

theorem backslash_solid : CodePoint.isSpace backslash = false := by decide

theorem Leads.head (leads : Leads lead) (rest : Text) :
    ∀ c ∈ (lead ++ equals :: rest).head?, CodePoint.isSpace c = false := by
  intro c first
  cases lead with
  | nil =>
    cases first
    exact equals_solid
  | cons head others => exact leads.solid c first

theorem Pends.trims (leads : Leads lead) (pends : Pends pending lead value) : Trim pending := by
  obtain ⟨⟨gap, rfl, _, none⟩, trim⟩ := pends
  constructor
  · rw [List.append_assoc, List.cons_append]
    exact leads.head _
  · intro c final
    cases value with
    | nil =>
      rw [none rfl, List.append_nil, List.getLast?_append_of_ne_nil _ (by simp)] at final
      cases final
      exact equals_solid
    | cons first rest =>
      rw [List.getLast?_append_of_ne_nil _ (by simp)] at final
      exact trim.last c final

theorem Pends.start (leads : Leads lead) {before first : Text} (blank : Blank before) :
    Pends (strip (before ++ (lead ++ equals :: first))) lead (strip first) := by
  obtain ⟨gap, after, shape, blankGap, blankAfter, trim⟩ := strip_cases first
  by_cases empty : strip first = []
  · have whole : Blank first := by
      rw [shape, empty, List.append_nil]
      exact blankGap.append blankAfter
    have pends : Pends (lead ++ equals :: [] ++ []) lead [] :=
      ⟨⟨[], rfl, blank_nil, fun _ => rfl⟩, empty ▸ trim⟩
    have same := strip_eq_of_trim blank (pends.trims leads) whole
    rw [empty]
    simp only [List.append_nil, List.append_assoc, List.cons_append, List.nil_append] at same pends
    rw [same]
    exact pends
  · have pends : Pends (lead ++ equals :: gap ++ strip first) lead (strip first) :=
      ⟨⟨gap, rfl, blankGap, fun none => absurd none empty⟩, trim⟩
    have same := strip_eq_of_trim blank (pends.trims leads) blankAfter
    have spelt : before ++ (lead ++ equals :: first) = before ++
        (lead ++ equals :: gap ++ strip first) ++ after := by
      conv_lhs => rw [shape]
      simp only [List.append_assoc, List.cons_append]
    rw [spelt, same]
    exact pends

theorem Pends.join (leads : Leads lead) (pends : Pends pending lead value) {core after : Text}
    (trim : Trim core) (blank : Blank after) :
    Pends (strip (pending ++ text " " ++ (core ++ after))) lead (glue value core) := by
  by_cases empty : core = []
  · have same := strip_eq_of_trim blank_nil (pends.trims leads) (blank_space.append blank)
    have kept : glue value core = value := by
      rw [glue, empty]
      split
      · rename_i none
        rw [none]
      · rfl
    rw [kept]
    simp only [empty, List.nil_append, List.append_assoc] at same ⊢
    rw [same]
    exact pends
  · have joined : Pends (pending ++ text " " ++ core) lead (glue value core) := by
      obtain ⟨⟨gap, rfl, blankGap, none⟩, trim'⟩ := pends
      by_cases fresh : value = []
      · refine ⟨⟨text " ", ?_, blank_space, fun gone => ?_⟩, ?_⟩
        · rw [glue, if_pos fresh, fresh, none fresh]
          simp
        · rw [glue, if_pos fresh] at gone
          exact absurd gone empty
        · rwa [glue, if_pos fresh]
      · refine ⟨⟨gap, ?_, blankGap, fun gone => ?_⟩, ?_⟩
        · rw [glue, if_neg fresh, if_neg empty]
          simp only [List.append_assoc]
        · rw [glue, if_neg fresh, if_neg empty] at gone
          simp [fresh] at gone
        · rw [glue, if_neg fresh, if_neg empty]
          exact trim_append trim'.head fresh trim.last empty
    have same := strip_eq_of_trim blank_nil (joined.trims leads) blank
    simp only [List.nil_append, List.append_assoc] at same joined ⊢
    rw [same]
    exact joined

theorem parted_at {c : CodePoint} {before : Text} (absent : c ∉ before) (after : Text) :
    (before ++ c :: after).takeWhile (· ≠ c) = before ∧ (before ++ c :: after).dropWhile
      (· ≠ c) = c :: after := by
  have apart : ∀ other ∈ before, decide (other ≠ c) = true := fun other member =>
    decide_eq_true fun same => absent (same ▸ member)
  constructor
  · rw [List.takeWhile_append_of_pos apart, List.takeWhile_cons_of_neg (by simp), List.append_nil]
  · rw [List.dropWhile_append_of_pos apart, List.dropWhile_cons_of_neg (by simp)]

theorem Pends.record (leads : Leads lead) (pends : Pends pending lead value) (sections : Sections)
    (current : Option Text) : Units.record ⟨sections, current, none⟩ pending =
      match current with
      | none => ⟨sections, none, none⟩
      | some name => ⟨addEntry sections name (strip lead, value), some name, none⟩ := by
  obtain ⟨⟨gap, rfl, blank, _⟩, trim⟩ := pends
  cases current with
  | none => rfl
  | some name =>
    obtain ⟨key, rest⟩ := parted_at leads.keyed (gap ++ value)
    have whole := strip_eq_of_trim blank trim blank_nil
    rw [List.append_nil] at whole
    simp only [Units.record, List.append_assoc, List.cons_append, key, rest, List.tail_cons, whole]
    simp

/-! ## One line -/

/-- What is kept of a piece that stands between two backslashes. -/
def keptPiece (piece : Text) : Text := strip (rstripBackslashes (stripLeft piece))

theorem strip_stripLeft (value : Text) : strip (stripLeft value) = strip value := by
  obtain ⟨before, shape, _, solid⟩ := stripLeft_cases value
  have again : stripLeft (stripLeft value) = stripLeft value := by
    have same := stripLeft_append blank_nil solid
    rwa [List.nil_append] at same
  rw [strip, again]
  rfl

theorem strip_of_solid {line : Text} (solid : ∀ c ∈ line.head?, CodePoint.isSpace c = false) :
    ∃ after, line = strip line ++ after ∧ Blank after := by
  obtain ⟨before, after, shape, blank, blank', _⟩ := strip_cases line
  cases before with
  | nil => exact ⟨after, by simpa using shape, blank'⟩
  | cons c rest =>
    rw [shape] at solid
    have wrong := solid c rfl
    rw [blank c List.mem_cons_self] at wrong
    cases wrong

theorem strip_continued (line : Text) {pad : Text} (blank : Blank pad) :
    strip (line ++ backslash :: pad) = stripLeft line ++ [backslash] := by
  obtain ⟨before, shape, blank', solid⟩ := stripLeft_cases line
  have trim : Trim (stripLeft line ++ [backslash]) := by
    constructor
    · intro c first
      cases rest : stripLeft line with
      | nil =>
        rw [rest] at first
        cases first
        exact backslash_solid
      | cons head others =>
        rw [rest] at first solid
        exact solid c first
    · intro c final
      rw [List.getLast?_append_of_ne_nil _ (by simp)] at final
      cases final
      exact backslash_solid
  have same := strip_eq_of_trim blank' trim blank
  rw [← same, ← List.append_assoc, ← shape, List.append_assoc]
  rfl

theorem rstripBackslashes_snoc (line : Text) :
    rstripBackslashes (line ++ [backslash]) = rstripBackslashes line := by
  simp [rstripBackslashes]

theorem rstripBackslashes_eq {line : Text} (plain : line.getLast? ≠ some backslash) :
    rstripBackslashes line = line := by
  rw [rstripBackslashes]
  rw [← List.head?_reverse] at plain
  cases reversed : line.reverse with
  | nil => rw [List.reverse_eq_nil_iff.mp reversed]; rfl
  | cons last rest =>
    rw [reversed] at plain
    rw [List.dropWhile_cons_of_neg (by simpa using plain), ← reversed, List.reverse_reverse]

theorem rstripBackslashes_front (line : Text) : rstripBackslashes line <+: line := by
  rw [rstripBackslashes, ← List.reverse_suffix, List.reverse_reverse]
  exact List.dropWhile_suffix _

theorem parseLine_continued (leads : Leads lead) (pends : Pends pending lead value)
    (sections : Sections) (current : Option Text) (line : Text) {pad : Text} (blank : Blank pad) :
    ∃ joined,
      parseLine ⟨sections, current, some pending⟩ (line ++ backslash :: pad) =
        ⟨sections, current, some joined⟩ ∧ Pends joined lead (glue value (keptPiece line)) := by
  obtain ⟨_, _, _, solid⟩ := stripLeft_cases line
  have solid' : ∀ c ∈ (rstripBackslashes (stripLeft line)).head?, CodePoint.isSpace c = false := by
    intro c first
    refine solid c ?_
    obtain ⟨rest, whole⟩ := rstripBackslashes_front (stripLeft line)
    rw [← whole, List.head?_append, Option.mem_def.mp first]
    rfl
  obtain ⟨after, shape, blankAfter⟩ := strip_of_solid solid'
  refine ⟨_, ?_, pends.join leads (trim_strip _) blankAfter⟩
  simp only [parseLine, strip_continued line blank, rstripBackslashes_snoc]
  rw [if_pos (by simp), keptPiece, ← shape]

theorem parseLine_last (leads : Leads lead) (pends : Pends pending lead value) (sections : Sections)
    (current : Option Text) {line : Text} (ended : (strip line).getLast? ≠ some backslash) : ∃ joined,
      parseLine ⟨sections, current, some pending⟩ line =
        Units.record ⟨sections, current, none⟩ joined ∧
        Pends joined lead (glue value (strip line)) := by
  refine ⟨_, ?_, pends.join leads (trim_strip line) blank_nil⟩
  simp only [parseLine, rstripBackslashes_eq ended, List.append_nil]
  rw [if_neg ended]

theorem sectionName?_other {line : Text}
    (other : line.head? ≠ some (codePoint '[')) : sectionName? line = none := by
  cases line with
  | nil => rfl
  | cons c rest =>
    have apart : c ≠ codePoint '[' := by simpa using other
    simp only [sectionName?, if_pos apart]

theorem parseLine_keyed {line : Text} (sections : Sections) (current : Option Text)
    (plain : ∀ c ∈ lead.head?, c ∉ [codePoint '#', codePoint ';', codePoint '[']) {rest : Text}
    (spelt : strip line = lead ++ equals :: rest) : parseLine ⟨sections, current, none⟩ line =
      if (strip line).getLast? = some backslash
        then ⟨sections, current, some (strip (strip line).dropLast)⟩
      else Units.record ⟨sections, current, none⟩ (strip line) := by
  have front : ∀ c ∈ (strip line).head?, c ∉ [codePoint '#', codePoint ';', codePoint '['] := by
    intro c first
    rw [spelt] at first
    cases lead with
    | nil =>
      cases first
      decide
    | cons head others => exact plain c first
  have filled : strip line ≠ [] := by
    rw [spelt]
    simp
  have mark : (strip line).head? ≠ some (codePoint '#') := fun first => front _ first (by simp)
  have mark' : (strip line).head? ≠ some (codePoint ';') := fun first => front _ first (by simp)
  have mark'' : (strip line).head? ≠ some (codePoint '[') := fun first => front _ first (by simp)
  simp only [parseLine, sectionName?_other mark'']
  rw [if_neg (by simp [filled, mark, mark'])]

/-! ## One assignment -/

/-- The value that the loop reads, from a value so far and the line it stands in. -/
def readFrom (value line : Text) : List (Text × Text) → Text
  | [] => glue value (strip line)
  | (_, piece) :: rest => readFrom (glue value (keptPiece line)) piece rest

def Assignment.read (assignment : Assignment) : Text :=
  match assignment.splits with
  | [] => strip assignment.first
  | (_, piece) :: rest => readFrom (strip assignment.first) piece rest

/-- What an assignment does to the state. -/
def placeAt (sections : Sections) (current : Option Text) (entry : Text × Text) : ParseState :=
  match current with
  | none => ⟨sections, none, none⟩
  | some name => ⟨addEntry sections name entry, some name, none⟩

theorem parse_continuation (leads : Leads lead) (sections : Sections) (current : Option Text)
    {splits : List (Text × Text)} {line : Text} (padded : ∀ split ∈ splits, Blank split.1)
    (ended : ∀ piece ∈ (line :: splits.map Prod.snd).getLast?, (strip piece).getLast? ≠ some backslash)
    (pends : Pends pending lead value) :
    (continuedLines line splits none).foldl parseLine ⟨sections, current, some pending⟩ =
      placeAt sections current (strip lead, readFrom value line splits) := by
  induction splits generalizing line pending value with
  | nil =>
    obtain ⟨joined, parsed, pends'⟩ := parseLine_last leads pends sections current (ended line rfl)
    rw [continuedLines, List.foldl_cons, List.foldl_nil, parsed, pends'.record leads]
    rfl
  | cons split rest ih =>
    obtain ⟨pad, piece⟩ := split
    obtain ⟨joined, parsed, pends'⟩ := parseLine_continued leads pends sections current line
      (padded (pad, piece) List.mem_cons_self)
    rw [continuedLines, List.foldl_cons, parsed]
    exact ih (fun split member => padded split (List.mem_cons_of_mem _ member))
      (by simpa [List.getLast?_cons_cons] using ended) pends'

theorem parse_unfinished (leads : Leads lead) (sections : Sections) (current : Option Text)
    {splits : List (Text × Text)} {line last : Text} (padded : ∀ split ∈ splits, Blank split.1)
    (blank : Blank last) (pends : Pends pending lead value) : ∃ joined,
    (continuedLines line splits (some last)).foldl parseLine ⟨sections, current, some pending⟩ =
      ⟨sections, current, some joined⟩ := by
  induction splits generalizing line pending value with
  | nil =>
    obtain ⟨joined, parsed, _⟩ := parseLine_continued leads pends sections current line blank
    exact ⟨joined, by rw [continuedLines, List.foldl_cons, List.foldl_nil, parsed]⟩
  | cons split rest ih =>
    obtain ⟨pad, piece⟩ := split
    obtain ⟨joined, parsed, pends'⟩ := parseLine_continued leads pends sections current line
      (padded (pad, piece) List.mem_cons_self)
    rw [continuedLines, List.foldl_cons, parsed]
    exact ih (fun split member => padded split (List.mem_cons_of_mem _ member)) pends'

end

section

variable (sections : Sections) (current : Option Text) (written : Assignment)

theorem Assignment.leads : Leads (stripLeft written.key) := by
  obtain ⟨before, shape, _, solid⟩ := stripLeft_cases written.key
  refine ⟨fun member => written.keyed ?_, solid⟩
  rw [shape]
  exact List.mem_append_right _ member

theorem Assignment.parse_first {pad : Text} (blank : Blank pad) : ∃ pending,
    parseLine ⟨sections, current, none⟩
      ((written.key ++ equals :: written.first) ++ backslash :: pad) =
      ⟨sections, current, some pending⟩ ∧ Pends pending (stripLeft written.key)
        (strip written.first) := by
  obtain ⟨before, shape, blank', solid⟩ := stripLeft_cases written.key
  have stripped : strip ((written.key ++ equals :: written.first) ++ backslash :: pad) =
      stripLeft written.key ++ equals :: (written.first ++ [backslash]) := by
    rw [strip_continued _ blank]
    conv_lhs => rw [shape]
    rw [List.append_assoc before, stripLeft_append blank' (written.leads.head _)]
    simp
  have pends := @Pends.start (stripLeft written.key) written.leads [] written.first blank_nil
  rw [List.nil_append] at pends
  refine ⟨_, ?_, pends⟩
  rw [parseLine_keyed sections current written.plain stripped, stripped]
  have last : (stripLeft written.key ++ equals :: (written.first ++ [backslash])).getLast? =
      some backslash := by
    rw [List.getLast?_append_of_ne_nil _ (by simp), List.getLast?_cons,
      List.getLast?_append_of_ne_nil _ (by simp)]
    rfl
  have front : (stripLeft written.key ++ equals :: (written.first ++ [backslash])).dropLast =
      stripLeft written.key ++ equals :: written.first := by
    rw [← List.cons_append, ← List.append_assoc, List.dropLast_concat]
  rw [if_pos last, front]

theorem Assignment.parse_lines (ended : written.Ended) :
    (written.lines none).foldl parseLine ⟨sections, current, none⟩ =
      placeAt sections current (strip written.key, written.read) := by
  rw [Assignment.lines, ← strip_stripLeft written.key]
  cases splits : written.splits with
  | nil =>
    obtain ⟨before, shape, blank, solid⟩ := stripLeft_cases written.key
    have pends := @Pends.start (stripLeft written.key) written.leads before written.first blank
    rw [← List.append_assoc, ← shape] at pends
    obtain ⟨gap, spelt, _, none⟩ := pends.shape
    have last : (strip (written.key ++ equals :: written.first)).getLast? ≠ some backslash := by
      rw [spelt]
      by_cases empty : strip written.first = []
      · rw [empty, none empty]
        simp [equals, backslash]
        decide
      · rw [List.getLast?_append_of_ne_nil _ empty]
        exact ended written.first (by simp [Assignment.pieces, splits])
    rw [continuedLines, List.foldl_cons, List.foldl_nil,
      parseLine_keyed sections current written.plain (by rw [spelt, List.append_assoc]; rfl),
      if_neg last, pends.record written.leads]
    simp only [Assignment.read, splits]
    rfl
  | cons split rest =>
    obtain ⟨pad, piece⟩ := split
    have padded := written.padded
    rw [splits] at padded
    obtain ⟨pending, parsed, pends⟩ :=
      written.parse_first sections current (padded (pad, piece) List.mem_cons_self)
    rw [continuedLines, List.foldl_cons, parsed,
      parse_continuation written.leads sections current (fun split member =>
        padded split (List.mem_cons_of_mem _ member))
        (by simpa [Assignment.Ended, Assignment.pieces, splits, List.getLast?_cons_cons] using ended) pends]
    simp only [Assignment.read, splits]

theorem Assignment.parse_unfinished {last : Text} (blank : Blank last) : ∃ pending,
    (written.lines (some last)).foldl parseLine ⟨sections, current, none⟩ =
      ⟨sections, current, some pending⟩ := by
  rw [Assignment.lines]
  cases splits : written.splits with
  | nil =>
    obtain ⟨pending, parsed, _⟩ := written.parse_first sections current blank
    exact ⟨pending, by rw [continuedLines, List.foldl_cons, List.foldl_nil, parsed]⟩
  | cons split rest =>
    obtain ⟨pad, piece⟩ := split
    have padded := written.padded
    rw [splits] at padded
    obtain ⟨pending, parsed, pends⟩ :=
      written.parse_first sections current (padded (pad, piece) List.mem_cons_self)
    rw [continuedLines, List.foldl_cons, parsed]
    exact Units.parse_unfinished written.leads sections current
      (fun split member => padded split (List.mem_cons_of_mem _ member)) blank pends

end

end SysadminAssistant.Units
