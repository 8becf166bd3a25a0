import Mathlib.Data.List.Chain
import SysadminAssistant.Python.Text

namespace SysadminAssistant.Python.Text

/-! The lines of a text, and the blanks around one. -/

def isLineBreak (c : CodePoint) : Bool :=
  c.val ∈ [0x0A, 0x0B, 0x0C, 0x0D, 0x1C, 0x1D, 0x1E, 0x85, 0x2028, 0x2029]

/-- `str.splitlines()`, from after a carriage return or not: the two halves of `\r\n` are one break. -/
def splitLinesFrom : (afterReturn : Bool) → Text → List Text
  | _, [] => []
  | afterReturn, c :: rest =>
    if afterReturn && c.val == 0x0A then splitLinesFrom false rest
    else if isLineBreak c then [] :: splitLinesFrom (c.val == 0x0D) rest
    else match splitLinesFrom false rest with
      | [] => [[c]]
      | line :: lines => (c :: line) :: lines

def splitLines (value : Text) : List Text := splitLinesFrom false value

def Blank (value : Text) : Prop := ∀ c ∈ value, CodePoint.isSpace c = true

/-- No blank at either end. -/
structure Trim (value : Text) : Prop where
  head : ∀ c ∈ value.head?, CodePoint.isSpace c = false
  last : ∀ c ∈ value.getLast?, CodePoint.isSpace c = false

theorem Blank.append {left right : Text} (blank : Blank left) (blank' : Blank right) :
    Blank (left ++ right) := by
  intro c member
  rcases List.mem_append.mp member with inLeft | inRight
  · exact blank c inLeft
  · exact blank' c inRight

theorem stripLeft_cases (value : Text) : ∃ before, value = before ++ stripLeft value ∧ Blank before ∧
    ∀ c ∈ (stripLeft value).head?, CodePoint.isSpace c = false := by
  refine ⟨value.takeWhile CodePoint.isSpace, List.takeWhile_append_dropWhile.symm, ?_, ?_⟩
  · exact fun c member => List.all_eq_true.mp List.all_takeWhile c member
  · intro c first
    have stops := List.head?_dropWhile_not CodePoint.isSpace value
    rw [stripLeft, Option.mem_def] at first
    rw [first] at stops
    simpa using stops

theorem stripLeft_append {before core : Text} (blank : Blank before)
    (solid : ∀ c ∈ core.head?, CodePoint.isSpace c = false) : stripLeft (before ++ core) = core := by
  rw [stripLeft, List.dropWhile_append_of_pos blank]
  cases core with
  | nil => rfl
  | cons c rest => exact List.dropWhile_cons_of_neg (by simp [solid c rfl])

theorem strip_eq_of_trim {before core after : Text} (blank : Blank before) (trim : Trim core)
    (blank' : Blank after) : strip (before ++ core ++ after) = core := by
  have right : stripLeft (core ++ after).reverse = core.reverse := by
    rw [List.reverse_append]
    refine stripLeft_append (fun c member => blank' c (List.mem_reverse.mp member)) ?_
    rw [List.head?_reverse]
    exact trim.last
  cases core with
  | nil =>
    have whole : stripLeft (before ++ [] ++ after) = [] := by
      rw [List.append_nil]
      have none : stripLeft (before ++ after ++ []) = [] :=
        stripLeft_append (blank.append blank') (by simp)
      rwa [List.append_nil] at none
    rw [strip, whole]
    rfl
  | cons c rest =>
    rw [strip, List.append_assoc, stripLeft_append blank (by simpa using trim.head), right,
      List.reverse_reverse]

theorem strip_cases (value : Text) :
    ∃ before after, value = before ++ strip value ++ after ∧ Blank before ∧
    Blank after ∧ Trim (strip value) := by
  obtain ⟨before, front, blank, head⟩ := stripLeft_cases value
  obtain ⟨after, back, blank', last⟩ := stripLeft_cases (stripLeft value).reverse
  have shape : stripLeft value = strip value ++ after.reverse := by
    rw [strip, ← List.reverse_append, ← back, List.reverse_reverse]
  refine ⟨before, after.reverse, ?_, blank, fun c member =>
    blank' c (List.mem_reverse.mp member), ?_, ?_⟩
  · rw [List.append_assoc, ← shape]
    exact front
  · intro c first
    refine head c ?_
    rw [shape, List.head?_append, Option.mem_def.mp first]
    rfl
  · intro c final
    refine last c ?_
    rw [strip, List.getLast?_reverse] at final
    exact final

theorem trim_strip (value : Text) : Trim (strip value) := by
  obtain ⟨_, _, _, _, _, trim⟩ := strip_cases value
  exact trim

theorem blank_nil : Blank [] := by simp [Blank]

theorem strip_length_le (value : Text) : (strip value).length ≤ value.length := by
  obtain ⟨before, after, shape, _⟩ := strip_cases value
  have whole := congrArg List.length shape
  simp only [List.length_append] at whole
  omega

/-! Texts that differ in how their runs of one class are spelled, and what collapsing those runs
makes of them. -/

/-- The same text, but for runs of the class respelled as other runs of it. -/
inductive SameButRuns (member : CodePoint → Bool) : Text → Text → Prop
  | nil : SameButRuns member [] []
  | kept (c : CodePoint) {rest rest' : Text} : SameButRuns member rest rest' →
      SameButRuns member (c :: rest) (c :: rest')
  | respelled {run run' rest rest' : Text} : run ≠ [] → run' ≠ [] → (∀ c ∈ run, member c = true) →
      (∀ c ∈ run', member c = true) → SameButRuns member rest rest' →
        SameButRuns member (run ++ rest) (run' ++ rest')

/-- No two of the class side by side. -/
def Spaced (member : CodePoint → Bool) (value : Text) : Prop :=
  value.IsChain fun first second => ¬(member first = true ∧ member second = true)

section

variable {member other : CodePoint → Bool} {replacement : Text} {inside : Bool}

namespace SameButRuns

theorem refl (value : Text) : SameButRuns member value value := by
  induction value with
  | nil => exact nil
  | cons c rest ih => exact kept c ih

theorem append {left left' right right' : Text} (first : SameButRuns member left left')
    (second : SameButRuns member right right') :
    SameButRuns member (left ++ right) (left' ++ right') := by
  induction first with
  | nil => exact second
  | kept c _ ih => exact kept c ih
  | respelled some some' inRun inRun' _ ih =>
    rw [List.append_assoc, List.append_assoc]
    exact respelled some some' inRun inRun' ih

theorem run {run run' : Text} (some : run ≠ []) (some' : run' ≠ [])
    (inRun : ∀ c ∈ run, member c = true) (inRun' : ∀ c ∈ run', member c = true) :
    SameButRuns member run run' := by
  have whole := respelled some some' inRun inRun' nil
  rwa [List.append_nil, List.append_nil] at whole

end SameButRuns

theorem collapseRuns_run {run : Text} (some : run ≠ []) (inRun : ∀ c ∈ run, member c = true)
    (rest : Text) : collapseRuns member replacement inside (run ++ rest) =
      (if inside then [] else replacement) ++ collapseRuns member replacement true rest := by
  induction run generalizing inside with
  | nil => exact absurd rfl some
  | cons c run ih =>
    have later : collapseRuns member replacement true (run ++ rest) =
        collapseRuns member replacement true rest := by
      cases run with
      | nil => rfl
      | cons d run =>
        simpa using @ih true (by simp) (fun c inside => inRun c (List.mem_cons_of_mem _ inside))
    rw [List.cons_append, collapseRuns, if_pos (inRun c List.mem_cons_self), later]
    cases inside <;> rfl

theorem collapseRuns_outside {run : Text} (some : run ≠ []) (outside : ∀ c ∈ run, member c = false)
    (rest : Text) :
    collapseRuns member replacement inside
      (run ++ rest) = run ++ collapseRuns member replacement false rest := by
  induction run generalizing inside with
  | nil => exact absurd rfl some
  | cons c run ih =>
    rw [List.cons_append, collapseRuns, if_neg (by simp [outside c List.mem_cons_self])]
    cases run with
    | nil => rfl
    | cons d run =>
      rw [ih (by simp) fun c inside => outside c (List.mem_cons_of_mem _ inside)]
      rfl

theorem SameButRuns.collapseRuns_eq {value value' : Text} (same : SameButRuns member value value') :
    collapseRuns member replacement inside value = collapseRuns member replacement inside value' := by
  induction same generalizing inside with
  | nil => rfl
  | kept c _ ih => rw [collapseRuns, collapseRuns, ih, ih]
  | respelled some some' inRun inRun' _ ih =>
    rw [collapseRuns_run some inRun, collapseRuns_run some' inRun', ih]

theorem SameButRuns.collapseRuns_other (apart : ∀ c, member c = true → other c = false)
    {value value' : Text} (same : SameButRuns member value value') :
    SameButRuns member (collapseRuns other replacement inside value)
      (collapseRuns other replacement inside value') := by
  induction same generalizing inside with
  | nil => exact SameButRuns.nil
  | kept c _ ih =>
    rw [collapseRuns, collapseRuns]
    by_cases inOther : other c = true
    · rw [if_pos inOther, if_pos inOther]
      cases inside with
      | true => exact ih
      | false => exact (SameButRuns.refl replacement).append ih
    · rw [if_neg inOther, if_neg inOther]
      exact SameButRuns.kept c ih
  | respelled some some' inRun inRun' _ ih =>
    rw [collapseRuns_outside some fun c present => apart c (inRun c present),
      collapseRuns_outside some' fun c present => apart c (inRun' c present)]
    exact SameButRuns.respelled some some' inRun inRun' ih

theorem collapseRuns_of_none {value : Text} (none : ∀ c ∈ value, member c = false) :
    collapseRuns member replacement inside value = value := by
  cases value with
  | nil => rfl
  | cons c rest =>
    have whole : collapseRuns member replacement inside (c :: rest ++ []) = _ :=
      collapseRuns_outside (by simp) none []
    rwa [List.append_nil, collapseRuns, List.append_nil] at whole

theorem collapseRuns_of_spaced {mark : CodePoint} {value : Text} (spaced : Spaced member value)
    (marked : ∀ c ∈ value, member c = true → c = mark)
    (start : inside = true → ∀ c ∈ value.head?, member c = false) :
    collapseRuns member [mark] inside value = value := by
  induction value generalizing inside with
  | nil => rfl
  | cons c rest ih =>
    have later : collapseRuns member [mark] (member c) rest = rest := by
      refine ih (List.isChain_cons.mp spaced).2 (fun c present =>
        marked c (List.mem_cons_of_mem _ present)) ?_
      intro inClass d first
      simpa [inClass] using (List.isChain_cons.mp spaced).1 d first
    rw [collapseRuns]
    by_cases inClass : member c = true
    · have outer : inside = false := by
        by_contra inRun
        have solid := start (by simpa using inRun) c rfl
        rw [inClass] at solid
        cases solid
      rw [if_pos inClass, outer, if_neg (by simp), ← marked c List.mem_cons_self inClass]
      rw [inClass, ← marked c List.mem_cons_self inClass] at later
      rw [later]
      rfl
    · have solid : member c = false := by simpa using inClass
      rw [solid] at later
      rw [if_neg inClass, later]

theorem spaced_collapseRuns {mark : CodePoint} (value : Text) :
    Spaced member (collapseRuns member [mark] inside value) ∧
      (inside = true → ∀ c ∈ (collapseRuns member [mark] inside value).head?, member c = false) := by
  induction value generalizing inside with
  | nil => exact ⟨List.isChain_nil, fun _ _ first => by cases first⟩
  | cons c rest ih =>
    rw [collapseRuns]
    by_cases inClass : member c = true
    · rw [if_pos inClass]
      obtain ⟨spaced, start⟩ := @ih true
      cases inside with
      | true => exact ⟨spaced, start⟩
      | false =>
        refine ⟨List.isChain_cons.mpr ⟨fun d first => ?_, spaced⟩, fun inRun => by cases inRun⟩
        simp [start rfl d first]
    · rw [if_neg inClass]
      refine ⟨List.isChain_cons.mpr ⟨fun d _ both => inClass both.1, ih.1⟩, fun _ d first => ?_⟩
      cases first
      simpa using inClass

end

end SysadminAssistant.Python.Text
