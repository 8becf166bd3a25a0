import SysadminAssistant.Monitor.TrendTitles

namespace SysadminAssistant.Monitor

open Python

/-! A log alert's title as the identity of its fault: it fits its column, and it tells two
signatures apart whether it shows them whole or cut. -/

/-- `sysadmin.alerts.title` is `String(255)`. -/
def titleColumn : Nat := 255

/-- The library's cut: a prefix, and where it cut, a mark after it. -/
def TitleTools.Cuts (tools : TitleTools) : Prop :=
  ∀ value limit, ∃ kept, kept <+: value ∧ kept.length ≤ limit ∧
    tools.truncateAtWord value limit ∈
      [kept, kept ++ tools.truncationMarker, kept ++ text " " ++ tools.truncationMarker]

/-- Eight hex digits, one of them a decimal one. -/
structure TitleTools.Digests (tools : TitleTools) (body : Text) : Prop where
  width : (tools.signatureDigest body).length = 8
  numeral : ∃ c ∈ tools.signatureDigest body, 48 ≤ c.val ∧ c.val ≤ 57

section

variable {database : CharDatabase} {tools : TitleTools} {severity : LogSeverity} {source : Text}

theorem mem_collapseRuns {member : CodePoint → Bool} {replacement : Text} {inside : Bool}
    {value : Text} {c : CodePoint}
    (present : c ∈ Text.collapseRuns member replacement inside value) :
    c ∈ replacement ∨ (c ∈ value ∧ member c = false) := by
  induction value generalizing inside with
  | nil => cases present
  | cons first rest ih =>
    simp only [Text.collapseRuns] at present
    split at present
    · split at present
      · exact (ih present).imp_right fun later => ⟨List.mem_cons_of_mem _ later.1, later.2⟩
      · rcases List.mem_append.mp present with here | later
        · exact Or.inl here
        · exact (ih later).imp_right fun later => ⟨List.mem_cons_of_mem _ later.1, later.2⟩
    · rename_i other
      rcases List.mem_cons.mp present with rfl | later
      · exact Or.inr ⟨List.mem_cons_self, by simpa using other⟩
      · exact (ih later).imp_right fun later => ⟨List.mem_cons_of_mem _ later.1, later.2⟩

theorem signature_noDigit {message : Text} {c : CodePoint}
    (present : c ∈ signature database message) : database.isDigit c = false := by
  have plain : ∀ ascii ∈ text "N" ++ text " ", database.isDigit ascii = false := by
    intro ascii member
    have low : (text "N" ++ text " ").all (fun ascii => ascii.val < 0x80 &&
        !(48 ≤ ascii.val && ascii.val ≤ 57)) := by
      decide
    have bounds := List.all_eq_true.mp low ascii member
    simp only [Bool.and_eq_true, Bool.not_eq_true', decide_eq_true_eq, Bool.and_eq_false_imp] at bounds
    rw [CharDatabase.isDigit, database.digit_ascii ascii bounds.1, if_neg (by simpa using bounds.2)]
    rfl
  rcases mem_collapseRuns (Text.mem_of_mem_strip present) with blank | inner
  · exact plain c (List.mem_append_right _ blank)
  · rcases mem_collapseRuns inner.1 with letter | other
    · exact plain c (List.mem_append_left _ letter)
    · exact other.2

theorem TitleTools.Digests.not_in_signature {body : Text} (digests : tools.Digests body)
    (message : Text) {before : Text} :
    signature database message ≠ before ++ (text " [" ++ tools.signatureDigest body ++ text "]") := by
  intro equal
  obtain ⟨c, member, low, high⟩ := digests.numeral
  have present : c ∈ signature database message := by
    rw [equal]
    simp [member]
  have none := signature_noDigit present
  rw [CharDatabase.isDigit, database.digit_ascii c (by omega), if_pos ⟨low, high⟩] at none
  cases none

theorem titleBefore_length (severity : LogSeverity) (source : Text) :
    (titleBefore severity source).length ≤ 17 + source.length := by
  have name : severity.name.length ≤ 8 := by cases severity <;> decide
  simp only [titleBefore, List.length_append]
  have pieces : (text "Log ").length = 4 ∧ (text ": ").length = 2 ∧
      (text " — ").length = 3 := by decide
  omega

/-- How much of a signature fits. -/
def titleBudget (tools : TitleTools) (severity : LogSeverity) (source : Text) : Int :=
  titleMax - (titleBefore severity source).length - tools.truncationMarker.length - 1

theorem printedSignature_whole {body : Text} (fits : body.length ≤ titleBudget tools severity source) :
    printedSignature tools severity source body = body := by
  simp only [printedSignature, titleBudget] at fits ⊢
  rw [if_pos fits]

theorem printedSignature_cut {body : Text} (long : ¬ body.length ≤ titleBudget tools severity source) :
    printedSignature tools severity source body =
      tools.truncateAtWord body (max (titleBudget tools severity source -
          (text " [" ++ tools.signatureDigest body ++ text "]").length) 1).toNat ++
        (text " [" ++ tools.signatureDigest body ++ text "]") := by
  simp only [printedSignature, titleBudget] at long ⊢
  rw [if_neg long]

theorem digestSuffix_length {body : Text} (width : (tools.signatureDigest body).length = 8) :
    (text " [" ++ tools.signatureDigest body ++ text "]").length = 11 := by
  simp only [List.length_append, width]
  decide

theorem TitleTools.Cuts.length (cuts : tools.Cuts) (body : Text) (limit : Nat) :
    (tools.truncateAtWord body limit).length ≤ limit + 1 + tools.truncationMarker.length := by
  obtain ⟨kept, _, bound, marked⟩ := cuts body limit
  have blank : (text " ").length = 1 := by decide
  simp only [List.mem_cons, List.not_mem_nil, or_false] at marked
  rcases marked with same | same | same
  · rw [same]
    omega
  · rw [same, List.length_append]
    omega
  · rw [same, List.length_append, List.length_append, blank]
    omega

theorem alertTitle_length (cuts : tools.Cuts) (marker : tools.truncationMarker.length ≤ 25)
    (short : source.length ≤ 200) {message : Text}
    (width : (tools.signatureDigest (signature database message)).length = 8) :
    (alertTitle database tools severity source message).length ≤ titleColumn := by
  have before := titleBefore_length severity source
  rw [alertTitle_eq, List.length_append, titleColumn]
  by_cases fits : (signature database message).length ≤ titleBudget tools severity source
  · rw [printedSignature_whole fits]
    rw [titleBudget, titleMax] at fits
    omega
  · have cut := cuts.length (signature database message) (max (titleBudget tools severity source -
      (text " [" ++ tools.signatureDigest (signature database message) ++ text "]").length) 1).toNat
    rw [printedSignature_cut fits, List.length_append, digestSuffix_length width]
    rw [digestSuffix_length width, titleBudget, titleMax] at cut
    rw [titleBudget, titleMax]
    omega

theorem printedSignature_injective {first second : Text}
    (digests : tools.Digests (signature database first))
    (digests' : tools.Digests (signature database second))
    (collisionFree : tools.signatureDigest (signature database first) =
      tools.signatureDigest (signature database second) →
        signature database first = signature database second)
    (same : printedSignature tools severity source (signature database first) =
      printedSignature tools severity source (signature database second)) :
    signature database first = signature database second := by
  by_cases fits : (signature database first).length ≤ titleBudget tools severity source
  · rw [printedSignature_whole fits] at same
    by_cases fits' : (signature database second).length ≤ titleBudget tools severity source
    · rwa [printedSignature_whole fits'] at same
    · rw [printedSignature_cut fits'] at same
      exact absurd same (digests'.not_in_signature first)
  · rw [printedSignature_cut fits] at same
    by_cases fits' : (signature database second).length ≤ titleBudget tools severity source
    · rw [printedSignature_whole fits'] at same
      exact absurd same.symm (digests.not_in_signature second)
    · rw [printedSignature_cut fits'] at same
      have suffixes :=
        List.append_inj_right' same ((digestSuffix_length digests.width).trans
          (digestSuffix_length digests'.width).symm)
      have inner := List.append_inj_left' suffixes rfl
      exact collisionFree (List.append_inj_right inner rfl)

/-- The title fits its column, and two messages share one exactly if they share their signature. -/
theorem alertTitle_identity (database : CharDatabase) (tools : TitleTools) (severity : LogSeverity)
    (source first second : Text) (short : source.length ≤ 200) (cuts : tools.Cuts)
    (marker : tools.truncationMarker.length ≤ 25) (digests : tools.Digests (signature database first))
    (digests' : tools.Digests (signature database second))
    (collisionFree : tools.signatureDigest (signature database first) =
      tools.signatureDigest (signature database second) →
        signature database first = signature database second) :
    (alertTitle database tools severity source first).length ≤ titleColumn ∧
      (alertTitle database tools severity source first = alertTitle database tools severity
        source second ↔ signature database first = signature database second) := by
  refine ⟨alertTitle_length cuts marker short digests.width, ?_⟩
  rw [alertTitle_eq, alertTitle_eq, List.append_cancel_left_eq]
  constructor
  · exact printedSignature_injective digests digests' collisionFree
  · intro same
    rw [same]

end

/-! Two faults that agree as far as a title goes. -/

def longLine (last : String) : Text := List.replicate 250 (codePoint 'a') ++ text last

def cutTools : TitleTools where
  truncateAtWord value limit :=
    if value.length ≤ limit then value else value.take limit ++ text " " ++ text "… [truncated]"
  truncationMarker := text "… [truncated]"
  signatureDigest body := if body = longLine "x" then text "95abd517" else text "a61e76ec"

theorem cutTools_cuts : cutTools.Cuts := by
  intro value limit
  simp only [cutTools]
  split
  · rename_i whole
    exact ⟨value, List.prefix_refl value, whole, by simp⟩
  · exact ⟨value.take limit, List.take_prefix limit value, List.length_take_le limit value, by simp⟩

theorem alertTitle_identity_cut :
    (alertTitle .ascii cutTools .error (text "kernel") (longLine "x")).length ≤ titleColumn ∧
      (alertTitle .ascii cutTools .error (text "kernel") (longLine "x") =
          alertTitle .ascii cutTools .error (text "kernel") (longLine "y") ↔
        signature .ascii (longLine "x") = signature .ascii (longLine "y")) :=
  alertTitle_identity .ascii cutTools .error (text "kernel") (longLine "x") (longLine "y")
    (by decide) cutTools_cuts
    (by decide +kernel) ⟨by decide +kernel, codePoint '9', by decide +kernel, by decide, by decide⟩
    ⟨by decide +kernel, codePoint '6', by decide +kernel, by decide, by decide⟩ (by decide +kernel)

end SysadminAssistant.Monitor
