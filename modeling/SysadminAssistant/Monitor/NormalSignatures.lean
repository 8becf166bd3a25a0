import SysadminAssistant.Monitor.TitleIdentity
import SysadminAssistant.Python.Runs

namespace SysadminAssistant.Monitor

open Python

/-! Signatures as normal forms: taking one again changes nothing, and neither does respelling the
blanks of a message or the digit runs outside its `0x` literals. -/

/-- A message as its words, its runs of white space and what is neither. -/
inductive MessageToken where
  | word (value : Text)
  | blanks (run : Text)
  | mark (c : CodePoint)
deriving DecidableEq, Repr

/-- The words and the runs are as long as they go. -/
def messageTokens (database : CharDatabase) : Text → List MessageToken
  | [] => []
  | c :: rest =>
    if database.isWord c then
      match messageTokens database rest with
      | .word value :: tokens => .word (c :: value) :: tokens
      | tokens => .word [c] :: tokens
    else if c.isSpace then
      match messageTokens database rest with
      | .blanks run :: tokens => .blanks (c :: run) :: tokens
      | tokens => .blanks [c] :: tokens
    else .mark c :: messageTokens database rest

/-- A word `0x…` of hex digits: what `\b0x[0-9a-fA-F]+\b` matches. -/
def isHexLiteral : Text → Bool
  | zero :: x :: digits => zero.val == 48 && x.val == 120 && !digits.isEmpty && digits.all isHexDigit
  | _ => false

/-- Blanks for blanks, and a word with its digit runs respelled, if it is no `0x` literal and
becomes none. -/
inductive RespelledToken (database : CharDatabase) : MessageToken → MessageToken → Prop
  | same (token : MessageToken) : RespelledToken database token token
  | blanks (run run' : Text) : RespelledToken database (.blanks run) (.blanks run')
  | word {value value' : Text} : Text.SameButRuns database.isDigit value value' →
      isHexLiteral value = false →
      isHexLiteral value' = false → RespelledToken database (.word value) (.word value')

/-- The second message is the first with blanks and digit runs respelled. -/
def Respelled (database : CharDatabase) (message message' : Text) : Prop :=
  List.Forall₂ (RespelledToken database) (messageTokens database message)
    (messageTokens database message')

/-- What the hex pass makes of a token. -/
def MessageToken.hexed : MessageToken → Text
  | .word value => if isHexLiteral value then text "0xN" else value
  | .blanks run => run
  | .mark c => [c]

section

variable {database : CharDatabase}

theorem isHexDigit_isWord {c : CodePoint} (hex : isHexDigit c = true) : database.isWord c = true := by
  simp only [isHexDigit, Bool.or_eq_true, Bool.and_eq_true, decide_eq_true_eq] at hex
  rw [database.isWord_ascii c (by omega)]
  simp only [Bool.or_eq_true, Bool.and_eq_true, decide_eq_true_eq, beq_iff_eq]
  omega

theorem zero_isWord {c : CodePoint} (zero : c.val = 48) : database.isWord c = true :=
  isHexDigit_isWord (by simp [isHexDigit, zero])

theorem messageTokens_word {c : CodePoint} (inWord : database.isWord c = true) (rest : Text) :
    messageTokens database (c :: rest) =
      .word (c :: rest.takeWhile database.isWord) :: messageTokens database
        (rest.dropWhile database.isWord) := by
  induction rest generalizing c with
  | nil => rw [messageTokens, if_pos inWord]; rfl
  | cons d rest ih =>
    rw [messageTokens, if_pos inWord]
    by_cases next : database.isWord d = true
    · rw [ih next, List.takeWhile_cons_of_pos next, List.dropWhile_cons_of_pos next]
    · rw [List.takeWhile_cons_of_neg next, List.dropWhile_cons_of_neg next]
      simp only [messageTokens, if_neg next]
      by_cases blank : CodePoint.isSpace d = true
      · simp only [if_pos blank]
        split <;> rename_i found <;> split at found <;> simp_all
      · simp only [if_neg blank]

theorem hexed_between {c : CodePoint} (outside : database.isWord c = false) (rest : Text) :
    (messageTokens database (c :: rest)).flatMap MessageToken.hexed =
      c :: (messageTokens database rest).flatMap MessageToken.hexed := by
  rw [messageTokens, if_neg (by simp [outside])]
  by_cases blank : CodePoint.isSpace c = true
  · rw [if_pos blank]
    split
    · rename_i run tokens next
      simp [next, MessageToken.hexed]
    · simp [MessageToken.hexed]
  · rw [if_neg blank]
    simp [MessageToken.hexed]

theorem blanks_of_messageTokens {message run : Text}
    (found : .blanks run ∈ messageTokens database message) : run ≠ [] ∧ Text.Blank run := by
  induction message generalizing run with
  | nil => cases found
  | cons c rest ih =>
    rw [messageTokens] at found
    by_cases inWord : database.isWord c = true
    · rw [if_pos inWord] at found
      split at found
      · rename_i value tokens next
        refine ih ?_
        rw [next]
        simpa using found
      · exact ih (by simpa using found)
    · rw [if_neg inWord] at found
      by_cases blank : CodePoint.isSpace c = true
      · rw [if_pos blank] at found
        split at found
        · rename_i first tokens next
          rcases List.mem_cons.mp found with here | later
          · obtain ⟨_, inRun⟩ := @ih first (by simp [next])
            injection here with here
            rw [here]
            exact ⟨by simp, by simpa [Text.Blank, blank] using inRun⟩
          · exact ih (by simp [next, later])
        · rcases List.mem_cons.mp found with here | later
          · injection here with here
            rw [here]
            exact ⟨by simp, by simpa [Text.Blank] using blank⟩
          · exact ih later
      · rw [if_neg blank] at found
        exact ih (by simpa using found)

theorem takeWhile_hex (rest : Text) :
    ((rest.dropWhile isHexDigit).head?.all fun c => !database.isWord c) =
      (rest.takeWhile database.isWord).all isHexDigit ∧
      ((rest.takeWhile database.isWord).all isHexDigit = true →
        rest.takeWhile isHexDigit = rest.takeWhile database.isWord) := by
  induction rest with
  | nil => exact ⟨rfl, fun _ => rfl⟩
  | cons c rest ih =>
    by_cases hex : isHexDigit c = true
    · have inWord : database.isWord c = true := isHexDigit_isWord hex
      rw [List.dropWhile_cons_of_pos hex, List.takeWhile_cons_of_pos hex,
        List.takeWhile_cons_of_pos inWord, List.all_cons, hex, Bool.true_and]
      exact ⟨ih.1, fun all => congrArg _ (ih.2 all)⟩
    · rw [List.dropWhile_cons_of_neg hex, List.takeWhile_cons_of_neg hex]
      by_cases inWord : database.isWord c = true
      · rw [List.takeWhile_cons_of_pos inWord]
        simp [inWord, hex]
      · rw [List.takeWhile_cons_of_neg inWord]
        simp [inWord]

theorem hexLiteralLength_word {previous : Option CodePoint}
    (start : ∀ p ∈ previous, database.isWord p = false) (c : CodePoint) (rest : Text) :
    hexLiteralLength database previous (c :: rest) =
      if isHexLiteral (c :: rest.takeWhile database.isWord) then some
        ((rest.takeWhile database.isWord).length + 1)
      else none := by
  have boundary : (previous.all fun p => !database.isWord p) = true := by
    cases previous with
    | none => rfl
    | some p => simp [start p rfl]
  cases rest with
  | nil => rfl
  | cons x rest =>
    simp only [hexLiteralLength, boundary, and_true]
    by_cases opened : c.val = 48 ∧ x.val = 120
    · have inWord : database.isWord x = true := by
        rw [database.isWord_ascii x (by omega), opened.2]
        rfl
      obtain ⟨ends, same⟩ := @takeWhile_hex database rest
      rw [if_pos opened, List.takeWhile_cons_of_pos inWord, ends]
      simp only [isHexLiteral, opened.1, opened.2, beq_self_eq_true, Bool.true_and]
      by_cases all : (rest.takeWhile database.isWord).all isHexDigit = true
      · rw [same all, all]
        cases rest.takeWhile database.isWord <;> simp
      · simp [all]
    · rw [if_neg opened]
      by_cases inWord : database.isWord x = true
      · rw [List.takeWhile_cons_of_pos inWord]
        have closed : isHexLiteral (c :: x :: rest.takeWhile database.isWord) = false := by
          simp only [isHexLiteral, Bool.and_eq_false_iff, beq_eq_false_iff_ne]
          exact Or.inl (Or.inl (not_and_or.mp opened))
        rw [closed]
        rfl
      · rw [List.takeWhile_cons_of_neg inWord]
        rfl

theorem hexLiteralLength_inside {p : CodePoint} (inWord : database.isWord p = true)
    (message : Text) : hexLiteralLength database (some p) message = none := by
  match message with
  | [] => rfl
  | [_] => rfl
  | _ :: _ :: _ => simp [hexLiteralLength, inWord]

theorem hexLiteralLength_outside {c : CodePoint} (outside : database.isWord c = false)
    (previous : Option CodePoint) (rest : Text) :
    hexLiteralLength database previous (c :: rest) = none := by
  cases rest with
  | nil => rfl
  | cons x rest =>
    rw [hexLiteralLength, if_neg]
    rintro ⟨zero, _⟩
    rw [zero_isWord zero] at outside
    cases outside

theorem substituteHex_skip (value : Text) (previous : Option CodePoint) (rest : Text) :
    ∃ previous', substituteHex database previous value.length
      (value ++ rest) = substituteHex database previous' 0 rest := by
  induction value generalizing previous with
  | nil => exact ⟨previous, rfl⟩
  | cons c value ih =>
    rw [List.length_cons, List.cons_append, substituteHex]
    exact ih (some c)

theorem substituteHex_inside (value : Text) (inWord : ∀ c ∈ value, database.isWord c = true)
    {p : CodePoint} (start : database.isWord p = true) (rest : Text) :
    ∃ previous', substituteHex database (some p) 0
      (value ++ rest) = value ++ substituteHex database previous' 0 rest := by
  induction value generalizing p with
  | nil => exact ⟨some p, rfl⟩
  | cons c value ih =>
    obtain ⟨previous', later⟩ := ih (fun d present => inWord d (List.mem_cons_of_mem _ present))
        (inWord c List.mem_cons_self)
    refine ⟨previous', ?_⟩
    rw [List.cons_append, substituteHex, hexLiteralLength_inside start, later]
    rfl

theorem substituteHex_eq {message : Text} {previous : Option CodePoint}
    (start : (∀ p ∈ previous, database.isWord p = false) ∨ ∀ c ∈ message.head?,
      database.isWord c = false) :
    substituteHex database previous 0 message =
      (messageTokens database message).flatMap MessageToken.hexed := by
  match message with
  | [] => rfl
  | c :: rest =>
    by_cases inWord : database.isWord c = true
    · have boundary : ∀ p ∈ previous, database.isWord p = false := by
        rcases start with boundary | outside
        · exact boundary
        · rw [outside c rfl] at inWord
          cases inWord
      have ends : ∀ d ∈ (rest.dropWhile database.isWord).head?, database.isWord d = false := by
        intro d first
        have stops := List.head?_dropWhile_not database.isWord rest
        rw [Option.mem_def.mp first] at stops
        simpa using stops
      have later : ∀ previous', substituteHex database previous' 0 (rest.dropWhile database.isWord) =
          (messageTokens database (rest.dropWhile database.isWord)).flatMap MessageToken.hexed :=
        fun previous' => substituteHex_eq (Or.inr ends)
      have split : rest = rest.takeWhile database.isWord ++ rest.dropWhile database.isWord :=
        List.takeWhile_append_dropWhile.symm
      rw [messageTokens_word inWord, List.flatMap_cons, substituteHex, hexLiteralLength_word boundary]
      by_cases literal : isHexLiteral (c :: rest.takeWhile database.isWord) = true
      · obtain ⟨previous', skipped⟩ :=
          @substituteHex_skip database (rest.takeWhile database.isWord) (some c)
          (rest.dropWhile database.isWord)
        rw [← split, later] at skipped
        simp only [if_pos literal, MessageToken.hexed, Nat.add_sub_cancel, skipped]
      · obtain ⟨previous', copied⟩ := substituteHex_inside (rest.takeWhile database.isWord)
          (fun d present => List.all_eq_true.mp List.all_takeWhile d present) inWord
            (rest.dropWhile database.isWord)
        rw [← split, later] at copied
        simp only [if_neg literal, MessageToken.hexed, copied, List.cons_append]
    · have outside : database.isWord c = false := by simpa using inWord
      rw [hexed_between outside, substituteHex, hexLiteralLength_outside outside]
      simp only [List.cons.injEq, true_and]
      exact substituteHex_eq (Or.inl fun p found => by cases found; exact outside)
termination_by message.length
decreasing_by
  · exact Nat.lt_succ_of_le (List.dropWhile_suffix _).length_le
  · simp

theorem hexed_respelled {tokens tokens' : List MessageToken}
    (respelled : List.Forall₂ (RespelledToken database) tokens tokens')
    (blank : ∀ run, .blanks run ∈ tokens → run ≠ [] ∧ Text.Blank run)
    (blank' : ∀ run, .blanks run ∈ tokens' → run ≠ [] ∧ Text.Blank run) :
    ∃ between, Text.SameButRuns database.isDigit (tokens.flatMap MessageToken.hexed) between ∧
      Text.SameButRuns CodePoint.isSpace between (tokens'.flatMap MessageToken.hexed) := by
  induction respelled with
  | nil => exact ⟨[], Text.SameButRuns.nil, Text.SameButRuns.nil⟩
  | cons head _ ih =>
    obtain ⟨between, digits, blanks⟩ := ih (fun run found => blank run (List.mem_cons_of_mem _ found))
      (fun run found => blank' run (List.mem_cons_of_mem _ found))
    simp only [List.flatMap_cons]
    cases head with
    | same =>
      exact ⟨_ ++ between, (Text.SameButRuns.refl _).append digits,
        (Text.SameButRuns.refl _).append blanks⟩
    | blanks run run' =>
      obtain ⟨some, inRun⟩ := blank run List.mem_cons_self
      obtain ⟨some', inRun'⟩ := blank' run' List.mem_cons_self
      exact ⟨run ++ between, (Text.SameButRuns.refl _).append digits,
        Text.SameButRuns.respelled some some' inRun inRun' blanks⟩
    | @word value value' same plain plain' =>
      simp only [MessageToken.hexed, plain, plain', Bool.false_eq_true, if_false]
      exact ⟨value' ++ between, same.append digits, (Text.SameButRuns.refl _).append blanks⟩

theorem space_not_digit {c : CodePoint} (space : CodePoint.isSpace c = true) :
    database.isDigit c = false := by
  by_contra digit
  have inWord :=
    database.digit_isWord c (by simpa only [CharDatabase.isDigit, Bool.not_eq_false] using digit)
  rw [database.space_not_word c space] at inWord
  cases inWord

theorem signature_respelled {message message' : Text}
    (respelled : Respelled database message message') :
    signature database message = signature database message' := by
  obtain ⟨between, digits, blanks⟩ :=
    hexed_respelled respelled (fun _ => blanks_of_messageTokens) (fun _ => blanks_of_messageTokens)
  simp only [signature, substituteHex_eq (Or.inl (by simp) : (∀ p ∈ (none : Option CodePoint),
    database.isWord p = false) ∨ _)]
  rw [digits.collapseRuns_eq, (blanks.collapseRuns_other fun c => space_not_digit).collapseRuns_eq]

theorem substituteHex_noDigit {message : Text} (none : ∀ c ∈ message, database.isDigit c = false)
    (previous : Option CodePoint) : substituteHex database previous 0 message = message := by
  induction message generalizing previous with
  | nil => rfl
  | cons c rest ih =>
    have unmatched : hexLiteralLength database previous (c :: rest) = Option.none := by
      cases rest with
      | nil => rfl
      | cons x rest =>
        rw [hexLiteralLength, if_neg]
        rintro ⟨zero, _⟩
        have plain := none c List.mem_cons_self
        rw [CharDatabase.isDigit, database.digit_ascii c (by omega), if_pos (by omega)] at plain
        cases plain
    rw [substituteHex, unmatched]
    simp only [ih fun d present => none d (List.mem_cons_of_mem _ present)]

theorem signature_fixed {message : Text} (none : ∀ c ∈ message, database.isDigit c = false)
    (spaced : Text.Spaced CodePoint.isSpace message)
    (single : ∀ c ∈ message, CodePoint.isSpace c = true → c = 32) (trim : Text.Trim message) :
    signature database message = message := by
  have blank : text " " = [32] := by decide
  rw [signature, substituteHex_noDigit none, Text.collapseRuns_of_none none, blank,
    Text.collapseRuns_of_spaced spaced single (by simp)]
  simpa using Text.strip_eq_of_trim Text.blank_nil trim Text.blank_nil

theorem signature_spaced (message : Text) :
    Text.Spaced CodePoint.isSpace (signature database message) := by
  have blank : text " " = [32] := by decide
  obtain ⟨before, after, shape, _⟩ :=
    Text.strip_cases (Text.collapseRuns CodePoint.isSpace (text " ") false
      (Text.collapseRuns database.isDigit (text "N") false (substituteHex database none 0 message)))
  refine List.IsChain.infix ?_ ⟨before, after, shape.symm⟩
  rw [blank]
  exact (Text.spaced_collapseRuns _).1

theorem signature_single {message : Text} {c : CodePoint} (present : c ∈ signature database message)
    (space : CodePoint.isSpace c = true) : c = 32 := by
  rcases mem_collapseRuns (Text.mem_of_mem_strip present) with blank | inner
  · have same : text " " = [32] := by decide
    rw [same] at blank
    exact List.mem_singleton.mp blank
  · rw [space] at inner
    cases inner.2

/-- A signature is its own, has no digit in it, no two blanks together and none at its ends; and a
message is known by it however its blanks, and its digit runs outside `0x` literals, are spelled. -/
theorem signature_normal (database : CharDatabase) (message : Text) :
    signature database (signature database message) = signature database message ∧
      (∀ c ∈ signature database message, database.isDigit c = false) ∧
      Text.Spaced CodePoint.isSpace (signature database message) ∧ Text.Trim
        (signature database message) ∧
      ∀ message', Respelled database message message' →
        signature database message = signature database message' := by
  have noDigit : ∀ c ∈ signature database message, database.isDigit c = false :=
    fun c present => signature_noDigit present
  have trim : Text.Trim (signature database message) := Text.trim_strip _
  exact ⟨signature_fixed noDigit (signature_spaced message) (fun c => signature_single) trim,
    noDigit, signature_spaced message, trim, fun message' => signature_respelled⟩

end

end SysadminAssistant.Monitor
