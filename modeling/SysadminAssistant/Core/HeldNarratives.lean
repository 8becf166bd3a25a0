import SysadminAssistant.Python.Text

namespace SysadminAssistant.Core

open Python

/-! `sysadmin/core/text.py` and `sysadmin/core/word_limit.py`: the words of a narrative, and the
limit it is held to.  `strip_markdown`, `TRUNCATION_MARKER` and the model's second answer are
parameters. -/

/-- `str.split()`, with the word read so far. -/
def splitWords : Text → Text → List Text
  | word, [] => if word = [] then [] else [word]
  | word, c :: rest =>
    if c.isSpace then
      if word = [] then splitWords [] rest else word :: splitWords [] rest
    else splitWords (word ++ [c]) rest

def wordCount (value : Text) : Nat := (splitWords [] value).length

/-- `_WORD.finditer`, from a position on: where each word starts and ends.  `opened` is where the
word before the position started, if it goes on. -/
def wordSpans : Option Nat → Nat → Text → List (Nat × Nat)
  | none, _, [] => []
  | some start, position, [] => [(start, position)]
  | none, position, c :: rest =>
    if c.isSpace then wordSpans none (position + 1) rest
    else wordSpans (some position) (position + 1) rest
  | some start, position, c :: rest =>
    if c.isSpace then (start, position) :: wordSpans none (position + 1) rest
    else wordSpans (some start) (position + 1) rest

/-- `[.!?]`. -/
def isTerminal (c : CodePoint) : Bool := c = 0x2E || c = 0x21 || c = 0x3F

/-- `[m.end() for m in _SENTENCE_END.finditer(text)]`, from a position on. -/
def sentenceEnds : Nat → Text → List Nat
  | position, c :: next :: rest =>
    if isTerminal c && next.isSpace then (position + 1) :: sentenceEnds (position + 1) (next :: rest)
    else sentenceEnds (position + 1) (next :: rest)
  | _, _ => []

/-- `str.rstrip()`. -/
def stripEnd (value : Text) : Text := (Text.stripLeft value.reverse).reverse

/-- Where `trim_to_words` cuts a text that is too long. -/
def cutAt (value : Text) (limit : Nat) : Nat :=
  let words := wordSpans none 0 value
  let wordEnd := (words[limit - 1]?.map Prod.snd).getD 0
  let halfWay := (words[limit / 2]?.map Prod.fst).getD 0
  match (sentenceEnds 0 (value.take (wordEnd + 1))).getLast? with
  | some boundary => if halfWay ≤ boundary then boundary else wordEnd
  | none => wordEnd

def trimToWords (marker : Text) (value : Text) (limit : Nat) : Text :=
  if (wordSpans none 0 value).length ≤ limit then value
  else stripEnd (value.take (cutAt value limit)) ++ text " " ++ marker

def narrativeWordLimit : Nat := 150

def buildCondensePrompt (instructions prose : Text) : Text :=
  instructions ++ text "\n\nReview:\n" ++ prose

/-- What the second pass is asked. -/
structure SecondPass where
  prompt : Text
  system : Text
  gpuLeaseHeld : Bool
  followsOwnInference : Bool

/-- What is not in the repository: the library's two, and the model behind the client. -/
structure NarrativeTools where
  stripMarkdown : Text → Text
  marker : Text
  generate : SecondPass → Option Text

section

variable (tools : NarrativeTools) (instructions system : Text) (gpuLeaseHeld : Bool) (prose : Text)

/-- The second answer without its markdown, or the empty text. -/
def condensed : Text :=
  match tools.generate ⟨buildCondensePrompt instructions prose, system, gpuLeaseHeld, true⟩ with
  | some (c :: rest) => Text.strip (tools.stripMarkdown (c :: rest))
  | _ => []

def holdToWordLimit : Text :=
  if wordCount prose ≤ narrativeWordLimit then prose
  else
    let second := condensed tools instructions system gpuLeaseHeld prose
    if second ≠ [] ∧ wordCount second ≤ narrativeWordLimit then second
    else trimToWords tools.marker (if second ≠ [] then second else prose) narrativeWordLimit

end

/-! What a narrative is cut to, word by word. -/

section

variable (value : Text) (position : Nat)

def SpaceAt : Prop := ∃ c, value[position]? = some c ∧ c.isSpace = true

def InWord : Prop := ∃ c, value[position]? = some c ∧ c.isSpace = false

/-- A word starts here. -/
def WordStart : Prop := InWord value position ∧ (position = 0 ∨ SpaceAt value (position - 1))

/-- The text up to here ends with a word. -/
def WordEnd : Prop :=
  0 < position ∧ InWord value (position - 1) ∧ (position = value.length ∨ SpaceAt value position)

/-- The text up to here ends with a sentence. -/
def SentenceEnd : Prop :=
  0 < position ∧ (∃ c, value[position - 1]? = some c ∧ isTerminal c = true) ∧ SpaceAt value position

/-- How many words the text up to here has. -/
def wordsTo : Nat := wordCount (value.take position)

end

/-- What a text that is too long is trimmed to. -/
structure Trimmed (marker value : Text) (limit : Nat) (result : Text) : Prop where
  kept : wordCount value ≤ limit → result = value
  cut : limit < wordCount value → ∃ position, result = value.take position ++ text " " ++ marker ∧
    WordEnd value position ∧ wordsTo value position ≤ limit ∧
    ((SentenceEnd value position ∧ limit / 2 < wordsTo value position) ∨
      (wordsTo value position = limit ∧ ∀ other, SentenceEnd value other →
        limit / 2 < wordsTo value other → limit < wordsTo value other))

section

variable {value front rest word : Text} {c : CodePoint} {position other : Nat}

/-! ## Counting words -/

/-- The text so far ends inside a word. -/
def endsInside (word front : Text) : Bool :=
  match front.getLast? with
  | none => !word.isEmpty
  | some last => !last.isSpace

theorem splitWords_snoc (word front : Text) (c : CodePoint) : (splitWords word (front ++ [c])).length =
    (splitWords word front).length + if c.isSpace || endsInside word front then 0 else 1 := by
  induction front generalizing word with
  | nil => cases space : c.isSpace <;> cases word <;> simp [splitWords, endsInside, space]
  | cons first rest ih =>
    have last : ∀ other, endsInside other rest = endsInside word (first :: rest) ∨ rest = [] := by
      intro other
      cases rest with
      | nil => exact .inr rfl
      | cons second rest => exact .inl (by simp [endsInside, List.getLast?_cons])
    rw [List.cons_append, splitWords, splitWords]
    cases space : first.isSpace with
    | true =>
      have alike : endsInside [] rest = endsInside word (first :: rest) := by
        rcases last [] with same | rfl
        · exact same
        · simp [endsInside, space]
      cases word with
      | nil => simp [ih, alike]
      | cons head tail =>
        simp only [if_true, reduceCtorEq, if_false, List.length_cons, ih, alike]
        omega
    | false =>
      have alike : endsInside (word ++ [first]) rest = endsInside word (first :: rest) := by
        rcases last (word ++ [first]) with same | rfl
        · exact same
        · simp [endsInside, space]
      simp [ih, alike]

theorem wordsTo_zero (value : Text) : wordsTo value 0 = 0 := rfl

theorem wordsTo_length (value : Text) : wordsTo value value.length = wordCount value := by
  rw [wordsTo, List.take_length]

theorem wordsTo_past (past : value.length ≤ position) : wordsTo value position = wordCount value := by
  rw [wordsTo, List.take_of_length_le past]

theorem wordsTo_succ (found : value[position]? = some c) : wordsTo value (position + 1) =
    wordsTo value position + if c.isSpace || endsInside [] (value.take position) then 0 else 1 := by
  obtain ⟨inside, rfl⟩ := List.getElem?_eq_some_iff.mp found
  rw [wordsTo, List.take_succ_eq_append_getElem inside, wordCount, splitWords_snoc]
  rfl

theorem endsInside_take (inside : position < value.length) :
    endsInside [] (value.take (position + 1)) = !(value[position]).isSpace := by
  rw [List.take_succ_eq_append_getElem inside, endsInside, List.getLast?_append]
  rfl

theorem wordsTo_space (space : SpaceAt value position) :
    wordsTo value (position + 1) = wordsTo value position := by
  obtain ⟨c, found, isSpace⟩ := space
  rw [wordsTo_succ found, isSpace]
  rfl

theorem wordsTo_start (start : WordStart value position) :
    wordsTo value (position + 1) = wordsTo value position + 1 := by
  obtain ⟨⟨c, found, isWord⟩, before⟩ := start
  have outside : endsInside [] (value.take position) = false := by
    rcases before with rfl | ⟨last, there, isSpace⟩
    · rfl
    · cases position with
      | zero => rfl
      | succ earlier =>
        rw [Nat.add_sub_cancel] at there
        obtain ⟨inside, rfl⟩ := List.getElem?_eq_some_iff.mp there
        rw [endsInside_take inside]
        simpa using isSpace
  rw [wordsTo_succ found, isWord, outside]
  rfl

theorem wordsTo_inside (here : InWord value (position + 1)) (before : InWord value position) :
    wordsTo value (position + 2) = wordsTo value (position + 1) := by
  obtain ⟨c, found, isWord⟩ := here
  obtain ⟨last, there, alsoWord⟩ := before
  obtain ⟨inside, rfl⟩ := List.getElem?_eq_some_iff.mp there
  have ends : endsInside [] (value.take (position + 1)) = true := by
    rw [endsInside_take inside]
    simpa using alsoWord
  rw [wordsTo_succ found, ends]
  simp

theorem wordsTo_mono (value : Text) : Monotone (wordsTo value) := by
  refine monotone_nat_of_le_succ fun position => ?_
  cases found : value[position]? with
  | none =>
    have past := List.getElem?_eq_none_iff.mp found
    rw [wordsTo_past past, wordsTo_past (past.trans (Nat.le_succ _))]
  | some c =>
    rw [wordsTo_succ found]
    exact Nat.le_add_right _ _

theorem wordsTo_gap (before : position < other) (space : SpaceAt value position)
    (later : InWord value other) : wordsTo value position < wordsTo value (other + 1) := by
  induction other with
  | zero => omega
  | succ other ih =>
    have inside : other + 1 < value.length := by
      obtain ⟨c, found, _⟩ := later
      exact (List.getElem?_eq_some_iff.mp found).1
    have present : value[other]? = some (value[other]) := List.getElem?_eq_getElem (by omega)
    cases kind : (value[other]).isSpace with
    | true =>
      have more : wordsTo value (other + 1 + 1) = wordsTo value (other + 1) + 1 :=
        wordsTo_start ⟨later, .inr ⟨_, present, kind⟩⟩
      have less := wordsTo_mono value (show position ≤ other + 1 by omega)
      omega
    | false =>
      have apart : position ≠ other := by
        rintro rfl
        obtain ⟨c, found, isSpace⟩ := space
        rw [present, Option.some.injEq] at found
        rw [← found, kind] at isSpace
        cases isSpace
      have less := ih (by omega) ⟨_, present, kind⟩
      have more := wordsTo_mono value (Nat.le_succ (other + 1))
      exact less.trans_le more

/-! ## Where the words are -/

/-- The word with so many words before it. -/
structure WordAt (value : Text) (number : Nat) (span : Nat × Nat) : Prop where
  start : WordStart value span.1
  stop : WordEnd value span.2
  count : wordsTo value span.1 = number
  counted : wordsTo value span.2 = number + 1

/-- What a scan knows of the word it is in, or that it is in none. -/
def Scanned (value : Text) (position : Nat) : Option Nat → Prop
  | none => position = 0 ∨ SpaceAt value (position - 1)
  | some start => 0 < position ∧ InWord value (position - 1) ∧ WordStart value start ∧
      wordsTo value start + 1 = wordsTo value position

/-- The spans from a position on are the words from there on. -/
def SpansOf (value : Text) (position : Nat) (opened : Option Nat) (spans : List (Nat × Nat)) : Prop :=
  (∀ index span, spans[index]? = some span →
      ∃ number, WordAt value number span ∧
        number + opened.toList.length = wordsTo value position + index) ∧
    spans.length + wordsTo value position = wordCount value + opened.toList.length

theorem wordAt_opened {start : Nat} (scanned : Scanned value position (some start))
    (stop : position = value.length ∨ SpaceAt value position) :
    ∃ number, WordAt value number (start, position) ∧ number + 1 = wordsTo value position := by
  obtain ⟨inside, word, begun, count⟩ := scanned
  exact ⟨wordsTo value start, ⟨begun, ⟨inside, word, stop⟩, rfl, count.symm⟩, count⟩

theorem drop_cons (split : value.drop position = c :: rest) :
    value[position]? = some c ∧ value.drop (position + 1) = rest := by
  constructor
  · rw [← List.head?_drop, split]
    rfl
  · rw [← List.tail_drop, split]
    rfl

theorem wordSpans_spec {opened : Option Nat} (split : value.drop position = rest)
    (scanned : Scanned value position opened) :
    SpansOf value position opened (wordSpans opened position rest) := by
  induction rest generalizing position opened with
  | nil =>
    have past := List.drop_eq_nil_iff.mp split
    cases opened with
    | none =>
      refine ⟨fun index span found => by simp [wordSpans] at found, ?_⟩
      simp [wordSpans, wordsTo_past past]
    | some start =>
      have stop : position = value.length := by
        obtain ⟨inside, ⟨_, found, _⟩, _⟩ := scanned
        have before := (List.getElem?_eq_some_iff.mp found).1
        omega
      obtain ⟨number, word, count⟩ := wordAt_opened scanned (.inl stop)
      refine ⟨fun index span found => ?_, ?_⟩
      · obtain ⟨rfl, rfl⟩ : index = 0 ∧ span = (start, position) := by
          simpa [wordSpans, List.getElem?_singleton, eq_comm] using found
        exact ⟨number, word, count⟩
      · simp [wordSpans, wordsTo_past past, Nat.add_comm]
  | cons c rest ih =>
    obtain ⟨found, next⟩ := drop_cons split
    cases kind : c.isSpace with
    | true =>
      have space : SpaceAt value position := ⟨c, found, kind⟩
      obtain ⟨words, length⟩ := @ih (position + 1) none next (.inr space)
      rw [wordsTo_space space] at words length
      cases opened with
      | none =>
        rw [wordSpans, if_pos kind]
        exact ⟨words, length⟩
      | some start =>
        rw [wordSpans, if_pos kind]
        obtain ⟨number, word, count⟩ := wordAt_opened scanned (.inr space)
        refine ⟨fun index span here => ?_, ?_⟩
        · cases index with
          | zero =>
            cases here
            exact ⟨number, word, count⟩
          | succ index =>
            obtain ⟨number, word, count⟩ := words index span here
            refine ⟨number, word, ?_⟩
            simp only [Option.toList_none, Option.toList_some, List.length_nil,
              List.length_singleton] at count ⊢
            omega
        · simp only [List.length_cons, Option.toList_none, Option.toList_some,
            List.length_nil] at length ⊢
          omega
    | false =>
      have word : InWord value position := ⟨c, found, kind⟩
      cases opened with
      | none =>
        rw [wordSpans, if_neg (by simp [kind])]
        have start : WordStart value position := ⟨word, scanned⟩
        have count := wordsTo_start start
        obtain ⟨words, length⟩ := @ih (position + 1) (some position) next
          ⟨Nat.succ_pos _, word, start, count.symm⟩
        rw [count] at words length
        refine ⟨fun index span here => ?_, ?_⟩
        · obtain ⟨number, word, same⟩ := words index span here
          refine ⟨number, word, ?_⟩
          simp only [Option.toList_none, Option.toList_some, List.length_nil,
            List.length_singleton] at same ⊢
          omega
        · simp only [Option.toList_none, Option.toList_some, List.length_nil,
            List.length_singleton] at length ⊢
          omega
      | some start =>
        rw [wordSpans, if_neg (by simp [kind])]
        obtain ⟨inside, before, begun, count⟩ := scanned
        obtain ⟨earlier, rfl⟩ := Nat.exists_eq_succ_of_ne_zero (Nat.pos_iff_ne_zero.mp inside)
        have same : wordsTo value (earlier + 1 + 1) = wordsTo value (earlier + 1) :=
          wordsTo_inside word before
        obtain ⟨words, length⟩ := @ih (earlier + 1 + 1) (some start) next
          ⟨Nat.succ_pos _, word, begun, count.trans same.symm⟩
        rw [same] at words length
        exact ⟨words, length⟩

theorem wordSpans_words (value : Text) : (wordSpans none 0 value).length = wordCount value ∧
    ∀ index span, (wordSpans none 0 value)[index]? = some span → WordAt value index span := by
  obtain ⟨words, length⟩ := @wordSpans_spec value value 0 none rfl (.inl rfl)
  rw [wordsTo_zero] at words length
  refine ⟨by simpa using length, fun index span found => ?_⟩
  obtain ⟨number, word, same⟩ := words index span found
  simp only [Option.toList_none, List.length_nil, Nat.add_zero, Nat.zero_add] at same
  exact same ▸ word

/-! ## Where the sentences end -/

theorem mem_sentenceEnds {value : Text} {start : Nat} : position ∈ sentenceEnds start value ↔
    ∃ index c next, position = start + index + 1 ∧ value[index]? = some c ∧ isTerminal c = true ∧
      value[index + 1]? = some next ∧ next.isSpace = true := by
  induction value generalizing start with
  | nil => simp [sentenceEnds]
  | cons first tail ih =>
    cases tail with
    | nil => simp [sentenceEnds]
    | cons second rest =>
      have later : position ∈ sentenceEnds (start + 1) (second :: rest) ↔
          ∃ index c next, position = start + (index + 1) + 1 ∧
            (first :: second :: rest)[index + 1]? = some c ∧
            isTerminal c = true ∧ (first :: second :: rest)[index + 1 + 1]? = some next ∧
              next.isSpace = true := by
        simp only [ih, List.getElem?_cons_succ, Nat.add_right_comm, Nat.add_assoc, Nat.add_comm 1]
      have now : (∃ c next, position = start + 0 + 1 ∧ (first :: second :: rest)[0]? = some c ∧
          isTerminal c = true ∧
          (first :: second :: rest)[0 + 1]? = some next ∧ next.isSpace = true) ↔
            position = start + 1 ∧ (isTerminal first && second.isSpace) = true := by
        simp
      rw [← Nat.or_exists_add_one, now, ← later, sentenceEnds]
      by_cases here : isTerminal first && second.isSpace
      · rw [if_pos here, List.mem_cons]
        simp only [here, and_true]
      · rw [if_neg here]
        simp only [here, and_false, false_or, Bool.false_eq_true]

theorem sentenceEnds_rising (start : Nat) (value : Text) :
    (sentenceEnds start value).Pairwise (· < ·) := by
  induction value generalizing start with
  | nil => exact List.Pairwise.nil
  | cons first tail ih =>
    cases tail with
    | nil => exact List.Pairwise.nil
    | cons second rest =>
      rw [sentenceEnds]
      split
      · refine List.pairwise_cons.mpr ⟨fun later member => ?_, ih _⟩
        obtain ⟨index, _, _, rfl, _⟩ := mem_sentenceEnds.mp member
        omega
      · exact ih _

theorem mem_sentenceEnds_take {stop : Nat} : position ∈ sentenceEnds 0 (value.take (stop + 1)) ↔
    SentenceEnd value position ∧ position ≤ stop := by
  rw [mem_sentenceEnds, SentenceEnd, SpaceAt]
  constructor
  · intro found
    obtain ⟨index, c, next, rfl, terminal, isTerminal, space, isSpace⟩ := found
    have within : index + 1 < stop + 1 := by
      by_contra past
      rw [List.getElem?_take_eq_none (not_lt.mp past)] at space
      cases space
    rw [List.getElem?_take_of_lt (by omega)] at terminal space
    rw [Nat.zero_add]
    exact ⟨⟨Nat.succ_pos _, ⟨c, terminal, isTerminal⟩, next, space, isSpace⟩, by omega⟩
  · intro ends
    obtain ⟨⟨inside, ⟨c, terminal, isTerminal⟩, next, space, isSpace⟩, before⟩ := ends
    obtain ⟨index, rfl⟩ := Nat.exists_eq_succ_of_ne_zero (Nat.pos_iff_ne_zero.mp inside)
    refine ⟨index, c, next, by omega, ?_, isTerminal, ?_, isSpace⟩
    · rw [List.getElem?_take_of_lt (by omega)]
      exact terminal
    · rw [List.getElem?_take_of_lt (by omega)]
      exact space

theorem terminal_not_space (terminal : isTerminal c = true) : c.isSpace = false := by
  simp only [isTerminal, Bool.or_eq_true, decide_eq_true_eq] at terminal
  rcases terminal with (rfl | rfl) | rfl <;> decide

theorem space_not_inWord (space : SpaceAt value position) : ¬ InWord value position := by
  intro word
  obtain ⟨c, found, isSpace⟩ := space
  obtain ⟨other, there, isWord⟩ := word
  cases found.symm.trans there
  rw [isWord] at isSpace
  cases isSpace

theorem sentenceEnd_inWord (ends : SentenceEnd value position) : InWord value (position - 1) := by
  obtain ⟨_, ⟨c, found, terminal⟩, _⟩ := ends
  exact ⟨c, found, terminal_not_space terminal⟩

theorem sentenceEnd_wordEnd (ends : SentenceEnd value position) : WordEnd value position :=
  ⟨ends.1, sentenceEnd_inWord ends, .inr ends.2.2⟩

theorem start_le_iff (start : WordStart value position) (ends : SentenceEnd value other) :
    position ≤ other ↔ wordsTo value position < wordsTo value other := by
  constructor
  · intro before
    have apart : position ≠ other := by
      rintro rfl
      exact space_not_inWord ends.2.2 start.1
    have more := wordsTo_mono value (show position + 1 ≤ other by omega)
    rw [wordsTo_start start] at more
    omega
  · intro more
    by_contra before
    have less := wordsTo_mono value (not_le.mp before).le
    omega

theorem le_space_iff (space : SpaceAt value position) (ends : SentenceEnd value other) :
    other ≤ position ↔ wordsTo value other ≤ wordsTo value position := by
  constructor
  · exact fun before => wordsTo_mono value before
  · intro few
    by_contra after
    have word := sentenceEnd_inWord ends
    have apart : position ≠ other - 1 := by
      intro same
      exact space_not_inWord space (same ▸ word)
    have more := wordsTo_gap (show position < other - 1 by omega) space word
    rw [Nat.sub_add_cancel ends.1] at more
    omega

theorem stripEnd_take (stop : WordEnd value position) :
    stripEnd (value.take position) = value.take position := by
  obtain ⟨inside, ⟨c, found, isWord⟩, _⟩ := stop
  obtain ⟨before, rfl⟩ := Nat.exists_eq_succ_of_ne_zero (Nat.pos_iff_ne_zero.mp inside)
  rw [Nat.succ_sub_one] at found
  obtain ⟨within, rfl⟩ := List.getElem?_eq_some_iff.mp found
  rw [Nat.succ_eq_add_one, List.take_succ_eq_append_getElem within, stripEnd, Text.stripLeft,
    List.reverse_concat, List.dropWhile_cons_of_neg (by simpa using isWord), List.reverse_cons,
    List.reverse_reverse]

end

theorem trimToWords_trimmed (marker value : Text) {limit : Nat} (positive : 1 ≤ limit) :
    Trimmed marker value limit (trimToWords marker value limit) := by
  obtain ⟨length, words⟩ := wordSpans_words value
  refine ⟨fun short => by rw [trimToWords, length, if_pos short], fun long => ?_⟩
  rw [← length] at long
  have lastFound :=
    List.getElem?_eq_getElem (show limit - 1 < (wordSpans none 0 value).length by omega)
  have halfFound :=
    List.getElem?_eq_getElem (show limit / 2 < (wordSpans none 0 value).length by omega)
  have lastWord := words _ _ lastFound
  have halfWord := words _ _ halfFound
  generalize (wordSpans none 0 value)[limit - 1] = last at lastFound lastWord
  generalize (wordSpans none 0 value)[limit / 2] = half at halfFound halfWord
  have count : wordsTo value last.2 = limit := by
    rw [lastWord.counted]
    omega
  have space : SpaceAt value last.2 := by
    rcases lastWord.stop.2.2 with stop | space
    · rw [stop, wordsTo_length] at count
      omega
    · exact space
  have late : ∀ other, SentenceEnd value other →
      (half.1 ≤ other ↔ limit / 2 < wordsTo value other) := by
    intro other ends
    rw [start_le_iff halfWord.start ends, halfWord.count]
  have early : ∀ other, SentenceEnd value other → (other ≤ last.2 ↔ wordsTo value other ≤ limit) := by
    intro other ends
    rw [le_space_iff space ends, count]
  have result : ∀ position, WordEnd value position → cutAt value limit = position →
      trimToWords marker value limit = value.take position ++ text " " ++ marker := by
    intro position stop same
    rw [trimToWords, if_neg (by omega), same, stripEnd_take stop]
  cases found : (sentenceEnds 0 (value.take (last.2 + 1))).getLast? with
  | none =>
    have cut : cutAt value limit = last.2 := by
      simp only [cutAt, lastFound, Option.map_some, Option.getD_some, found]
    refine ⟨last.2, result _ lastWord.stop cut, lastWord.stop, count.le,
      .inr ⟨count, fun other ends more => ?_⟩⟩
    by_contra few
    have listed := mem_sentenceEnds_take.mpr ⟨ends, (early other ends).mpr (not_lt.mp few)⟩
    rw [List.getLast?_eq_none_iff.mp found] at listed
    cases listed
  | some boundary =>
    obtain ⟨ends, within⟩ := mem_sentenceEnds_take.mp (List.mem_of_getLast? found)
    have cut : cutAt value limit = if half.1 ≤ boundary then boundary else last.2 := by
      simp only [cutAt, lastFound, halfFound, Option.map_some, Option.getD_some, found]
    by_cases later : half.1 ≤ boundary
    · rw [if_pos later] at cut
      have stop := sentenceEnd_wordEnd ends
      exact ⟨boundary, result _ stop cut, stop, (early boundary ends).mp within,
        .inl ⟨ends, (late boundary ends).mp later⟩⟩
    · rw [if_neg later] at cut
      refine ⟨last.2, result _ lastWord.stop cut, lastWord.stop, count.le,
        .inr ⟨count, fun other others more => ?_⟩⟩
      by_contra few
      have listed := mem_sentenceEnds_take.mpr ⟨others, (early other others).mpr (not_lt.mp few)⟩
      have least : other ≤ boundary := by
        obtain ⟨front, split⟩ := List.getLast?_eq_some_iff.mp found
        have rising := sentenceEnds_rising 0 (value.take (last.2 + 1))
        rw [split] at listed rising
        rcases List.mem_append.mp listed with before | here
        · exact ((List.pairwise_append.mp rising).2.2 other before boundary List.mem_cons_self).le
        · exact (List.mem_singleton.mp here).le
      exact later (((late other others).mpr more).trans least)

/-- A narrative is held to its limit in the model's own words. -/
theorem narrative_held (tools : NarrativeTools) (instructions system : Text) (gpuLeaseHeld : Bool) :
    (∀ prose, let second := condensed tools instructions system gpuLeaseHeld prose
      let held := holdToWordLimit tools instructions system gpuLeaseHeld prose
      (held = prose ∧ wordCount held ≤ narrativeWordLimit) ∨
        (second ≠ [] ∧ held = second ∧ wordCount held ≤ narrativeWordLimit) ∨
        held = trimToWords tools.marker (if second ≠ [] then second else prose) narrativeWordLimit) ∧
      ∀ marker value limit, 1 ≤ limit → Trimmed marker value limit
        (trimToWords marker value limit) := by
  refine ⟨fun prose => ?_, fun marker value limit positive =>
    trimToWords_trimmed marker value positive⟩
  simp only [holdToWordLimit]
  by_cases short : wordCount prose ≤ narrativeWordLimit
  · rw [if_pos short]
    exact .inl ⟨rfl, short⟩
  · rw [if_neg short]
    by_cases fits : condensed tools instructions system gpuLeaseHeld prose ≠ [] ∧
        wordCount (condensed tools instructions system gpuLeaseHeld prose) ≤ narrativeWordLimit
    · rw [if_pos fits]
      exact .inr (.inl ⟨fits.1, rfl, fits.2⟩)
    · rw [if_neg fits]
      exact .inr (.inr rfl)

end SysadminAssistant.Core
