import Mathlib.Data.List.Infix

namespace SysadminAssistant.Library

/-! Patterns with a symbol for any run of symbols, one for any single symbol, and one that
makes the next a literal, as SQL's `LIKE` has them. -/

structure Wildcards (α : Type*) where
  many : α
  one : α
  escape : α

inductive Token (α : Type*) where
  | many | one
  | literal (symbol : α)

variable {α : Type*} [DecidableEq α]

/-- Does the whole value match? -/
def Token.matches : List (Token α) → List α → Bool
  | [], value => value.isEmpty
  | .many :: rest, value => value.tails.any (Token.matches rest)
  | .one :: _, [] => false
  | .one :: rest, _ :: value => Token.matches rest value
  | .literal _ :: _, [] => false
  | .literal symbol :: rest, first :: value => decide (symbol = first) && Token.matches rest value

theorem Token.matches_many (pattern : List (Token α)) (value : List α) :
    Token.matches (.many :: pattern) value = true ↔ ∃ rest, rest <:+ value ∧
      Token.matches pattern rest = true := by
  rw [Token.matches, List.any_eq_true]
  simp only [List.mem_tails]

theorem Token.matches_literals (literal : List α) (pattern : List (Token α)) (value : List α) :
    Token.matches (literal.map .literal ++ pattern) value = true ↔
      ∃ rest, value = literal ++ rest ∧ Token.matches pattern rest = true := by
  induction literal generalizing value with
  | nil => simp
  | cons symbol literal ih =>
    cases value with
    | nil => simp [Token.matches]
    | cons first rest =>
      rw [List.map_cons, List.cons_append, Token.matches, Bool.and_eq_true, decide_eq_true_eq, ih]
      constructor
      · intro matched
        obtain ⟨same, tail, shape, matched⟩ := matched
        exact ⟨tail, by rw [same, shape, List.cons_append], matched⟩
      · intro matched
        obtain ⟨tail, shape, matched⟩ := matched
        obtain ⟨same, shape⟩ := List.cons.inj shape
        exact ⟨same.symm, tail, shape, matched⟩

namespace Wildcards

def token (wild : Wildcards α) (symbol : α) : Token α :=
  if symbol = wild.many then .many else if symbol = wild.one then .one else .literal symbol

/-- An escape with nothing after it is taken for itself. -/
def tokens (wild : Wildcards α) : List α → List (Token α)
  | [] => []
  | [symbol] => [wild.token symbol]
  | symbol :: next :: rest =>
    if symbol = wild.escape then .literal next :: wild.tokens rest
    else wild.token symbol :: wild.tokens (next :: rest)

def like (wild : Wildcards α) (pattern value : List α) : Bool :=
  Token.matches (wild.tokens pattern) value

/-- No symbol of the pattern stands for another. -/
def Literal (wild : Wildcards α) (pattern : List α) : Prop :=
  ∀ symbol ∈ pattern, symbol ≠ wild.many ∧ symbol ≠ wild.one ∧ symbol ≠ wild.escape

instance (wild : Wildcards α) (pattern : List α) : Decidable (wild.Literal pattern) :=
  inferInstanceAs (Decidable (∀ symbol ∈ pattern, _))

variable {wild : Wildcards α}

theorem tokens_cons {symbol : α} (plain : symbol ≠ wild.escape) (rest : List α) :
    wild.tokens (symbol :: rest) = wild.token symbol :: wild.tokens rest := by
  cases rest with
  | nil => rfl
  | cons next rest => rw [tokens, if_neg plain]

theorem tokens_literal_append {literal : List α} (plain : wild.Literal literal) (pattern : List α) :
    wild.tokens (literal ++ pattern) = literal.map .literal ++ wild.tokens pattern := by
  induction literal with
  | nil => rfl
  | cons symbol literal ih =>
    obtain ⟨notMany, notOne, notEscape⟩ := plain symbol List.mem_cons_self
    have rest : wild.Literal literal :=
      fun other member => plain other (List.mem_cons_of_mem symbol member)
    rw [List.cons_append, tokens_cons notEscape, ih rest, token, if_neg notMany, if_neg notOne]
    rfl

/-- `literal`, without a wildcard. -/
theorem like_literal {literal : List α} (plain : wild.Literal literal) (value : List α) :
    wild.like literal value = true ↔ value = literal := by
  have run := tokens_literal_append plain []
  rw [List.append_nil] at run
  rw [like, run, Token.matches_literals, tokens]
  constructor
  · intro matched
    obtain ⟨rest, rfl, empty⟩ := matched
    rw [Token.matches, List.isEmpty_iff] at empty
    rw [empty, List.append_nil]
  · intro same
    exact ⟨[], by rw [same, List.append_nil], rfl⟩

/-- `%literal`. -/
theorem like_suffix {literal : List α} (plain : wild.Literal literal)
    (distinct : wild.many ≠ wild.escape) (value : List α) :
    wild.like (wild.many :: literal) value = true ↔ literal <:+ value := by
  rw [like, tokens_cons distinct, token, if_pos rfl, Token.matches_many]
  have whole : ∀ rest, Token.matches (wild.tokens literal) rest = true ↔ rest = literal :=
    like_literal plain
  simp only [whole]
  constructor
  · intro matched
    obtain ⟨rest, inside, rfl⟩ := matched
    exact inside
  · intro ends
    exact ⟨literal, ends, rfl⟩

/-- `literal%`. -/
theorem like_prefix {literal : List α} (plain : wild.Literal literal) (value : List α) :
    wild.like (literal ++ [wild.many]) value = true ↔ literal <+: value := by
  have run : wild.tokens [wild.many] = [.many] := congrArg (fun token => [token]) (if_pos rfl)
  rw [like, tokens_literal_append plain, Token.matches_literals, run]
  constructor
  · intro matched
    obtain ⟨rest, shape, _⟩ := matched
    exact ⟨rest, shape.symm⟩
  · intro opens
    obtain ⟨rest, shape⟩ := opens
    exact ⟨rest, shape.symm, (Token.matches_many [] rest).mpr ⟨[], List.nil_suffix, rfl⟩⟩

/-- `%literal%`. -/
theorem like_infix {literal : List α} (plain : wild.Literal literal)
    (distinct : wild.many ≠ wild.escape) (value : List α) :
    wild.like (wild.many :: (literal ++ [wild.many])) value = true ↔ literal <:+: value := by
  rw [like, tokens_cons distinct, token, if_pos rfl, Token.matches_many]
  have opens : ∀ rest, Token.matches (wild.tokens (literal ++ [wild.many])) rest = true ↔
      literal <+: rest :=
    like_prefix plain
  simp only [opens]
  constructor
  · intro matched
    obtain ⟨tail, inside, opens⟩ := matched
    exact List.infix_iff_prefix_suffix.mpr ⟨tail, opens, inside⟩
  · intro inside
    obtain ⟨tail, opens, suffix⟩ := List.infix_iff_prefix_suffix.mp inside
    exact ⟨tail, suffix, opens⟩

end Wildcards

end SysadminAssistant.Library
