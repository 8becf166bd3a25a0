import Mathlib.Tactic.Ring
import SysadminAssistant.Python.Text

namespace SysadminAssistant.Python

/-! `bytes.decode("utf-8")`.  The decoder is a machine over single bytes: a malformed
sequence is reported once, at the first byte that cannot continue it, and that byte is
read again as the start of the next character. -/

/-- The exception classes a caller of this code can tell apart. -/
inductive PyError where
  | valueError | typeError | attributeError | overflowError | osError | recursionError
deriving DecidableEq

abbrev Bytes := List UInt8

/-- A code point that UTF-8 can encode. -/
def IsScalar (n : Nat) : Prop := n < 0xD800 ∨ 0xDFFF < n ∧ n < 0x110000

/-- Inside a character: `value` has been read, the next byte must lie between `low` and
`high`, and `due` more follow it. -/
structure Unfinished where
  value : Nat
  due : Nat
  low : Nat
  high : Nat
  scalar : ∀ next rest, low ≤ next → next ≤ high → rest < 64 ^ due →
    IsScalar ((value * 64 + (next - 0x80)) * 64 ^ due + rest)

namespace Unfinished

/-- The character after a byte that `low` and `high` allow, and that is not the last. -/
def advance (unfinished : Unfinished) (due next : Nat) (more : unfinished.due = due + 1)
    (above : unfinished.low ≤ next) (below : next ≤ unfinished.high) : Unfinished where
  value := unfinished.value * 64 + (next - 0x80)
  due := due
  low := 0x80
  high := 0xBF
  scalar following rest least most small := by
    have tail : (following - 0x80) * 64 ^ due + rest < 64 ^ unfinished.due := by
      have room : (following - 0x80) * 64 ^ due ≤ 63 * 64 ^ due :=
        Nat.mul_le_mul_right _ (by omega)
      rw [more, pow_succ]
      omega
    have whole := unfinished.scalar next _ above below tail
    have split : ((unfinished.value * 64 + (next - 0x80)) * 64 + (following - 0x80)) *
        64 ^ due + rest = (unfinished.value * 64 + (next - 0x80)) * 64 ^ unfinished.due
          + ((following - 0x80) * 64 ^ due + rest) := by
      rw [more]
      ring
    rw [split]
    exact whole

end Unfinished

/-- What one byte settles: decoded characters and reported malformations (`none`). -/
structure Decoded where
  units : List (Option CodePoint)
  open? : Option Unfinished

/-- A byte where a character starts. -/
def leadByte (b : Nat) : Decoded :=
  if _ : b < 0x80 then ⟨[some ⟨b, by omega⟩], none⟩
  else if _ : 0xC2 ≤ b ∧ b ≤ 0xDF then
    ⟨[], some ⟨b - 0xC0, 0, 0x80, 0xBF, by simp only [IsScalar, pow_zero]; omega⟩⟩
  else if _ : b = 0xE0 then
    ⟨[], some ⟨0, 1, 0xA0, 0xBF, by simp only [IsScalar, pow_one]; omega⟩⟩
  else if _ : b = 0xED then
    ⟨[], some ⟨0xD, 1, 0x80, 0x9F, by simp only [IsScalar, pow_one]; omega⟩⟩
  else if _ : 0xE1 ≤ b ∧ b ≤ 0xEF then
    ⟨[], some ⟨b - 0xE0, 1, 0x80, 0xBF, by simp only [IsScalar, pow_one]; omega⟩⟩
  else if _ : b = 0xF0 then
    ⟨[], some ⟨0, 2, 0x90, 0xBF, by simp only [IsScalar, Nat.reducePow]; omega⟩⟩
  else if _ : 0xF1 ≤ b ∧ b ≤ 0xF3 then
    ⟨[], some ⟨b - 0xF0, 2, 0x80, 0xBF, by simp only [IsScalar, Nat.reducePow]; omega⟩⟩
  else if _ : b = 0xF4 then
    ⟨[], some ⟨4, 2, 0x80, 0x8F, by simp only [IsScalar, Nat.reducePow]; omega⟩⟩
  else ⟨[none], none⟩

theorem IsScalar.lt {n : Nat} (scalar : IsScalar n) : n < 0x110000 := by
  simp only [IsScalar] at scalar
  omega

def nextByte (unfinished : Unfinished) (b : Nat) : Decoded :=
  if inside : unfinished.low ≤ b ∧ b ≤ unfinished.high then
    match more : unfinished.due with
    | 0 => ⟨[some ⟨unfinished.value * 64 + (b - 0x80), by
        have scalar := unfinished.scalar b 0 inside.1 inside.2 (by simp)
        rw [more, pow_zero, Nat.mul_one, Nat.add_zero] at scalar
        exact scalar.lt⟩], none⟩
    | due + 1 => ⟨[], some (unfinished.advance due b more inside.1 inside.2)⟩
  else
    let restarted := leadByte b
    { restarted with units := none :: restarted.units }

def decodeFrom : Option Unfinished → Bytes → List (Option CodePoint)
  | none, [] => []
  | some _, [] => [none]
  | none, b :: rest =>
    let decoded := leadByte b.toNat
    decoded.units ++ decodeFrom decoded.open? rest
  | some unfinished, b :: rest =>
    let decoded := nextByte unfinished b.toNat
    decoded.units ++ decodeFrom decoded.open? rest

/-- `bytes.decode()`: a malformed sequence raises `UnicodeDecodeError`. -/
def decode (bytes : Bytes) : Except PyError Text :=
  let units := decodeFrom none bytes
  if units.any Option.isNone then .error .valueError else .ok (units.filterMap id)

/-- `bytes.decode("utf-8", errors="replace")`. -/
def decodeReplace (bytes : Bytes) : Text :=
  (decodeFrom none bytes).map fun decoded => decoded.getD 0xFFFD

-- a truncated sequence is one replacement character, and a byte that cannot follow is read again
example : decodeReplace [0xE2, 0x82, 0x41, 0xFF, 0xED, 0xA0] =
    [0xFFFD, 0x41, 0xFFFD, 0xFFFD, 0xFFFD] := by
  decide

end SysadminAssistant.Python
