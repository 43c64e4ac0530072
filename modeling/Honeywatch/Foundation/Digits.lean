import Mathlib.Data.List.Induction
import Mathlib.Data.Nat.Log
import Mathlib.Tactic.Ring

/-!
# Positional digits

Numbers written with a fixed count of digits, with leading zeros, and without
leading zeros. Letters stand for the digits from ten on, in lower case when
written and in either case when read.
-/

namespace Honeywatch.Digits

/-- The value of a digit; what is no digit has a value beyond every base. -/
def digit (char : Char) : Nat :=
  if '0' ≤ char ∧ char ≤ '9' then char.toNat - '0'.toNat
  else if 'a' ≤ char ∧ char ≤ 'f' then char.toNat - 'a'.toNat + 10
  else if 'A' ≤ char ∧ char ≤ 'F' then char.toNat - 'A'.toNat + 10
  else 16

def isDigit (base : Nat) (char : Char) : Bool := decide (digit char < base)

/-- The digit of a value below sixteen. -/
def digitChar (value : Nat) : Char :=
  if value < 10 then Char.ofNat ('0'.toNat + value) else Char.ofNat ('a'.toNat + (value - 10))

/-- The number that digits stand for. -/
def number (base : Nat) (digits : List Char) : Nat :=
  digits.foldl (fun total char => total * base + digit char) 0

/-- The last digits of a number, as many as asked for. -/
def fixed (base : Nat) : Nat → Nat → List Char
  | 0, _ => []
  | width + 1, value => digitChar (value / base ^ width % base) :: fixed base width value

/-- A number in decimal without leading zeros. -/
def decimal (value : Nat) : List Char := fixed 10 (Nat.log 10 value + 1) value

/-- A written digit is read as its value. -/
theorem digit_digitChar (value : Nat) (small : value < 16) : digit (digitChar value) = value := by
  have every : ∀ value : Fin 16, digit (digitChar value) = value := by decide
  exact every ⟨value, small⟩

/-- A number of fixed width is as long as its width. -/
@[simp] theorem fixed_length (base width value : Nat) :
    (fixed base width value).length = width := by
  induction width with
  | zero => rfl
  | succ width inductionHypothesis => rw [fixed, List.length_cons, inductionHypothesis]

/-- Writing with enough bases writes digits, as many as the width says, whether the
value fits or is cut. -/
theorem fixed_digits (base width value : Nat) (positive : 0 < base) (small : base ≤ 16) :
    ∀ char ∈ fixed base width value, isDigit base char = true := by
  induction width with
  | zero => simp [fixed]
  | succ width inductionHypothesis =>
    intro char member
    rcases List.mem_cons.mp member with rfl | later
    · have below : value / base ^ width % base < base := Nat.mod_lt _ positive
      simpa [isDigit, digit_digitChar _ (Nat.lt_of_lt_of_le below small)] using below
    · exact inductionHypothesis char later

/-- The digits on the left count by the power of the base that the digits on the
right take up. By induction from the right, as the numbers are written. -/
theorem number_append (base : Nat) (left right : List Char) :
    number base (left ++ right) = number base left * base ^ right.length + number base right := by
  induction right using List.reverseRecOn with
  | nil => simp [number]
  | append_singleton digits last inductionHypothesis =>
    have extended : ∀ all : List Char,
        number base (all ++ [last]) = number base all * base + digit last := by
      simp [number]
    rw [← List.append_assoc, extended, extended, inductionHypothesis, List.length_append,
      List.length_singleton, Nat.pow_succ]
    ring

/-- The same for a single first digit. -/
theorem number_cons (base : Nat) (first : Char) (rest : List Char) :
    number base (first :: rest) = digit first * base ^ rest.length + number base rest := by
  have apart := number_append base [first] rest
  simpa [number] using apart

/-- Reading fixed digits recovers what they kept of the number, its remainder by a
power of the base. -/
theorem number_fixed (base width value : Nat) (positive : 0 < base) (small : base ≤ 16) :
    number base (fixed base width value) = value % base ^ width := by
  induction width with
  | zero => simp [number, fixed, Nat.mod_one]
  | succ width inductionHypothesis =>
    have below : value / base ^ width % base < base := Nat.mod_lt _ positive
    rw [fixed, number_cons, digit_digitChar _ (Nat.lt_of_lt_of_le below small),
      inductionHypothesis, fixed_length, Nat.mod_pow_succ]
    ring

/-- A number that fits into its width is read back. -/
theorem number_fixed_of_lt (base width value : Nat) (positive : 0 < base) (small : base ≤ 16)
    (fits : value < base ^ width) : number base (fixed base width value) = value := by
  rw [number_fixed base width value positive small, Nat.mod_eq_of_lt fits]

/-- A decimal number is written as wide as it needs and is read back. -/
@[simp] theorem number_decimal (value : Nat) : number 10 (decimal value) = value :=
  number_fixed_of_lt 10 _ value (by decide) (by decide)
    (Nat.lt_pow_succ_log_self (by decide) value)

/-- It is written with digits only. -/
theorem decimal_digits (value : Nat) : ∀ char ∈ decimal value, isDigit 10 char = true :=
  fixed_digits 10 _ value (by decide) (by decide)

/-- Decimals have at least one digit, and only zero starts with a zero, so a printed
number is one that a grammar without leading zeros reads. -/
theorem decimal_cons (value : Nat) : ∃ first rest, decimal value = first :: rest ∧
    isDigit 10 first = true ∧ (first = '0' → value = 0 ∧ rest = []) := by
  refine ⟨_, _, rfl, decimal_digits value _ (by simp [decimal, fixed]), fun leading => ?_⟩
  have below : value / 10 ^ Nat.log 10 value % 10 < 10 := Nat.mod_lt _ (by decide)
  have zero : value / 10 ^ Nat.log 10 value % 10 = 0 := by
    rw [← digit_digitChar _ (Nat.lt_trans below (by decide)), leading]
    decide
  have few : value / 10 ^ Nat.log 10 value < 10 := by
    rw [Nat.div_lt_iff_lt_mul (Nat.pow_pos (by decide)), Nat.mul_comm, ← Nat.pow_succ]
    exact Nat.lt_pow_succ_log_self (by decide) value
  have vanishes : value / 10 ^ Nat.log 10 value = 0 := by
    rwa [Nat.mod_eq_of_lt few] at zero
  have none : value = 0 := by
    by_contra nonzero
    have reached := Nat.div_pos (Nat.pow_log_le_self 10 nonzero) (Nat.pow_pos (by decide))
    exact absurd vanishes (Nat.ne_of_gt reached)
  subst none
  exact ⟨rfl, by simp [fixed]⟩

end Honeywatch.Digits
