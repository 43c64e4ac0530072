import Honeywatch.Foundation.Digits
import Honeywatch.Foundation.Json

/-!
# JSON numbers

Numbers by their parts, their text and their reading. Floats are written by
their shortest decimal, with an exponent only where the decimal point is far
from the digits, and always with a fraction or an exponent; integers are written
with neither. Reading a number back therefore recovers its kind and its value.
-/

namespace Honeywatch.Json

open Digits

/-- A JSON number by its parts. -/
structure Numeral where
  negative : Bool
  whole : List Char
  fraction : Option (List Char)
  exponent : Option Int
deriving DecidableEq

/-- The parts follow the grammar: no leading zeros, and no empty fraction. -/
structure Numeral.Proper (numeral : Numeral) : Prop where
  wholeDigits : ∀ char ∈ numeral.whole, isDigit 10 char = true
  wholeStart : ∃ first rest, numeral.whole = first :: rest ∧ (first = '0' → rest = [])
  fractionDigits : ∀ digits ∈ numeral.fraction,
    digits ≠ [] ∧ ∀ char ∈ digits, isDigit 10 char = true

/-- An integer with its sign. -/
def printInt (value : Int) : List Char :=
  (if value < 0 then ['-'] else []) ++ decimal value.natAbs

def printFraction : Option (List Char) → List Char
  | none => []
  | some digits => '.' :: digits

def printExponent : Option Int → List Char
  | none => []
  | some value => 'e' :: printInt value

def Numeral.print (numeral : Numeral) : List Char :=
  (if numeral.negative then ['-'] else []) ++
    (numeral.whole ++ (printFraction numeral.fraction ++ printExponent numeral.exponent))

/-- The digits at the start of a text, and what follows. -/
def takeDigits (text : List Char) : List Char × List Char :=
  (text.takeWhile (isDigit 10), text.dropWhile (isDigit 10))

/-- A leading minus sign. -/
def takeMinus : List Char → Bool × List Char
  | [] => (false, [])
  | head :: rest => if head = '-' then (true, rest) else (false, head :: rest)

/-- A leading sign. -/
def takeSign : List Char → Bool × List Char
  | [] => (false, [])
  | head :: rest => if head = '+' then (false, rest) else takeMinus (head :: rest)

def signed (negative : Bool) (magnitude : Nat) : Int :=
  if negative then -(magnitude : Int) else magnitude

/-- Digits without a leading zero. -/
def parseWhole (text : List Char) : Option (List Char × List Char) :=
  match (takeDigits text).1 with
  | [] => none
  | first :: others =>
    if first = '0' ∧ others ≠ [] then none else some (first :: others, (takeDigits text).2)

def parseFraction : List Char → Option (Option (List Char) × List Char)
  | [] => some (none, [])
  | head :: rest =>
    if head = '.' then
      if (takeDigits rest).1 = [] then none
      else some (some (takeDigits rest).1, (takeDigits rest).2)
    else some (none, head :: rest)

def parseExponent : List Char → Option (Option Int × List Char)
  | [] => some (none, [])
  | head :: rest =>
    if head = 'e' ∨ head = 'E' then
      let sign := takeSign rest
      let digits := takeDigits sign.2
      if digits.1 = [] then none
      else some (some (signed sign.1 (number 10 digits.1)), digits.2)
    else some (none, head :: rest)

def parseNumeral (text : List Char) : Option (Numeral × List Char) := do
  let sign := takeMinus text
  let (whole, rest) ← parseWhole sign.2
  let (fraction, rest) ← parseFraction rest
  let (exponent, rest) ← parseExponent rest
  return ({ negative := sign.1, whole, fraction, exponent }, rest)

/-- What follows is no part of the number. -/
def Delimited : List Char → Prop
  | [] => True
  | head :: _ => isDigit 10 head = false ∧ head ≠ '.' ∧ head ≠ 'e' ∧ head ≠ 'E'

def NoDigit : List Char → Prop
  | [] => True
  | head :: _ => isDigit 10 head = false

/-- The reader of digits takes all of them and stops where they end, at the first
character that is none or at the end of the text. -/
theorem takeDigits_append (digits rest : List Char)
    (all : ∀ char ∈ digits, isDigit 10 char = true) (ended : NoDigit rest) :
    takeDigits (digits ++ rest) = (digits, rest) := by
  induction digits with
  | nil =>
    cases rest with
    | nil => rfl
    | cons head others =>
      have other : isDigit 10 head = false := ended
      simp [takeDigits, other]
  | cons first others inductionHypothesis =>
    have shorter := inductionHypothesis fun char member => all char (by simp [member])
    rw [takeDigits, Prod.mk.injEq] at shorter
    simp [takeDigits, all first (by simp), shorter.1, shorter.2]

/-- A digit is no sign. -/
theorem takeMinus_digit (first : Char) (rest : List Char) (digit : isDigit 10 first = true) :
    takeMinus (first :: rest) = (false, first :: rest) := by
  have other : first ≠ '-' := by
    rintro rfl
    exact absurd digit (by decide)
  simp [takeMinus, other]

/-- In front of a digit there is no sign to take. -/
theorem takeSign_digit (first : Char) (rest : List Char) (digit : isDigit 10 first = true) :
    takeSign (first :: rest) = (false, first :: rest) := by
  have other : first ≠ '+' := by
    rintro rfl
    exact absurd digit (by decide)
  simp [takeSign, other, takeMinus_digit first rest digit]

/-- A number is its sign and its absolute value, the two parts in which it is
printed. -/
theorem signed_natAbs (value : Int) : signed (decide (value < 0)) value.natAbs = value := by
  unfold signed
  split
  · next negative =>
    have below : value < 0 := of_decide_eq_true negative
    omega
  · next positive =>
    have above : ¬ value < 0 := fun below => positive (decide_eq_true below)
    omega

/-- Reading a printed exponent, with its sign, or reading nothing where none was
printed and none follows. -/
theorem parseExponent_print (exponent : Option Int) (rest : List Char)
    (delimited : Delimited rest) :
    parseExponent (printExponent exponent ++ rest) = some (exponent, rest) := by
  cases exponent with
  | none =>
    cases rest with
    | nil => rfl
    | cons head others => simp [printExponent, parseExponent, delimited.2.2.1, delimited.2.2.2]
  | some value =>
    have ended : NoDigit rest := by
      cases rest with
      | nil => trivial
      | cons head others => exact delimited.1
    have read := takeDigits_append _ rest (decimal_digits value.natAbs) ended
    have recovered := signed_natAbs value
    obtain ⟨first, others, shape, digit, _⟩ := decimal_cons value.natAbs
    have sign : takeSign (printInt value ++ rest) =
        (decide (value < 0), decimal value.natAbs ++ rest) := by
      by_cases negative : value < 0
      · simp [printInt, negative, takeSign, takeMinus]
      · simp only [printInt, negative, if_false, List.nil_append, decide_false, shape,
          List.cons_append]
        exact takeSign_digit first _ digit
    have some_digit : decimal value.natAbs ≠ [] := by simp [shape]
    simp [printExponent, parseExponent, sign, read, some_digit, recovered]

/-- Reading a printed fraction. What follows must be neither a digit nor a point, or
it would be read as part of it. -/
theorem parseFraction_print (fraction : Option (List Char)) (rest : List Char)
    (proper : ∀ digits ∈ fraction, digits ≠ [] ∧ ∀ char ∈ digits, isDigit 10 char = true)
    (ended : NoDigit rest) (pointless : ∀ others, rest ≠ '.' :: others) :
    parseFraction (printFraction fraction ++ rest) = some (fraction, rest) := by
  cases fraction with
  | none =>
    cases rest with
    | nil => rfl
    | cons head others =>
      have other : head ≠ '.' := fun point => pointless others (by rw [point])
      simp [printFraction, parseFraction, other]
  | some digits =>
    obtain ⟨nonempty, all⟩ := proper digits rfl
    simp [printFraction, parseFraction, takeDigits_append digits rest all ended, nonempty]

/-- Reading a number recovers its parts: the sign, the integer, the fraction and the
exponent, each of which ends where the next one begins. -/
theorem parseNumeral_print (numeral : Numeral) (proper : numeral.Proper) (rest : List Char)
    (delimited : Delimited rest) :
    parseNumeral (numeral.print ++ rest) = some (numeral, rest) := by
  obtain ⟨negative, whole, fraction, exponent⟩ := numeral
  obtain ⟨first, others, rfl, leading⟩ := proper.wholeStart
  have digit : isDigit 10 first = true := proper.wholeDigits first List.mem_cons_self
  have exponentRead := parseExponent_print exponent rest delimited
  have exponentStart : NoDigit (printExponent exponent ++ rest) ∧
      ∀ others, printExponent exponent ++ rest ≠ '.' :: others := by
    cases exponent with
    | some value =>
      exact ⟨show isDigit 10 'e' = false by decide, by simp [printExponent]⟩
    | none =>
      cases rest with
      | nil => exact ⟨trivial, by simp [printExponent]⟩
      | cons head others => exact ⟨delimited.1, by simp [printExponent, delimited.2.1]⟩
  have fractionRead := parseFraction_print fraction _ proper.fractionDigits exponentStart.1
    exponentStart.2
  have fractionStart : NoDigit (printFraction fraction ++ (printExponent exponent ++ rest)) := by
    cases fraction with
    | none => exact exponentStart.1
    | some digits =>
      show isDigit 10 '.' = false
      decide
  have wholeRead := takeDigits_append (first :: others) _ proper.wholeDigits fractionStart
  have sign : takeMinus ((if negative then ['-'] else []) ++
      (first :: others ++ (printFraction fraction ++ (printExponent exponent ++ rest)))) =
      (negative,
        first :: others ++ (printFraction fraction ++ (printExponent exponent ++ rest))) := by
    cases negative with
    | true => rfl
    | false => exact takeMinus_digit first _ digit
  have parsedWhole : parseWhole (first :: others ++
      (printFraction fraction ++ (printExponent exponent ++ rest))) =
      some (first :: others, printFraction fraction ++ (printExponent exponent ++ rest)) := by
    have allowed : ¬ (first = '0' ∧ others ≠ []) := fun zero => zero.2 (leading zero.1)
    simp only [parseWhole, wholeRead, allowed, if_false]
  simp only [Numeral.print, List.append_assoc, parseNumeral, sign, parsedWhole, fractionRead,
    exponentRead, Option.bind_eq_bind, Option.bind_some, Option.pure_def]

/-- Taking the trailing zeros off digits. -/
def Decimal.normalize (negative : Bool) (digits : Nat) (exponent : Int) : Decimal :=
  if zero : digits = 0 then { negative, digits := 0, exponent := 0, normal := rfl }
  else if trailing : digits % 10 = 0 then
    Decimal.normalize negative (digits / 10) (exponent + 1)
  else { negative, digits, exponent, normal := by simp [zero, trailing] }
termination_by digits
decreasing_by omega

/-- A trailing zero moves into the exponent: this is one step of the normal form,
and the recursion repeats it. -/
theorem Decimal.normalize_trailing (negative : Bool) (digits : Nat) (exponent : Int)
    (nonzero : digits ≠ 0) (trailing : digits % 10 = 0) :
    Decimal.normalize negative digits exponent =
      Decimal.normalize negative (digits / 10) (exponent + 1) := by
  rw [Decimal.normalize, dif_neg nonzero, dif_pos trailing]

/-- Zeros that were added to a decimal are taken off again, so its digits and its
exponent are the shortest ones once more. -/
theorem Decimal.normalize_scaled (decimal : Decimal) (zeros : Nat) :
    Decimal.normalize decimal.negative (decimal.digits * 10 ^ zeros) (decimal.exponent - zeros) =
      decimal := by
  obtain ⟨negative, digits, exponent, normal⟩ := decimal
  by_cases none : digits = 0
  · subst none
    have plain : exponent = 0 := normal
    subst plain
    unfold Decimal.normalize
    simp
  · have last : digits % 10 ≠ 0 := by rwa [if_neg none] at normal
    induction zeros with
    | zero =>
      unfold Decimal.normalize
      simp [none, last]
    | succ zeros inductionHypothesis =>
      have nonzero : digits * 10 ^ (zeros + 1) ≠ 0 :=
        Nat.mul_ne_zero none (Nat.ne_of_gt (Nat.pow_pos (by decide)))
      have split : digits * 10 ^ (zeros + 1) = digits * 10 ^ zeros * 10 := by
        rw [Nat.pow_succ, Nat.mul_assoc]
      have shorter : digits * 10 ^ (zeros + 1) / 10 = digits * 10 ^ zeros := by
        rw [split, Nat.mul_div_cancel _ (by decide)]
      have trailing : digits * 10 ^ (zeros + 1) % 10 = 0 := by
        rw [split, Nat.mul_mod_left]
      have shift : exponent - ((zeros + 1 : Nat) : Int) + 1 = exponent - (zeros : Int) := by omega
      rw [Decimal.normalize_trailing _ _ _ nonzero trailing, shorter, shift]
      exact inductionHypothesis

/-- The parts of an integer. -/
def intNumeral (value : Int) : Numeral :=
  { negative := decide (value < 0)
    whole := decimal value.natAbs
    fraction := none
    exponent := none }

/-- The parts of a float, by the place of its decimal point. -/
def Decimal.numeral (value : Decimal) : Numeral :=
  let digits := decimal value.digits
  let point : Int := digits.length + value.exponent
  if 0 ≤ value.exponent ∧ point ≤ 16 then
    { negative := value.negative
      whole := digits ++ List.replicate value.exponent.toNat '0'
      fraction := some ['0']
      exponent := none }
  else if 0 < point ∧ point ≤ 16 then
    { negative := value.negative
      whole := digits.take point.toNat
      fraction := some (digits.drop point.toNat)
      exponent := none }
  else if -5 < point ∧ point ≤ 0 then
    { negative := value.negative
      whole := ['0']
      fraction := some (List.replicate (-point).toNat '0' ++ digits)
      exponent := none }
  else if digits.length = 1 then
    { negative := value.negative
      whole := digits
      fraction := none
      exponent := some (point - 1) }
  else
    { negative := value.negative
      whole := digits.take 1
      fraction := some (digits.drop 1)
      exponent := some (point - 1) }

/-- What a number denotes: an integer unless it has a fraction or an exponent. -/
def Numeral.value {Text : Type} (numeral : Numeral) : Value Text :=
  match numeral.fraction, numeral.exponent with
  | none, none => .int (signed numeral.negative (number 10 numeral.whole))
  | fraction, exponent =>
    .float (Decimal.normalize numeral.negative
      (number 10 (numeral.whole ++ fraction.getD []))
      (exponent.getD 0 - (fraction.getD []).length))

/-- An integer is printed as the grammar of numbers asks for, without a leading
zero. -/
theorem intNumeral_proper (value : Int) : (intNumeral value).Proper where
  wholeDigits := decimal_digits _
  wholeStart := by
    obtain ⟨first, rest, shape, _, leading⟩ := decimal_cons value.natAbs
    exact ⟨first, rest, shape, fun zero => (leading zero).2⟩
  fractionDigits := by simp [intNumeral]

/-- It is read as this integer. -/
@[simp] theorem intNumeral_value {Text : Type} (value : Int) :
    ((intNumeral value).value : Value Text) = .int value := by
  simp [Numeral.value, intNumeral, signed_natAbs]

/-- A fraction of some digits follows the grammar. -/
theorem fraction_proper {digits : List Char} (nonempty : digits ≠ [])
    (all : ∀ char ∈ digits, isDigit 10 char = true) :
    ∀ fraction ∈ some digits, fraction ≠ [] ∧ ∀ char ∈ fraction, isDigit 10 char = true := by
  intro fraction chosen
  obtain rfl := Option.mem_some_iff.mp chosen
  exact ⟨nonempty, all⟩

/-- The layout of a float follows the grammar, whichever of the layouts its exponent
selects. -/
theorem Decimal.numeral_proper (value : Decimal) : value.numeral.Proper := by
  obtain ⟨first, rest, shape, digit, leading⟩ := decimal_cons value.digits
  have all : ∀ char ∈ first :: rest, isDigit 10 char = true :=
    shape ▸ decimal_digits value.digits
  have zeros : ∀ count, ∀ char ∈ List.replicate count '0', isDigit 10 char = true := by
    intro count char member
    rw [List.eq_of_mem_replicate member]
    decide
  have whole : first = '0' → rest = [] := fun zero => (leading zero).2
  have integral : first = '0' → value.exponent = 0 := by
    intro zero
    have normal := value.normal
    rwa [if_pos (leading zero).1] at normal
  have length : (first :: rest).length = rest.length + 1 := rfl
  unfold Decimal.numeral
  simp only [shape]
  split
  · exact {
      wholeDigits := fun char member => (List.mem_append.mp member).elim (all char) (zeros _ char)
      wholeStart := ⟨first, _, rfl, fun zero => by simp [whole zero, integral zero]⟩
      fractionDigits := fraction_proper (by simp) (zeros 1) }
  · next far =>
    split
    · next near =>
      have inside : (Int.toNat (((first :: rest).length : Int) + value.exponent)) <
          (first :: rest).length := by omega
      obtain ⟨kept, some_kept⟩ : ∃ kept,
          Int.toNat (((first :: rest).length : Int) + value.exponent) = kept + 1 :=
        ⟨_, (Nat.succ_pred_eq_of_pos (by omega)).symm⟩
      exact {
        wholeDigits := fun char member => all char (List.mem_of_mem_take member)
        wholeStart := ⟨first, rest.take kept, by rw [some_kept]; rfl,
          fun zero => by simp [whole zero]⟩
        fractionDigits := fraction_proper (by simpa using inside)
          fun char member => all char (List.mem_of_mem_drop member) }
    · next distant =>
      split
      · exact {
          wholeDigits := zeros 1
          wholeStart := ⟨'0', [], rfl, fun _ => rfl⟩
          fractionDigits := fraction_proper (by simp) fun char member =>
            (List.mem_append.mp member).elim (zeros _ char) (all char) }
      · split
        · exact {
            wholeDigits := all
            wholeStart := ⟨first, rest, rfl, whole⟩
            fractionDigits := by simp }
        · next several =>
          exact {
            wholeDigits := fun char member => all char (List.mem_of_mem_take member)
            wholeStart := ⟨first, [], rfl, fun _ => rfl⟩
            fractionDigits := by
              apply fraction_proper
              · intro nothing
                have nothing : rest = [] := nothing
                exact several (by simp [nothing])
              · exact fun char member => all char (List.mem_of_mem_drop member) }

/-- Zeros in front of the digits of a fraction do not count. -/
theorem number_zeros (count : Nat) : number 10 (List.replicate count '0') = 0 := by
  induction count with
  | zero => rfl
  | succ count inductionHypothesis =>
    rw [List.replicate_succ, number_cons, inductionHypothesis]
    simp [digit]

/-- The layout of a float denotes the float. The cases are the places where the
point may stand, behind the digits, among them or before them, and the two layouts
with an exponent. -/
theorem Decimal.numeral_value {Text : Type} (value : Decimal) :
    (value.numeral.value : Value Text) = .float value := by
  have length : 0 < (decimal value.digits).length := by simp [decimal]
  have exact_digits := Decimal.normalize_scaled value 0
  simp only [Nat.pow_zero, Nat.mul_one] at exact_digits
  unfold Decimal.numeral
  dsimp only
  split
  · next whole =>
    have scaled := Decimal.normalize_scaled value (value.exponent.toNat + 1)
    have zero : number 10 ['0'] = 0 := by decide
    have shift : (0 : Int) - (1 : Nat) =
        value.exponent - ((value.exponent.toNat + 1 : Nat) : Int) := by
      omega
    simp only [Numeral.value, Option.getD_some, Option.getD_none, List.length_singleton,
      List.append_assoc, number_append, number_decimal, number_zeros, zero, List.length_append,
      List.length_replicate, Nat.zero_mul, Nat.add_zero, shift]
    rw [scaled]
  · next far =>
    split
    · next near =>
      have places : (0 : Int) - ((decimal value.digits).drop
          (Int.toNat (((decimal value.digits).length : Int) + value.exponent))).length =
          value.exponent - ((0 : Nat) : Int) := by
        rw [List.length_drop]
        omega
      simp only [Numeral.value, Option.getD_some, Option.getD_none, List.take_append_drop,
        number_decimal, places]
      rw [exact_digits]
    · next distant =>
      split
      · next small =>
        have places : (0 : Int) - (List.replicate
            (-(((decimal value.digits).length : Int) + value.exponent)).toNat '0' ++
              decimal value.digits).length = value.exponent - ((0 : Nat) : Int) := by
          rw [List.length_append, List.length_replicate]
          omega
        have zero : number 10 ['0'] = 0 := by decide
        simp only [Numeral.value, Option.getD_some, Option.getD_none, number_append, zero,
          number_zeros, Nat.zero_mul, Nat.zero_add, number_decimal, places]
        rw [exact_digits]
      · split
        · next single =>
          have places : ((decimal value.digits).length : Int) + value.exponent - 1 -
              (([] : List Char).length : Int) = value.exponent - ((0 : Nat) : Int) := by
            simp only [List.length_nil]
            omega
          simp only [Numeral.value, Option.getD_some, Option.getD_none, List.append_nil,
            number_decimal, places]
          rw [exact_digits]
        · next several =>
          have places : ((decimal value.digits).length : Int) + value.exponent - 1 -
              (((decimal value.digits).drop 1).length : Int) =
              value.exponent - ((0 : Nat) : Int) := by
            rw [List.length_drop]
            omega
          simp only [Numeral.value, Option.getD_some, List.take_append_drop, number_decimal, places]
          rw [exact_digits]

end Honeywatch.Json
