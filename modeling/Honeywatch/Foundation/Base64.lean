import Honeywatch.Foundation.FormRoundTrip

/-!
# Base64

Three bytes are written as four characters of the alphabet. Where one or two bytes are
left at the end, the four characters are filled up with equals signs. What is written
is read back.
-/

namespace Honeywatch.Base64

open Utf8

def alphabet : List Char :=
  "ABCDEFGHIJKLMNOPQRSTUVWXYZabcdefghijklmnopqrstuvwxyz0123456789+/".toList

/-- The character of a number below 64. -/
def symbol (value : Nat) : Char := alphabet.getD value '='

/-- The number of a character of the alphabet. -/
def number (char : Char) : Option Nat := alphabet.idxOf? char

def encode : List Byte → List Char
  | [] => []
  | [first] => [symbol (first.val / 4), symbol (first.val % 4 * 16), '=', '=']
  | [first, second] =>
    [symbol (first.val / 4), symbol (first.val % 4 * 16 + second.val / 16),
      symbol (second.val % 16 * 4), '=']
  | first :: second :: third :: rest =>
    symbol (first.val / 4) :: symbol (first.val % 4 * 16 + second.val / 16) ::
      symbol (second.val % 16 * 4 + third.val / 64) :: symbol (third.val % 64) :: encode rest

/-- The bytes of characters in groups of four; only the last group is filled up. -/
def decode : List Char → Option (List Byte)
  | [] => some []
  | one :: two :: three :: four :: rest => do
    let a ← number one
    let b ← number two
    let first := byteOf (a * 4 + b / 16)
    if four = '=' ∧ rest ≠ [] then none
    else if three = '=' ∧ four = '=' then some [first]
    else
      let c ← number three
      let second := byteOf (b % 16 * 16 + c / 4)
      if four = '=' then some [first, second]
      else
        let d ← number four
        let others ← decode rest
        some (first :: second :: byteOf (c % 4 * 64 + d) :: others)
  | _ => none

/-- The alphabet has 64 symbols, none of them the padding; each is read as its
number. -/
theorem number_symbol_fin : ∀ value : Fin 64,
    number (symbol value) = some value.val ∧ symbol value ≠ '=' := by
  decide

/-- The same for a number that is known to be small, -/
theorem number_symbol {value : Nat} (small : value < 64) : number (symbol value) = some value :=
  (number_symbol_fin ⟨value, small⟩).1

/-- and the padding likewise. -/
theorem symbol_not_padding {value : Nat} (small : value < 64) : symbol value ≠ '=' :=
  (number_symbol_fin ⟨value, small⟩).2

/-- A number whose value is that of a byte gives the byte. -/
theorem byteOf_eq {value : Nat} (byte : Byte) (same : value = byte.val) : byteOf value = byte :=
  Fin.ext ((byteOf_val value (same ▸ byte.isLt)).trans same)

/-- What is written is read back. Three bytes are four characters, so the induction
goes on by groups, and the last group has one or two bytes with their padding. -/
theorem decode_encode (bytes : List Byte) : decode (encode bytes) = some bytes := by
  induction bytes using encode.induct with
  | case1 => rfl
  | case2 first =>
    have bound := first.isLt
    have one : first.val / 4 * 4 + first.val % 4 * 16 / 16 = first.val := by omega
    rw [encode, decode, number_symbol (by omega), number_symbol (by omega)]
    simp only [Option.bind_eq_bind, Option.bind_some, byteOf_eq first one]
    rfl
  | case3 first second =>
    have bound := first.isLt
    have bound' := second.isLt
    have apart := symbol_not_padding (show second.val % 16 * 4 < 64 by omega)
    have one : first.val / 4 * 4 + (first.val % 4 * 16 + second.val / 16) / 16 = first.val := by
      omega
    have two : (first.val % 4 * 16 + second.val / 16) % 16 * 16 + second.val % 16 * 4 / 4 =
        second.val := by
      omega
    rw [encode, decode, number_symbol (by omega), number_symbol (by omega),
      number_symbol (by omega)]
    simp only [Option.bind_eq_bind, Option.bind_some, byteOf_eq first one, byteOf_eq second two]
    simp [apart]
  | case4 first second third rest inductionHypothesis =>
    have bound := first.isLt
    have bound' := second.isLt
    have bound'' := third.isLt
    have apart := symbol_not_padding (show third.val % 64 < 64 by omega)
    have one : first.val / 4 * 4 + (first.val % 4 * 16 + second.val / 16) / 16 = first.val := by
      omega
    have two : (first.val % 4 * 16 + second.val / 16) % 16 * 16 +
        (second.val % 16 * 4 + third.val / 64) / 4 = second.val := by
      omega
    have three : (second.val % 16 * 4 + third.val / 64) % 4 * 64 + third.val % 64 = third.val := by
      omega
    rw [encode, decode, number_symbol (by omega), number_symbol (by omega),
      number_symbol (by omega), number_symbol (by omega), inductionHypothesis]
    simp only [Option.bind_eq_bind, Option.bind_some, byteOf_eq first one, byteOf_eq second two,
      byteOf_eq third three]
    simp [apart]

example : encode ("user:pass".toList.map fun char => byteOf char.toNat) =
    "dXNlcjpwYXNz".toList := by decide

end Honeywatch.Base64
