import Honeywatch.Foundation.JsonText

/-!
# Parsing inverts printing

The parser reads a printed value to its end and no further, whatever follows
that is no part of a number. The text of a value is fuel enough for it.
-/

namespace Honeywatch.Json

open Digits

/-- A character that the reading of a string takes without ending the string. -/
theorem scanString_cons (scan next : Scan) (char : Char) (rest meant : List Char)
    (inside : ¬ (scan = .plain ∧ char = '"')) (scanned : scanChar scan char = some (meant, next)) :
    scanString scan (char :: rest) =
      (scanString next rest).map fun read => (meant ++ read.1, read.2) := by
  rw [scanString, if_neg inside, scanned]
  rfl

/-- The four digits of an escape denote their code unit, and below the surrogates
this is a character by itself. -/
theorem scanString_unit (unit : Nat) (rest : List Char) (basic : unit < 0xD800) :
    scanString (.digits none 0 0) (fixed 16 4 unit ++ rest) =
      (scanString .plain rest).map fun read => (Char.ofNat unit :: read.1, read.2) := by
  have small : ∀ value : Nat, value % 16 < 16 := fun value => Nat.mod_lt _ (by decide)
  have isHex : ∀ value : Nat, isDigit 16 (digitChar (value % 16)) = true := by
    intro value
    simpa [isDigit, digit_digitChar _ (small value)] using small value
  have early : ∀ total count value, count < 3 →
      scanChar (.digits none total count) (digitChar (value % 16)) =
        some ([], .digits none (total * 16 + value % 16) (count + 1)) := by
    intro total count value more
    simp [scanChar, isHex, digit_digitChar _ (small value), more]
  have complete : ((unit / 16 ^ 3 % 16 * 16 + unit / 16 ^ 2 % 16) * 16 + unit / 16 ^ 1 % 16) * 16 +
      unit / 16 ^ 0 % 16 = unit := by
    omega
  have last : scanChar (.digits none ((unit / 16 ^ 3 % 16 * 16 + unit / 16 ^ 2 % 16) * 16 +
      unit / 16 ^ 1 % 16) 3) (digitChar (unit / 16 ^ 0 % 16)) =
        some ([Char.ofNat unit], .plain) := by
    have below : ¬ 0xD800 ≤ unit := Nat.not_le_of_lt basic
    have notLow : ¬ (0xDC00 ≤ unit ∧ unit < 0xE000) := by omega
    simp only [scanChar, isHex, digit_digitChar _ (small _), complete, finishUnit, below, notLow]
    rfl
  simp only [fixed, List.cons_append, List.nil_append]
  rw [scanString_cons _ _ _ _ _ (by simp) (early 0 0 _ (by decide)), Nat.zero_mul, Nat.zero_add,
    scanString_cons _ _ _ _ _ (by simp) (early _ _ _ (by decide)),
    scanString_cons _ _ _ _ _ (by simp) (early _ _ _ (by decide)),
    scanString_cons _ _ _ _ _ (by simp) last]
  simp [Function.comp_def]

/-- The escape of a character is read as the character. The cases are those of the
escape: a letter, the four digits of a control character, or the character itself.
-/
theorem scanString_escapeChar (char : Char) (rest : List Char) :
    scanString .plain (escapeChar char ++ rest) =
      (scanString .plain rest).map fun read => (char :: read.1, read.2) := by
  have short : ∀ code, unescape code = some char → code ≠ 'u' →
      scanString .plain ('\\' :: code :: rest) =
        (scanString .plain rest).map fun read => (char :: read.1, read.2) := by
    intro code meant other
    rw [scanString_cons .plain .escape '\\' _ [] (by decide) rfl,
      scanString_cons .escape .plain code rest [char] (by simp) (by simp [scanChar, other, meant])]
    simp [Function.comp_def]
  unfold escapeChar
  split
  · next quote => exact short '"' (by rw [quote]; rfl) (by decide)
  · next unquoted =>
    split
    · next slash => exact short '\\' (by rw [slash]; rfl) (by decide)
    · next unslashed =>
      split
      · next back => exact short 'b' (by rw [back]; rfl) (by decide)
      · split
        · next form => exact short 'f' (by rw [form]; rfl) (by decide)
        · split
          · next line => exact short 'n' (by rw [line]; rfl) (by decide)
          · split
            · next carriage => exact short 'r' (by rw [carriage]; rfl) (by decide)
            · split
              · next tab => exact short 't' (by rw [tab]; rfl) (by decide)
              · split
                · next control =>
                  have unit := scanString_unit char.toNat rest (by omega)
                  rw [Char.ofNat_toNat] at unit
                  rw [List.cons_append, List.cons_append,
                    scanString_cons .plain .escape '\\' _ [] (by decide) rfl,
                    scanString_cons .escape (.digits none 0 0) 'u' _ [] (by decide) rfl, unit]
                  simp [Function.comp_def]
                · next printable =>
                  exact scanString_cons .plain .plain char rest [char] (by simp [unquoted])
                    (by simp [scanChar, unslashed, printable])

/-- A printed string is read as the string, up to the quotation mark that is not
escaped. -/
theorem scanString_print (text rest : List Char) :
    scanString .plain (text.flatMap escapeChar ++ '"' :: rest) = some (text, rest) := by
  induction text with
  | nil => rfl
  | cons char others inductionHypothesis =>
    rw [List.flatMap_cons, List.append_assoc, scanString_escapeChar, inductionHypothesis]
    rfl

/-- A number begins with a sign or with a digit: this is how the reader tells it
from every other kind of value. -/
theorem numeral_opens (numeral : Numeral) (proper : numeral.Proper) :
    ∃ head rest, numeral.print = head :: rest ∧ (head = '-' ∨ isDigit 10 head = true) := by
  obtain ⟨first, others, shape, _⟩ := proper.wholeStart
  have digit : isDigit 10 first = true := proper.wholeDigits first (by simp [shape])
  unfold Numeral.print
  cases numeral.negative with
  | true => exact ⟨'-', _, rfl, .inl rfl⟩
  | false => exact ⟨first, _, by rw [shape]; rfl, .inr digit⟩

/-- A digit or a sign opens a number and nothing else, so the first character
already selects the branch of the reader. -/
theorem numeral_head {head : Char} (opens : head = '-' ∨ isDigit 10 head = true) :
    isSpace head = false ∧ head ≠ 'n' ∧ head ≠ 't' ∧ head ≠ 'f' ∧ head ≠ '"' ∧ head ≠ '[' ∧
      head ≠ '\x7b' ∧ head ≠ ']' := by
  have only : ∀ char : Char, isDigit 10 char = false → char ≠ '-' → head ≠ char := by
    rintro char undigit unsigned rfl
    rcases opens with sign | digit
    · exact unsigned sign
    · rw [undigit] at digit
      contradiction
  refine ⟨?_, only _ (by decide) (by decide), only _ (by decide) (by decide),
    only _ (by decide) (by decide), only _ (by decide) (by decide),
    only _ (by decide) (by decide), only _ (by decide) (by decide),
    only _ (by decide) (by decide)⟩
  simp [isSpace, only ' ' (by decide) (by decide), only '\n' (by decide) (by decide),
    only '\r' (by decide) (by decide), only '\t' (by decide) (by decide)]

/-- A printed value begins with neither white space nor the end of an array, so the
reader of an array does not take an element for its end. -/
theorem print_opens (value : Value (List Char)) :
    ∃ head rest, value.print = head :: rest ∧ isSpace head = false ∧ head ≠ ']' := by
  have numeral : ∀ numeral : Numeral, numeral.Proper →
      ∃ head rest, numeral.print = head :: rest ∧ isSpace head = false ∧ head ≠ ']' := by
    intro numeral proper
    obtain ⟨head, rest, shape, opens⟩ := numeral_opens numeral proper
    have apart := numeral_head opens
    exact ⟨head, rest, shape, apart.1, apart.2.2.2.2.2.2.2⟩
  cases value with
  | null => exact ⟨'n', _, rfl, by decide⟩
  | bool truth => cases truth <;> exact ⟨_, _, rfl, by decide⟩
  | int number => simpa [Value.print] using numeral _ (intNumeral_proper number)
  | float number => simpa [Value.print] using numeral _ number.numeral_proper
  | str text => exact ⟨'"', _, rfl, by decide⟩
  | arr items => cases items <;> exact ⟨'[', _, by rw [Value.print], by decide⟩
  | obj fields =>
    rcases fields with _ | ⟨⟨_, _⟩, _⟩ <;> exact ⟨'\x7b', _, by rw [Value.print], by decide⟩

/-- In front of a character that is no space nothing is skipped. -/
theorem skipSpace_cons (head : Char) (rest : List Char) (solid : isSpace head = false) :
    skipSpace (head :: rest) = head :: rest := by
  simp [skipSpace, solid]

/-- An expected character is found, and the rest of the text is left, -/
theorem expectChar_same (head : Char) (rest : List Char) (solid : isSpace head = false) :
    expectChar head (head :: rest) = some rest := by
  simp [expectChar, skipSpace_cons head rest solid, expect]

/-- and where another one stands it is not found. -/
theorem expectChar_other (char head : Char) (rest : List Char) (solid : isSpace head = false)
    (other : head ≠ char) : expectChar char (head :: rest) = none := by
  simp [expectChar, skipSpace_cons head rest solid, expect, other.symm]

/-- The key of a field is read back, together with the colon that ends it. -/
theorem parseKey_print (key rest : List Char) :
    parseKey (printString key ++ ':' :: rest) = some (key, rest) := by
  simp [parseKey, printString, expectChar_same '"' _ (by decide), scanString_print,
    expectChar_same ':' _ (by decide)]

/-- A number is read within any fuel, since it holds no value inside. -/
theorem parseValue_numeral (numeral : Numeral) (proper : numeral.Proper) (fuel : Nat)
    (rest : List Char) (delimited : Delimited rest) :
    parseValue (fuel + 1) (numeral.print ++ rest) = some (numeral.value, rest) := by
  obtain ⟨head, others, shape, opens⟩ := numeral_opens numeral proper
  obtain ⟨solid, notN, notT, notF, notQuote, notArray, notObject, _⟩ := numeral_head opens
  have read := parseNumeral_print numeral proper rest delimited
  rw [shape, List.cons_append] at read ⊢
  simp only [parseValue, skipSpace_cons head _ solid, notN, notT, notF, notQuote, notArray,
    notObject, if_false, read]
  rfl

/-- What follows a value in a list ends a number, so a number in front of it is read
no further. -/
theorem printItems_delimited (items : List (Value (List Char))) (rest : List Char) :
    Delimited (Value.printItems items ++ rest) := by
  cases items <;> simp only [Value.printItems, List.cons_append, Delimited] <;> decide

/-- So does what follows a value in an object. -/
theorem printFields_delimited (fields : List (List Char × Value (List Char))) (rest : List Char) :
    Delimited (Value.printFields fields ++ rest) := by
  rcases fields with _ | ⟨⟨_, _⟩, _⟩ <;>
    simp only [Value.printFields, List.cons_append, Delimited] <;> decide

/-- With more fuel than there is text, one step can be taken. Each printed character
pays for one step, so the induction over the value never runs out. -/
theorem fuel_succ {length fuel : Nat} (enough : length < fuel) : ∃ spare, fuel = spare + 1 :=
  ⟨fuel - 1, by omega⟩

mutual

/-- A printed value is read back, within fuel that exceeds the length of its text.
The cases are those of the value, with those of items and fields in mutual
recursion. -/
theorem parseValue_print : ∀ (value : Value (List Char)) (fuel : Nat) (rest : List Char),
    value.print.length < fuel → Delimited rest →
      parseValue fuel (value.print ++ rest) = some (value, rest)
  | .null, fuel, rest, enough, _ => by
    obtain ⟨spare, rfl⟩ := fuel_succ enough
    simp [Value.print, parseValue, skipSpace, isSpace, expect]
  | .bool true, fuel, rest, enough, _ => by
    obtain ⟨spare, rfl⟩ := fuel_succ enough
    simp [Value.print, parseValue, skipSpace, isSpace, expect]
  | .bool false, fuel, rest, enough, _ => by
    obtain ⟨spare, rfl⟩ := fuel_succ enough
    simp [Value.print, parseValue, skipSpace, isSpace, expect]
  | .int number, fuel, rest, enough, delimited => by
    obtain ⟨spare, rfl⟩ := fuel_succ enough
    rw [Value.print, parseValue_numeral _ (intNumeral_proper number) spare rest delimited,
      intNumeral_value]
  | .float number, fuel, rest, enough, delimited => by
    obtain ⟨spare, rfl⟩ := fuel_succ enough
    rw [Value.print, parseValue_numeral _ number.numeral_proper spare rest delimited,
      number.numeral_value]
  | .str text, fuel, rest, enough, _ => by
    obtain ⟨spare, rfl⟩ := fuel_succ enough
    simp [Value.print, printString, parseValue, skipSpace, isSpace, scanString_print]
  | .arr [], fuel, rest, enough, _ => by
    obtain ⟨spare, rfl⟩ := fuel_succ enough
    simp [Value.print, parseValue, skipSpace, isSpace, expectChar, expect]
  | .arr (item :: others), fuel, rest, enough, _ => by
    obtain ⟨spare, rfl⟩ := fuel_succ enough
    simp only [Value.print, List.length_cons, List.length_append] at enough
    obtain ⟨head, body, shape, solid, unclosed⟩ := print_opens item
    have first := parseValue_print item spare (Value.printItems others ++ rest) (by omega)
      (printItems_delimited others rest)
    have later := parseItems_print others spare rest (by omega)
    have opened : expectChar ']' (item.print ++ (Value.printItems others ++ rest)) = none := by
      rw [shape, List.cons_append]
      exact expectChar_other ']' head _ solid unclosed
    simp [Value.print, parseValue, skipSpace_cons '[' _ (by decide), opened, first, later]
  | .obj [], fuel, rest, enough, _ => by
    obtain ⟨spare, rfl⟩ := fuel_succ enough
    simp [Value.print, parseValue, skipSpace, isSpace, expectChar, expect]
  | .obj ((key, value) :: others), fuel, rest, enough, _ => by
    obtain ⟨spare, rfl⟩ := fuel_succ enough
    simp only [Value.print, List.length_cons, List.length_append] at enough
    have first := parseValue_print value spare (Value.printFields others ++ rest) (by omega)
      (printFields_delimited others rest)
    have later := parseFields_print others spare rest (by omega)
    have named := parseKey_print key (value.print ++ (Value.printFields others ++ rest))
    have opened : ∀ text, expectChar '\x7d' (printString key ++ text) = none :=
      fun text => expectChar_other _ '"' _ (by decide) (by decide)
    simp [Value.print, parseValue, skipSpace_cons '\x7b' _ (by decide), opened, named, first, later]

/-- The items of a list are read back. By recursion over them, together with the
values and the fields, as the printer goes. -/
theorem parseItems_print : ∀ (items : List (Value (List Char))) (fuel : Nat) (rest : List Char),
    (Value.printItems items).length < fuel →
      parseItems fuel (Value.printItems items ++ rest) = some (items, rest)
  | [], fuel, rest, enough => by
    obtain ⟨spare, rfl⟩ := fuel_succ enough
    simp [Value.printItems, parseItems, expectChar_same ']' _ (by decide)]
  | item :: others, fuel, rest, enough => by
    obtain ⟨spare, rfl⟩ := fuel_succ enough
    simp only [Value.printItems, List.length_cons, List.length_append] at enough
    have first := parseValue_print item spare (Value.printItems others ++ rest) (by omega)
      (printItems_delimited others rest)
    have later := parseItems_print others spare rest (by omega)
    simp [Value.printItems, parseItems, expectChar_other ']' ',' _ (by decide) (by decide),
      expectChar_same ',' _ (by decide), first, later]

/-- So are the fields of an object, each with its key and its value; the fuel
exceeds the texts of all of them together. -/
theorem parseFields_print : ∀ (fields : List (List Char × Value (List Char))) (fuel : Nat)
    (rest : List Char), (Value.printFields fields).length < fuel →
      parseFields fuel (Value.printFields fields ++ rest) = some (fields, rest)
  | [], fuel, rest, enough => by
    obtain ⟨spare, rfl⟩ := fuel_succ enough
    simp [Value.printFields, parseFields, expectChar_same '\x7d' _ (by decide)]
  | (key, value) :: others, fuel, rest, enough => by
    obtain ⟨spare, rfl⟩ := fuel_succ enough
    simp only [Value.printFields, List.length_cons, List.length_append] at enough
    have first := parseValue_print value spare (Value.printFields others ++ rest) (by omega)
      (printFields_delimited others rest)
    have later := parseFields_print others spare rest (by omega)
    have named := parseKey_print key (value.print ++ (Value.printFields others ++ rest))
    simp [Value.printFields, parseFields, expectChar_other '\x7d' ',' _ (by decide) (by decide),
      expectChar_same ',' _ (by decide), named, first, later]

end

/-- Parsing the text of a value gives the value. -/
theorem parse_print (value : Value (List Char)) : parse value.print = some value := by
  have read := parseValue_print value (value.print.length + 1) [] (Nat.lt_succ_self _) trivial
  rw [List.append_nil] at read
  simp [parse, read, skipSpace]

end Honeywatch.Json
