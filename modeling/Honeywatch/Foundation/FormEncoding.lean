import Honeywatch.Foundation.Digits
import Honeywatch.Foundation.Utf8

/-!
# URL-encoded forms

`urllib.parse.parse_qs` of a form whose text has been decoded: fields apart at
ampersands, names and values apart at the first equals sign, plus signs for
spaces, and percent-encoded bytes decoded as UTF-8 with replacement. What comes
out is text whatever the form holds.
-/

namespace Honeywatch.FormEncoding

open Utf8 Digits

/-- `text.split(separator)` at one character. -/
def split (separator : Char) : List Char → List (List Char)
  | [] => [[]]
  | char :: rest =>
    if char = separator then [] :: split separator rest
    else
      match split separator rest with
      | [] => [[char]]
      | first :: others => (char :: first) :: others

/-- `text.split(separator, 1)`, with an empty second part when there is none. -/
def splitFirst (separator : Char) : List Char → List Char × List Char
  | [] => ([], [])
  | char :: rest =>
    if char = separator then ([], rest)
    else (char :: (splitFirst separator rest).1, (splitFirst separator rest).2)

/-- The byte that two hexadecimal digits encode. -/
def hexByte (high low : Char) : Option Byte :=
  if isDigit 16 high ∧ isDigit 16 low then some (Fin.ofNat 256 (digit high * 16 + digit low))
  else none

/-- `unquote_to_bytes` of ASCII text; a percent sign without two digits stands
for itself. -/
def unquoteToBytes : List Char → List Byte
  | [] => []
  | '%' :: high :: low :: rest =>
    match hexByte high low with
    | some byte => byte :: unquoteToBytes rest
    | none => 0x25 :: unquoteToBytes (high :: low :: rest)
  | char :: rest => Fin.ofNat 256 char.toNat :: unquoteToBytes rest

/-- The byte of an ASCII character. -/
def asciiByte (char : Char) : Byte := Fin.ofNat 256 char.toNat

def isAscii (char : Char) : Bool := decide (char.toNat < 0x80)

/-- A run of `unquote`: ASCII text is percent-decoded, the rest stands. -/
def unquoteRun (run : List Char) : List Char :=
  if run.all isAscii then decodeReplace (unquoteToBytes run) else run

/-- `unquote`, by the longest runs of ASCII and of other text. -/
def unquote (text : List Char) : List Char :=
  if '%' ∈ text then
    (text.splitBy fun left right => isAscii left == isAscii right).flatMap unquoteRun
  else text

/-- A name or a value of a field. -/
def fieldText (text : List Char) : List Char :=
  unquote (text.map fun char => if char = '+' then ' ' else char)

/-- The fields of `parse_qs` with blank values kept, in order. -/
def parseQs (form : List Char) : List (List Char × List Char) :=
  ((split '&' form).filter fun field => decide (field ≠ [])).map fun field =>
    (fieldText (splitFirst '=' field).1, fieldText (splitFirst '=' field).2)

/-- The first value of a field, empty when the field is missing. -/
def firstValue (fields : List (List Char × List Char)) (name : String) : List Char :=
  match fields.find? fun field => decide (field.1 = name.toList) with
  | some field => field.2
  | none => []

example : firstValue (parseQs "a=1&email=%61%C3%A9+b&email=x".toList) "email" =
    "aé b".toList := by decide

end Honeywatch.FormEncoding
