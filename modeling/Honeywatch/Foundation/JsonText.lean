import Honeywatch.Foundation.JsonNumber

/-!
# JSON texts

The compact text of a JSON value and the parser of JSON texts. The printer
escapes quotation marks, backslashes and control characters only. The parser
allows white space between tokens and reads every escape, surrogate pairs
included. Parsing a printed value gives the value.
-/

namespace Honeywatch.Json

open Digits

/-- The escape of a character inside a string. -/
def escapeChar (char : Char) : List Char :=
  if char = '"' then ['\\', '"']
  else if char = '\\' then ['\\', '\\']
  else if char = '\x08' then ['\\', 'b']
  else if char = '\x0c' then ['\\', 'f']
  else if char = '\n' then ['\\', 'n']
  else if char = '\r' then ['\\', 'r']
  else if char = '\t' then ['\\', 't']
  else if char.toNat < 0x20 then '\\' :: 'u' :: fixed 16 4 char.toNat
  else [char]

def printString (text : List Char) : List Char := '"' :: (text.flatMap escapeChar ++ ['"'])

/-- Where the reading of a string stands: between characters, after a backslash,
inside the four digits of an escape, or after the first half of a surrogate
pair, with or without the backslash of the second half. -/
inductive Scan
  | plain
  | escape
  | digits (high : Option Nat) (unit count : Nat)
  | paired (high : Nat)
  | pairedEscape (high : Nat)
deriving DecidableEq, Repr

/-- What the character after a backslash stands for. -/
def unescape (char : Char) : Option Char :=
  if char = '"' ∨ char = '\\' ∨ char = '/' then some char
  else if char = 'b' then some '\x08'
  else if char = 'f' then some '\x0c'
  else if char = 'n' then some '\n'
  else if char = 'r' then some '\r'
  else if char = 't' then some '\t'
  else none

/-- A code unit is read: a scalar value, or half of a surrogate pair. -/
def finishUnit (high : Option Nat) (unit : Nat) : Option (List Char × Scan) :=
  match high with
  | none =>
    if 0xD800 ≤ unit ∧ unit < 0xDC00 then some ([], .paired unit)
    else if 0xDC00 ≤ unit ∧ unit < 0xE000 then none
    else some ([Char.ofNat unit], .plain)
  | some upper =>
    if 0xDC00 ≤ unit ∧ unit < 0xE000 then
      some ([Char.ofNat (0x10000 + (upper - 0xD800) * 0x400 + (unit - 0xDC00))], .plain)
    else none

/-- One character of a string, other than its closing quotation mark. -/
def scanChar : Scan → Char → Option (List Char × Scan)
  | .plain, char =>
    if char = '\\' then some ([], .escape)
    else if char.toNat < 0x20 then none
    else some ([char], .plain)
  | .escape, char =>
    if char = 'u' then some ([], .digits none 0 0)
    else (unescape char).map fun meant => ([meant], .plain)
  | .digits high unit count, char =>
    if isDigit 16 char = false then none
    else if count < 3 then some ([], .digits high (unit * 16 + digit char) (count + 1))
    else finishUnit high (unit * 16 + digit char)
  | .paired high, char => if char = '\\' then some ([], .pairedEscape high) else none
  | .pairedEscape high, char => if char = 'u' then some ([], .digits (some high) 0 0) else none

/-- The rest of a string up to its closing quotation mark, and what follows. -/
def scanString : Scan → List Char → Option (List Char × List Char)
  | _, [] => none
  | scan, char :: rest =>
    if scan = .plain ∧ char = '"' then some ([], rest)
    else
      (scanChar scan char).bind fun scanned =>
        (scanString scanned.2 rest).map fun read => (scanned.1 ++ read.1, read.2)

mutual

/-- The compact text of a value. -/
def Value.print : Value (List Char) → List Char
  | .null => "null".toList
  | .bool true => "true".toList
  | .bool false => "false".toList
  | .int value => (intNumeral value).print
  | .float value => value.numeral.print
  | .str text => printString text
  | .arr [] => ['[', ']']
  | .arr (item :: rest) => '[' :: (item.print ++ Value.printItems rest)
  | .obj [] => ['\x7b', '\x7d']
  | .obj ((key, value) :: rest) =>
    '\x7b' :: (printString key ++ ':' :: (value.print ++ Value.printFields rest))

/-- The further items of an array, and its end. -/
def Value.printItems : List (Value (List Char)) → List Char
  | [] => [']']
  | item :: rest => ',' :: (item.print ++ Value.printItems rest)

/-- The further fields of an object, and its end. -/
def Value.printFields : List (List Char × Value (List Char)) → List Char
  | [] => ['\x7d']
  | (key, value) :: rest =>
    ',' :: (printString key ++ ':' :: (value.print ++ Value.printFields rest))

end

def isSpace (char : Char) : Bool :=
  decide (char = ' ') || decide (char = '\n') || decide (char = '\r') || decide (char = '\t')

def skipSpace (text : List Char) : List Char := text.dropWhile isSpace

/-- A text that starts with the given word. -/
def expect (word text : List Char) : Option (List Char) :=
  if word.isPrefixOf text then some (text.drop word.length) else none

/-- A character of its own, after white space. -/
def expectChar (char : Char) (text : List Char) : Option (List Char) :=
  expect [char] (skipSpace text)

/-- A key and its colon. -/
def parseKey (text : List Char) : Option (List Char × List Char) := do
  let opened ← expectChar '"' text
  let key ← scanString .plain opened
  let after ← expectChar ':' key.2
  return (key.1, after)

mutual

/-- A value after white space, within the given fuel. -/
def parseValue : Nat → List Char → Option (Value (List Char) × List Char)
  | 0, _ => none
  | fuel + 1, text =>
    match skipSpace text with
    | [] => none
    | head :: rest =>
      if head = 'n' then (expect "ull".toList rest).map fun after => (.null, after)
      else if head = 't' then (expect "rue".toList rest).map fun after => (.bool true, after)
      else if head = 'f' then (expect "alse".toList rest).map fun after => (.bool false, after)
      else if head = '"' then (scanString .plain rest).map fun read => (.str read.1, read.2)
      else if head = '[' then
        match expectChar ']' rest with
        | some after => some (.arr [], after)
        | none => do
          let first ← parseValue fuel rest
          let others ← parseItems fuel first.2
          return (.arr (first.1 :: others.1), others.2)
      else if head = '\x7b' then
        match expectChar '\x7d' rest with
        | some after => some (.obj [], after)
        | none => do
          let key ← parseKey rest
          let first ← parseValue fuel key.2
          let others ← parseFields fuel first.2
          return (.obj ((key.1, first.1) :: others.1), others.2)
      else (parseNumeral (head :: rest)).map fun read => (read.1.value, read.2)

/-- The further items of an array, to its end. -/
def parseItems : Nat → List Char → Option (List (Value (List Char)) × List Char)
  | 0, _ => none
  | fuel + 1, text =>
    match expectChar ']' text with
    | some after => some ([], after)
    | none => do
      let separated ← expectChar ',' text
      let first ← parseValue fuel separated
      let others ← parseItems fuel first.2
      return (first.1 :: others.1, others.2)

/-- The further fields of an object, to its end. -/
def parseFields : Nat → List Char →
    Option (List (List Char × Value (List Char)) × List Char)
  | 0, _ => none
  | fuel + 1, text =>
    match expectChar '\x7d' text with
    | some after => some ([], after)
    | none => do
      let separated ← expectChar ',' text
      let key ← parseKey separated
      let first ← parseValue fuel key.2
      let others ← parseFields fuel first.2
      return ((key.1, first.1) :: others.1, others.2)

end

/-- A text that is one value. -/
def parse (text : List Char) : Option (Value (List Char)) :=
  match parseValue (text.length + 1) text with
  | some (value, rest) => if skipSpace rest = [] then some value else none
  | none => none

end Honeywatch.Json
