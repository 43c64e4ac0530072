import Honeywatch.Foundation.Text

/-!
# UTF-8 decoding and its error handlers

Decoding cuts the bytes into scalar values and ill-formed parts, each of them
the longest start of a well-formed sequence or a single byte. The handlers
differ in what they make of an ill-formed part: a strict decoder fails, the
`replace` handler yields U+FFFD for the part, and the `surrogateescape` handler
yields one lone surrogate for each of its bytes.
-/

namespace Honeywatch.Utf8

open Text

abbrev Byte := Fin 256

/-- What decoding meets: a scalar value, or the bytes of an ill-formed part. -/
inductive Piece
  | scalar (char : Char)
  | illFormed (first : Byte) (others : List Byte)
deriving DecidableEq, Repr

/-- A sequence of which some bytes are read: these bytes, the value they hold,
how many are missing, and the bounds of the next one. -/
structure Pending where
  first : Byte
  others : List Byte := []
  value : Nat
  missing : Nat
  low : Nat := 0x80
  high : Nat := 0xBF
deriving DecidableEq, Repr

/-- The sequence that a byte above ASCII opens. The bounds of the second byte
keep out overlong forms, surrogates and values beyond Unicode. -/
def opening (byte : Byte) : Option Pending :=
  if byte.val < 0xC2 then none
  else if byte.val < 0xE0 then some { first := byte, value := byte.val - 0xC0, missing := 1 }
  else if byte.val < 0xF0 then
    some
      { first := byte
        value := byte.val - 0xE0
        missing := 2
        low := if byte.val = 0xE0 then 0xA0 else 0x80
        high := if byte.val = 0xED then 0x9F else 0xBF }
  else if byte.val < 0xF5 then
    some
      { first := byte
        value := byte.val - 0xF0
        missing := 3
        low := if byte.val = 0xF0 then 0x90 else 0x80
        high := if byte.val = 0xF4 then 0x8F else 0xBF }
  else none

/-- A byte between two sequences. -/
def start (byte : Byte) : List Piece × Option Pending :=
  if byte.val < 0x80 then ([.scalar (Char.ofNat byte.val)], none)
  else
    match opening byte with
    | none => ([.illFormed byte []], none)
    | some pending => ([], some pending)

/-- A byte within its bounds inside a sequence. -/
def extend (pending : Pending) (byte : Byte) : List Piece × Option Pending :=
  let value := pending.value * 0x40 + (byte.val - 0x80)
  if pending.missing ≤ 1 then ([.scalar (Char.ofNat value)], none)
  else
    ([], some
      { first := pending.first
        others := pending.others ++ [byte]
        value := value
        missing := pending.missing - 1 })

/-- One byte. Inside a sequence, a byte out of bounds ends an ill-formed part
and is read afresh. -/
def step : Option Pending → Byte → List Piece × Option Pending
  | none, byte => start byte
  | some pending, byte =>
    if pending.low ≤ byte.val ∧ byte.val ≤ pending.high then extend pending byte
    else (.illFormed pending.first pending.others :: (start byte).1, (start byte).2)

/-- The pieces of the bytes that follow. -/
def pieces : Option Pending → List Byte → List Piece
  | none, [] => []
  | some pending, [] => [.illFormed pending.first pending.others]
  | pending, byte :: rest => (step pending byte).1 ++ pieces (step pending byte).2 rest

def Piece.strict : Piece → Option Char
  | .scalar char => some char
  | .illFormed _ _ => none

/-- `bytes.decode("utf-8")`. -/
def decodeStrict (bytes : List Byte) : Option (List Char) := (pieces none bytes).mapM Piece.strict

def Piece.replaced : Piece → Char
  | .scalar char => char
  | .illFormed _ _ => Char.ofNat 0xFFFD

/-- `bytes.decode("utf-8", errors="replace")`. -/
def decodeReplace (bytes : List Byte) : List Char := (pieces none bytes).map Piece.replaced

/-- The surrogate that stands for a byte. -/
def escapeByte (byte : Byte) : CodePoint := ⟨0xDC00 + byte.val, by omega⟩

def Piece.escaped : Piece → Str
  | .scalar char => [ofChar char]
  | .illFormed first others => (first :: others).map escapeByte

/-- `bytes.decode("utf-8", errors="surrogateescape")`. -/
def decodeSurrogateEscape (bytes : List Byte) : Str := (pieces none bytes).flatMap Piece.escaped

/-- A byte that is escaped becomes a lone surrogate, never a character, so it cannot
be taken for text. -/
theorem escapeByte_surrogate (byte : Byte) : isSurrogate (escapeByte byte) = true := by
  have bounded := byte.isLt
  rw [isSurrogate_iff]
  simp only [escapeByte]
  omega

/-- An escaped piece is text only when it is a scalar value; a byte that was escaped
stands there as a lone surrogate. -/
theorem escaped_wellFormed_iff (piece : Piece) :
    WellFormed piece.escaped ↔ ∃ char, piece = .scalar char := by
  cases piece with
  | scalar char => simp [Piece.escaped, WellFormed, ofChar_scalar]
  | illFormed first others =>
    constructor
    · intro wellFormed
      have scalar := wellFormed (escapeByte first) (by simp [Piece.escaped])
      rw [escapeByte_surrogate] at scalar
      contradiction
    · rintro ⟨char, same⟩
      contradiction

/-- Bytes handed over with escapes are text exactly when they decode strictly: one
escaped byte suffices to make the text unfit for encoding. -/
theorem surrogateEscape_wellFormed_iff (bytes : List Byte) :
    WellFormed (decodeSurrogateEscape bytes) ↔ (decodeStrict bytes).isSome := by
  unfold decodeSurrogateEscape decodeStrict
  induction pieces none bytes with
  | nil => simp
  | cons piece others inductionHypothesis =>
    rw [List.flatMap_cons, wellFormed_append, escaped_wellFormed_iff, inductionHypothesis]
    cases piece with
    | scalar char => cases decoded : others.mapM Piece.strict <;> simp [Piece.strict, decoded]
    | illFormed first rest => simp [Piece.strict]

example : decodeReplace [0x41, 0xE3, 0x81, 0x82, 0xE3, 0x81, 0xFF] =
    ['A', 'あ', Char.ofNat 0xFFFD, Char.ofNat 0xFFFD] := by decide

end Honeywatch.Utf8
